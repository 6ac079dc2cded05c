import CameraControl.Proofs.Driver.Effects
import CameraControl.Proofs.Library.Forwarding
import CameraControl.World
import Mathlib.Logic.Relation

/-
  What notifications and calls change in the world.

  Delivering a notification and making a call come down to a few elementary changes, whatever calls
  the subscribers nest in one another: `Change` lists them, and `dispatchWithin_changes`,
  `deliverAll_changes` and `call_changes` say that there are no others. A property of worlds that
  every elementary change keeps is thereby kept by all notifications and calls.

  The calls that subscribers make of their own may be restricted: `Nests permits` says that all of
  them are permitted, and then a notification makes permitted calls only.
-/

namespace CameraControl

/-- Whether a notification fits a token and comes while the token is live. -/
def Delivery.reaches (d : Delivery) (t : Token) : Bool :=
  keysMatch d.reported t.feature.key && d.handle == t.handle && d.live

/-- A token as it was issued, before anything came to it. -/
def Token.identity (t : Token) : Token := { t with precalled := false, invocations := 0 }

namespace World

variable {permits : Call → Prop} {w w' : World}

/-- The calls that subscribers make of their own are permitted. -/
def Nests (permits : Call → Prop) (w : World) : Prop :=
  ∀ t ∈ w.tokens, ∀ c, t.nested = some c → permits c

/-- The elementary changes that notifications and permitted calls make. -/
inductive Change (permits : Call → Prop) : World → World → Prop where
  /-- A notification goes no further than its token. -/
  | hear {w : World} {token : Nat} {t : Token} {handle : Int32} {reported : String}
      (ht : w.tokens[token]? = some t)
      (hfar : (w.delivery token t handle reported).reaches t = false) :
      Change permits w (w.hear token t handle reported)
  | absorb {w : World} {token : Nat} {t : Token} {handle : Int32} {reported : String}
      (ht : w.tokens[token]? = some t)
      (hreach : (w.delivery token t handle reported).reaches t = true)
      (hfirst : t.precalled = false) :
      Change permits w ((w.hear token t handle reported).absorb token)
  | invoke {w : World} {token : Nat} {t : Token} {handle : Int32} {reported : String}
      (ht : w.tokens[token]? = some t)
      (hreach : (w.delivery token t handle reported).reaches t = true)
      (hlater : t.precalled = true) :
      Change permits w ((w.hear token t handle reported).invoke token t)
  | take {w : World} {c : Call} (hc : permits c) : Change permits w (w.take c)
  | record {w : World} {e : Event} (he : ∀ label f, e ≠ .invoked label f) :
      Change permits w (w.record e)

/-- Any number of elementary changes. -/
abbrev Changes (permits : Call → Prop) : World → World → Prop :=
  Relation.ReflTransGen (Change permits)

/-! ## How far a notification gets -/

/-- A notification gets as far as the token itself, or to the subscriber. -/
theorem admission_cases (w : World) (token : Nat) (t : Token) (handle : Int32)
    (reported : String) :
    ((w.delivery token t handle reported).reaches t = false ∧
      ((∃ breach, w.admission token t handle reported = .mismatch breach) ∨
        w.admission token t handle reported = .stale)) ∨
    ((w.delivery token t handle reported).reaches t = true ∧ t.precalled = false ∧
      w.admission token t handle reported = .precall) ∨
    ((w.delivery token t handle reported).reaches t = true ∧ t.precalled = true ∧
      w.admission token t handle reported = .invoke) := by
  -- the checks are made one after another: the key, the handle, whether the token is live
  unfold admission Delivery.reaches delivery
  cases hkey : keysMatch reported t.feature.key with
  | false => simp
  | true =>
    by_cases hhandle : handle = t.handle
    · cases hlive : w.isLive t.session token with
      | false => simp [hhandle]
      | true => cases hpre : t.precalled <;> simp [hhandle]
    · simp [hhandle]

/-! ## What elementary changes leave alone -/

/-- Changing a token by a function that keeps its identity keeps all identities. -/
theorem map_identity_modify (tokens : List Token) (token : Nat) {f : Token → Token}
    (hf : ∀ t, (f t).identity = t.identity) :
    (tokens.modify token f).map Token.identity = tokens.map Token.identity := by
  apply List.ext_getElem
  · simp
  · intro i hi hi'
    simp only [List.getElem_map, List.getElem_modify]
    split
    · exact hf _
    · rfl

/-- The identities of tokens, the sessions and the backend stay. -/
theorem Change.frame (h : Change permits w w') :
    w'.tokens.map Token.identity = w.tokens.map Token.identity ∧ w'.sessions = w.sessions ∧
      w'.nextSession = w.nextSession ∧ w'.backend = w.backend := by
  cases h with
  | hear => exact ⟨rfl, rfl, rfl, rfl⟩
  | absorb => exact ⟨map_identity_modify _ _ fun _ => rfl, rfl, rfl, rfl⟩
  | invoke => exact ⟨map_identity_modify _ _ fun _ => rfl, rfl, rfl, rfl⟩
  | take => exact ⟨rfl, rfl, rfl, rfl⟩
  | record => exact ⟨rfl, rfl, rfl, rfl⟩

theorem Changes.frame (h : Changes permits w w') :
    w'.tokens.map Token.identity = w.tokens.map Token.identity ∧ w'.sessions = w.sessions ∧
      w'.nextSession = w.nextSession ∧ w'.backend = w.backend := by
  induction h with
  | refl => exact ⟨rfl, rfl, rfl, rfl⟩
  | tail _ h ih =>
    obtain ⟨h1, h2, h3, h4⟩ := h.frame
    obtain ⟨i1, i2, i3, i4⟩ := ih
    exact ⟨h1.trans i1, h2.trans i2, h3.trans i3, h4.trans i4⟩

theorem nests_congr (h : w'.tokens.map Token.identity = w.tokens.map Token.identity)
    (hw : w.Nests permits) : w'.Nests permits := by
  intro t ht c hc
  -- every token has its like before the change, with the same call to make
  have hmem : t.identity ∈ w.tokens.map Token.identity := h ▸ List.mem_map_of_mem ht
  obtain ⟨t', ht', heq⟩ := List.mem_map.mp hmem
  have hnested : t'.identity.nested = t.identity.nested := congrArg Token.nested heq
  exact hw t' ht' c (hnested.trans hc)

theorem Changes.nests (h : Changes permits w w') (hw : w.Nests permits) : w'.Nests permits :=
  nests_congr h.frame.1 hw

theorem Changes.mono {permits' : Call → Prop} (hp : ∀ c, permits c → permits' c)
    (h : Changes permits w w') : Changes permits' w w' := by
  refine Relation.ReflTransGen.mono (fun a b hab => ?_) _ _ h
  cases hab with
  | hear ht hfar => exact .hear ht hfar
  | absorb ht hreach hfirst => exact .absorb ht hreach hfirst
  | invoke ht hreach hlater => exact .invoke ht hreach hlater
  | take hc => exact .take (hp _ hc)
  | record he => exact .record he

/-! ## Notifications and calls -/

/-- Delivering notices one after another makes elementary changes if delivering each one does. -/
theorem foldl_changes {f : World → Notice → World}
    (hf : ∀ (w : World) n, w.Nests permits → Changes permits w (f w n)) (notices : List Notice)
    (hw : w.Nests permits) : Changes permits w (notices.foldl f w) := by
  induction notices generalizing w with
  | nil => exact .refl
  | cons n rest ih =>
    have hn := hf w n hw
    exact hn.trans (ih (hn.nests hw))

theorem dispatchWithin_changes (depth token : Nat) (handle : Int32) (reported : String)
    (hw : w.Nests permits) :
    Changes permits w (dispatchWithin depth token handle reported w).2 := by
  -- the depth bounds how far calls are nested; one level further in it is smaller
  induction depth using Nat.strongRecOn generalizing token handle reported w with
  | ind depth ih =>
    unfold dispatchWithin
    cases ht : w.tokens[token]? with
    | none => exact .refl
    | some t =>
      rcases admission_cases w token t handle reported with
        ⟨hfar, ⟨breach, hadm⟩ | hadm⟩ | ⟨hreach, hfirst, hadm⟩ | ⟨hreach, hlater, hadm⟩
      · simp only [hadm]
        exact .single (.hear ht hfar)
      · simp only [hadm]
        exact .single (.hear ht hfar)
      · simp only [hadm]
        exact .single (.absorb ht hreach hfirst)
      · simp only [hadm]
        have hinvoke : Changes permits w ((w.hear token t handle reported).invoke token t) :=
          .single (.invoke ht hreach hlater)
        split
        · next hwill =>
          split
          · next depth' c hnested =>
            -- the subscriber's own call, and what it causes
            have hc : permits c := hw t (List.mem_of_getElem? ht) c hnested
            have htake : Changes permits w
                (((w.hear token t handle reported).invoke token t).take c) :=
              hinvoke.tail (.take hc)
            have hdelivered := foldl_changes
              (f := fun w n =>
                (dispatchWithin depth' n.token n.handle (Text.Wide.scan (some n.reported)) w).2)
              (fun w n hw => ih depth' (Nat.lt_succ_self _) _ _ _ hw)
              (((w.hear token t handle reported).invoke token t).driver.step c).notices
              (htake.nests hw)
            exact (htake.trans hdelivered).tail (.record fun _ _ h => by cases h)
          · exact hinvoke
        · exact hinvoke

theorem dispatch_changes (token : Nat) (handle : Int32) (reported : String)
    (hw : w.Nests permits) : Changes permits w (w.dispatch token handle reported).2 :=
  dispatchWithin_changes _ token handle reported hw

theorem deliverAll_changes (notices : List Notice) (hw : w.Nests permits) :
    Changes permits w (w.deliverAll notices).2 := by
  induction notices generalizing w with
  | nil => exact .refl
  | cons n rest ih =>
    have hn : Changes permits w (w.deliver n).2 := dispatch_changes _ _ _ hw
    exact hn.trans (ih (hn.nests hw))

/-- A call that gets through to the driver, and what it causes. -/
theorem call_of_passed {c c' : Call} (hpass : w.backend.pass? c = some c') :
    w.call c =
      ((w.driver.step c').reply, ((w.take c').deliverAll (w.driver.step c').notices).2) := by
  unfold call
  rw [hpass]

/-- A call that the backend refuses does nothing. -/
theorem call_of_refused {c : Call} (hpass : w.backend.pass? c = none) :
    w.call c = (⟨Status.notImplemented, none⟩, w) := by
  unfold call
  rw [hpass]

/-- A call that arrives as it was made, and of which nobody hears. -/
theorem call_of_silent {c : Call} (hportable : c.Portable) (hc : c.notifies = false) :
    w.call c = ((w.driver.step c).reply, w.take c) := by
  rw [call_of_passed (Backend.pass?_eq _ hportable), Driver.notices_eq_nil _ hc]
  rfl

/-- A request that only reads is such a call. -/
theorem call_reading (w : World) (handle : Int32) (f : Feature) (r : Request)
    (hr : r.isReading = true) (hportable : r.Portable) :
    w.call (.feature handle f.key r) =
      ((w.driver.step (.feature handle f.key r)).reply, w.take (.feature handle f.key r)) :=
  call_of_silent ⟨f.portable_key, hportable⟩ (Call.notifies_of_isReading _ _ hr)

theorem call_changes {c : Call} (hc : ∀ c', w.backend.pass? c = some c' → permits c')
    (hw : w.Nests permits) : Changes permits w (w.call c).2 := by
  cases hpass : w.backend.pass? c with
  | none => rw [call_of_refused hpass]
  | some c' =>
    rw [call_of_passed hpass]
    have htake : Changes permits w (w.take c') := .single (.take (hc c' hpass))
    exact htake.trans (deliverAll_changes _ (htake.nests hw))

/-- Without restrictions on calls, everything is permitted. -/
theorem call_changes_any (w : World) (c : Call) : Changes (fun _ => True) w (w.call c).2 :=
  call_changes (fun _ _ => trivial) fun _ _ _ _ => trivial

theorem call_frame (w : World) (c : Call) :
    (w.call c).2.tokens.map Token.identity = w.tokens.map Token.identity ∧
      (w.call c).2.sessions = w.sessions ∧ (w.call c).2.nextSession = w.nextSession ∧
      (w.call c).2.backend = w.backend :=
  (call_changes_any w c).frame

end World

end CameraControl
