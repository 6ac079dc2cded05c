import CameraControl.Proofs.Camera.Sessions
import CameraControl.Proofs.Library.Forwarding
import Mathlib.Data.List.Nodup

/-
  Subscriptions and their tokens.

  Every subscription of the driver is that of a token, on the token's handle and to the token's
  feature, and no token has two: `Enrolled`. All that this takes is that subscribing is left to
  cameras. Handles may be closed behind the back of their cameras, and calls may be ordered to fail
  with whatever code.
-/

namespace CameraControl

/-- A call that subscribes nobody; only cameras may make the others. -/
def Call.SubscribesNobody : Call → Prop
  | feature _ _ (.subscribe _) => False
  | _ => True

instance : DecidablePred Call.SubscribesNobody := fun c =>
  match c with
  | .feature _ _ (.subscribe _) => isFalse id
  | .feature _ _ (.ask _) | .feature _ _ (.read _) | .feature _ _ (.isIndexAvailable _)
  | .feature _ _ (.isIndexImplemented _) | .feature _ _ (.enumText _ _) | .feature _ _ (.text _)
  | .feature _ _ (.write _) | .feature _ _ .command | .feature _ _ (.unsubscribe _)
  | .open _ | .close _ | .queue _ _ _ | .wait _ _ | .flush _ => isTrue trivial

theorem Call.subscribesNobody_of_pass? {b : Backend} {c c' : Call} (hc : c.SubscribesNobody)
    (h : b.pass? c = some c') : c'.SubscribesNobody := by
  rcases Backend.pass?_cases h with rfl | ⟨_, _, _, _, r, rfl, rfl, hr⟩
  · exact hc
  · rcases Library.passRequest?_cases hr with
      rfl | ⟨_, _, rfl, rfl, -⟩ | ⟨_, _, _, rfl, rfl⟩ | ⟨_, _, rfl, rfl⟩
    · cases r <;> exact hc
    · trivial
    · trivial
    · trivial

/-- A call that subscribes nobody may end subscriptions. -/
theorem Driver.subscriptions_sublist {c : Call} (hc : c.SubscribesNobody) (d : Driver) :
    (d.step c).driver.subscriptions.Sublist d.subscriptions := by
  rcases Driver.step_cases d c with ⟨code, -, hstep⟩ | ⟨e, he, hstep⟩
  · rw [hstep]
    exact .refl _
  · rw [hstep]
    cases he with
    | closed => exact List.filter_sublist
    | subscribed => exact hc.elim
    | unsubscribed => exact List.erase_sublist
    | _ => exact .refl _

namespace World

variable {w w' : World}

theorem tokens_old_of_map (h : w'.tokens.map Token.identity = w.tokens.map Token.identity)
    {i : Nat} {t : Token} (ht : w.tokens[i]? = some t) :
    ∃ t', w'.tokens[i]? = some t' ∧ t'.identity = t.identity := by
  have hmap := congrArg (·[i]?) h
  simpa [List.getElem?_map, ht, Option.map_eq_some_iff] using hmap

/-- Every subscription is that of a token, and no token has two. -/
structure Enrolled (w : World) : Prop where
  tokens_nodup : (w.driver.subscriptions.map Subscription.token).Nodup
  subscription_token : ∀ x ∈ w.driver.subscriptions, ∃ t, w.tokens[x.token]? = some t ∧
    x.handle = t.handle ∧ x.key = Text.squeeze t.feature.key

/-- Subscriptions may end, and tokens stay the same ones. -/
theorem Enrolled.of_sublist (hw : w.Enrolled)
    (hsubscriptions : w'.driver.subscriptions.Sublist w.driver.subscriptions)
    (htokens : ∀ {i : Nat} {t : Token}, w.tokens[i]? = some t →
      ∃ t', w'.tokens[i]? = some t' ∧ t'.identity = t.identity) : w'.Enrolled where
  tokens_nodup := hw.tokens_nodup.sublist (hsubscriptions.map _)
  subscription_token := by
    intro x hx
    obtain ⟨t, ht, hhandle, hkey⟩ := hw.subscription_token x (hsubscriptions.subset hx)
    obtain ⟨t', ht', hidentity⟩ := htokens ht
    have hhandle' : t'.handle = t.handle := (congrArg Token.handle hidentity :)
    have hfeature : t'.feature = t.feature := (congrArg Token.feature hidentity :)
    exact ⟨t', ht', hhandle.trans hhandle'.symm, by rw [hfeature]; exact hkey⟩

theorem Changes.enrolled (h : Changes Call.SubscribesNobody w w') (hw : w.Enrolled) :
    w'.Enrolled := by
  induction h with
  | refl => exact hw
  | tail _ h ih =>
    refine ih.of_sublist ?_ (tokens_old_of_map h.frame.1)
    cases h with
    | take hc => exact Driver.subscriptions_sublist hc _
    | _ => exact .refl _

theorem enrolled_call (hw : w.Enrolled) (hnests : w.Nests Call.SubscribesNobody) {c : Call}
    (hc : c.SubscribesNobody) : (w.call c).2.Enrolled :=
  (call_changes (fun _ h => Call.subscribesNobody_of_pass? hc h) hnests).enrolled hw

/-- A call that gets through as it is, and what it causes. -/
theorem call_eq {c : Call} (hc : c.Portable) (w : World) :
    w.call c =
      ((w.driver.step c).reply, ((w.take c).deliverAll (w.driver.step c).notices).2) :=
  call_of_passed (Backend.pass?_eq _ hc)

theorem enrolled_script (hw : w.Enrolled) (act : Scripting) : (w.script act).Enrolled := by
  refine hw.of_sublist ?_ fun {_ t} ht => ⟨t, ht, rfl⟩
  cases act <;> exact .refl _

/-! ## Sessions and tokens -/

variable {cam : Camera} {t : Token} {f : Feature}

theorem enrolled_afterOpening (hw : w.Enrolled) (hnests : w.Nests Call.SubscribesNobody)
    (index : Int32) : (Camera.afterOpening index w).Enrolled :=
  let h := enrolled_call hw hnests (c := .open index) trivial
  ⟨h.tokens_nodup, h.subscription_token⟩

theorem enrolled_drop (hw : w.Enrolled) (hnests : w.Nests Call.SubscribesNobody) (cam : Camera) :
    (cam.drop.exec w).2.Enrolled :=
  let h := enrolled_call hw hnests (c := .close cam.handle) trivial
  ⟨h.tokens_nodup, h.subscription_token⟩

/-- What an accepted subscription does to the driver. -/
theorem subscription_effect {d : Driver} {e : Effect} {handle : Int32} {key : String} {i : Nat}
    (he : d.Effects (.feature handle key (.subscribe i)) e) :
    e.driver = { d with subscriptions := d.subscriptions ++ [⟨handle, Text.squeeze key, i⟩] } := by
  cases he with
  | answered hread => cases hread
  | subscribed => rfl

/-- The driver after a call that it answered by an accepted subscription. -/
theorem subscribed_driver {e : Effect}
    (he : (w.driver.logged (cam.subscription f w)).Effects (cam.subscription f w) e)
    (hstep : w.driver.step (cam.subscription f w) =
      ⟨e.driver, ⟨Status.success, e.output⟩, e.notices⟩) :
    ((cam.entered t w).take (cam.subscription f w)).driver =
      { w.driver.logged (cam.subscription f w) with
        subscriptions :=
          w.driver.subscriptions ++ [⟨cam.handle, Text.squeeze f.key, w.tokens.length⟩] } := by
  show (w.driver.step (cam.subscription f w)).driver = _
  rw [hstep, subscription_effect he]
  rfl

/-- The driver gets the call of a subscription: if it accepts, the new subscription is that of the
    new token. -/
theorem enrolled_entered (hw : w.Enrolled)
    (hhandle : t.handle = cam.handle) (hfeature : t.feature = f) :
    ((cam.entered t w).take (cam.subscription f w)).Enrolled := by
  have hold {x : Subscription} (hx : x ∈ w.driver.subscriptions) : x.token < w.tokens.length := by
    obtain ⟨u, hu, -⟩ := hw.subscription_token x hx
    exact (List.getElem?_eq_some_iff.mp hu).1
  rcases Driver.step_cases w.driver (cam.subscription f w) with
    ⟨code, -, hstep⟩ | ⟨e, he, hstep⟩
  · refine hw.of_sublist ?_ fun {i u} hu => ⟨u, ?_, rfl⟩
    · show (w.driver.step (cam.subscription f w)).driver.subscriptions.Sublist _
      rw [hstep]
      exact .refl _
    · show (w.tokens ++ [t])[i]? = some u
      rw [List.getElem?_append_left (List.getElem?_eq_some_iff.mp hu).1, hu]
  · have hdriver := subscribed_driver (t := t) he hstep
    constructor
    · -- the driver knows issued tokens only, and the new one was issued last
      have hfresh : w.tokens.length ∉ w.driver.subscriptions.map Subscription.token := by
        intro h
        obtain ⟨x, hx, heq⟩ := List.mem_map.mp h
        exact absurd (hold hx) (by omega)
      rw [hdriver, List.map_append]
      simpa [List.concat_eq_append] using hw.tokens_nodup.concat hfresh
    · intro x hx
      show ∃ u, (w.tokens ++ [t])[x.token]? = some u ∧ _
      rw [hdriver] at hx
      rcases List.mem_append.mp hx with hx | hx
      · obtain ⟨u, hu, hfits⟩ := hw.subscription_token x hx
        exact ⟨u, by rw [List.getElem?_append_left (hold hx), hu], hfits⟩
      · obtain rfl := List.mem_singleton.mp hx
        refine ⟨t, ?_, hhandle.symm, by rw [hfeature]⟩
        rw [List.getElem?_append_right (Nat.le_refl _), Nat.sub_self]
        rfl

theorem enrolled_subscribe (hw : w.Enrolled) (hnests : w.Nests Call.SubscribesNobody) (cam : Camera)
    (label : String) (f : Feature) (reactions : List Reaction) {nested : Option Call}
    (hnested : ∀ c ∈ nested, c.SubscribesNobody) :
    ((cam.subscribe label f reactions nested).exec w).2.Enrolled := by
  have hentered : (cam.entered (cam.newToken label f reactions nested) w).Nests
      Call.SubscribesNobody := Camera.nests_entered hnests hnested cam
  have hcall : ((cam.entered (cam.newToken label f reactions nested) w).call
      (cam.subscription f w)).2.Enrolled := by
    rw [call_eq (c := cam.subscription f w) ⟨f.portable_key, trivial⟩]
    -- the token is there when the notices are delivered
    have htaken : ((cam.entered (cam.newToken label f reactions nested) w).take
        (cam.subscription f w)).Enrolled := enrolled_entered hw rfl rfl
    exact (deliverAll_changes _ (w := (cam.entered _ w).take _) hentered).enrolled htaken
  rcases cam.subscribe_exec label f reactions nested w with ⟨-, hexec⟩ | ⟨-, fault, hexec⟩
  · rw [hexec]
    exact hcall
  · rw [hexec]
    exact ⟨hcall.tokens_nodup, hcall.subscription_token⟩

theorem enrolled_unsubscribe (hw : w.Enrolled) (hnests : w.Nests Call.SubscribesNobody)
    (cam : Camera) (token : Nat) : ((cam.unsubscribe token).exec w).2.Enrolled := by
  rcases cam.unsubscribe_exec token w with
    ⟨hexec, -⟩ | ⟨t, fault, -, -, hexec⟩ | ⟨t, -, -, -, hexec⟩
  · rwa [hexec]
  · rwa [hexec]
  · rw [hexec]
    exact enrolled_call (w := w.modifyLive cam.session (·.erase token))
      ⟨hw.tokens_nodup, hw.subscription_token⟩ hnests trivial

end World

end CameraControl
