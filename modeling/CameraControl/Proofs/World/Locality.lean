import CameraControl.Proofs.Driver.Locality
import CameraControl.Proofs.Library.Forwarding
import CameraControl.Proofs.World.Quiet
import CameraControl.Proofs.World.Turn

/-
  What a call on a handle comes to in the world.

  In a quiet world a call on a handle brings notices of that handle only, and these change no token
  but those of the handle. `Agree` says of two worlds that such a call cannot tell them apart:
  `call_agree` that it is observed to do the same in both, and `call_agree_of_other` that a call on
  another handle makes no difference to it.
-/

namespace CameraControl

/-- A token as far as it matters to a handle: tokens of other handles are as they were issued. -/
def Token.seenFrom (handle : Int32) (t : Token) : Token :=
  if t.handle = handle then t else t.identity

/-- What can be observed of a call: its reply, whom the driver notified, and what happened. -/
structure Observation where
  call : Call
  reply : Reply
  notices : List Notice
  happenings : List Happening
  deriving DecidableEq

namespace World

variable {handle other : Int32} {index otherIndex : Nat} {w w' w'' : World}

/-- The notices that the driver gives out for a call. -/
def notices (w : World) (c : Call) : List Notice :=
  match w.backend.pass? c with
  | none => []
  | some c => (w.driver.step c).notices

/-- What can be observed of a call that is made now. -/
def observe (w : World) (c : Call) : Observation :=
  ⟨c, (w.call c).1, w.notices c, (w.call c).2.happeningsSince w⟩

/-- A call on a handle cannot tell two worlds apart. -/
structure Agree (handle : Int32) (index : Nat) (w w' : World) : Prop where
  driver : w.driver.Agree handle index w'.driver
  backend : w.backend = w'.backend
  sessions : w.sessions = w'.sessions
  tokens : w.tokens.map (Token.seenFrom handle) = w'.tokens.map (Token.seenFrom handle)

namespace Agree

theorem refl (hw : w.driver.Bound handle index) : Agree handle index w w :=
  ⟨.refl hw, rfl, rfl, rfl⟩

theorem trans (h : Agree handle index w w') (h' : Agree handle index w' w'') :
    Agree handle index w w'' where
  driver := h.driver.trans h'.driver
  backend := h.backend.trans h'.backend
  sessions := h.sessions.trans h'.sessions
  tokens := h.tokens.trans h'.tokens

/-- Tokens at one place have the same identity, and they are the same if they are of the handle. -/
theorem token (h : Agree handle index w w') (i : Nat) :
    (w.tokens[i]? = none ∧ w'.tokens[i]? = none) ∨
    ∃ t t', w.tokens[i]? = some t ∧ w'.tokens[i]? = some t' ∧ t.identity = t'.identity ∧
      (t.handle = handle → t = t') := by
  have hmap := congrArg (·[i]?) h.tokens
  simp only [List.getElem?_map] at hmap
  cases ht : w.tokens[i]? with
  | none =>
    rw [ht] at hmap
    exact .inl ⟨rfl, Option.map_eq_none_iff.mp hmap.symm⟩
  | some t =>
    rw [ht] at hmap
    obtain ⟨t', ht', heq⟩ := Option.map_eq_some_iff.mp hmap.symm
    have hidentity (t : Token) : (t.seenFrom handle).identity = t.identity := by
      unfold Token.seenFrom
      split <;> rfl
    have hsame : t.identity = t'.identity := by
      rw [← hidentity t, ← heq, hidentity]
    refine .inr ⟨t, t', rfl, ht', hsame, fun hown => ?_⟩
    have hhandle : t.identity.handle = t'.identity.handle := congrArg Token.handle hsame
    have hown' : t'.handle = handle := hhandle.symm.trans hown
    rw [Token.seenFrom, Token.seenFrom, if_pos hown, if_pos hown'] at heq
    exact heq.symm

theorem isLive (h : Agree handle index w w') (session token : Nat) :
    w.isLive session token = w'.isLive session token := by
  unfold World.isLive live?
  rw [h.sessions]

theorem note (h : Agree handle index w w') (happening happening' : Happening) :
    Agree handle index (w.note happening) (w'.note happening') := { h with }

/-- Changing one token alike in both worlds. -/
theorem modifyToken (h : Agree handle index w w') {i : Nat} (hi : w.tokens[i]? = w'.tokens[i]?)
    (f : Token → Token) : Agree handle index (w.modifyToken i f) (w'.modifyToken i f) where
  driver := h.driver
  backend := h.backend
  sessions := h.sessions
  tokens := by
    refine List.ext_getElem? fun j => ?_
    have hj := congrArg (·[j]?) h.tokens
    simp only [World.modifyToken, List.getElem?_map, List.getElem?_modify] at hj ⊢
    by_cases hij : i = j
    · subst hij
      rw [hi]
    · simpa [hij] using hj

end Agree

/-- Changing a token of another handle does not matter to a handle. -/
theorem map_seenFrom_modify {tokens : List Token} {i : Nat} {t : Token} (ht : tokens[i]? = some t)
    (hne : t.handle ≠ handle) {f : Token → Token} (hf : (f t).identity = t.identity) :
    (tokens.modify i f).map (Token.seenFrom handle) = tokens.map (Token.seenFrom handle) := by
  have hhandle : (f t).handle = t.handle :=
    (congrArg Token.handle hf : (f t).identity.handle = t.identity.handle)
  have hseen : (f t).seenFrom handle = t.seenFrom handle := by
    rw [Token.seenFrom, Token.seenFrom, if_neg hne, if_neg (hhandle ▸ hne), hf]
  refine List.ext_getElem? fun j => ?_
  simp only [List.getElem?_map, List.getElem?_modify]
  by_cases hij : i = j
  · subst hij
    simp [ht, hseen]
  · simp [hij]

/-! ## Notices -/

/-- A notification that reports another handle than that of the token does not fit it. -/
theorem admission_of_other {t : Token} (hne : handle ≠ t.handle) (w : World) (token : Nat)
    (reported : String) : ∃ breach, w.admission token t handle reported = .mismatch breach := by
  unfold admission
  split
  · exact ⟨_, rfl⟩
  · exact ⟨_, rfl⟩

/-- Of two worlds each has gone on, the same has happened in both, and for a handle they agree. -/
def Abreast (handle : Int32) (index : Nat) (w w' v v' : World) : Prop :=
  ∃ new, v.history = new ++ w.history ∧ v'.history = new ++ w'.history ∧ Agree handle index v v'

theorem Abreast.refl (h : Agree handle index w w') : Abreast handle index w w' w w' :=
  ⟨[], rfl, rfl, h⟩

theorem Abreast.agree {v v' : World} (h : Abreast handle index w w' v v') :
    Agree handle index v v' := by
  obtain ⟨-, -, -, hagree⟩ := h
  exact hagree

theorem Abreast.trans {v v' u u' : World} (h : Abreast handle index w w' v v')
    (h' : Abreast handle index v v' u u') : Abreast handle index w w' u u' := by
  obtain ⟨new, hnew, hnew', -⟩ := h
  obtain ⟨later, hlater, hlater', hagree⟩ := h'
  refine ⟨later ++ new, ?_, ?_, hagree⟩
  · rw [hlater, hnew, List.append_assoc]
  · rw [hlater', hnew', List.append_assoc]

/-- What is noted of a notification is the same in both worlds. -/
theorem delivery_agree (h : Agree handle index w w') {token : Nat} {t t' : Token}
    (hidentity : t.identity = t'.identity) (reported : String) :
    w.delivery token t handle reported = w'.delivery token t' handle reported := by
  have hsession : t.identity.session = t'.identity.session := congrArg Token.session hidentity
  rw [delivery, delivery, h.isLive]
  exact congrArg (fun session => Delivery.mk _ _ _ (w'.isLive session token)) hsession

/-- A notification for a token that is the same in both worlds. -/
theorem dispatch_agree_of_same (h : Agree handle index w w') (hw : w.Quiet) (hw' : w'.Quiet)
    {token : Nat} {t : Token} (ht : w.tokens[token]? = some t) (ht' : w'.tokens[token]? = some t)
    (reported : String) :
    Abreast handle index w w' (w.dispatch token handle reported).2
      (w'.dispatch token handle reported).2 := by
  have hadmission :
      w.admission token t handle reported = w'.admission token t handle reported := by
    unfold admission
    rw [h.isLive]
  have htoken : w.tokens[token]? = w'.tokens[token]? := ht.trans ht'.symm
  have hheard : Agree handle index (w.hear token t handle reported)
      (w'.hear token t handle reported) := h.note _ _
  have hdelivery :
      w.delivery token t handle reported = w'.delivery token t handle reported :=
    delivery_agree h rfl reported
  rw [dispatch_eq hw ht, dispatch_eq hw' ht']
  dsimp only
  rw [hadmission]
  cases w'.admission token t handle reported with
  | mismatch | stale =>
    refine ⟨[.delivered (w'.delivery token t handle reported)], ?_, rfl, hheard⟩
    rw [← hdelivery]
    rfl
  | precall =>
    refine ⟨[.delivered (w'.delivery token t handle reported)], ?_, rfl,
      hheard.modifyToken htoken _⟩
    rw [← hdelivery]
    rfl
  | invoke =>
    refine ⟨[.event (.invoked t.label t.feature),
      .delivered (w'.delivery token t handle reported)], ?_, rfl,
      (hheard.modifyToken htoken _).note _ _⟩
    rw [← hdelivery]
    rfl

/-- A notification of the handle comes to the same in both worlds. -/
theorem dispatch_agree (h : Agree handle index w w') (hw : w.Quiet) (hw' : w'.Quiet) (token : Nat)
    (reported : String) :
    Abreast handle index w w' (w.dispatch token handle reported).2
      (w'.dispatch token handle reported).2 := by
  rcases h.token token with ⟨ht, ht'⟩ | ⟨t, t', ht, ht', hidentity, hsame⟩
  · rw [dispatch_of_none ht, dispatch_of_none ht']
    exact .refl h
  by_cases hown : t.handle = handle
  -- the token is of the handle, and so it is the same one in both worlds
  · obtain rfl := hsame hown
    exact dispatch_agree_of_same h hw hw' ht ht' reported
  -- otherwise it is refused in both worlds
  · have hne : handle ≠ t.handle := Ne.symm hown
    have hhandle : t.identity.handle = t'.identity.handle := congrArg Token.handle hidentity
    have hne' : handle ≠ t'.handle := fun heq => hne (heq.trans hhandle.symm)
    obtain ⟨breach, hadmission⟩ := admission_of_other hne w token reported
    obtain ⟨breach', hadmission'⟩ := admission_of_other hne' w' token reported
    rw [dispatch_eq hw ht, dispatch_eq hw' ht']
    dsimp only
    rw [hadmission, hadmission']
    refine ⟨[.delivered (w'.delivery token t' handle reported)], ?_, rfl, h.note _ _⟩
    rw [← delivery_agree h hidentity]
    rfl

theorem deliverAll_agree (h : Agree handle index w w') (hw : w.Quiet) (hw' : w'.Quiet)
    {notices : List Notice} (hn : ∀ n ∈ notices, n.handle = handle) :
    Abreast handle index w w' (w.deliverAll notices).2 (w'.deliverAll notices).2 := by
  induction notices generalizing w w' with
  | nil => exact .refl h
  | cons n rest ih =>
    obtain rfl := hn n List.mem_cons_self
    have hfirst := dispatch_agree h hw hw' n.token (Text.Wide.scan (some n.reported))
    exact hfirst.trans (ih hfirst.agree (quiet_dispatch hw _ _ _) (quiet_dispatch hw' _ _ _)
      fun m hm => hn m (List.mem_cons_of_mem _ hm))

/-- A notification of another handle does not matter to a handle. -/
theorem dispatch_agree_of_other (hb : w.driver.Bound handle index) (hw : w.Quiet)
    (hne : other ≠ handle) (token : Nat) (reported : String) :
    Agree handle index (w.dispatch token other reported).2 w := by
  have hrefl : Agree handle index w w := .refl hb
  cases ht : w.tokens[token]? with
  | none =>
    rw [dispatch_of_none ht]
    exact hrefl
  | some t =>
    rw [dispatch_eq hw ht]
    by_cases hown : t.handle = other
    · have hforeign : t.handle ≠ handle := fun heq => hne (hown.symm.trans heq)
      dsimp only
      split
      · exact { hrefl with }
      · exact { hrefl with }
      · exact { hrefl with tokens := map_seenFrom_modify ht hforeign rfl }
      · exact { hrefl with tokens := map_seenFrom_modify ht hforeign rfl }
    · obtain ⟨breach, hadmission⟩ := admission_of_other (Ne.symm hown) w token reported
      dsimp only
      rw [hadmission]
      exact { hrefl with }

theorem deliverAll_agree_of_other (hb : w.driver.Bound handle index) (hw : w.Quiet)
    (hne : other ≠ handle) {notices : List Notice} (hn : ∀ n ∈ notices, n.handle = other) :
    Agree handle index (w.deliverAll notices).2 w := by
  induction notices generalizing w with
  | nil => exact .refl hb
  | cons n rest ih =>
    obtain rfl := hn n List.mem_cons_self
    have hfirst : Agree handle index (w.deliver n).2 w :=
      dispatch_agree_of_other hb hw hne _ _
    have hrest := ih hfirst.driver.bound (quiet_dispatch hw _ _ _) fun m hm =>
      hn m (List.mem_cons_of_mem _ hm)
    exact hrest.trans hfirst

/-! ## Calls -/

/-- A call arrives at the driver on the handle that it was made on. -/
theorem handle?_of_pass? {b : Backend} {c c' : Call} (h : b.pass? c = some c') :
    c'.handle? = c.handle? := by
  -- the key and the request may lose a part of their texts on the way, the handle stays
  rcases Backend.pass?_cases h with rfl | ⟨_, _, _, _, _, rfl, rfl, -⟩
  · rfl
  · rfl

/-- A call on the handle is observed to do the same in both worlds. -/
theorem call_agree (h : Agree handle index w w') (hw : w.Quiet) (hw' : w'.Quiet) {c : Call}
    (hc : c.handle? = some handle) :
    w.observe c = w'.observe c ∧ Agree handle index (w.call c).2 (w'.call c).2 := by
  cases hpass : w.backend.pass? c with
  | none =>
    have hpass' : w'.backend.pass? c = none := h.backend ▸ hpass
    have hnothing (w : World) : w.happeningsSince w = [] :=
      happeningsSince_eq (List.nil_append _).symm
    rw [observe, observe, notices, notices, hpass, hpass', call_of_refused hpass,
      call_of_refused hpass', hnothing, hnothing]
    exact ⟨rfl, h⟩
  | some c' =>
    have hpass' : w'.backend.pass? c = some c' := h.backend ▸ hpass
    have hc' : c'.handle? = some handle := (handle?_of_pass? hpass).trans hc
    obtain ⟨hreply, hnotices, hdriver⟩ := Driver.step_agree h.driver hc'
    have htaken : Agree handle index (w.take c') (w'.take c') := { h with driver := hdriver }
    obtain ⟨new, hnew, hnew', hdelivered⟩ := deliverAll_agree htaken hw hw'
      fun n => Driver.handle_of_mem_notices (d := w.driver) hc'
    have hcall := call_of_passed hpass
    have hcall' := call_of_passed hpass'
    rw [← hreply, ← hnotices] at hcall'
    have hhistory : (w.call c).2.history =
        (new ++ [.called c' (w.driver.step c').reply]) ++ w.history := by
      rw [hcall, List.append_assoc]
      exact hnew
    have hhistory' : (w'.call c).2.history =
        (new ++ [.called c' (w.driver.step c').reply]) ++ w'.history := by
      rw [hcall', List.append_assoc, hreply]
      exact hnew'
    refine ⟨?_, ?_⟩
    · rw [observe, observe, happeningsSince_eq hhistory, happeningsSince_eq hhistory', notices,
        notices, hpass, hpass', hcall, hcall']
      exact congrArg (Observation.mk c _ · _) hnotices
    · rw [hcall, hcall']
      exact hdelivered

/-- A call on the handle of another device does not matter to a handle. -/
theorem call_agree_of_other (hb : w.driver.Bound handle index)
    (hother : w.driver.Bound other otherIndex) (hne : other ≠ handle)
    (hindex : otherIndex ≠ index) (hzero : w.driver.zeroSizeWaits = 0) (hw : w.Quiet) {c : Call}
    (hc : c.handle? = some other) :
    Agree handle index (w.call c).2 w := by
  cases hpass : w.backend.pass? c with
  | none =>
    rw [call_of_refused hpass]
    exact .refl hb
  | some c' =>
    have hc' : c'.handle? = some other := (handle?_of_pass? hpass).trans hc
    have hdriver := Driver.agree_step_of_other hb hother hne hindex hzero hc'
    have htaken : Agree handle index (w.take c') w := ⟨hdriver, rfl, rfl, rfl⟩
    rw [call_of_passed hpass]
    exact (deliverAll_agree_of_other htaken.driver.bound hw hne
      fun n => Driver.handle_of_mem_notices (d := w.driver) hc').trans htaken

/-- A call is logged once if it arrives at the driver, and not at all otherwise. -/
theorem callCount_call (hw : w.Quiet) (c : Call) (f : Function) :
    (w.call c).2.driver.callCount f =
      w.driver.callCount f + ((w.backend.pass? c).toList.map Call.function).count f := by
  cases hpass : w.backend.pass? c with
  | none =>
    rw [call_of_refused hpass]
    rfl
  | some c' =>
    rw [Driver.callCount, (driver_call hw hpass).2, Driver.log_step, Driver.callCount,
      List.count_cons, Option.toList_some, List.map_singleton, List.count_singleton]

end World

end CameraControl
