import CameraControl.Camera.Subscription
import CameraControl.Proofs.Camera.Uses
import CameraControl.Proofs.World.Turn

/-
  How sessions and tokens come and go.

  Opening, closing, subscribing and unsubscribing are the actions that deal with sessions and
  tokens. For each, this file says which world it leaves, with its one call spelled out and with
  its success and its failure told apart. Enumerating devices opens each of them for a moment.
-/

namespace CameraControl.Camera

open CameraControl.Action World

variable {w : World}

/-! ## Opening and closing -/

/-- The camera that opening gives if its call succeeds. -/
def opening (index : Int32) (w : World) : Camera :=
  ⟨(w.call (.open index)).2.nextSession, index, (w.call (.open index)).1.word noHandle, none⟩

/-- The world in which that camera has its session. -/
def afterOpening (index : Int32) (w : World) : World :=
  (w.call (.open index)).2.beginSession (opening index w).handle

/-- Opening begins a session if its call succeeds, and is nothing but the call otherwise. -/
theorem openDevice_exec (index : Int32) (w : World) :
    ((w.call (.open index)).1.status = Status.success ∧
      (openDevice index).exec w = (.ok (opening index w), afterOpening index w)) ∨
    ((w.call (.open index)).1.status ≠ Status.success ∧ ∃ fault,
      (openDevice index).exec w = (.error fault, (w.call (.open index)).2)) := by
  by_cases hstatus : (w.call (.open index)).1.status = Status.success
  · refine .inl ⟨hstatus, ?_⟩
    rw [openDevice, exec_bind_of_ok (by rw [exec_call, if_pos hstatus])]
    rfl
  · refine .inr ⟨hstatus, .device s!"Failed to open Andor device with index {index}."
      (w.call (.open index)).1.status, ?_⟩
    rw [openDevice, exec_bind_of_error (by rw [exec_call, if_neg hstatus])]

theorem afterOpening_turns (index : Int32) (w : World) : Turns w (afterOpening index w) :=
  (call_turns w _).tail (.beginSession _)

/-- Giving a camera up ends its session, whatever the driver replies. -/
theorem drop_exec (cam : Camera) (w : World) :
    cam.drop.exec w = (.ok (), (w.call (.close cam.handle)).2.endSession cam.session) := rfl

/-- Closing a camera leaves the same world as giving it up. -/
theorem close_exec (cam : Camera) (w : World) : (cam.close.exec w).2 = (cam.drop.exec w).2 := by
  unfold close
  rw [exec_bind_of_ok (exec_tryCall _ _)]
  refine exec_bind_snd (a := cam.endSession) (fun _ w' => ?_) _
  split <;> rfl

theorem drop_turns (cam : Camera) (w : World) : Turns w (cam.drop.exec w).2 :=
  (call_turns w _).tail (.endSession _)

/-! ## Visiting a device -/

/-- The world after a device was open for a moment, in which its model name was read. -/
def visiting (index : Int32) (w : World) : World :=
  let cam := opening index w
  (cam.drop.exec ((cam.text .cameraModel).exec (afterOpening index w)).2).2

/-- A device that was opened to read its name is closed whatever comes of the reading. -/
theorem modelName_exec (index : Int32) (w : World) :
    ((w.call (.open index)).1.status = Status.success ∧
      ((Enumeration.modelName index).exec w).2 = visiting index w) ∨
    ((w.call (.open index)).1.status ≠ Status.success ∧
      ((Enumeration.modelName index).exec w).2 = (w.call (.open index)).2) := by
  unfold Enumeration.modelName
  rcases openDevice_exec index w with ⟨hstatus, hopen⟩ | ⟨hstatus, fault, hopen⟩
  · refine .inl ⟨hstatus, ?_⟩
    rw [exec_bind_of_ok hopen, exec_bind_of_ok (exec_attempt _ _)]
    split
    · rw [exec_bind_snd fun _ _ => rfl, close_exec]
      rfl
    · rfl
  · exact .inr ⟨hstatus, by rw [exec_bind_of_error hopen]⟩

/-! ## Subscribing -/

/-- The token that a subscription issues. -/
def newToken (cam : Camera) (label : String) (f : Feature) (reactions : List Reaction)
    (nested : Option Call) : Token :=
  ⟨label, cam.session, cam.handle, f, reactions, nested, false, 0⟩

/-- The world in which the driver gets the call of a subscription: the new token is live. -/
def entered (cam : Camera) (t : Token) (w : World) : World :=
  (w.issue t).modifyLive cam.session (· ++ [w.tokens.length])

/-- The old subscribers keep to permitted calls, and so does the new one. -/
theorem nests_entered {permits : Call → Prop} {t : Token} (hw : w.Nests permits)
    (hnested : ∀ c ∈ t.nested, permits c) (cam : Camera) : (cam.entered t w).Nests permits := by
  intro u hu c hc
  rcases List.mem_append.mp hu with hu | hu
  · exact hw u hu c hc
  · obtain rfl := List.mem_singleton.mp hu
    exact hnested c hc

/-- The call of a subscription whose token will have the next place. -/
def subscription (cam : Camera) (f : Feature) (w : World) : Call :=
  .feature cam.handle f.key (.subscribe w.tokens.length)

/-- Subscribing is issuing the token and making the call; if that fails, the token leaves again. -/
theorem subscribe_exec (cam : Camera) (label : String) (f : Feature) (reactions : List Reaction)
    (nested : Option Call) (w : World) :
    let w' := cam.entered (cam.newToken label f reactions nested) w
    let outcome := w'.call (cam.subscription f w)
    (outcome.1.status = Status.success ∧
      (cam.subscribe label f reactions nested).exec w = (.ok w.tokens.length, outcome.2)) ∨
    (outcome.1.status ≠ Status.success ∧ ∃ fault,
      (cam.subscribe label f reactions nested).exec w =
        (.error fault, outcome.2.modifyLive cam.session (·.erase w.tokens.length))) := by
  intro w' outcome
  have hsubscribe : (cam.subscribe label f reactions nested).exec w =
      (if outcome.1.status = Status.success then (pure w.tokens.length : Action Nat)
      else do
        Action.modify fun w₀ => w₀.modifyLive cam.session (·.erase w.tokens.length)
        throw (.device
          (Function.registerFeatureCallback.symbol ++ " for feature \"" ++ f.key ++ "\" failed.")
          outcome.1.status)).exec outcome.2 := rfl
  -- the token is live during the call, so that its first notification finds it
  by_cases hstatus : outcome.1.status = Status.success
  · rw [hsubscribe, if_pos hstatus]
    exact .inl ⟨hstatus, rfl⟩
  · rw [hsubscribe, if_neg hstatus]
    exact .inr ⟨hstatus, _, rfl⟩

theorem entered_turn (cam : Camera) (label : String) (f : Feature) (reactions : List Reaction)
    (nested : Option Call) (w : World) :
    Turn w (cam.entered (cam.newToken label f reactions nested) w) :=
  .enter (t := cam.newToken label f reactions nested) rfl rfl

theorem subscribe_turns (cam : Camera) (label : String) (f : Feature) (reactions : List Reaction)
    (nested : Option Call) (w : World) :
    Turns w ((cam.subscribe label f reactions nested).exec w).2 := by
  have hcall := (Relation.ReflTransGen.single
    (cam.entered_turn label f reactions nested w)).trans (call_turns _ (cam.subscription f w))
  rcases cam.subscribe_exec label f reactions nested w with ⟨-, hexec⟩ | ⟨-, fault, hexec⟩
  · rw [hexec]
    exact hcall
  · rw [hexec]
    exact hcall.tail (.leave _ _)

/-! ## Unsubscribing -/

/-- What giving a token back does is decided by what is known of the token. -/
theorem unsubscribe_eq (cam : Camera) (token : Nat) (w : World) :
    (cam.unsubscribe token).exec w =
      (match w.tokens[token]? with
        | none => pure ()
        | some t =>
          if t.session ≠ cam.session then throw (.protocol (.foreignToken t.feature))
          else if !w.isLive cam.session token then throw (.protocol (.staleToken t.feature))
          else do
            Action.modify fun w => w.modifyLive cam.session (·.erase token)
            let _ ← cam.request t.feature (.unsubscribe token) ""
            pure () : Action Unit).exec w := rfl

/-- Giving a token back does nothing unless the token is live in the camera's session; then the
    token leaves, and the call is made. -/
theorem unsubscribe_exec (cam : Camera) (token : Nat) (w : World) :
    (cam.unsubscribe token).exec w = (.ok (), w) ∧ w.tokens[token]? = none ∨
    (∃ t fault, w.tokens[token]? = some t ∧
      (t.session ≠ cam.session ∨ w.isLive cam.session token = false) ∧
      (cam.unsubscribe token).exec w = (.error fault, w)) ∨
    (∃ t, w.tokens[token]? = some t ∧ t.session = cam.session ∧
      w.isLive cam.session token = true ∧
      ((cam.unsubscribe token).exec w).2 =
        ((w.modifyLive cam.session (·.erase token)).call
          (.feature cam.handle t.feature.key (.unsubscribe token))).2) := by
  have hget := cam.unsubscribe_eq token w
  -- a token of another session, or one that is not live any more, is refused before the call
  cases ht : w.tokens[token]? with
  | none => exact .inl ⟨by rw [hget, ht]; rfl, rfl⟩
  | some t =>
    right
    simp only [ht] at hget
    by_cases hsession : t.session = cam.session
    · rw [if_neg (not_not_intro hsession)] at hget
      cases hlive : w.isLive cam.session token with
      | false =>
        rw [hlive] at hget
        exact .inl ⟨t, _, rfl, .inr rfl, hget⟩
      | true =>
        rw [hlive] at hget
        refine .inr ⟨t, rfl, hsession, rfl, ?_⟩
        have hleave : (cam.unsubscribe token).exec w =
            (cam.request t.feature (.unsubscribe token) "" >>= fun _ => pure ()).exec
              (w.modifyLive cam.session (·.erase token)) := hget
        rw [hleave, exec_bind_snd fun _ _ => rfl, request, exec_call]
    · rw [if_pos hsession] at hget
      exact .inl ⟨t, _, rfl, .inl hsession, hget⟩

theorem unsubscribe_turns (cam : Camera) (token : Nat) (w : World) :
    Turns w ((cam.unsubscribe token).exec w).2 := by
  rcases cam.unsubscribe_exec token w with
    ⟨hexec, -⟩ | ⟨t, fault, -, -, hexec⟩ | ⟨t, -, -, -, hexec⟩
  · rw [hexec]
  · rw [hexec]
  · rw [hexec]
    exact (Relation.ReflTransGen.single (.leave _ _)).trans (call_turns _ _)

end CameraControl.Camera
