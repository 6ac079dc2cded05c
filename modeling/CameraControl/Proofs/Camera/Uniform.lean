import CameraControl.Proofs.Camera.Sessions
import CameraControl.Proofs.World.Backend

/-
  Actions that do the same by every backend.

  An action is uniform if, in two worlds that differ in the backend only, it has the same outcome
  and leads to two such worlds again. Uniform actions in sequence are uniform, and so is every use
  of portable calls. That covers all that can be done with a camera: the keys of the registered
  features are portable, and a text that would end early is refused before the call.
-/

namespace CameraControl

/-- Plain calls hand over no texts but keys, which are portable. -/
theorem Call.plainCalls_portable : PlainCalls Call.Portable where
  request handle f r hr := by
    refine ⟨f.portable_key, ?_⟩
    cases r with
    | write w =>
      cases w with
      | enumText s => exact hr.elim
      | text s => exact hr.elim
      | _ => trivial
    | enumText => exact hr
    | text => exact hr
    | _ => trivial
  queue _ _ _ := trivial
  wait _ _ := trivial
  flush _ := trivial

namespace Action

variable {α β : Type}

/-- An action does the same by every backend. -/
def Uniform (a : Action α) : Prop :=
  ∀ (w : World) (b : Backend), a.exec (w.via b) = ((a.exec w).1, (a.exec w).2.via b)

theorem Uniform.pure (x : α) : (Pure.pure x : Action α).Uniform := fun _ _ => rfl

theorem Uniform.throw (fault : Fault) : (MonadExcept.throw fault : Action α).Uniform :=
  fun _ _ => rfl

theorem Uniform.bind {a : Action α} {f : α → Action β} (ha : a.Uniform)
    (hf : ∀ x, (f x).Uniform) : (a >>= f).Uniform := by
  intro w b
  rw [exec_bind, exec_bind, ha w b]
  rcases a.exec w with ⟨outcome, w'⟩
  cases outcome with
  | error fault => rfl
  | ok x => exact hf x w' b

theorem Uniform.modify {f : World → World} (hf : ∀ w b, f (w.via b) = (f w).via b) :
    (Action.modify f).Uniform := by
  intro w b
  rw [exec_modify, exec_modify, hf]

theorem Uniform.attempt {a : Action α} (ha : a.Uniform) : (attempt a).Uniform := by
  intro w b
  rw [exec_attempt, exec_attempt, ha w b]

theorem Uniform.tryCall {c : Call} (hc : c.Portable) : (tryCall c).Uniform := by
  intro w b
  rw [exec_tryCall, exec_tryCall, World.call_via w b hc]

theorem Uniform.withoutLock (cam : Camera) {a : Action α} (ha : a.Uniform) :
    (cam.withoutLock a).Uniform := by
  intro w b
  unfold Camera.withoutLock
  cases cam.hostLock with
  | none => exact ha w b
  | some lock =>
    show ((a.exec ((w.record (.released lock)).via b)).1,
      (a.exec ((w.record (.released lock)).via b)).2.record (.reacquired lock)) = _
    rw [ha (w.record (.released lock)) b]
    rfl

/-- Using portable calls does the same by every backend. -/
theorem Uses.uniform {a : Action α} (ha : a.Uses Call.Portable) : a.Uniform := by
  induction ha with
  | pure x => exact .pure x
  | throw fault => exact .throw fault
  | bind _ _ iha ihf => exact .bind iha ihf
  | attempt _ iha => exact .attempt iha
  | tryCall hc => exact .tryCall hc
  | withoutLock cam _ iha => exact .withoutLock cam iha

end Action

/-! ## Opening and closing -/

namespace Camera

open CameraControl.Action (Uniform)

theorem openDevice_uniform (index : Int32) : (openDevice index).Uniform :=
  .bind (Action.Uses.call trivial _).uniform fun _ _ _ => rfl

theorem endSession_uniform (cam : Camera) : cam.endSession.Uniform :=
  .modify fun _ _ => rfl

theorem drop_uniform (cam : Camera) : cam.drop.Uniform :=
  .bind (.tryCall trivial) fun _ => cam.endSession_uniform

theorem close_uniform (cam : Camera) : cam.close.Uniform := by
  refine .bind (.tryCall trivial) fun reply => .bind cam.endSession_uniform fun _ => ?_
  split
  · exact .pure _
  · exact .throw _

end Camera

namespace Enumeration

open CameraControl.Action (Uniform)

theorem modelName_uniform (index : Int32) : (modelName index).Uniform := by
  refine .bind (Camera.openDevice_uniform index) fun cam => ?_
  have htext : (cam.text .cameraModel).Uniform :=
    (cam.text_uses (Call.plainCalls_portable.on _) .cameraModel).uniform
  refine .bind (.attempt htext) fun outcome => ?_
  cases outcome with
  | ok name => exact .bind cam.close_uniform fun _ => .pure name
  | error fault => exact .bind cam.drop_uniform fun _ => .throw _

theorem modelNames_uniform (index n : Nat) : (modelNames index n).Uniform := by
  induction n generalizing index with
  | zero => exact .pure []
  | succ n ih =>
    exact .bind (modelName_uniform _) fun name => .bind (ih _) fun names => .pure (name :: names)

theorem deviceNames_uniform : deviceNames.Uniform :=
  .bind (deviceCount_uses Call.plainCalls_portable).uniform fun n => modelNames_uniform 0 n

end Enumeration

/-! ## Subscribing -/

namespace Camera

open CameraControl.Action (Uniform)

theorem subscribe_uniform (cam : Camera) (label : String) (f : Feature)
    (reactions : List Reaction) (nested : Option Call) :
    (cam.subscribe label f reactions nested).Uniform := by
  have hissue : Uniform (fun w =>
      (.ok w.tokens.length,
        w.issue ⟨label, cam.session, cam.handle, f, reactions, nested, false, 0⟩) :
      Action Nat) := fun _ _ => rfl
  -- the place of the token is the number of tokens so far, which the backend has no part in
  refine .bind hissue fun token => .bind (.modify fun _ _ => rfl) fun _ =>
    .bind (.tryCall ⟨f.portable_key, trivial⟩) fun reply => ?_
  split
  · exact .pure token
  · exact .bind (.modify fun _ _ => rfl) fun _ => .throw _

theorem unsubscribe_uniform (cam : Camera) (token : Nat) : (cam.unsubscribe token).Uniform := by
  -- what is done depends on what is known of the token, which the backend has no part in
  have hleave (f : Feature) : Uniform (do
      Action.modify fun w => w.modifyLive cam.session (·.erase token)
      let _ ← cam.request f (.unsubscribe token) ""
      pure ()) :=
    .bind (.modify fun _ _ => rfl) fun _ =>
      .bind (Action.Uses.call ⟨f.portable_key, trivial⟩ _).uniform fun _ => .pure ()
  intro w b
  rw [unsubscribe_eq, unsubscribe_eq, World.via_tokens]
  cases w.tokens[token]? with
  | none => rfl
  | some t =>
    dsimp only
    rw [World.via_isLive]
    split
    · rfl
    · split
      · rfl
      · exact hleave t.feature w b

end Camera

end CameraControl
