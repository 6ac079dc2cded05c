import CameraControl.Proofs.Camera.Sessions
import CameraControl.Script.Run

/-
  Parts of steps.

  For each part that steps are made of, this file says what running it comes to. Most steps with a
  camera are a single part, `runCamera_uses`: permitted calls, and an answer made of their outcome.
-/

namespace CameraControl.Script

/-! ## Looking things up -/

namespace Run

variable {α : Type}

theorem run_act (a : Action α) (s : State) :
    (act a).run s = ((a.exec s.world).1.mapError .fault, { s with world := (a.exec s.world).2 }) :=
  rfl

theorem run_camera (name : String) (s : State) :
    (camera name).run s =
      match Entries.get? s.cameras name with
      | some cam => (.ok cam, s)
      | none => (.error .noSuchCamera, s) := by
  unfold camera
  rw [run_bind]
  show (match Entries.get? s.cameras name with
    | some cam => (Pure.pure cam : Run Camera)
    | none => MonadExcept.throw Failure.noSuchCamera).run s = _
  split <;> rfl

theorem run_token (name : String) (s : State) :
    (token name).run s =
      match Entries.get? s.tokens name with
      | some id => (.ok id, s)
      | none => (.error .noSuchToken, s) := by
  unfold token
  rw [run_bind]
  show (match Entries.get? s.tokens name with
    | some id => (Pure.pure id : Run Nat)
    | none => MonadExcept.throw Failure.noSuchToken).run s = _
  split <;> rfl

theorem run_tokenAt (id : Nat) (s : State) :
    (tokenAt id).run s =
      match s.world.tokens[id]? with
      | some t => (.ok t, s)
      | none => (.error .noSuchToken, s) := by
  unfold tokenAt
  rw [run_bind]
  show (match s.world.tokens[id]? with
    | some t => (Pure.pure t : Run Token)
    | none => MonadExcept.throw Failure.noSuchToken).run s = _
  split <;> rfl

/-! ### Looking leaves everything as it is -/

theorem camera_keeps (name : String) (s : State) : ((camera name).run s).2 = s := by
  rw [run_camera]
  split <;> rfl

theorem token_keeps (name : String) (s : State) : ((token name).run s).2 = s := by
  rw [run_token]
  split <;> rfl

theorem tokenAt_keeps (id : Nat) (s : State) : ((tokenAt id).run s).2 = s := by
  rw [run_tokenAt]
  split <;> rfl

theorem handle_keeps (h : HandleRef) (s : State) : ((handle h).run s).2 = s := by
  cases h with
  | number h => rfl
  | camera name =>
    unfold handle
    rw [run_bind_snd fun _ _ => rfl, camera_keeps]

theorem verdictAnswer_keeps (v : Verdict) (s : State) : ((verdictAnswer v).run s).2 = s := by
  cases v <;> rfl

end Run

/-! ## Opening a camera -/

variable {s : State}

/-- Opening a camera under a name does nothing but its call if that fails; otherwise the camera gets
    the name, and one that had it before is given up. -/
theorem run_openCamera (name : String) (index : Int32) (s : State) :
    let after := ((runStep (.openCamera name index)).run s).2
    let cam := Camera.opening index s.world
    ((s.world.call (.open index)).1.status ≠ Status.success ∧
      after = { s with world := (s.world.call (.open index)).2 }) ∨
    ((s.world.call (.open index)).1.status = Status.success ∧
      Entries.get? s.cameras name = none ∧
      after =
        { s with
          world := Camera.afterOpening index s.world
          cameras := Entries.put s.cameras name cam }) ∨
    ((s.world.call (.open index)).1.status = Status.success ∧
      ∃ old, Entries.get? s.cameras name = some old ∧
        after =
          { s with
            world := (old.drop.exec (Camera.afterOpening index s.world)).2
            cameras := Entries.put s.cameras name cam }) := by
  unfold runStep
  rcases Camera.openDevice_exec index s.world with ⟨hstatus, hopen⟩ | ⟨hstatus, fault, hopen⟩
  · have hrun : (Run.act (Camera.openDevice index)).run s =
        (.ok (Camera.opening index s.world),
          { s with world := Camera.afterOpening index s.world }) := by
      rw [Run.run_act, hopen]
      rfl
    rw [run_bind, hrun]
    -- whether the name was taken decides whether a camera is given up
    have hget (s' : State) : (get : Run State).run s' = (.ok s', s') := rfl
    dsimp only
    rw [run_bind, hget]
    dsimp only
    cases hold : Entries.get? s.cameras name with
    | none => exact .inr (.inl ⟨hstatus, rfl, rfl⟩)
    | some old => exact .inr (.inr ⟨hstatus, old, rfl, rfl⟩)
  · have hrun : (Run.act (Camera.openDevice index)).run s =
        (.error (.fault fault), { s with world := (s.world.call (.open index)).2 }) := by
      rw [Run.run_act, hopen]
      rfl
    rw [run_bind, hrun]
    exact .inl ⟨hstatus, rfl⟩

theorem run_deviceNames (s : State) :
    ((runStep .deviceNames).run s).2 =
      { s with world := (Enumeration.deviceNames.exec s.world).2 } :=
  run_bind_snd (a := Run.act Enumeration.deviceNames) (fun _ _ => rfl) s

/-! ## Steps with a camera -/

theorem run_camera_step {name : String} {cam : Camera}
    (hcam : Entries.get? s.cameras name = some cam) (step : CameraStep) :
    (runStep (.camera name step)).run s = (runCamera name cam step).run s := by
  unfold runStep
  rw [run_bind, Run.run_camera, hcam]

/-- Without a camera of the name nothing is done. -/
theorem run_camera_step_none {name : String} (hcam : Entries.get? s.cameras name = none)
    (step : CameraStep) : ((runStep (.camera name step)).run s).2 = s := by
  unfold runStep
  rw [run_bind, Run.run_camera, hcam]

/-- Closing a camera and giving it up leave the same state. -/
theorem run_ending {step : CameraStep} (hstep : step = .close ∨ step = .drop) (name : String)
    (cam : Camera) (s : State) :
    ((runCamera name cam step).run s).2 =
      { s with
        world := (cam.drop.exec s.world).2
        cameras := Entries.erase s.cameras name } := by
  have hrun (a : Action Unit) :
      ((do Run.unbindCamera name; Run.act a; return .nothing : Run Answer).run s).2 =
        { s with
          world := (a.exec s.world).2
          cameras := Entries.erase s.cameras name } := by
    rw [run_bind]
    exact run_bind_snd (fun _ _ => rfl) _
  rcases hstep with rfl | rfl
  · rw [← cam.close_exec]
    exact hrun cam.close
  · exact hrun cam.drop

theorem run_unsubscribe {label : String} {id : Nat} (hid : Entries.get? s.tokens label = some id)
    (name : String) (cam : Camera) :
    ((runCamera name cam (.unsubscribe label)).run s).2 =
      { s with world := ((cam.unsubscribe id).exec s.world).2 } := by
  unfold runCamera
  rw [run_bind, Run.run_token, hid]
  exact run_bind_snd (a := Run.act (cam.unsubscribe id)) (fun _ _ => rfl) s

/-- A step with a camera deals with no session, no token and no lock. -/
def CameraStep.Plain : CameraStep → Prop
  | close | drop | subscribe _ _ _ _ | unsubscribe _ | hostLock _ => False
  /- Settings that are missing are a failure of the script. -/
  | apply none => False
  | _ => True

/-- A plain step with a camera is a use of permitted calls, with an answer made of its outcome. -/
theorem runCamera_uses {permits : Call → Prop} {cam : Camera}
    (hp : PlainCallsOn cam.handle permits) {step : CameraStep} (hstep : step.Plain) (name : String)
    (hwrite : ∀ f w, step = .write f w → (cam.write f w).Uses permits) :
    ∃ (α : Type) (a : Action α) (f : α → Answer),
      a.Uses permits ∧ runCamera name cam step = (do return f (← Run.act a)) := by
  cases step with
  | info => exact ⟨Unit, pure (), fun _ => .info cam, .pure (), rfl⟩
  | can f c => exact ⟨_, _, .bool, cam.can_uses hp f c, rfl⟩
  | read f r => exact ⟨_, _, readingAnswer r, cam.read_uses hp f r, rfl⟩
  | intRange f => exact ⟨_, _, fun p => .intRange p.1 p.2, cam.intRange_uses hp f, rfl⟩
  | floatRange f => exact ⟨_, _, fun p => .floatRange p.1 p.2, cam.floatRange_uses hp f, rfl⟩
  | write f w => exact ⟨_, _, fun _ => .nothing, hwrite f w rfl, rfl⟩
  | enumText f => exact ⟨_, _, .text, cam.enumText_uses hp f, rfl⟩
  | enumTexts f => exact ⟨_, _, .texts, cam.enumTexts_uses hp f, rfl⟩
  | enumTextAt f i => exact ⟨_, _, .text, cam.enumTextAt_uses hp f i, rfl⟩
  | isIndexAvailable f i => exact ⟨_, _, .bool, cam.isIndexAvailable_uses hp f i, rfl⟩
  | isIndexImplemented f i => exact ⟨_, _, .bool, cam.isIndexImplemented_uses hp f i, rfl⟩
  | command f => exact ⟨_, _, fun _ => .nothing, cam.command_uses hp f, rfl⟩
  | text f => exact ⟨_, _, .text, cam.text_uses hp f, rfl⟩
  | choice f => exact ⟨_, _, .choice f, cam.choice_uses hp f, rfl⟩
  | setChoice f c => exact ⟨_, _, fun _ => .nothing, cam.setChoice_uses hp c, rfl⟩
  | apply settings? =>
    cases settings? with
    | none => exact hstep.elim
    | some settings => exact ⟨_, _, fun _ => .nothing, cam.apply_uses hp settings, rfl⟩
  | settings => exact ⟨_, _, .settings, cam.settings_uses hp, rfl⟩
  | queue address length =>
    exact ⟨_, _, fun _ => .nothing, cam.queue_uses hp address length, rfl⟩
  | wait timeout =>
    exact ⟨_, _, fun address => .number address.toNat, cam.wait_uses hp timeout, rfl⟩
  | flush => exact ⟨_, _, fun _ => .nothing, cam.flush_uses hp, rfl⟩
  | close | drop | subscribe | unsubscribe | hostLock => exact hstep.elim

end CameraControl.Script
