import CameraControl.Proofs.Camera.Uniform
import CameraControl.Proofs.Script.Parts

/-
  Scripts by either backend.

  A script whose texts are portable has the same results by way of the library as without it, step
  by step, and leaves the same driver. Every part of a step is uniform, as the actions are: run on
  two states that differ in the backend only, it has the same outcome and leaves two such states. A
  buffer of the script's own is portable if its length can be told in 32 bits; those of cameras are.

  The calls that subscribers make need no condition of this kind. They are made on the driver
  directly, by either backend, so whatever texts they have arrive as they are; that they are the
  same by both is part of `World.dispatchWithin_via`.
-/

namespace CameraControl.Script

/-! ## Portable scripts -/

/-- The texts that a camera hands over are within the limit; those that would end early never get
    to the driver. -/
def CameraStep.Portable : CameraStep → Prop
  | write _ w => ∀ s ∈ Camera.writtenText? w, s.length ≤ Text.Wide.scanLimit
  | _ => True

/-- The texts and buffers that a step hands over arrive as they were sent. Acts of scripting and
    subscribers do not use the backend. -/
def Step.Portable : Step → Prop
  | call c => c.Portable
  | camera _ step => step.Portable
  | _ => True

/-- The state with its calls going another way. -/
def State.via (s : State) (b : Backend) : State := { s with world := s.world.via b }

/-- A part of a step does the same by every backend. -/
def Run.Uniform {α : Type} (r : Run α) : Prop :=
  ∀ (s : State) (b : Backend), r.run (s.via b) = ((r.run s).1, (r.run s).2.via b)

namespace Run

variable {α β : Type}

/-! ## Parts of steps -/

theorem Uniform.pure (x : α) : Uniform (pure x : Run α) := fun _ _ => rfl

theorem Uniform.throw (e : Failure) : Uniform (throw e : Run α) := fun _ _ => rfl

theorem Uniform.bind {r : Run α} {f : α → Run β} (hr : Uniform r) (hf : ∀ x, Uniform (f x)) :
    Uniform (r >>= f) := by
  intro s b
  rw [run_bind, run_bind, hr s b]
  rcases r.run s with ⟨outcome, s'⟩
  cases outcome with
  | error e => rfl
  | ok x => exact hf x s' b

/-- What is done with the state does not depend on its backend. -/
theorem Uniform.get {f : State → Run α} (hf : ∀ s, Uniform (f s))
    (hsame : ∀ s b, f (State.via s b) = f s) : Uniform (get >>= f) := by
  intro s b
  show (f (s.via b)).run (s.via b) = _
  rw [hsame]
  exact hf s s b

theorem Uniform.modify {f : State → State} (hf : ∀ s b, f (State.via s b) = (f s).via b) :
    Uniform (modify f : Run Unit) := by
  intro s b
  show (Except.ok (), f (s.via b)) = _
  rw [hf]
  rfl

theorem Uniform.act {a : Action α} (ha : a.Uniform) : Uniform (act a) := by
  intro s b
  show ((a.exec (s.world.via b)).1.mapError Failure.fault,
    { s with world := (a.exec (s.world.via b)).2 }) = _
  rw [ha s.world b]
  rfl

theorem Uniform.script (act : Scripting) : Uniform (Run.script act) :=
  .act (.modify fun _ _ => rfl)

theorem Uniform.driver : Uniform driver := fun _ _ => rfl

theorem Uniform.camera (name : String) : Uniform (Run.camera name) := by
  refine .get (fun s => ?_) fun _ _ => rfl
  split
  · exact .pure _
  · exact .throw _

theorem Uniform.token (name : String) : Uniform (Run.token name) := by
  refine .get (fun s => ?_) fun _ _ => rfl
  split
  · exact .pure _
  · exact .throw _

theorem Uniform.tokenAt (id : Nat) : Uniform (Run.tokenAt id) := by
  refine .get (fun s => ?_) fun _ _ => rfl
  split
  · exact .pure _
  · exact .throw _

theorem Uniform.handle (h : HandleRef) : Uniform (Run.handle h) := by
  cases h with
  | number h => exact .pure h
  | camera name => exact .bind (.camera name) fun cam => .pure cam.handle

theorem Uniform.bindCamera (name : String) (cam : Camera) : Uniform (Run.bindCamera name cam) :=
  .modify fun _ _ => rfl

theorem Uniform.unbindCamera (name : String) : Uniform (Run.unbindCamera name) :=
  .modify fun _ _ => rfl

theorem Uniform.deliver (notices : List Notice) : Uniform (Run.deliver notices) := by
  intro s b
  show (Except.ok (Answer.statuses ((s.world.via b).deliverAll notices).1),
    { s with world := ((s.world.via b).deliverAll notices).2 }) = _
  rw [World.deliverAll_via]
  rfl

theorem Uniform.verdictAnswer (v : Verdict) : Uniform (Script.verdictAnswer v) := by
  cases v with
  | answered success => exact .pure _
  | refused breach => exact .throw _
  | panicked => exact .throw _

end Run

/-! ## Steps -/

open Run (Uniform)

theorem runCamera_uniform {step : CameraStep} (hstep : step.Portable) (name : String)
    (cam : Camera) : Uniform (runCamera name cam step) := by
  have hplain (hplain : step.Plain) : Uniform (runCamera name cam step) := by
    obtain ⟨α, a, f, ha, hrun⟩ := runCamera_uses (Call.plainCalls_portable.on _) hplain name
      (fun f w h => cam.write_uses f w fun hnul => by
        subst h
        -- the length is given, and a text that would end early was refused before
        refine ⟨f.portable_key, ?_⟩
        cases w with
        | enumText t => exact ⟨hnul t rfl, hstep t rfl⟩
        | text t => exact ⟨hnul t rfl, hstep t rfl⟩
        | _ => trivial)
    rw [hrun]
    exact .bind (.act ha.uniform) fun x => .pure (f x)
  cases step with
  | close =>
    exact .bind (.unbindCamera name) fun _ => .bind (.act cam.close_uniform) fun _ => .pure _
  | drop =>
    exact .bind (.unbindCamera name) fun _ => .bind (.act cam.drop_uniform) fun _ => .pure _
  | subscribe label f reactions nested =>
    exact .bind (.act (cam.subscribe_uniform label f reactions nested)) fun id =>
      .bind (.modify fun _ _ => rfl) fun _ => .bind (.tokenAt id) fun t => .pure _
  | unsubscribe label =>
    exact .bind (.token label) fun id => .bind (.act (cam.unsubscribe_uniform id)) fun _ => .pure _
  | hostLock lock => exact .bind (.bindCamera name _) fun _ => .pure _
  | apply settings? =>
    cases settings? with
    | none => exact .throw _
    | some settings => exact hplain trivial
  | _ => exact hplain trivial

theorem openCamera_uniform (name : String) (index : Int32) :
    Uniform (runStep (.openCamera name index)) := by
  refine .bind (.act (Camera.openDevice_uniform index)) fun cam => .get (fun s => ?_) fun _ _ => rfl
  refine .bind (.bindCamera name cam) fun _ => ?_
  -- the camera that had the name before is given up
  cases Entries.get? s.cameras name with
  | none => exact .pure _
  | some old => exact .bind (.act old.drop_uniform) fun _ => .pure _

/-- Every step with portable texts does the same by every backend. -/
theorem runStep_uniform {step : Step} (hstep : step.Portable) : Uniform (runStep step) := by
  have hscript (act : Scripting) :
      Uniform (do Run.script act; return .nothing : Run Answer) :=
    .bind (.script act) fun _ => .pure _
  have hlook (f : Driver → Answer) : Uniform (do return f (← Run.driver)) :=
    .bind .driver fun d => .pure (f d)
  cases step with
  | setDeviceCount n => exact hscript _
  | putKey device key c => exact hscript _
  | putReadOnly device f c => exact hscript _
  | remove device f => exact hscript _
  | content device f => exact hlook _
  | fail symbol code feature? =>
    simp only [runStep]
    cases Function.ofSymbol? symbol with
    | none => exact .pure _
    | some f =>
      cases feature? with
      | none => exact hscript _
      | some feature => exact hscript _
  | failOpen index code => exact hscript _
  | clearFailures => exact hscript _
  | openHandles => exact hlook _
  | registeredCallbacks => exact hlook _
  | queuedBuffers h => exact .bind (.handle h) fun _ => .bind .driver fun _ => .pure _
  | zeroSizeWaits n => exact hscript _
  | callCount symbol =>
    simp only [runStep]
    cases Function.ofSymbol? symbol with
    | none => exact .pure _
    | some f => exact hlook _
  | fire h key => exact .bind (.handle h) fun _ => .bind .driver fun _ => .deliver _
  | fireAs h key asHandle asKey =>
    exact .bind (.handle h) fun _ => .bind (.handle asHandle) fun _ => .bind .driver fun _ =>
      .deliver _
  | call c => exact .bind (.act (.tryCall hstep)) fun _ => .pure _
  | deviceNames => exact .bind (.act Enumeration.deviceNames_uniform) fun _ => .pure _
  | openCamera name index => exact openCamera_uniform name index
  | camera name step =>
    exact .bind (.camera name) fun cam => runCamera_uniform hstep name cam
  | token name => exact .bind (.token name) fun id => .bind (.tokenAt id) fun _ => .pure _
  | dispatch name h key =>
    simp only [runStep]
    refine .bind (.token name) fun id => .bind (.handle h) fun h => ?_
    -- what is read of the state here has the backend in it, so the two runs are set side by side
    intro s b
    have hdispatch : (s.via b).world.dispatch id h key =
        ((s.world.dispatch id h key).1, (s.world.dispatch id h key).2.via b) :=
      World.dispatch_via s.world b id h key
    show (verdictAnswer ((s.via b).world.dispatch id h key).1).run
      { s.via b with world := ((s.via b).world.dispatch id h key).2 } = _
    rw [hdispatch]
    exact Uniform.verdictAnswer _ { s with world := (s.world.dispatch id h key).2 } b

/-! ## Runs -/

theorem runRecorded_via {step : Step} (hstep : step.Portable) (s : State) (b : Backend) :
    runRecorded (s.via b) step = ((runRecorded s step).1, (runRecorded s step).2.via b) := by
  unfold runRecorded
  rw [runStep_uniform hstep s b]
  rfl

theorem runSteps_via {steps : List Step} (hsteps : ∀ step ∈ steps, step.Portable) (s : State)
    (b : Backend) :
    runSteps (s.via b) steps = ((runSteps s steps).1, (runSteps s steps).2.via b) := by
  induction steps generalizing s with
  | nil => rfl
  | cons step rest ih =>
    -- each step leaves two states that differ in the backend only, where the others go on
    have hrest : ∀ step' ∈ rest, step'.Portable :=
      fun step' h => hsteps step' (List.mem_cons_of_mem _ h)
    simp only [runSteps, runRecorded_via (hsteps step List.mem_cons_self), ih hrest]

theorem finish_via (s : State) (b : Backend) : finish (s.via b) = (finish s).via b := by
  have hfold (cameras : List (String × Camera)) (w : World) :
      cameras.foldl (fun w p => (p.2.drop.exec w).2) (w.via b) =
        (cameras.foldl (fun w p => (p.2.drop.exec w).2) w).via b := by
    induction cameras generalizing w with
    | nil => rfl
    | cons p rest ih =>
      rw [List.foldl_cons, List.foldl_cons, Camera.drop_uniform p.2 w b, ih]
  exact hfold _ s.world

/-- A script whose texts are portable has the same results and events by way of the library as
    without it, step by step, and in the end leaves the driver in the same state: its devices, open
    handles, subscriptions, queues and log. -/
theorem run_library_eq_direct (devices : List Device) {steps : List Step}
    (hsteps : ∀ step ∈ steps, step.Portable) :
    run .library devices steps = run .direct devices steps := by
  -- the two runs start in states that differ in the backend only
  have hstart : start .library devices = (start .direct devices).via .library := rfl
  unfold run
  rw [hstart, runSteps_via hsteps]
  show (_, (finish ((runSteps (start .direct devices) steps).2.via .library)).driver) = _
  rw [finish_via]
  rfl

/-- A subscriber makes a call of its own, a key has blanks in it, and a text would end early. -/
theorem run_library_eq_direct_session :
    let devices := [(Device.bare "A").put .cameraName (.text "front")]
    let steps : List Step :=
      [.openCamera "a" 0,
       .camera "a" (.subscribe "t" .cameraName [.accept] (some (.feature 100 "Width" .command))),
       .call (.feature 100 "Camera Name" (.write (.text "left"))),
       .camera "a" (.write .cameraName (.text "le\x00ft"))]
    (∀ step ∈ steps, step.Portable) ∧
      run .library devices steps = run .direct devices steps := by
  intro devices steps
  have hsteps : ∀ step ∈ steps, step.Portable := by
    intro step h
    simp only [steps, List.mem_cons, List.not_mem_nil, or_false] at h
    rcases h with rfl | rfl | rfl | rfl
    · trivial
    · trivial
    · show Call.Portable (.feature 100 "Camera Name" (.write (.text "left")))
      decide
    · show ∀ s ∈ some "le\x00ft", s.length ≤ Text.Wide.scanLimit
      decide
  exact ⟨hsteps, run_library_eq_direct _ hsteps⟩

end CameraControl.Script
