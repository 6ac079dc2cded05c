import CameraControl.Proofs.Camera.Locks
import CameraControl.Proofs.Script.ReadBack

/-
  Host locks in all runs.

  A step that waits for a frame with a camera that has a host lock gives the lock up, makes its one
  call and takes the lock back, in this order and whatever the driver replies. No other step does
  anything to a lock: `lockings_runStep` puts both in one equation. So between any two steps every
  lock was taken back as often as it was given up.
-/

namespace CameraControl

namespace World

/-- Events about locks are counted in the history or in the list of them. -/
theorem count_lockings (w : World) {e : Event} (he : e.isLocking = true) :
    w.history.count (.event e) = w.lockings.count e := by
  have hsame : (fun h : Happening => (h.event?.map (· == e)).getD false) = (· == .event e) := by
    funext h
    cases h with
    | event e' => rw [Bool.eq_iff_iff]; simp [Happening.event?]
    | _ => rfl
  rw [lockings, List.count_filter he]
  unfold List.count
  rw [List.countP_filterMap, hsame]

/-- Every lock was taken back as often as it was given up. -/
def LocksEven (w : World) : Prop :=
  ∀ lock, w.lockings.count (.released lock) = w.lockings.count (.reacquired lock)

end World

namespace Script

variable {s : State}

/-! ## Parts of steps -/

/-- A part of a step that does nothing to a host lock. -/
def Run.SparesLocks {α : Type} (r : Run α) : Prop :=
  ∀ s : State, (r.run s).2.world.lockings = s.world.lockings

namespace Run.SparesLocks

variable {α β : Type}

/-- A part that leaves the world alone, or only looks at the state. -/
theorem of_world {r : Run α} (h : ∀ s, (r.run s).2.world = s.world) : r.SparesLocks :=
  fun s => congrArg World.lockings (h s)

theorem pure (x : α) : (Pure.pure x : Run α).SparesLocks := of_world fun _ => rfl

theorem throw (e : Failure) : (MonadExcept.throw e : Run α).SparesLocks := of_world fun _ => rfl

theorem bind {r : Run α} {f : α → Run β} (hr : r.SparesLocks) (hf : ∀ x, (f x).SparesLocks) :
    (r >>= f).SparesLocks := by
  intro s
  exact run_bind_keeps (P := fun s' : State => s'.world.lockings = s.world.lockings) (hr s)
    fun x s' hfirst => (hf x s').trans hfirst

theorem act {a : Action α} (ha : a.SparesLocks) : (Run.act a).SparesLocks := fun s => ha s.world

theorem script (act : Scripting) : (Run.script act).SparesLocks :=
  .act fun _ => World.lockings_note fun _ h => by cases h

theorem driver : Run.driver.SparesLocks := of_world fun _ => rfl

theorem token (name : String) : (Run.token name).SparesLocks :=
  of_world fun s => congrArg State.world (token_keeps name s)

theorem tokenAt (id : Nat) : (Run.tokenAt id).SparesLocks :=
  of_world fun s => congrArg State.world (tokenAt_keeps id s)

theorem handle (h : HandleRef) : (Run.handle h).SparesLocks :=
  of_world fun s => congrArg State.world (handle_keeps h s)

theorem verdictAnswer (v : Verdict) : (Script.verdictAnswer v).SparesLocks :=
  of_world fun s => congrArg State.world (verdictAnswer_keeps v s)

theorem deliver (notices : List Notice) : (Run.deliver notices).SparesLocks :=
  fun s => s.world.lockings_deliverAll notices

end Run.SparesLocks

/-! ## Steps -/

open Run (SparesLocks)

/-- The lock that a step gives up for a while: that of its camera, if it waits for a frame. -/
def State.lent? (s : State) : Step → Option String
  | .camera name (.wait _) => (Entries.get? s.cameras name).bind Camera.hostLock
  | _ => none

theorem runCamera_sparesLocks (name : String) (cam : Camera) {step : CameraStep}
    (hstep : ∀ timeout, step = .wait timeout → cam.hostLock = none) :
    (runCamera name cam step).SparesLocks := by
  have hread (hreads : step.Reads) : (runCamera name cam step).SparesLocks := by
    obtain ⟨α, a, f, ha, hrun⟩ := runCamera_glances name cam hreads
    rw [hrun]
    exact .bind (.act ha.sparesLocks) fun x => .pure (f x)
  cases step with
  | close =>
    exact .bind (.of_world fun _ => rfl) fun _ =>
      .bind (.act cam.close_sparesLocks) fun _ => .pure _
  | drop =>
    exact .bind (.of_world fun _ => rfl) fun _ =>
      .bind (.act cam.drop_sparesLocks) fun _ => .pure _
  | write f v => exact .bind (.act (cam.write_sparesLocks f v)) fun _ => .pure _
  | command f => exact .bind (.act (cam.command_sparesLocks f)) fun _ => .pure _
  | setChoice f c => exact .bind (.act (cam.setChoice_sparesLocks c)) fun _ => .pure _
  | apply settings? =>
    cases settings? with
    | none => exact .throw _
    | some settings => exact .bind (.act (cam.apply_sparesLocks settings)) fun _ => .pure _
  | subscribe label f reactions nested =>
    exact .bind (.act (cam.subscribe_sparesLocks label f reactions nested)) fun id =>
      .bind (.of_world fun _ => rfl) fun _ => .bind (.tokenAt id) fun _ => .pure _
  | unsubscribe label =>
    exact .bind (.token label) fun id =>
      .bind (.act (cam.unsubscribe_sparesLocks id)) fun _ => .pure _
  | hostLock lock => exact .bind (.of_world fun _ => rfl) fun _ => .pure _
  | queue address length =>
    exact .bind (.act (cam.queue_sparesLocks address length)) fun _ => .pure _
  | wait timeout =>
    exact .bind (.act (Camera.wait_sparesLocks (hstep timeout rfl) timeout)) fun _ => .pure _
  | flush => exact .bind (.act cam.flush_sparesLocks) fun _ => .pure _
  | _ => exact hread trivial

theorem openCamera_sparesLocks (name : String) (index : Int32) :
    (runStep (.openCamera name index)).SparesLocks := by
  intro s
  rcases run_openCamera name index s with
    ⟨-, hrun⟩ | ⟨-, -, hrun⟩ | ⟨-, old, -, hrun⟩
  · rw [hrun]
    exact s.world.lockings_call _
  · rw [hrun]
    exact Camera.lockings_afterOpening index s.world
  · rw [hrun]
    exact (old.drop_sparesLocks _).trans (Camera.lockings_afterOpening index s.world)

/-- A step that lends no lock does nothing to any. -/
theorem runStep_sparesLocks {step : Step} (hstep : s.lent? step = none) :
    ((runStep step).run s).2.world.lockings = s.world.lockings := by
  have hscript (act : Scripting) :
      (do Run.script act; return .nothing : Run Answer).SparesLocks :=
    .bind (.script act) fun _ => .pure _
  have hlook (f : Driver → Answer) : (do return f (← Run.driver) : Run Answer).SparesLocks :=
    .bind .driver fun d => .pure (f d)
  cases step with
  | setDeviceCount n => exact hscript _ s
  | putKey device key c => exact hscript _ s
  | putReadOnly device f c => exact hscript _ s
  | remove device f => exact hscript _ s
  | content device f => exact hlook _ s
  | fail symbol code feature? =>
    simp only [runStep]
    cases Function.ofSymbol? symbol with
    | none => rfl
    | some f =>
      cases feature? with
      | none => exact hscript _ s
      | some feature => exact hscript _ s
  | failOpen index code => exact hscript _ s
  | clearFailures => exact hscript _ s
  | openHandles => exact hlook _ s
  | registeredCallbacks => exact hlook _ s
  | queuedBuffers h =>
    exact SparesLocks.bind (.handle h) (fun _ => .bind .driver fun _ => .pure _) s
  | zeroSizeWaits n => exact hscript _ s
  | callCount symbol =>
    simp only [runStep]
    cases Function.ofSymbol? symbol with
    | none => rfl
    | some f => exact hlook _ s
  | fire h key =>
    exact SparesLocks.bind (.handle h) (fun _ => .bind .driver fun _ => .deliver _) s
  | fireAs h key asHandle asKey =>
    exact SparesLocks.bind (.handle h) (fun _ => .bind (.handle asHandle) fun _ =>
      .bind .driver fun _ => .deliver _) s
  | call c =>
    exact SparesLocks.bind (.act (.tryCall c)) (fun _ => .pure _) s
  | deviceNames =>
    exact SparesLocks.bind (.act Camera.deviceNames_sparesLocks) (fun _ => .pure _) s
  | openCamera name index => exact openCamera_sparesLocks name index s
  | camera name step =>
    cases hcam : Entries.get? s.cameras name with
    | none => rw [run_camera_step_none hcam]
    | some cam =>
      rw [run_camera_step hcam]
      refine runCamera_sparesLocks name cam (fun timeout hwait => ?_) s
      subst hwait
      rwa [State.lent?, hcam] at hstep
  | token name =>
    exact SparesLocks.bind (.token name) (fun id => .bind (.tokenAt id) fun _ => .pure _) s
  | dispatch name h key =>
    simp only [runStep]
    refine SparesLocks.bind (.token name) (fun id => .bind (.handle h) fun h s => ?_) s
    show ((verdictAnswer (s.world.dispatch id h key).1).run
      { s with world := (s.world.dispatch id h key).2 }).2.world.lockings = _
    rw [SparesLocks.verdictAnswer]
    exact s.world.lockings_dispatch id h key

/-- A step that waits is the wait of its camera, and nothing else of the script changes. -/
theorem run_wait {name : String} {cam : Camera} (hcam : Entries.get? s.cameras name = some cam)
    (timeout : Timeout) :
    let c := Call.wait cam.handle timeout.asMillis
    (runStep (.camera name (.wait timeout))).run s =
      (((Camera.waited timeout (s.world.driver.step c).reply).map
          fun address => Answer.number address.toNat).mapError .fault,
        { s with world := cam.lending c s.world }) := by
  intro c
  have hact : (Run.act (cam.wait timeout)).run s =
      ((Camera.waited timeout (s.world.driver.step c).reply).mapError .fault,
        { s with world := cam.lending c s.world }) := by
    rw [Run.run_act, cam.wait_eq]
  rw [run_camera_step hcam]
  unfold runCamera
  rw [run_bind, hact]
  cases Camera.waited timeout (s.world.driver.step c).reply <;> rfl

/-- What a step does to locks, the latest first. -/
def State.lockings (s : State) (step : Step) : List Event :=
  match s.lent? step with
  | some lock => [.reacquired lock, .released lock]
  | none => []

theorem lockings_runStep (s : State) (step : Step) :
    ((runStep step).run s).2.world.lockings = s.lockings step ++ s.world.lockings := by
  unfold State.lockings
  cases hlent : s.lent? step with
  | none => exact runStep_sparesLocks hlent
  | some lock =>
    unfold State.lent? at hlent
    split at hlent
    · next name timeout =>
      obtain ⟨cam, hcam, hlock⟩ := Option.bind_eq_some_iff.mp hlent
      rw [run_wait hcam, Camera.lending, hlock]
      show (World.record _ (.reacquired lock)).lockings = _
      rw [World.lockings_record _ rfl, World.lockings_take, World.lockings_record _ rfl]
      rfl
    · cases hlent

/-! ## Runs -/

theorem locksEven_runStep (hs : s.world.LocksEven) (step : Step) :
    ((runStep step).run s).2.world.LocksEven := by
  intro lock
  rw [lockings_runStep, List.count_append, List.count_append, hs lock, State.lockings]
  split
  -- one of each, for the same lock
  · next lock' _ => simp [List.count_cons]
  · rfl

theorem locksEven_runSteps (hs : s.world.LocksEven) (steps : List Step) :
    (runSteps s steps).2.world.LocksEven := by
  induction steps generalizing s with
  | nil => exact hs
  | cons step rest ih => exact ih (locksEven_runStep hs step)

/-- At any point of any script: a step that waits for a frame with a camera that has a host lock
    gives the lock up, makes its one call and takes the lock back, and its outcome is what the reply
    comes to, whatever it is. No other step does anything to a lock, and every lock was taken back
    as often as it was given up. -/
theorem locks_bracketed (backend : Backend) (devices : List Device) (steps : List Step) :
    let s := (runSteps (start backend devices) steps).2
    (∀ name cam lock, Entries.get? s.cameras name = some cam → cam.hostLock = some lock →
      ∀ timeout,
        let step := Step.camera name (.wait timeout)
        let c := Call.wait cam.handle timeout.asMillis
        let reply := (s.world.driver.step c).reply
        ((runStep step).run s).2.world.happeningsSince s.world =
            [.event (.released lock), .called c reply, .event (.reacquired lock)] ∧
          (runRecorded s step).1 =
            ⟨((Camera.waited timeout reply).map fun address =>
                Answer.number address.toNat).mapError .fault,
              [.released lock, .reacquired lock]⟩) ∧
    (∀ step, s.lent? step = none → ∀ e ∈ (runRecorded s step).1.events, e.isLocking = false) ∧
    ∀ lock, s.world.history.count (.event (.released lock)) =
      s.world.history.count (.event (.reacquired lock)) := by
  intro s
  refine ⟨fun name cam lock hcam hlock timeout => ?_, fun step hstep => ?_, fun lock => ?_⟩
  · intro step c reply
    -- the three happenings of the step, the latest first
    have hhistory : ((runStep step).run s).2.world.history =
        [.event (.reacquired lock), .called c reply, .event (.released lock)] ++
          s.world.history := by
      rw [run_wait hcam, Camera.lending, hlock]
      rfl
    refine ⟨World.happeningsSince_eq hhistory, ?_⟩
    show StepResult.mk ((runStep step).run s).1
      (((runStep step).run s).2.world.eventsSince s.world) = _
    rw [World.eventsSince_of_append hhistory, run_wait hcam]
    rfl
  · exact (runStep_turns s step).spares_locks (runStep_sparesLocks hstep)
  · have heven : s.world.LocksEven := locksEven_runSteps (fun _ => rfl) steps
    rw [World.count_lockings _ rfl, World.count_lockings _ rfl]
    exact heven lock

/-- A camera with a host lock waits for a frame that there is not. The wait that a subscriber makes
    when the width is written is of the other camera, and no lock is noted for it. -/
theorem locks_bracketed_nested :
    let device := (Device.bare "A").put .aoiWidth (.int 4 1 8)
    let devices := [device, device]
    let steps := [Step.openCamera "c" 0, .openCamera "d" 1, .camera "c" (.hostLock "l"),
      .camera "d" (.hostLock "m"),
      .camera "c" (.subscribe "t" .aoiWidth [.accept] (some (.wait 101 0)))]
    let s := (runSteps (start .direct devices) steps).2
    let cam : Camera := ⟨0, 0, 100, some "l"⟩
    let write := Step.camera "c" (.write .aoiWidth (.int 5))
    let wait := Step.camera "c" (.wait .infinite)
    Entries.get? s.cameras "c" = some cam ∧ s.lent? write = none ∧
      (runRecorded s write).1.events.length = 2 ∧
      (∀ e ∈ (runRecorded s write).1.events, e.isLocking = false) ∧
      (s.world.driver.step (.wait 100 Timeout.infinite.asMillis)).reply.status =
        Status.timedOut ∧
      (runRecorded s wait).1.events = [.released "l", .reacquired "l"] := by
  intro device devices steps s cam write wait
  have hs : s = (runSteps (start .direct devices) steps).2 := rfl
  clear_value s
  have hcam : Entries.get? s.cameras "c" = some cam := by rw [hs]; decide +kernel
  have hnested : (runRecorded s write).1.events.length = 2 := by rw [hs]; decide +kernel
  have hstatus : (s.world.driver.step (.wait 100 Timeout.infinite.asMillis)).reply.status =
      Status.timedOut := by
    rw [hs]
    decide +kernel
  have hall := locks_bracketed .direct devices steps
  rw [← hs] at hall
  obtain ⟨hwaits, hothers, -⟩ := hall
  have hwait := (hwaits "c" cam "l" hcam rfl .infinite).2
  exact ⟨hcam, rfl, hnested, hothers write rfl, hstatus, congrArg StepResult.events hwait⟩

end Script

end CameraControl
