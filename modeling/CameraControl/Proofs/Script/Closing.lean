import CameraControl.Proofs.Script.Holding
import CameraControl.Proofs.Script.Soundness

/-
  Cameras close their handles once.

  A script keeps an account of handles: every device that was opened for a camera is one call to
  close, made already or still due for a camera that has a name. `accounted_runSteps` says that
  nothing else enters the account but the calls that no camera makes. At the end of a script nothing
  is due any more, and if nothing else opens devices or lets calls fail, nothing is open.
-/

namespace CameraControl

open World

/-! ## Dealings -/

namespace World

variable {nests : Call → Prop} {allows : Scripting → Prop} {w w' : World}

theorem Dealing.ownClosings_eq (h : Dealing nests allows w w') :
    w'.ownClosings = w.ownClosings := by
  cases h with
  | call hc => rw [ownClosings_call, if_neg hc.2, Int.add_zero]
  | dispatch => exact ownClosings_dispatch _ _ _ _
  | @record e he =>
    refine ownClosings_note _ ?_
    cases e with
    | nested label c r => exact absurd rfl (he label c r)
    | _ => rfl
  | enter => rfl
  | leave => rfl
  | @script act => cases act <;> exact ownClosings_note _ rfl

/-- While all cameras stay, only subscribers close handles. -/
theorem Dealings.ownClosings_eq (h : Dealings nests allows w w') :
    w'.ownClosings = w.ownClosings := by
  induction h with
  | refl => rfl
  | tail _ h ih => exact h.ownClosings_eq.trans ih

end World

namespace Script

variable {s : State}

/-! ## The account of a script -/

/-- Whether a step is a call of its own to close a handle. -/
def Step.isClosing : Step → Bool
  | call c => c.function == .close
  | _ => false

/-- Whether a step opens devices for cameras. -/
def Step.opensCameras : Step → Bool
  | openCamera _ _ | deviceNames => true
  | _ => false

/-- How many devices were opened for cameras in a step, given all that happened in it. -/
def cameraOpenings (step : Step) (happenings : List Happening) : Nat :=
  if step.opensCameras then happenings.countP Happening.isOpening else 0

/-- How many calls to close a handle no camera has made in a step: the step itself may be one, and
    subscribers may make some. -/
def rawClosings (step : Step) (happenings : List Happening) : Nat :=
  (if step.isClosing then 1 else 0) + happenings.countP Happening.isNestedClosing

/-- What there is to count in the steps of a script, each with all that happens in it. -/
def tally (count : Step → List Happening → Nat) (s : State) : List Step → Nat
  | [] => 0
  | step :: rest =>
    let after := (runRecorded s step).2
    count step (after.world.happeningsSince s.world) + tally count after rest

/-- The calls to close a handle that were made, and those that cameras still have to make. -/
def State.accounted (s : State) : Nat := s.world.driver.callCount .close + s.handles.length

/-- The names of the cameras are different. -/
def State.Distinct (s : State) : Prop := (Entries.keys s.handles).Nodup

/-- After a step, the account has what was opened for cameras in it and what no camera closed. -/
structure Accounts (step : Step) (s s' : State) : Prop where
  distinct : s'.Distinct
  accounted_eq : s'.accounted = s.accounted +
    cameraOpenings step (s'.world.happeningsSince s.world) +
    rawClosings step (s'.world.happeningsSince s.world)

/-- The calls of subscribers add up by themselves, so it is enough to look at those of others. -/
theorem accounts_of_ownClosings {step : Step} {s' : State} (hturns : Turns s.world s'.world)
    (hdistinct : s'.Distinct)
    (hown : s'.world.ownClosings + s'.handles.length =
      s.world.ownClosings + s.handles.length +
        cameraOpenings step (s'.world.happeningsSince s.world) +
        if step.isClosing then 1 else 0) : Accounts step s s' := by
  refine ⟨hdistinct, ?_⟩
  have hnested := hturns.countP_history Happening.isNestedClosing
  unfold ownClosings nestedClosings at hown
  unfold State.accounted rawClosings
  by_cases hclosing : step.isClosing = true
  · rw [if_pos hclosing] at hown ⊢
    omega
  · rw [if_neg hclosing] at hown ⊢
    omega

/-- Where no devices are opened for cameras. -/
theorem accounts_of_not_opens {step : Step} {s' : State} (hturns : Turns s.world s'.world)
    (hdistinct : s'.Distinct) (hstep : step.opensCameras = false)
    (hown : s'.world.ownClosings + s'.handles.length =
      s.world.ownClosings + s.handles.length + if step.isClosing then 1 else 0) :
    Accounts step s s' := by
  refine accounts_of_ownClosings hturns hdistinct ?_
  rw [hown, cameraOpenings, hstep, if_neg Bool.false_ne_true]
  omega

/-- Where devices are opened for cameras, all that were opened count. -/
theorem accounts_of_opens {step : Step} {s' : State} (hturns : Turns s.world s'.world)
    (hdistinct : s'.Distinct) (hstep : step.opensCameras = true)
    (hown : s'.world.ownClosings - s'.world.openings + s'.handles.length =
      s.world.ownClosings - s.world.openings + s.handles.length) : Accounts step s s' := by
  have hopenings : s'.world.openings = s.world.openings +
      (s'.world.happeningsSince s.world).countP Happening.isOpening :=
    hturns.countP_history Happening.isOpening
  have hclosing : step.isClosing = false := by
    cases step with
    | call => cases hstep
    | _ => rfl
  refine accounts_of_ownClosings hturns hdistinct ?_
  rw [cameraOpenings, hstep, if_pos rfl, hclosing, if_neg Bool.false_ne_true]
  omega

/-! ## Steps -/

theorem State.Distinct.put (hs : s.Distinct) (name : String) (cam : Camera) (w : World) :
    State.Distinct { s with world := w, cameras := Entries.put s.cameras name cam } := by
  unfold Distinct
  rw [handles_put]
  exact Entries.nodup_keys_put _ hs

theorem State.Distinct.erase (hs : s.Distinct) (name : String) (w : World) :
    State.Distinct { s with world := w, cameras := Entries.erase s.cameras name } := by
  unfold Distinct
  rw [handles_erase]
  exact Entries.nodup_keys_erase hs name

/-- A camera that is closed or given up has its call to close a handle made, and none due. -/
theorem ending_accounts (hs : s.Distinct) {name : String} {cam : Camera} {step : CameraStep}
    (hcam : Entries.get? s.cameras name = some cam) (hstep : step = .close ∨ step = .drop) :
    Accounts (.camera name step) s ((runStep (.camera name step)).run s).2 := by
  have hturns := runStep_turns s (.camera name step)
  have hlength := Entries.length_erase_of_get? hs (State.get?_handles hcam)
  have hclosing : (Step.camera name step).isClosing = false := rfl
  rw [run_camera_step hcam, run_ending hstep] at hturns ⊢
  refine accounts_of_not_opens hturns (hs.erase _ _) rfl ?_
  dsimp only
  rw [handles_erase, Camera.ownClosings_drop, hclosing, if_neg Bool.false_ne_true]
  omega

/-- A camera that is opened has its call to close a handle due. If another one had its name before,
    that one's call is made. -/
theorem openCamera_accounts (hs : s.Distinct) (name : String) (index : Int32) :
    Accounts (.openCamera name index) s ((runStep (.openCamera name index)).run s).2 := by
  have hturns := runStep_turns s (.openCamera name index)
  have hown := Camera.ownClosings_afterOpening s.world index
  rcases run_openCamera name index s with
    ⟨hstatus, hrun⟩ | ⟨hstatus, hfree, hrun⟩ | ⟨hstatus, old, hold, hrun⟩
  · have hcall := ownClosings_call s.world (.open index)
    have hopen := openings_call_open s.world index
    rw [if_neg nofun, Int.add_zero] at hcall
    rw [if_neg hstatus, Nat.add_zero] at hopen
    rw [hrun] at hturns ⊢
    refine accounts_of_opens hturns hs rfl ?_
    dsimp only
    rw [hcall, hopen]
    rfl
  · have hopen := Camera.openings_afterOpening s.world hstatus
    have hfree' : Entries.get? s.handles name = none := by
      rw [State.handles, Entries.get?_mapValues, hfree, Option.map_none]
    rw [hrun] at hturns ⊢
    refine accounts_of_opens hturns (hs.put _ _ _) rfl ?_
    dsimp only
    rw [handles_put, Entries.length_put_of_get?_none _ hfree', hown, hopen]
    omega
  · have hopen := Camera.openings_afterOpening s.world hstatus
    rw [hrun] at hturns ⊢
    refine accounts_of_opens hturns (hs.put _ _ _) rfl ?_
    dsimp only
    rw [handles_put, Entries.length_put_of_get? _ (State.get?_handles hold),
      Camera.ownClosings_drop, Camera.openings_drop, hown, hopen]
    omega

/-- An enumeration has nothing due when it is over. -/
theorem deviceNames_accounts (hs : s.Distinct) :
    Accounts .deviceNames s ((runStep .deviceNames).run s).2 := by
  have hturns := runStep_turns s .deviceNames
  rw [run_deviceNames] at hturns ⊢
  refine accounts_of_opens hturns hs rfl ?_
  dsimp only
  rw [Action.deviceNames_settles s.world]
  rfl

theorem call_accounts (hs : s.Distinct) (c : Call) :
    Accounts (.call c) s ((runStep (.call c)).run s).2 := by
  have hturns := runStep_turns s (.call c)
  have hrun : ((runStep (.call c)).run s).2 = { s with world := (s.world.call c).2 } := rfl
  have hclosing : (Step.call c).isClosing = true ↔ c.function = .close := beq_iff_eq
  rw [hrun] at hturns ⊢
  refine accounts_of_not_opens hturns hs rfl ?_
  dsimp only
  rw [ownClosings_call, if_congr hclosing rfl rfl]
  exact Int.add_right_comm _ _ _

/-- A step with which all cameras stay has no call to close a handle but those of subscribers. -/
theorem stays_accounts (hs : s.Distinct) {step : Step} (hstay : step.Stays) :
    Accounts step s ((runStep step).run s).2 := by
  obtain ⟨hdealings, hhandles⟩ := runStep_stays hstay step.within_any s
  have hdistinct : ((runStep step).run s).2.Distinct := by
    unfold State.Distinct
    rwa [hhandles]
  have hnone : step.opensCameras = false ∧ step.isClosing = false := by
    cases step with
    | call | deviceNames | openCamera => exact hstay.elim
    | _ => exact ⟨rfl, rfl⟩
  refine accounts_of_not_opens (runStep_turns s step) hdistinct hnone.1 ?_
  rw [hdealings.ownClosings_eq, hhandles, hnone.2, if_neg Bool.false_ne_true, Int.add_zero]

/-- Every step keeps the account. -/
theorem runStep_accounts (hs : s.Distinct) (step : Step) :
    Accounts step s ((runStep step).run s).2 := by
  by_cases hstay : step.Stays
  · exact stays_accounts hs hstay
  · rcases Step.cases_of_not_stays hstay with
      ⟨c, rfl⟩ | rfl | ⟨name, index, rfl⟩ | ⟨name, last, rfl, hlast⟩
    · exact call_accounts hs c
    · exact deviceNames_accounts hs
    · exact openCamera_accounts hs name index
    · cases hcam : Entries.get? s.cameras name with
      | some cam => exact ending_accounts hs hcam hlast
      | none =>
        rw [run_camera_step_none hcam]
        exact accounts_of_not_opens .refl hs rfl (Int.add_zero _).symm

/-! ## Runs -/

theorem accounted_runSteps (hs : s.Distinct) (steps : List Step) :
    (runSteps s steps).2.Distinct ∧
      (runSteps s steps).2.accounted =
        s.accounted + tally cameraOpenings s steps + tally rawClosings s steps := by
  induction steps generalizing s with
  | nil => exact ⟨hs, rfl⟩
  | cons step rest ih =>
    obtain ⟨hdistinct, hstep⟩ := runStep_accounts hs step
    obtain ⟨hdistinct', hrest⟩ := ih hdistinct
    refine ⟨hdistinct', ?_⟩
    have hsteps : (runSteps s (step :: rest)).2 =
        (runSteps ((runStep step).run s).2 rest).2 := rfl
    have htally (count : Step → List Happening → Nat) : tally count s (step :: rest) =
        count step (((runStep step).run s).2.world.happeningsSince s.world) +
          tally count ((runStep step).run s).2 rest := rfl
    rw [hsteps, hrest, hstep, htally, htally]
    omega

/-- Giving cameras up one after another makes one call for each. -/
theorem callCount_drops (cameras : List (String × Camera)) (w : World) :
    (cameras.foldl (fun w p => (p.2.drop.exec w).2) w).driver.callCount .close =
      w.driver.callCount .close + cameras.length := by
  induction cameras generalizing w with
  | nil => rfl
  | cons p rest ih =>
    rw [List.foldl_cons, ih, Camera.driver_drop, Driver.callCount_step, if_pos (by rfl),
      List.length_cons]
    omega

/-- At the end the calls that are due are made. -/
theorem callCount_finish (s : State) : (finish s).driver.callCount .close = s.accounted := by
  unfold finish State.accounted State.handles Entries.mapValues
  rw [callCount_drops, List.length_mergeSort, List.length_map]

theorem finish_turns (s : State) : Turns s.world (finish s) := by
  have hdrops (cameras : List (String × Camera)) (w : World) :
      Turns w (cameras.foldl (fun w p => (p.2.drop.exec w).2) w) := by
    induction cameras generalizing w with
    | nil => exact .refl
    | cons p rest ih => exact (Camera.drop_turns p.2 w).trans (ih _)
  exact hdrops _ _

/-- Every camera closes its handle exactly once: at the end of a script, there were as many calls to
    close a handle as devices were opened for cameras, and as many more as were made by others than
    cameras. If a script opens devices by its cameras only and does not order calls to close a
    handle to fail, nothing is open at its end and nobody is subscribed. -/
theorem cameras_close_once (backend : Backend) (devices : List Device) (steps : List Step) :
    let s := start backend devices
    let d := (run backend devices steps).2
    d.callCount .close = tally cameraOpenings s steps + tally rawClosings s steps ∧
      ((∀ step ∈ steps, step.Within Call.OpensNothing Scripting.LetsClose) →
        d.openCount = 0 ∧ d.subscriptions = []) := by
  intro s d
  have hrun : d = (finish (runSteps s steps).2).driver := rfl
  have hcount : d.callCount .close = (runSteps s steps).2.accounted := callCount_finish _
  have hdistinct : s.Distinct := List.nodup_nil
  have hstart : s.accounted = 0 := rfl
  refine ⟨?_, fun hsteps => ?_⟩
  · rw [hcount, (accounted_runSteps hdistinct steps).2, hstart, Nat.zero_add]
  · have hheld := held_runSteps (held_start backend devices) hsteps
    have hopened : d.opened = [] := opened_finish hheld
    have hreplays : (finish (runSteps s steps).2).Replays (Driver.ofDevices devices) :=
      (finish_turns _).replays (runSteps_replays backend devices steps)
    have hcoherent : d.Coherent := by
      rw [hrun, hreplays]
      exact Driver.coherent_of_run devices _
    refine ⟨by rw [Driver.openCount, hopened]; rfl, ?_⟩
    -- a subscription would belong to an open handle
    refine List.eq_nil_iff_forall_not_mem.mpr fun subscription hmem => ?_
    have hopen := hcoherent.subscription_open subscription hmem
    rw [hopened] at hopen
    exact List.not_mem_nil hopen

/-- A subscriber closes the handle of its own camera, an enumeration stops at the first device, and
    a camera is still open at the end. -/
theorem cameras_close_once_nested :
    let devices := [Device.bare "A", Device.bare "B"]
    let steps : List Step :=
      [.openCamera "a" 0,
        .camera "a" (.subscribe "t" .cameraModel [.accept] (some (.close 100))),
        .fire (.camera "a") Feature.cameraModel.key,
        .fail Function.getString.symbol Status.outOfRange none,
        .deviceNames]
    let s := start .library devices
    let d := (run .library devices steps).2
    (∀ step ∈ steps, step.Within Call.OpensNothing Scripting.LetsClose) ∧
      tally cameraOpenings s steps = 2 ∧ tally rawClosings s steps = 1 ∧
      d.callCount .close = 3 ∧ d.openCount = 0 ∧ d.subscriptions = [] := by
  intro devices steps s d
  have hsteps : ∀ step ∈ steps, step.Within Call.OpensNothing Scripting.LetsClose := by
    decide +kernel
  obtain ⟨hcount, hclosed⟩ := cameras_close_once .library devices steps
  have hopenings : tally cameraOpenings s steps = 2 := by decide +kernel
  have hraw : tally rawClosings s steps = 1 := by decide +kernel
  exact ⟨hsteps, hopenings, hraw, by rw [hcount, hopenings, hraw], hclosed hsteps⟩

end Script

end CameraControl
