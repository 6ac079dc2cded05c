import CameraControl.Proofs.Driver.Closing
import CameraControl.Proofs.Script.Dealing

/-
  Open handles belong to cameras.

  In a script that opens devices by its cameras only, and in which calls to close a handle are not
  ordered to fail, every open handle is that of a camera with a name, or of one that is about to be
  closed. When all cameras were given up at the end, no handle is open.
-/

namespace CameraControl

/-- A call that opens no device. -/
def Call.OpensNothing (c : Call) : Prop := c.function ≠ .open

instance : DecidablePred Call.OpensNothing :=
  fun c => inferInstanceAs (Decidable (c.function ≠ .open))

namespace World

variable {w w' w'' : World}

/-- Subscribers open no devices, and nothing stands in the way of closing handles. -/
structure Ready (w : World) : Prop where
  nests : w.Nests Call.OpensNothing
  letsClose : w.driver.LetsClose

/-- A ready world stays ready, and no new handle is open. -/
def Tidy (w w' : World) : Prop :=
  w.Ready → w'.Ready ∧
    ∀ handle ∈ Entries.keys w'.driver.opened, handle ∈ Entries.keys w.driver.opened

theorem Tidy.refl (w : World) : w.Tidy w := fun hw => ⟨hw, fun _ h => h⟩

theorem Tidy.trans (h : w.Tidy w') (h' : w'.Tidy w'') : w.Tidy w'' := by
  intro hw
  obtain ⟨hw', hopened⟩ := h hw
  obtain ⟨hw'', hopened'⟩ := h' hw'
  exact ⟨hw'', fun handle hh => hopened handle (hopened' handle hh)⟩

/-! ## Calls and notifications -/

theorem Changes.narrows (h : Changes Call.OpensNothing w w') : w.driver.Narrows w'.driver := by
  induction h with
  | refl => exact .refl _
  | tail _ h ih =>
    cases h with
    | take hc => exact ih.trans (Driver.narrows_step _ hc)
    | _ => exact ih

theorem tidy_of_changes (h : w.Nests Call.OpensNothing → Changes Call.OpensNothing w w') :
    w.Tidy w' := by
  intro hw
  have hchanges := h hw.nests
  exact ⟨⟨hchanges.nests hw.nests, hchanges.narrows.letsClose hw.letsClose⟩,
    hchanges.narrows.opened⟩

theorem tidy_call (w : World) {c : Call} (hc : c.OpensNothing) : w.Tidy (w.call c).2 := by
  refine tidy_of_changes (call_changes fun c' hpass => ?_)
  unfold Call.OpensNothing
  rwa [Call.function_of_pass? hpass]

theorem Dealing.tidy (h : Dealing Call.OpensNothing Scripting.LetsClose w w') : w.Tidy w' := by
  cases h with
  | call hc => exact tidy_call w hc.1
  | dispatch => exact tidy_of_changes (dispatch_changes _ _ _)
  | record => exact fun hw => ⟨⟨hw.nests, hw.letsClose⟩, fun _ hh => hh⟩
  | enter hnested =>
    refine fun hw => ⟨⟨fun t ht c hc => ?_, hw.letsClose⟩, fun _ hh => hh⟩
    rcases List.mem_append.mp ht with ht | ht
    · exact hw.nests t ht c hc
    · obtain rfl := List.mem_singleton.mp ht
      exact hnested c hc
  | leave => exact fun hw => ⟨⟨hw.nests, hw.letsClose⟩, fun _ hh => hh⟩
  | script hact =>
    have hnarrows := w.driver.narrows_script hact
    exact fun hw => ⟨⟨hw.nests, hnarrows.letsClose hw.letsClose⟩, hnarrows.opened⟩

theorem Dealings.tidy (h : Dealings Call.OpensNothing Scripting.LetsClose w w') : w.Tidy w' := by
  induction h with
  | refl => exact .refl w
  | tail _ h ih => exact ih.trans h.tidy

end World

/-! ## Cameras -/

namespace Camera

variable {w : World}

/-- Opening a device leaves its handle open, if it succeeds, and no other new one. -/
theorem ready_call_open (hw : w.Ready) (index : Int32) :
    (w.call (.open index)).2.Ready ∧
      ∀ handle ∈ Entries.keys (w.call (.open index)).2.driver.opened,
        handle ∈ Entries.keys w.driver.opened ∨
          (w.call (.open index)).1.status = Status.success ∧
            handle = (opening index w).handle := by
  have hhandle : (opening index w).handle = (w.call (.open index)).1.word noHandle := rfl
  rw [hhandle, World.call_open]
  exact ⟨⟨hw.nests, Driver.letsClose_step hw.letsClose _⟩,
    w.driver.opened_step_open index⟩

/-- The handle of a camera that was given up is not open. -/
theorem ready_drop (hw : w.Ready) (cam : Camera) :
    (cam.drop.exec w).2.Ready ∧
      ∀ handle ∈ Entries.keys (cam.drop.exec w).2.driver.opened,
        handle ∈ Entries.keys w.driver.opened ∧ handle ≠ cam.handle := by
  refine ⟨⟨Script.nests_drop hw.nests cam, ?_⟩, ?_⟩
  · rw [driver_drop]
    exact Driver.letsClose_step hw.letsClose _
  · rw [driver_drop]
    exact Driver.opened_step_close hw.letsClose cam.handle

/-- A device that was open for a moment is not open after it. -/
theorem tidy_visiting (index : Int32) (w : World) : w.Tidy (visiting index w) := by
  intro hw
  obtain ⟨hready, hopened⟩ := ready_call_open hw index
  have hafter : (afterOpening index w).Ready := ⟨hready.nests, hready.letsClose⟩
  have htext : (afterOpening index w).Tidy
      (((opening index w).text .cameraModel).exec (afterOpening index w)).2 :=
    ((opening index w).text_uses (Call.plainCalls_neutral.on _) .cameraModel).dealings _ |>.tidy
  obtain ⟨hread, hopened'⟩ := htext hafter
  obtain ⟨hclosed, hopened''⟩ := ready_drop hread (opening index w)
  refine ⟨hclosed, fun handle hh => ?_⟩
  obtain ⟨hmem, hne⟩ := hopened'' handle hh
  rcases hopened handle (hopened' handle hmem) with hold | ⟨-, heq⟩
  · exact hold
  · exact absurd heq hne

theorem tidy_modelName (index : Int32) (w : World) :
    w.Tidy ((Enumeration.modelName index).exec w).2 := by
  rcases modelName_exec index w with ⟨-, hexec⟩ | ⟨hstatus, hexec⟩
  · rw [hexec]
    exact tidy_visiting index w
  · rw [hexec]
    intro hw
    obtain ⟨hready, hopened⟩ := ready_call_open hw index
    refine ⟨hready, fun handle hh => ?_⟩
    rcases hopened handle hh with hold | ⟨hsuccess, -⟩
    · exact hold
    · exact absurd hsuccess hstatus

end Camera

namespace Action

variable {α β : Type}

/-- What comes after a tidy action may be looked at by itself. -/
theorem tidy_bind {a : Action α} {f : α → Action β} (ha : ∀ w : World, w.Tidy (a.exec w).2)
    (hf : ∀ x (w : World), w.Tidy ((f x).exec w).2) (w : World) :
    w.Tidy ((a >>= f).exec w).2 :=
  exec_bind_keeps (P := w.Tidy) (ha w) fun x w' hfirst => hfirst.trans (hf x w')

theorem tidy_modelNames (index n : Nat) (w : World) :
    w.Tidy ((Enumeration.modelNames index n).exec w).2 := by
  induction n generalizing index w with
  | zero => exact .refl w
  | succ n ih =>
    have hlast (name : String) (names : List String) (w : World) :
        w.Tidy ((pure (name :: names) : Action (List String)).exec w).2 := .refl w
    exact tidy_bind (Camera.tidy_modelName _)
      (fun name => tidy_bind (ih (index + 1)) (hlast name)) w

theorem tidy_deviceNames (w : World) : w.Tidy (Enumeration.deviceNames.exec w).2 :=
  tidy_bind (fun w => (Enumeration.deviceCount_uses Call.plainCalls_neutral).dealings w |>.tidy)
    (fun n => tidy_modelNames 0 n) w

end Action

/-! ## Scripts -/

namespace Script

variable {s s' : State}

/-- Every open handle is that of a camera with a name. -/
structure Held (s : State) : Prop where
  ready : s.world.Ready
  owned : ∀ handle ∈ Entries.keys s.world.driver.opened,
    ∃ name, Entries.get? s.handles name = some handle

/-- What is tidy and leaves the handles of the cameras alone. -/
theorem Held.of_tidy (hs : Held s) (htidy : s.world.Tidy s'.world)
    (hhandles : s'.handles = s.handles) : Held s' := by
  obtain ⟨hready, hopened⟩ := htidy hs.ready
  refine ⟨hready, fun handle hh => ?_⟩
  rw [hhandles]
  exact hs.owned handle (hopened handle hh)

theorem held_start (backend : Backend) (devices : List Device) : Held (start backend devices) where
  ready := ⟨nests_start backend devices, fun _ ho => absurd ho List.not_mem_nil⟩
  owned := fun _ hh => absurd hh List.not_mem_nil

theorem held_ending (hs : Held s) {name : String} {cam : Camera} {step : CameraStep}
    (hcam : Entries.get? s.cameras name = some cam) (hstep : step = .close ∨ step = .drop) :
    Held ((runStep (.camera name step)).run s).2 := by
  obtain ⟨hready, hopened⟩ := Camera.ready_drop hs.ready cam
  rw [run_camera_step hcam, run_ending hstep]
  refine ⟨hready, fun handle hh => ?_⟩
  obtain ⟨hmem, hne⟩ := hopened handle hh
  obtain ⟨other, hother⟩ := hs.owned handle hmem
  -- the handle is still open, so it is not that of the camera that went
  have hname : name ≠ other := by
    rintro rfl
    rw [State.get?_handles hcam] at hother
    exact hne (Option.some.inj hother).symm
  exact ⟨other, by rw [handles_erase, Entries.get?_erase, if_neg hname, hother]⟩

theorem held_openCamera (hs : Held s) (name : String) (index : Int32) :
    Held ((runStep (.openCamera name index)).run s).2 := by
  obtain ⟨hready, hopened⟩ := Camera.ready_call_open hs.ready index
  have hafter : (Camera.afterOpening index s.world).Ready := ⟨hready.nests, hready.letsClose⟩
  -- a handle that is open now is the new one, or it is that of a camera of another name
  have howned {handle : Int32}
      (hh : handle ∈ Entries.keys (s.world.call (.open index)).2.driver.opened)
      (hother : Entries.get? s.handles name ≠ some handle) :
      ∃ n, Entries.get?
        (Entries.put s.handles name (Camera.opening index s.world).handle) n = some handle := by
    rcases hopened handle hh with hold | ⟨-, rfl⟩
    · obtain ⟨n, hn⟩ := hs.owned handle hold
      have hne : name ≠ n := by
        rintro rfl
        exact hother hn
      exact ⟨n, by rw [Entries.get?_put, if_neg hne, hn]⟩
    · exact ⟨name, by rw [Entries.get?_put, if_pos rfl]⟩
  rcases run_openCamera name index s with
    ⟨hstatus, hrun⟩ | ⟨hstatus, hfree, hrun⟩ | ⟨hstatus, old, hold, hrun⟩
  · rw [hrun]
    refine ⟨hready, fun handle hh => ?_⟩
    rcases hopened handle hh with hmem | ⟨hsuccess, -⟩
    · exact hs.owned handle hmem
    · exact absurd hsuccess hstatus
  · rw [hrun]
    refine ⟨hafter, fun handle hh => ?_⟩
    rw [handles_put]
    refine howned hh ?_
    rw [State.handles, Entries.get?_mapValues, hfree]
    exact (Option.some_ne_none handle).symm
  · rw [hrun]
    obtain ⟨hclosed, hopened'⟩ := Camera.ready_drop hafter old
    refine ⟨hclosed, fun handle hh => ?_⟩
    obtain ⟨hmem, hne⟩ := hopened' handle hh
    rw [handles_put]
    refine howned hmem ?_
    rw [State.get?_handles hold]
    exact fun heq => hne (Option.some.inj heq).symm

/-- Every step of the restricted kind leaves each open handle with a camera. -/
theorem held_runStep (hs : Held s) {step : Step}
    (hstep : step.Within Call.OpensNothing Scripting.LetsClose) :
    Held ((runStep step).run s).2 := by
  by_cases hstay : step.Stays
  · obtain ⟨hdealings, hhandles⟩ := runStep_stays hstay hstep s
    exact hs.of_tidy hdealings.tidy hhandles
  · rcases Step.cases_of_not_stays hstay with
      ⟨c, rfl⟩ | rfl | ⟨name, index, rfl⟩ | ⟨name, last, rfl, hlast⟩
    · exact hs.of_tidy (World.tidy_call s.world (hstep.calls c List.mem_cons_self)) rfl
    · rw [run_deviceNames]
      exact hs.of_tidy (Action.tidy_deviceNames s.world) rfl
    · exact held_openCamera hs name index
    · cases hcam : Entries.get? s.cameras name with
      | some cam => exact held_ending hs hcam hlast
      | none =>
        rw [run_camera_step_none hcam]
        exact hs

theorem held_runSteps (hs : Held s) {steps : List Step}
    (hsteps : ∀ step ∈ steps, step.Within Call.OpensNothing Scripting.LetsClose) :
    Held (runSteps s steps).2 := by
  induction steps generalizing s with
  | nil => exact hs
  | cons step rest ih =>
    exact ih (held_runStep hs (hsteps step List.mem_cons_self))
      fun step' h => hsteps step' (List.mem_cons_of_mem _ h)

/-! ## The end -/

theorem ready_drops (cameras : List (String × Camera)) {w : World} (hw : w.Ready) :
    ∀ handle ∈ Entries.keys
        (cameras.foldl (fun w p => (p.2.drop.exec w).2) w).driver.opened,
      handle ∈ Entries.keys w.driver.opened ∧ ∀ p ∈ cameras, handle ≠ p.2.handle := by
  induction cameras generalizing w with
  | nil => exact fun handle hh => ⟨hh, fun _ hp => absurd hp List.not_mem_nil⟩
  | cons p rest ih =>
    obtain ⟨hready, hopened⟩ := Camera.ready_drop hw p.2
    intro handle hh
    obtain ⟨hmem, hrest⟩ := ih hready handle hh
    obtain ⟨hold, hne⟩ := hopened handle hmem
    refine ⟨hold, fun q hq => ?_⟩
    rcases List.mem_cons.mp hq with rfl | hq
    · exact hne
    · exact hrest q hq

/-- When all cameras were given up, nothing is open. -/
theorem opened_finish (hs : Held s) : (finish s).driver.opened = [] := by
  have hkeys : Entries.keys (finish s).driver.opened = [] → (finish s).driver.opened = [] :=
    List.map_eq_nil_iff.mp
  refine hkeys (List.eq_nil_iff_forall_not_mem.mpr fun handle hh => ?_)
  obtain ⟨hmem, hnone⟩ := ready_drops _ hs.ready handle hh
  obtain ⟨name, hname⟩ := hs.owned handle hmem
  -- the camera that the handle belongs to was among them
  obtain ⟨cam, hcam, heq⟩ := List.mem_map.mp (Entries.mem_of_get? hname)
  obtain ⟨-, rfl⟩ := Prod.mk.inj heq
  exact hnone cam (List.mem_mergeSort.mpr hcam) rfl

end Script

end CameraControl
