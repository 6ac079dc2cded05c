import CameraControl.Proofs.Script.Move
import CameraControl.Proofs.World.Replay

/-
  The driver's state in all runs.

  Whatever calls and acts of scripting the driver goes through, its state is sound; and whatever a
  script does, with all notifications and all calls that subscribers nest in one another, its driver
  went through such operations and nothing else.
-/

namespace CameraControl.Script

/-- The driver of a script went through the operations of the history. -/
theorem runSteps_replays (backend : Backend) (devices : List Device) (steps : List Step) :
    (runSteps (start backend devices) steps).2.world.Replays (Driver.ofDevices devices) :=
  (runSteps_turns _ steps).replays (World.replays_ofDriver backend _)

/-- Every reachable state of the driver is sound, as long as the counter of the handles does not run
    over: after any sequence of calls and acts of scripting, and at any point of any script. -/
theorem reachable_driver_sound (devices : List Device)
    (hbuilt : ∀ device ∈ devices, device.Built) :
    (∀ ops, (Driver.ofDevices devices).Few ops →
      ((Driver.ofDevices devices).run ops).Sound ∧
        ∀ handle ∈ Entries.keys ((Driver.ofDevices devices).run ops).opened,
          handle ≠ systemHandle ∧ handle ≠ noHandle) ∧
    (∀ backend steps,
      let w := (runSteps (start backend devices) steps).2.world
      w.driver = (Driver.ofDevices devices).run w.operations ∧
        ((Driver.ofDevices devices).Few w.operations →
          w.driver.Sound ∧
            ∀ handle ∈ Entries.keys w.driver.opened,
              handle ≠ systemHandle ∧ handle ≠ noHandle)) := by
  have hrun (ops : List Operation) (hfew : (Driver.ofDevices devices).Few ops) :
      ((Driver.ofDevices devices).run ops).Sound ∧
        ∀ handle ∈ Entries.keys ((Driver.ofDevices devices).run ops).opened,
          handle ≠ systemHandle ∧ handle ≠ noHandle := by
    have hsound := (Driver.sound_of_few hbuilt hfew).1
    exact ⟨hsound, fun handle h => hsound.handle_proper h⟩
  refine ⟨hrun, fun backend steps => ?_⟩
  intro w
  have hreplays : w.driver = (Driver.ofDevices devices).run w.operations :=
    runSteps_replays backend devices steps
  refine ⟨hreplays, fun hfew => ?_⟩
  rw [hreplays]
  exact hrun w.operations hfew

/-- The first open handle of a device is sound, also where a later one is ordered to fail with the
    code of success. -/
theorem reachable_driver_sound_open_fail :
    (∀ device ∈ [Device.bare "A"], device.Built) ∧
      (Driver.ofDevices [Device.bare "A"]).Few
        [.call (.open 0), .script (.failOpen 0 Status.success), .call (.open 0)] ∧
      ((Driver.ofDevices [Device.bare "A"]).run
        [.call (.open 0), .script (.failOpen 0 Status.success), .call (.open 0)]).Sound := by
  have hbuilt : ∀ device ∈ [Device.bare "A"], device.Built := by
    intro device h
    obtain rfl := List.mem_singleton.mp h
    exact .bare "A"
  have hfew : (Driver.ofDevices [Device.bare "A"]).Few
      [.call (.open 0), .script (.failOpen 0 Status.success), .call (.open 0)] := by decide
  exact ⟨hbuilt, hfew, ((reachable_driver_sound _ hbuilt).1 _ hfew).1⟩

end CameraControl.Script
