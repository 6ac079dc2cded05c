import CameraControl.Proofs.Driver.Ranges
import CameraControl.Proofs.Script.Lasting
import CameraControl.Terminal.Commands

/-
  Numbers in range, by whichever way they are written.

  Calls, scripts and the commands that write to a camera leave every number within its range or
  "not a number": `numbers_stay_in_range`. The exception is real, `written_nan_out_of_range`: the
  value that compares with nothing passes the check of a floating-point feature.
-/

namespace CameraControl

/-- Opening a device keeps what lasts. -/
theorem Driver.Lasting.openDevice {allows : Scripting → Prop} {P : Driver → Prop}
    (hP : Driver.Lasting allows P) {w : World} (hw : P w.driver) (index : Int32) :
    P ((Camera.openDevice index).exec w).2.driver := by
  rcases Camera.openDevice_exec index w with ⟨-, hexec⟩ | ⟨-, fault, hexec⟩
  · rw [hexec]
    exact hP.afterOpening hw index
  · rw [hexec]
    exact hP.call hw _

namespace Terminal

/-! ## Parts of commands -/

/-- A part of a command keeps a property of the driver. -/
def Job.Keeps {α : Type} (P : Driver → Prop) (j : Job α) : Prop :=
  ∀ c : Console, P c.world.driver → P (j.run c).2.world.driver

namespace Job.Keeps

variable {α β : Type} {P : Driver → Prop}

theorem pure (x : α) : Keeps P (Pure.pure x : Job α) := fun _ hc => hc

theorem throw (complaint : Complaint) : Keeps P (MonadExcept.throw complaint : Job α) :=
  fun _ hc => hc

theorem bind {j : Job α} {f : α → Job β} (hj : Keeps P j) (hf : ∀ x, Keeps P (f x)) :
    Keeps P (j >>= f) :=
  fun c hc =>
    run_bind_keeps (P := fun c : Console => P c.world.driver) (hj c hc) fun x c' => hf x c'

theorem act {a : Action α} (ha : ∀ w : World, P w.driver → P (a.exec w).2.driver) :
    Keeps P (Job.act a) :=
  fun c hc => ha c.world hc

theorem attempt {j : Job α} (hj : Keeps P j) : Keeps P (Job.attempt j) := hj

theorem feature (name : String) : Keeps P (Job.feature name) := by
  unfold Job.feature
  split
  · exact pure _
  · exact throw _

variable {allows : Scripting → Prop} (hP : Driver.Lasting allows P)

include hP

/-- The camera is closed again, which is a call like any other. -/
theorem withCamera (index : DeviceIndex) {body : Camera → Job α}
    (hbody : ∀ cam, Keeps P (body cam)) : Keeps P (Job.withCamera index body) := by
  refine bind (act fun _ hw => hP.openDevice hw _) fun cam => ?_
  refine bind (attempt (hbody cam)) fun outcome => ?_
  cases outcome with
  | ok x =>
    refine bind (act fun w hw => ?_) fun _ => pure x
    rw [cam.close_exec w]
    exact hP.drop hw cam
  | error complaint => exact bind (act fun _ hw => hP.drop hw cam) fun _ => throw complaint

end Job.Keeps

variable {allows : Scripting → Prop} {P : Driver → Prop}

theorem setFeature_keeps (hP : Driver.Lasting allows P) (cam : Camera) (f : Feature)
    (value : String) : (setFeature cam f value).Keeps P := by
  unfold setFeature
  split
  · exact .throw _
  · next v _ =>
    have hwrite : (cam.write f v).Uses fun _ => True := cam.write_uses f v fun _ => trivial
    exact .act fun _ hw => hP.uses hwrite hw
  · have hplain := Script.regime_any.toPlainCalls.on cam.handle
    exact .act fun _ hw => hP.uses (cam.command_uses hplain f) hw

theorem set_keeps (hP : Driver.Lasting allows P) (index : DeviceIndex) (name value : String) :
    (set index name value).Keeps P :=
  .bind (.feature name) fun f => .withCamera hP index fun cam => setFeature_keeps hP cam f value

theorem apply_keeps (hP : Driver.Lasting allows P) (files : Files) (index : DeviceIndex)
    (path : String) : (apply files index path).Keeps P := by
  unfold apply
  split
  · exact .throw _
  · split
    · exact .throw _
    · next s _ =>
      refine .withCamera hP index fun cam => .act fun _ hw => ?_
      exact hP.uses (cam.apply_uses (Script.regime_any.toPlainCalls.on cam.handle) s) hw

end Terminal

/-- The worlds that come from a driver with some devices by scripts that spare the devices and by
    commands that write to a camera, in any order. Scripts make calls, write to cameras and apply
    settings to them. -/
inductive Reached (devices : List Device) : World → Prop where
  | start (backend : Backend) : Reached devices (.ofDriver backend (.ofDevices devices))
  | steps {s : Script.State} {steps : List Script.Step}
      (hsteps : ∀ step ∈ steps, step.Within (fun _ => True) fun act => act.sparesDevices = true)
      (h : Reached devices s.world) : Reached devices (Script.runSteps s steps).2.world
  | set {c : Terminal.Console} (index : Terminal.DeviceIndex) (name value : String)
      (h : Reached devices c.world) :
      Reached devices ((Terminal.set index name value).run c).2.world
  | apply {c : Terminal.Console} (files : Terminal.Files) (index : Terminal.DeviceIndex)
      (path : String) (h : Reached devices c.world) :
      Reached devices ((Terminal.apply files index path).run c).2.world

/-- From devices whose numbers are within their ranges, numbers are within their ranges or "not a
    number": after every run of calls and of acts of scripting that spare the devices, and in every
    world that is reached by scripts and commands. They are within their ranges altogether if no
    "not a number" was written. -/
theorem numbers_stay_in_range {devices : List Device}
    (hdevices : ∀ device ∈ devices, device.InRange) :
    (∀ ops : List Operation, (∀ op ∈ ops, op.sparesDevices = true) →
      let d := (Driver.ofDevices devices).run ops
      (∀ device ∈ d.devices, device.Bounded) ∧
        ((∀ op ∈ ops, op.writesNan = false) → ∀ device ∈ d.devices, device.InRange)) ∧
    ∀ w, Reached devices w → ∀ device ∈ w.driver.devices, device.Bounded := by
  have hlasting := Driver.bounded_lasting
  have hstart : ∀ device ∈ (Driver.ofDevices devices).devices, device.Bounded :=
    fun device h => (hdevices device h).bounded
  refine ⟨fun ops hops => ⟨?_, fun hnan => ?_⟩, fun w hw => ?_⟩
  · exact hlasting.run hstart fun act hact => hops (.script act) hact
  · exact Driver.inRange_run (d := .ofDevices devices) hdevices hops hnan
  · induction hw with
    | start backend => exact hstart
    | steps hsteps _ ih => exact hlasting.runSteps hsteps ih
    | set index name value _ ih => exact Terminal.set_keeps hlasting index name value _ ih
    | apply files index path _ ih => exact Terminal.apply_keeps hlasting files index path _ ih

/-- The exposure time of a camera whose numbers are within their ranges is set to "not a number" on
    the command line; a run that writes the greatest value leaves it in its range. -/
theorem numbers_stay_in_range_set_nan :
    let device := (Device.bare "A").put .exposureTime (.float (.zero false) (.zero false) (.ofInt 1))
    let c : Terminal.Console := ⟨.ofDriver .direct (.ofDevices [device]), ""⟩
    let ops : List Operation :=
      [.call (.open 0), .call (.feature 100 "ExposureTime" (.write (.float (.ofInt 1))))]
    (∀ device' ∈ [device], device'.InRange) ∧
      ((Terminal.set 0 "Exposure Time" "nan").run c).1.isOk = true ∧
      (∀ device' ∈ ((Terminal.set 0 "Exposure Time" "nan").run c).2.world.driver.devices,
        device'.Bounded) ∧
      ∀ device' ∈ ((Driver.ofDevices [device]).run ops).devices, device'.InRange := by
  intro device c ops
  have hdevices : ∀ device' ∈ [device], device'.InRange := by
    intro device' h
    obtain rfl := List.mem_singleton.mp h
    decide +kernel
  obtain ⟨hruns, hworlds⟩ := numbers_stay_in_range hdevices
  exact ⟨hdevices, by decide +kernel, hworlds _ (.set 0 _ _ (.start .direct)),
    (hruns ops (by decide)).2 (by decide +kernel)⟩

/-- The check of a floating-point feature lets "not a number" pass: it is written, and the feature
    is not within its range any more. -/
theorem written_nan_out_of_range :
    let device := (Device.bare "A").put .exposureTime (.float (.zero false) (.zero false) (.ofInt 1))
    let ops : List Operation :=
      [.call (.open 0), .call (.feature 100 "ExposureTime" (.write (.float (.nan false))))]
    device.InRange ∧ (∀ op ∈ ops, op.sparesDevices = true) ∧
      ¬∀ device' ∈ ((Driver.ofDevices [device]).run ops).devices, device'.InRange := by
  decide +kernel

end CameraControl
