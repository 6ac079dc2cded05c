import CameraControl.Proofs.Camera.Glancing
import CameraControl.Proofs.Camera.Prefix
import CameraControl.Proofs.Driver.Written
import CameraControl.Proofs.Script.Soundness

/-
  Reading back what was written.

  A setter of a camera that takes effect leaves its value in one cell of the driver, and the getter
  of the same kind finds it there; nothing else about the driver changes but the log. Reading from a
  camera changes nothing but the log, whether it succeeds or fails.
-/

namespace CameraControl

/-- A write took effect between two worlds: it changed one cell of the driver, and besides that
    nothing but how far tokens are and what has happened. -/
structure World.Wrote (w w' : World) (handle : Int32) (key : String) (v : Write) : Prop where
  driver : w.driver.Written w'.driver handle key v
  tokens : w'.tokens.map Token.identity = w.tokens.map Token.identity
  sessions : w'.sessions = w.sessions
  nextSession : w'.nextSession = w.nextSession
  backend : w'.backend = w.backend

namespace Camera

open CameraControl.Action

variable {cam : Camera} {f : Feature} {w w' : World}

/-! ## Setters and their getters -/

/-- The getters of a camera that belong to a setter: the getter reads what the setter writes to the
    slot. -/
inductive Getter (cam : Camera) (f : Feature) : {α : Type} → Slot α → Action α → Prop where
  | int : Getter cam f (.int f) (cam.int f)
  | float : Getter cam f (.float f) (cam.float f)
  | bool : Getter cam f (.bool f) (cam.bool f)
  | enumIndex : Getter cam f (.index f) (cam.enumIndex f)

variable {α : Type} {slot : Slot α} {getter : Action α}

theorem Getter.eq_get (h : Getter cam f slot getter) : getter = slot.get cam := by
  cases h <;> rfl

theorem Getter.feature_eq (h : Getter cam f slot getter) : slot.feature = f := by
  cases h <;> rfl

/-- No setter with a getter hands over a text. -/
theorem Getter.plain (h : Getter cam f slot getter) (x : α) :
    (Request.write (slot.encode x)).Plain := by
  cases h <;> trivial

/-- What a getter gives if its request succeeds. -/
theorem get_of_reply {output : Output} {x : α}
    (hreply : (w.driver.step (.feature cam.handle slot.feature.key (.read slot.reading))).reply =
      ⟨Status.success, some output⟩)
    (hdecode : slot.decode ⟨Status.success, some output⟩ = .ok x) :
    ((slot.get cam).exec w).1 = .ok x := by
  have hread : (cam.read slot.feature slot.reading).exec w =
      (.ok ⟨Status.success, some output⟩,
        w.take (.feature cam.handle slot.feature.key (.read slot.reading))) := by
    rw [Camera.read, request, exec_call,
      w.call_reading cam.handle slot.feature (.read slot.reading) rfl trivial, hreply]
    rfl
  rw [Slot.get, exec_bind_of_ok hread]
  exact hdecode

/-! ## Writing -/

/-- A write that arrives as one that takes effect in a quiet world succeeds and changes its
    cell. -/
theorem write_of_passed {v v' : Write} (hv : (Request.write v).Unbroken) (hquiet : w.Quiet)
    (hpass : w.backend.pass? (cam.setter (f, v)) = some (cam.setter (f, v')))
    (h : w.driver.TakesEffect (cam.setter (f, v'))) :
    ∃ w', (cam.write f v).exec w = (.ok (), w') ∧ w.Wrote w' cam.handle f.key v' := by
  obtain ⟨hreply, hdriver⟩ := World.driver_call hquiet hpass
  obtain ⟨htokens, hsessions, hnext, hbackend⟩ := w.call_frame (cam.setter (f, v))
  have hexec := write_exec cam (p := (f, v)) hv w
  rw [hreply, if_pos h.2] at hexec
  refine ⟨_, hexec, ?_, htokens, hsessions, hnext, hbackend⟩
  rw [hdriver]
  exact Driver.written_of_takesEffect h

/-- A write without a text arrives as it is. -/
theorem write_of_takesEffect {v : Write} (hv : (Request.write v).Plain) (hquiet : w.Quiet)
    (h : w.driver.TakesEffect (cam.setter (f, v))) :
    ∃ w', (cam.write f v).exec w = (.ok (), w') ∧ w.Wrote w' cam.handle f.key v :=
  write_of_passed (unbroken_of_plain hv) hquiet (cam.pass?_setter (p := (f, v)) hv w.backend) h

/-- What was written to a slot is read from it. -/
theorem get_of_written {x : α}
    (h : w.driver.Written w'.driver cam.handle slot.feature.key (slot.encode x))
    (hgrant : w.driver.Grants cam.handle slot.feature (.read slot.reading))
    (hsystem : slot.reading = .int → cam.handle ≠ systemHandle) :
    ((slot.get cam).exec w').1 = .ok x := by
  obtain ⟨c, c', -, hwrite, -, hafter⟩ := h.stored
  obtain ⟨output, hread, hdecode⟩ := slot.decode_of_write hwrite
  have hgrant' : w'.driver.Grants cam.handle slot.feature (.read slot.reading) := by
    rw [h.rest]
    exact hgrant
  exact get_of_reply (Driver.reply_read hgrant' hsystem hafter hread) hdecode

end Camera

namespace Script

variable {s : State}

/-! ## Steps that read -/

/-- A step with a camera reads from it or tells what is known of it. -/
def CameraStep.Reads : CameraStep → Prop
  | info | can _ _ | read _ _ | intRange _ | floatRange _ => True
  | enumText _ | enumTexts _ | enumTextAt _ _ => True
  | isIndexAvailable _ _ | isIndexImplemented _ _ => True
  | text _ | choice _ | settings => True
  | _ => False

/-- A step that reads is an action that glances, with an answer made of its outcome. -/
theorem runCamera_glances (name : String) (cam : Camera) {step : CameraStep}
    (hstep : step.Reads) :
    ∃ (α : Type) (a : Action α) (f : α → Answer),
      a.Glances ∧ runCamera name cam step = (do return f (← Run.act a)) := by
  cases step with
  | info => exact ⟨Unit, pure (), fun _ => .info cam, .pure (), rfl⟩
  | can f c => exact ⟨_, _, .bool, cam.can_glances f c, rfl⟩
  | read f r => exact ⟨_, _, readingAnswer r, cam.read_glances f r, rfl⟩
  | intRange f => exact ⟨_, _, fun p => .intRange p.1 p.2, cam.intRange_glances f, rfl⟩
  | floatRange f => exact ⟨_, _, fun p => .floatRange p.1 p.2, cam.floatRange_glances f, rfl⟩
  | enumText f => exact ⟨_, _, .text, cam.enumText_glances f, rfl⟩
  | enumTexts f => exact ⟨_, _, .texts, cam.enumTexts_glances f, rfl⟩
  | enumTextAt f i => exact ⟨_, _, .text, cam.enumTextAt_glances f i, rfl⟩
  | isIndexAvailable f i => exact ⟨_, _, .bool, cam.isIndexAvailable_glances f i, rfl⟩
  | isIndexImplemented f i => exact ⟨_, _, .bool, cam.isIndexImplemented_glances f i, rfl⟩
  | text f => exact ⟨_, _, .text, cam.text_glances f, rfl⟩
  | choice f => exact ⟨_, _, .choice f, cam.choice_glances f, rfl⟩
  | settings => exact ⟨_, _, .settings, cam.settings_glances, rfl⟩
  | _ => exact hstep.elim

/-- A step that reads leaves calls in the log and in the history, whether it succeeds or fails. -/
theorem reading_looks (name : String) {step : CameraStep} (hstep : step.Reads) (s : State) :
    ∃ w, ((runStep (.camera name step)).run s).2 = { s with world := w } ∧ s.world.Looked w := by
  cases hcam : Entries.get? s.cameras name with
  | none => exact ⟨s.world, run_camera_step_none hcam step, .refl s.world⟩
  | some cam =>
    obtain ⟨α, a, f, ha, hrun⟩ := runCamera_glances name cam hstep
    refine ⟨(a.exec s.world).2, ?_, ha s.world⟩
    rw [run_camera_step hcam, hrun]
    exact run_bind_snd (a := Run.act a) (fun _ _ => rfl) s

/-! ## All runs -/

/-- At any point of any script whose subscribers have no calls of their own to make: a setter that
    takes effect changes one cell of the driver and nothing that belongs to a session, and the
    getter that belongs to it gives the value back, unless it is ordered to fail; the step leaves
    the names of the script alone. A step that reads makes calls and nothing else comes of it,
    whether it succeeds or fails. An integer needs a handle other than that of the system, which
    every open handle is while the counter of the handles has not run over. -/
theorem written_is_read_back (backend : Backend) {devices : List Device}
    (hbuilt : ∀ device ∈ devices, device.Built) (steps : List Step) :
    let s := (runSteps (start backend devices) steps).2
    let w := s.world
    (w.Quiet → ∀ name cam, Entries.get? s.cameras name = some cam →
      ∀ (α : Type) (f : Feature) (slot : Slot α) (getter : Action α),
        Camera.Getter cam f slot getter → ∀ x : α,
          w.driver.TakesEffect (cam.setter (f, slot.encode x)) →
          ∃ w', (runStep (.camera name (.write f (slot.encode x)))).run s =
              (.ok .nothing, { s with world := w' }) ∧
            w.Wrote w' cam.handle f.key (slot.encode x) ∧
            (w.driver.Grants cam.handle f (.read slot.reading) →
              (slot.reading = .int → (Driver.ofDevices devices).Few w.operations) →
              (getter.exec w').1 = .ok x)) ∧
    ∀ name step, CameraStep.Reads step → ∃ w',
      ((runStep (.camera name step)).run s).2 = { s with world := w' } ∧ w.Looked w' ∧
        (runRecorded s (.camera name step)).1.events = [] := by
  intro s w
  constructor
  · intro hquiet name cam hcam α f slot getter hgetter x heffect
    obtain ⟨w', hexec, hwrote⟩ := Camera.write_of_takesEffect (hgetter.plain x) hquiet heffect
    refine ⟨w', ?_, hwrote, fun hgrant hfew => ?_⟩
    · have hact : (Run.act (cam.write f (slot.encode x))).run s =
          (.ok (), { s with world := w' }) := by
        rw [Run.run_act, hexec]
        rfl
      rw [run_camera_step hcam]
      unfold runCamera
      rw [run_bind, hact]
      rfl
    · obtain rfl := hgetter.feature_eq
      rw [hgetter.eq_get]
      refine Camera.get_of_written hwrote.driver hgrant fun hint => ?_
      -- the handle is open, because the write has found its device
      have hsound : w.driver.Sound := by
        have hreplays : w.Replays (Driver.ofDevices devices) :=
          runSteps_replays backend devices steps
        rw [hreplays]
        exact (Driver.sound_of_few hbuilt (hfew hint)).1
      obtain ⟨c, -, hbefore, -⟩ := hwrote.driver.stored
      obtain ⟨device, hdevice, -⟩ := Option.bind_eq_some_iff.mp hbefore
      obtain ⟨i, hindex, -⟩ := Option.bind_eq_some_iff.mp hdevice
      exact (hsound.handle_proper (Entries.mem_keys_of_get? hindex)).1
  · intro name step hstep
    obtain ⟨w', hrun, hlooked⟩ := reading_looks name hstep s
    refine ⟨w', hrun, hlooked, ?_⟩
    show ((runStep (.camera name step)).run s).2.world.eventsSince w = []
    rw [hrun]
    exact hlooked.eventsSince_eq

/-- A width is written while a subscriber hears of it and fails; it is read back, another device
    keeps its own, and a reading of options that fails half way leaves no event. -/
theorem written_is_read_back_width :
    let device := (Device.bare "A").put .aoiWidth (.int 4 1 8)
    let devices := [device.put .triggerMode (.enum 0 ["Internal"]), device]
    let steps := [Step.openCamera "c" 0, .camera "c" (.subscribe "t" .aoiWidth [.reject] none),
      .fail "AT_GetEnumStringByIndex" Status.readOnly none]
    let s := (runSteps (start .direct devices) steps).2
    let cam : Camera := ⟨0, 0, 100, none⟩
    s.world.Quiet ∧ Entries.get? s.cameras "c" = some cam ∧
      s.world.driver.TakesEffect (cam.setter (.aoiWidth, .int 7)) ∧
      (∃ w', (runStep (.camera "c" (.write .aoiWidth (.int 7)))).run s =
          (.ok .nothing, { s with world := w' }) ∧
        ((cam.int .aoiWidth).exec w').1 = .ok 7 ∧
        ∃ other, w'.driver.devices[1]? = some other ∧
          other.content? "AOI Width" = some (.int 4 1 8)) ∧
      (runRecorded s (.camera "c" (.enumTexts .triggerMode))).1.events = [] := by
  intro device devices steps s cam
  have hbuilt : ∀ device ∈ devices, device.Built := by
    intro device' h
    rcases List.mem_pair.mp h with rfl | rfl
    · exact .putKey _ _ (.putKey _ _ (.bare "A"))
    · exact .putKey _ _ (.bare "A")
  have hs : s = (runSteps (start .direct devices) steps).2 := rfl
  clear_value s
  have hquiet : s.world.Quiet := by rw [hs]; decide +kernel
  have hcam : Entries.get? s.cameras "c" = some cam := by rw [hs]; decide +kernel
  have heffect : s.world.driver.TakesEffect (cam.setter (.aoiWidth, .int 7)) := by
    rw [hs]
    decide +kernel
  have hother : s.world.driver.devices[1]? = some device ∧
      s.world.driver.deviceIndex? cam.handle ≠ some 1 := by
    rw [hs]
    decide +kernel
  have hgrant : s.world.driver.Grants cam.handle .aoiWidth (.read .int) := by
    rw [Driver.Grants, hs]
    decide +kernel
  have hfew : (Driver.ofDevices devices).Few s.world.operations := by rw [hs]; decide +kernel
  have hall := written_is_read_back .direct hbuilt steps
  rw [← hs] at hall
  obtain ⟨hwrites, hreads⟩ := hall
  obtain ⟨w', hrun, hwrote, hget⟩ :=
    hwrites hquiet "c" cam hcam Int64 .aoiWidth (.int .aoiWidth) _ .int 7 heffect
  obtain ⟨other, hother', -, hkept⟩ := hwrote.driver.others 1 device hother.1
  obtain ⟨-, -, -, hevents⟩ := hreads "c" (.enumTexts .triggerMode) trivial
  refine ⟨hquiet, hcam, heffect, ⟨w', hrun, hget hgrant fun _ => hfew, other, hother', ?_⟩, hevents⟩
  rw [hkept "AOI Width" (.inl hother.2)]
  decide +kernel

end Script

end CameraControl
