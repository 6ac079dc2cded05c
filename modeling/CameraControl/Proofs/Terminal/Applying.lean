import CameraControl.Proofs.Settings.Fitting
import CameraControl.Proofs.Terminal.Arguments
import CameraControl.Proofs.Terminal.Borrowing

/-
  Applying a file of settings to a simulated camera.

  The file is read and decoded, the device is opened, and the fields that are set are written one
  after another; the first of these stages that fails ends the run and is told. A usual device has
  a feature of the right kind for every field, so of the writes only numbers outside their range can
  fail. Hence the run succeeds exactly on the settings whose numbers are in range,
  `apply_succeeds_iff_applicable`.
-/

namespace CameraControl.Terminal

open CameraControl.Action World Job

variable {c : Console} {cam : Camera}

/-! ## The writes -/

/-- How writes to a device one after another can go if only numbers may be refused: the device
    admits all of them, or all up to one that is out of range. -/
inductive Wrote (device : Device) (l : List (Feature × Write)) : Except Fault Unit → Prop where
  | all (h : ∀ p ∈ l, device.Admits p.1 p.2) : Wrote device l (.ok ())
  | upTo {done rest : List (Feature × Write)} {p : Feature × Write} (hl : l = done ++ p :: rest)
      (hdone : ∀ q ∈ done, device.Admits q.1 q.2) (hp : ¬device.Admits p.1 p.2) :
    Wrote device l (.error (Camera.refusal p Status.outOfRange))

/-- A write that was made before the others. -/
theorem Wrote.cons {device : Device} {l : List (Feature × Write)} {outcome : Except Fault Unit}
    (h : Wrote device l outcome) {p : Feature × Write} (hp : device.Admits p.1 p.2) :
    Wrote device (p :: l) outcome := by
  cases h with
  | all h => exact .all (List.forall_mem_cons.mpr ⟨hp, h⟩)
  | upTo hl hdone hq =>
    exact .upTo (congrArg (p :: ·) hl) (List.forall_mem_cons.mpr ⟨hp, hdone⟩) hq

theorem Wrote.congr {device device' : Device} {l : List (Feature × Write)}
    {outcome : Except Fault Unit} (h : Wrote device l outcome)
    (heq : ∀ p ∈ l, device.Admits p.1 p.2 ↔ device'.Admits p.1 p.2) : Wrote device' l outcome := by
  cases h with
  | all h => exact .all fun p hp => (heq p hp).mp (h p hp)
  | upTo hl hdone hp =>
    rw [hl] at heq
    refine .upTo hl (fun q hq => (heq q (List.mem_append_left _ hq)).mp (hdone q hq)) ?_
    exact fun h => hp ((heq _ (List.mem_append_right _ List.mem_cons_self)).mpr h)

/-- Writes of which each suits its feature are made up to the first that is out of range. -/
theorem writeAll_wrote {d : Driver} {i : Nat} {device : Device} (hd : d.Resting)
    (hhandle : cam.handle = d.nextHandle) {l : List (Feature × Write)}
    (hplain : ∀ p ∈ l, (CameraControl.Request.write p.2).Plain)
    (hsuits : ∀ p ∈ l, ∃ content, device.Editable p.1 content ∧ content.Suits p.2)
    {w : World} (hdirect : w.backend = .direct) (hlent : d.Lent i w.driver)
    (hmake : ∃ device', w.driver.devices[i]? = some device' ∧ device.SameMake device') :
    d.Lent i ((cam.writeAll l).exec w).2.driver ∧
      Wrote device l ((cam.writeAll l).exec w).1 := by
  -- the device changes from write to write, but not its make, by which it judges the next one
  induction l generalizing w with
  | nil => exact ⟨hlent, .all (List.forall_mem_nil _)⟩
  | cons p rest ih =>
    obtain ⟨hpplain, hplain⟩ := List.forall_mem_cons.mp hplain
    obtain ⟨⟨content, heditable, hpsuits⟩, hsuits⟩ := List.forall_mem_cons.mp hsuits
    obtain ⟨device', hdevice', hsame⟩ := hmake
    have hwrite := cam.write_exec (Camera.unbroken_of_plain hpplain) w
    have hnobody : w.driver.subscriptions = [] := hlent.subscriptions.trans hd.subscriptions
    rw [call_of_unheard (c := cam.setter p) hdirect (Driver.notices_write hnobody _ _ _)] at hwrite
    obtain ⟨hmade, hrefused⟩ := hlent.step_write hd.fresh hd.failures hdevice' p.1.key p.2
    have hcall : Call.feature d.nextHandle p.1.key (.write p.2) = cam.setter p := by
      rw [← hhandle]
      rfl
    rw [hcall] at hmade hrefused
    have hlent' : d.Lent i (w.take (cam.setter p)).driver := hlent.step hhandle
    have hall : cam.writeAll (p :: rest) = (cam.write p.1 p.2 >>= fun _ => cam.writeAll rest) := rfl
    rcases Device.write_of_suits heditable hpsuits hsame with
      ⟨hadmits, device'', hok, hsame'⟩ | ⟨hno, herror⟩
    · obtain ⟨hstatus, hdevice''⟩ := hmade device'' hok
      rw [if_pos hstatus] at hwrite
      rw [hall, exec_bind_of_ok hwrite]
      obtain ⟨hlent'', hwrote⟩ := ih hplain hsuits (w := w.take (cam.setter p)) hdirect hlent'
        ⟨device'', hdevice'', hsame'⟩
      exact ⟨hlent'', hwrote.cons hadmits⟩
    · have hstatus := hrefused _ herror
      have hrange : Status.outOfRange ≠ Status.success := by decide
      rw [hstatus, if_neg hrange] at hwrite
      rw [hall, exec_bind_of_error hwrite]
      have hfirst : p :: rest = [] ++ p :: rest := rfl
      exact ⟨hlent', .upTo hfirst (List.forall_mem_nil _) hno⟩

/-! ## The command -/

/-- The file of the working directory is found by its name. -/
theorem read?_settings (t : String) :
    (Files.ofDirectory [("settings.toml", t)]).read? "settings.toml" = some t := rfl

/-- The first stage of applying a file that fails: reading it, decoding it, opening the device, or
    a write, all before which are admitted. -/
inductive FirstFailure (files : Files) (path : String) (n : Nat) (index : DeviceIndex)
    (device : Device) : Complaint → Prop where
  | reading (hread : files.read? path = none) :
    FirstFailure files path n index device (.unreadableFile path)
  | decoding {t : String} (hread : files.read? path = some t)
      (hdecode : Settings.ofToml? t = none) :
    FirstFailure files path n index device (.unparsableFile path)
  | opening {t : String} {s : Settings} (hread : files.read? path = some t)
      (hdecode : Settings.ofToml? t = some s)
      (hindex : ¬(0 ≤ index.toInt ∧ index.toInt < n)) :
    FirstFailure files path n index device (notOpened index Status.outOfRange)
  | writing {t : String} {s : Settings} (hread : files.read? path = some t)
      (hdecode : Settings.ofToml? t = some s) (hindex : 0 ≤ index.toInt ∧ index.toInt < n)
      {done rest : List (Feature × Write)} {p : Feature × Write}
      (hwrites : s.writes = done ++ p :: rest) (hdone : ∀ q ∈ done, device.Admits q.1 q.2)
      (hp : ¬device.Admits p.1 p.2) :
    FirstFailure files path n index device (.fault (Camera.refusal p Status.outOfRange))

/-- No stage of applying a file fails: the file decodes to settings whose numbers are in range, and
    there is a device at the index. -/
def Applicable (files : Files) (path : String) (n : Nat) (index : DeviceIndex) (device : Device) :
    Prop :=
  ∃ t s, files.read? path = some t ∧ Settings.ofToml? t = some s ∧
    (0 ≤ index.toInt ∧ index.toInt < n) ∧ s.Fit device

/-- What fails does not fit. -/
theorem FirstFailure.not_applicable {files : Files} {path : String} {n : Nat} {index : DeviceIndex}
    {model : String} {complaint : Complaint}
    (h : FirstFailure files path n index (.standard model) complaint) :
    ¬Applicable files path n index (.standard model) := by
  rintro ⟨t, s, hread', hdecode', hindex', hfit⟩
  cases h with
  | reading hread =>
    rw [hread] at hread'
    cases hread'
  | decoding hread hdecode =>
    obtain rfl := Option.some.inj (hread.symm.trans hread')
    rw [hdecode] at hdecode'
    cases hdecode'
  | opening _ _ hindex => exact hindex hindex'
  | writing hread hdecode _ hwrites _ hp =>
    obtain rfl := Option.some.inj (hread.symm.trans hread')
    obtain rfl := Option.some.inj (hdecode.symm.trans hdecode')
    refine hp ((Settings.fit_standard_iff _ model).mp hfit _ ?_)
    rw [hwrites]
    exact List.mem_append_right _ List.mem_cons_self

/-- A driver with usual devices is at rest. -/
theorem resting_withCameras (n : Nat) : (Driver.withCameras n).Resting where
  opened := rfl
  subscriptions := rfl
  failures := rfl
  openFailures := rfl
  queues := rfl
  handle := by
    have hhandle : (Driver.withCameras n).nextHandle = 100 := rfl
    rw [hhandle]
    decide

theorem devices_withCameras {n i : Nat} (hi : i < n) :
    (Driver.withCameras n).devices[i]? = some (.standard s!"Mock {i}") := by
  show ((List.range n).map _)[i]? = _
  rw [List.getElem?_map, List.getElem?_range hi]
  rfl

section

variable {n : Nat} (hd : c.world.driver = Driver.withCameras n)

include hd

theorem length_devices_of_withCameras : c.world.driver.devices.length = n := by
  rw [hd]
  simp [Driver.withCameras, Driver.ofDevices]

/-- Settings are written to a usual device that is lent, up to a number that is out of range. -/
theorem apply_wrote (hdirect : c.world.backend = .direct) {index : DeviceIndex} (s : Settings)
    (model : String)
    (hlent : c.world.driver.Lent index.toInt.toNat (whileLent index c).world.driver)
    {outcome : Except Fault Unit} {w : World}
    (hexec : ((borrowed index c.world).apply s).exec (whileLent index c).world = (outcome, w)) :
    c.world.driver.Lent index.toInt.toNat w.driver ∧ Wrote (.standard model) s.writes outcome := by
  have hresting : c.world.driver.Resting := hd ▸ resting_withCameras n
  have hdevices : (whileLent index c).world.driver.devices = c.world.driver.devices := by
    show (c.world.driver.step (.open index)).driver.devices = _
    rw [hresting.step_open]
    split <;> rfl
  have hplace := hlent.place
  rw [hdevices, length_devices_of_withCameras hd] at hplace
  have hdevice : (whileLent index c).world.driver.devices[index.toInt.toNat]? =
      some (.standard s!"Mock {index.toInt.toNat}") := by
    rw [hdevices, hd]
    exact devices_withCameras hplace
  have hhandle : (borrowed index c.world).handle = c.world.driver.nextHandle := rfl
  have hdirect' : (whileLent index c).world.backend = .direct := hdirect
  have hwrites := writeAll_wrote hresting hhandle (Camera.plain_of_mem_writes s)
    (fun p hp => Settings.editable_of_mem_writes hp _) hdirect' hlent ⟨_, hdevice, .refl _⟩
  rw [← Camera.apply, hexec] at hwrites
  -- the device has a name of its own, on which what it admits does not depend
  exact ⟨hwrites.1, hwrites.2.congr fun p hp => Settings.admits_standard_iff hp _ model⟩

/-- Opening a usual device and writing settings to it. -/
theorem withCamera_apply (hdirect : c.world.backend = .direct) (index : DeviceIndex) (s : Settings)
    (model : String) :
    let run := (withCamera index fun cam => act (cam.apply s)).run c
    run.2.printed = c.printed ∧
    ((¬(0 ≤ index.toInt ∧ index.toInt < n) ∧
        run.1 = .error (notOpened index Status.outOfRange)) ∨
      (0 ≤ index.toInt ∧ index.toInt < n) ∧ ∃ outcome, run.1 = outcome.mapError .fault ∧
        Wrote (.standard model) s.writes outcome) := by
  have hresting : c.world.driver.Resting := hd ▸ resting_withCameras n
  rcases hexec : ((borrowed index c.world).apply s).exec (whileLent index c).world
    with ⟨outcome, w⟩
  have hbody : (act ((borrowed index c.world).apply s)).run (whileLent index c) =
      (outcome.mapError .fault, { whileLent index c with world := w }) := by
    rw [run_act, hexec]
  have hborrows := borrows_of_resting hresting index (fun cam => act (cam.apply s)) fun hlent => by
    rw [hbody]
    exact (apply_wrote hd hdirect s model hlent hexec).1
  have hplace : (0 ≤ index.toInt ∧ index.toInt.toNat < c.world.driver.devices.length) ↔
      0 ≤ index.toInt ∧ index.toInt < n := by
    rw [length_devices_of_withCameras hd]
    omega
  have hopen := hresting.step_open index
  intro run
  have hrun : run = (withCamera index fun cam => act (cam.apply s)).run c := rfl
  clear_value run
  rw [← hrun] at hborrows
  obtain ⟨ended, c'⟩ := run
  dsimp only at hborrows ⊢
  cases hborrows with
  | refused hcode hstep =>
    rw [hstep] at hopen
    by_cases hindex : 0 ≤ index.toInt ∧ index.toInt < n
    · rw [if_pos (hplace.mpr hindex)] at hopen
      exact absurd (congrArg (fun o => o.reply.status) hopen) hcode
    · rw [if_neg fun h => hindex (hplace.mp h)] at hopen
      obtain rfl := congrArg (fun o => o.reply.status) hopen
      exact ⟨rfl, .inl ⟨hindex, rfl⟩⟩
  | lent hdevice hstep hwork =>
    have hlent := Driver.lent_holding hresting.fresh hdevice [.open]
    rw [← driver_whileLent hstep] at hlent
    obtain ⟨rfl, rfl⟩ := Prod.mk.inj (hbody.symm.trans hwork)
    have hindex := hresting.place_of_open (congrArg (fun o => o.reply.status) hstep)
    have hwrote := (apply_wrote hd hdirect s model hlent hexec).2
    exact ⟨rfl, .inr ⟨hplace.mp hindex, outcome, rfl, hwrote⟩⟩

end

/-- Applying a file succeeds, or the first stage that fails is told. Nothing is printed. -/
theorem apply_outcome {n : Nat} (hd : c.world.driver = Driver.withCameras n)
    (hdirect : c.world.backend = .direct) (files : Files) (index : DeviceIndex) (path : String)
    (model : String) :
    let run := (apply files index path).run c
    run.2.printed = c.printed ∧
    ((run.1 = .ok () ∧ Applicable files path n index (.standard model)) ∨
      ∃ complaint, run.1 = .error complaint ∧
        FirstFailure files path n index (.standard model) complaint) := by
  intro run
  have hrun : run = (apply files index path).run c := rfl
  clear_value run
  subst hrun
  unfold apply
  split
  · next hread => exact ⟨rfl, .inr ⟨_, rfl, .reading hread⟩⟩
  · next t hread =>
    split
    · next hdecode => exact ⟨rfl, .inr ⟨_, rfl, .decoding hread hdecode⟩⟩
    · next s hdecode =>
      obtain ⟨hprinted, hcases⟩ := withCamera_apply hd hdirect index s model
      refine ⟨hprinted, ?_⟩
      rcases hcases with ⟨hindex, hopening⟩ | ⟨hindex, outcome, houtcome, hwrote⟩
      · exact .inr ⟨_, hopening, .opening hread hdecode hindex⟩
      · cases hwrote with
        | all hall =>
          have hfit := (s.fit_standard_iff model).mpr hall
          exact .inl ⟨houtcome, t, s, hread, hdecode, hindex, hfit⟩
        | upTo hwrites hdone hp =>
          exact .inr ⟨_, houtcome, .writing hread hdecode hindex hwrites hdone hp⟩

/-- Applying a file to one of some simulated cameras on the command line, whatever the name of a
    usual device is. If the list of the cameras fits into memory, the run ends without a complaint
    exactly if no stage fails, and otherwise it complains about the first stage that does; it prints
    nothing. If the list is too long the run is broken off before the file is read. -/
theorem apply_succeeds_iff_applicable (files : Files) (libraryFile : Library.File) (n : UInt64)
    (index : DeviceIndex) (model : String) :
    let report := run files libraryFile
      ["--mock", toString n, "apply", "--index=" ++ toString index, "settings.toml"]
    (96 * n.toNat ≤ memoryLimit →
      (report = ⟨0, "", ""⟩ ↔ Applicable files "settings.toml" n.toNat index (.standard model)) ∧
      (report ≠ ⟨0, "", ""⟩ → ∃ complaint,
        FirstFailure files "settings.toml" n.toNat index (.standard model) complaint ∧
        report = ⟨1, "", "Error: " ++ complaint.message⟩)) ∧
    (memoryLimit < 96 * n.toNat → report = .brokenOff) := by
  intro report
  have hrequest := ofArguments_apply n index "settings.toml" (by decide) (by decide)
  have hexceeds : (⟨some n, .apply index "settings.toml"⟩ : Request).exceedsMemory =
      decide (memoryLimit < 96 * n.toNat) := by
    simp [Request.exceedsMemory, Option.getD]
  have hreport : report = if memoryLimit < 96 * n.toNat then .brokenOff else
      (Command.apply index "settings.toml").report files
        (World.ofDriver .direct (Driver.withCameras n.toNat)) := by
    show run _ _ _ = _
    rw [run, hrequest]
    dsimp only
    rw [Request.run]
    dsimp only
    rw [hexceeds]
    simp only [decide_eq_true_eq]
  clear_value report
  subst hreport
  refine ⟨fun hfits => ?_, fun hlong => if_pos hlong⟩
  rw [if_neg (Nat.not_lt.mpr hfits)]
  obtain ⟨hprinted, hcases⟩ := apply_outcome
    (c := ⟨World.ofDriver .direct (Driver.withCameras n.toNat), ""⟩) rfl rfl files index
    "settings.toml" model
  have hends : (Command.apply index "settings.toml").report files
      (World.ofDriver .direct (Driver.withCameras n.toNat)) =
        let run := (apply files index "settings.toml").run
          ⟨World.ofDriver .direct (Driver.withCameras n.toNat), ""⟩
        .ofOutcome run.2.printed run.1 := rfl
  rw [hends]
  dsimp only
  rw [hprinted]
  rcases hcases with ⟨hok, hfits⟩ | ⟨complaint, herror, hfails⟩
  · rw [hok]
    exact ⟨iff_of_true rfl hfits, fun h => absurd rfl h⟩
  · rw [herror]
    exact ⟨iff_of_false (by simp [Report.ofOutcome]) hfails.not_applicable,
      fun _ => ⟨complaint, hfails, rfl⟩⟩

/-- A list of cameras that is too long for the memory keeps a file from being applied, although no
    stage of it fails. -/
theorem applicable_but_broken_off :
    let files := Files.ofDirectory [("settings.toml", "")]
    let n : UInt64 := 96076792050570582
    let report := run files .absent
      ["--mock", toString n, "apply", "--index=" ++ toString (0 : Int32), "settings.toml"]
    Applicable files "settings.toml" n.toNat 0 (.standard "Mock 0") ∧ report = ⟨101, "", ""⟩ ∧
      ¬(report = ⟨0, "", ""⟩ ↔
        Applicable files "settings.toml" n.toNat 0 (.standard "Mock 0")) := by
  intro files n report
  have happlicable : Applicable files "settings.toml" n.toNat 0 (.standard "Mock 0") :=
    ⟨"", .empty, read?_settings "", by decide +kernel, by decide, Settings.fit_empty _⟩
  have hreport : report = ⟨101, "", ""⟩ := by decide +kernel
  refine ⟨happlicable, hreport, fun hiff => ?_⟩
  have hok := hiff.mpr happlicable
  rw [hreport] at hok
  revert hok
  decide

/-- The bounds of the area are admitted on the second of two cameras. Of an exposure time and a
    number of frames that are out of range, the number is written first. -/
theorem apply_succeeds_iff_applicable_second_camera :
    let files := Files.ofDirectory [("settings.toml",
      "frame_count = 7\n[aoi]\nleft = 1\ntop = 1\nwidth = 2560\nheight = 2160\n")]
    let files' := Files.ofDirectory [("settings.toml", "exposure_time = 31\nframe_count = 0\n")]
    let args := ["--mock", "2", "apply", "--index=1", "settings.toml"]
    96 * (2 : UInt64).toNat ≤ memoryLimit ∧ run files .absent args = ⟨0, "", ""⟩ ∧
      run files' .absent args = ⟨1, "",
        "Error: AT_SetInt with value 0 for feature \"Frame Count\" failed. " ++
          "(Andor SDK3 error 6: AT_ERR_OUTOFRANGE)"⟩ ∧
      ∃ complaint, FirstFailure files' "settings.toml" 2 1 (.standard "A") complaint ∧
        run files' .absent args = ⟨1, "", "Error: " ++ complaint.message⟩ := by
  intro files files' args
  have hargs : args =
      ["--mock", toString (2 : UInt64), "apply", "--index=" ++ toString (1 : Int32),
        "settings.toml"] := by decide +kernel
  have hfits : 96 * (2 : UInt64).toNat ≤ memoryLimit := by decide
  have hrefused : run files' .absent args = ⟨1, "",
      "Error: AT_SetInt with value 0 for feature \"Frame Count\" failed. " ++
        "(Andor SDK3 error 6: AT_ERR_OUTOFRANGE)"⟩ := by decide +kernel
  refine ⟨hfits, ?_, hrefused, ?_⟩
  · rw [hargs, ((apply_succeeds_iff_applicable files .absent 2 1 "A").1 hfits).1]
    have hadmits {f : Feature} {value min max v : Int64}
        (hget : Entries.get? Device.standardWritable f = some (.int value min max))
        (hmin : min ≤ v) (hmax : v ≤ max) : (Device.standard "A").Admits f (.int v) :=
      ⟨_, (Device.editable_standard (Entries.mem_of_get? hget) "A").content, .int hmin hmax⟩
    refine ⟨_, { frameCount := some 7, aoi := some ⟨1, 1, 2560, 2160⟩ }, read?_settings _,
      by decide +kernel, by decide, ?_⟩
    exact
      { exposureTime := fun _ h => by cases h
        frameRate := fun _ h => by cases h
        frameCount := fun n h => by cases h; exact hadmits rfl (by decide) (by decide)
        accumulateCount := fun _ h => by cases h
        width := fun a h => by cases h; exact hadmits rfl (by decide) (by decide)
        left := fun a h => by cases h; exact hadmits rfl (by decide) (by decide)
        height := fun a h => by cases h; exact hadmits rfl (by decide) (by decide)
        top := fun a h => by cases h; exact hadmits rfl (by decide) (by decide) }
  · rw [hargs] at hrefused ⊢
    refine ((apply_succeeds_iff_applicable files' .absent 2 1 "A").1 hfits).2 ?_
    rw [hrefused]
    decide

end CameraControl.Terminal
