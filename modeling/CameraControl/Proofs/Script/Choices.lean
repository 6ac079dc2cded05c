import CameraControl.Proofs.Camera.Texts
import CameraControl.Proofs.Driver.Choices
import CameraControl.Proofs.Script.Lasting

/-
  The views of a family.

  A camera shows an enumerated feature as an index, as a text, as a member of its family, and as a
  list of options. On a device that was set up to show a family they agree after every script that
  does not set it up anew: `family_views_agree`. Whatever else a feature holds, an index that is
  not one of the family is an error and never taken for another.
-/

namespace CameraControl

namespace Choice

variable {f : Family}

/-- The buffer of a camera takes all names. -/
theorem cut_name (c : Choice f) : Text.cut c.name = c.name := by
  revert c
  cases f <;> decide +kernel

end Choice

namespace Camera

open CameraControl.Action

variable {cam : Camera} {f : Family} {w : World} {c : Choice f} {index : Int32}
  {options : List String}

/-- No request of a camera that reads an enumerated feature is ordered to fail. -/
structure MayRead (cam : Camera) (f : Feature) (w : World) : Prop where
  index : w.driver.Grants cam.handle f (.read .enumIndex)
  count : w.driver.Grants cam.handle f (.read .enumCount)
  text : ∀ i, w.driver.Grants cam.handle f (.enumText i textBuffer)

/-- A camera shows a value of a family in every way. -/
structure Shows (cam : Camera) (c : Choice f) (w : World) : Prop where
  choice : ((cam.choice f).exec w).1 = .ok c
  index : ((cam.enumIndex f.feature).exec w).1 = .ok c.index
  text : ((cam.enumText f.feature).exec w).1 = .ok c.name
  /-- The text that is shown is a name of the value. -/
  named : Choice.ofName? f c.name = some c
  /-- All options are the names of the family, in the order of their indices. -/
  texts : ((cam.enumTexts f.feature).exec w).1 = .ok ((Choice.all f).map Choice.name)

/-- The member of the family for the index of a feature. -/
theorem choice_of_holds (hgrant : w.driver.Grants cam.handle f.feature (.read .enumIndex))
    (hholds : w.driver.holds? cam.handle f.feature = some (.enum index options)) :
    ((cam.choice f).exec w).1 =
      match Choice.ofIndex? f index with
      | some c => .ok c
      | none => .error (.protocol (.unknownIndex f.feature index f.size)) := by
  have hread : ((cam.enumIndex f.feature).exec w).1 = .ok index :=
    readWord_of_holds (by decide) hgrant hholds rfl
  rw [choice, outcome_bind hread]
  cases Choice.ofIndex? f index <;> rfl

/-- A feature that shows a family is shown by its value in every way. -/
theorem shows_of_holds (hgrants : cam.MayRead f.feature w)
    (hholds : w.driver.holds? cam.handle f.feature = some (.ofChoice f c)) : cam.Shows c w := by
  have hindex : c.index.toInt.toNat = c.val := by rw [c.index_toInt, Int.toNat_natCast]
  have hnonneg : 0 ≤ c.index.toInt := by
    rw [c.index_toInt]
    omega
  have hoption : ((Choice.all f).map Choice.name)[c.index.toInt.toNat]? = some c.name := by
    rw [hindex]
    exact c.names_getElem?
  refine ⟨?_, readWord_of_holds (by decide) hgrants.index hholds rfl, ?_, c.ofName?_name, ?_⟩
  · rw [choice_of_holds hgrants.index hholds, Choice.ofIndex?_index]
  · rw [enumText_of_holds hnonneg hoption hgrants.index (hgrants.text _) hholds, c.cut_name]
  · have hlength : ((Choice.all f).map Choice.name).length < 2147483648 := by
      cases f <;> decide
    have hcut : ((Choice.all f).map Choice.name).map Text.cut =
        (Choice.all f).map Choice.name := by
      rw [List.map_map]
      exact List.map_congr_left fun c _ => c.cut_name
    rw [enumTexts_of_holds hgrants.count hgrants.text hholds, Enumeration.toNat_ofNat hlength,
      List.take_length, hcut]

end Camera

namespace Script

/-- A device that shows a family goes on to do so, whatever a script does but set up its devices:
    a camera with a handle of the device shows one value, as a member of the family, by its index
    and by its name, and lists the names of the family.

    Of other contents a camera makes a member of a family exactly if their index is that of one,
    whatever their options are. -/
theorem family_views_agree (f : Family) :
    (∀ (s : State) (i : Nat) device, s.world.driver.devices[i]? = some device → device.Offers f →
      ∀ steps : List Step,
        (∀ step ∈ steps, step.Within (fun _ => True) fun act => act.sparesDevices = true) →
        let w := (runSteps s steps).2.world
        ∀ cam : Camera, w.driver.deviceIndex? cam.handle = some i → cam.MayRead f.feature w →
          ∃ c : Choice f, cam.Shows c w) ∧
    ∀ (w : World) (cam : Camera) index options,
      w.driver.holds? cam.handle f.feature = some (.enum index options) →
      w.driver.Grants cam.handle f.feature (.read .enumIndex) →
      (0 ≤ index.toInt ∧ index.toInt < f.size →
        ∃ c : Choice f, c.index = index ∧ ((cam.choice f).exec w).1 = .ok c) ∧
      (¬(0 ≤ index.toInt ∧ index.toInt < f.size) →
        ((cam.choice f).exec w).1 = .error (.protocol (.unknownIndex f.feature index f.size))) := by
  refine ⟨fun s i device hdevice hoffers steps hsteps => ?_,
    fun w cam index options hholds hgrant => ⟨?_, ?_⟩⟩
  · intro w cam hcam hread
    -- the value may be another one by now, but the device still shows one
    obtain ⟨device', hdevice', c, hc⟩ :=
      (Driver.offers_lasting i f).runSteps hsteps ⟨device, hdevice, hoffers⟩
    have hholds : w.driver.holds? cam.handle f.feature = some (.ofChoice f c) := by
      rw [Driver.holds?, Driver.device?, hcam, Option.bind_some, hdevice', Option.bind_some, hc]
    exact ⟨c, Camera.shows_of_holds hread hholds⟩
  · intro hrange
    obtain ⟨c, rfl⟩ := Choice.exists_of_index (f := f) hrange
    refine ⟨c, rfl, ?_⟩
    rw [Camera.choice_of_holds hgrant hholds, Choice.ofIndex?_index]
  · intro hrange
    rw [Camera.choice_of_holds hgrant hholds, Choice.ofIndex?_eq_none hrange]

/-- A trigger mode is written by its index, by an index that there is not, and by its name; then a
    write is ordered to fail. A device that tells an index of its own invention is not believed. -/
theorem family_views_agree_trigger :
    let devices := [(Device.bare "A").put .triggerMode (.ofChoice .triggerMode ⟨0, by decide⟩),
      (Device.bare "A").put .triggerMode (.enum 7 ["Internal"])]
    let steps := [Step.openCamera "c" 0, .openCamera "d" 1,
      .camera "c" (.write .triggerMode (.enumIndex 4)),
      .camera "c" (.write .triggerMode (.enumIndex 7)),
      .camera "c" (.write .triggerMode (.enumText "External Start")),
      .fail "AT_SetEnumIndex" Status.timedOut none,
      .camera "c" (.setChoice .triggerMode ⟨6, by decide⟩)]
    let w := (runSteps (start .direct devices) steps).2.world
    let c : Camera := ⟨0, 0, 100, none⟩
    let d : Camera := ⟨1, 1, 101, none⟩
    (∃ mode : Choice .triggerMode, c.Shows mode w ∧ mode.name = "External Start") ∧
      ((d.choice .triggerMode).exec w).1 =
        .error (.protocol (.unknownIndex .triggerMode 7 7)) := by
  intro devices steps w c d
  have hw : w = (runSteps (start .direct devices) steps).2.world := rfl
  have hread : ∀ cam : Camera, cam.MayRead .triggerMode w := by
    have hfailures : w.driver.failures = [⟨.setEnumIndex, none, Status.timedOut⟩] := by
      rw [hw]
      decide +kernel
    intro cam
    refine ⟨?_, ?_, fun i => ?_⟩ <;> rw [Driver.Grants, Driver.orderedFailure?, hfailures] <;> rfl
  have hsteps : ∀ step ∈ steps, step.Within (fun _ => True) fun act =>
      act.sparesDevices = true := by
    decide +kernel
  have hshown : ((c.enumText .triggerMode).exec w).1 = .ok "External Start" := by
    rw [hw]
    decide +kernel
  have hindex : w.driver.deviceIndex? c.handle = some 0 := by rw [hw]; decide +kernel
  have hodd : w.driver.holds? d.handle .triggerMode = some (.enum 7 ["Internal"]) := by
    rw [hw]
    decide +kernel
  obtain ⟨hagree, hother⟩ := family_views_agree .triggerMode
  obtain ⟨mode, hmode⟩ := hagree (start .direct devices) 0 _ rfl ⟨⟨0, by decide⟩, by decide +kernel⟩
    steps hsteps c hindex (hread c)
  refine ⟨⟨mode, hmode, Except.ok.inj (hmode.text.symm.trans hshown)⟩, ?_⟩
  exact (hother w d 7 _ hodd (hread d).index).2 (by decide)

end Script

end CameraControl
