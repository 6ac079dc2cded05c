import CameraControl.Proofs.Driver.Ranges
import CameraControl.Proofs.Driver.Snapshot

/-
  Features that show a family.

  The simulated driver shows a family as an enumerated feature: its index is that of a value, and
  its options are the names of all values in order. Writes by index and by name move it from one
  value to another, commands are about other features, so a device that shows a family under its
  feature shows it after every call: `offers_lasting`.
-/

namespace CameraControl

/-! ## Values and their names -/

namespace Choice

variable {f : Family} {i : Int32}

theorem index_toInt (c : Choice f) : c.index.toInt = c.val := by
  revert c
  cases f <;> decide

/-- The index of a value is the only one that stands for it. -/
theorem ofIndex?_eq_some_iff {c : Choice f} : ofIndex? f i = some c ↔ c.index = i := by
  constructor
  · intro h
    unfold ofIndex? at h
    split at h
    · next hrange =>
      cases h
      apply Int32.toInt_inj.mp
      rw [index_toInt]
      exact Int.toNat_of_nonneg hrange.1
    · cases h
  · rintro rfl
    exact ofIndex?_index c

theorem ofIndex?_eq_none (h : ¬(0 ≤ i.toInt ∧ i.toInt < f.size)) : ofIndex? f i = none := by
  refine dif_neg fun hrange => h ⟨hrange.1, ?_⟩
  have hlt : i.toInt.toNat < f.size := hrange.2
  omega

theorem exists_of_index (h : 0 ≤ i.toInt ∧ i.toInt < f.size) : ∃ c : Choice f, c.index = i := by
  have hlt : i.toInt.toNat < f.size := by omega
  exact ⟨_, ofIndex?_eq_some_iff.mp (dif_pos ⟨h.1, hlt⟩)⟩

/-- A value is found by its name. -/
theorem ofName?_name (c : Choice f) : ofName? f c.name = some c := ofName?_eq_some_iff.mpr rfl

/-- The options of a feature that shows the family. -/
theorem names_getElem? (c : Choice f) : ((all f).map name)[c.val]? = some c.name := by
  rw [List.getElem?_map, all, List.getElem?_eq_getElem (by simp)]
  simp

end Choice

/-! ## Contents and devices -/

/-- A write to contents that show a family leaves them showing it. -/
theorem Content.ofChoice_write {f : Family} {c : Choice f} {v : Write} {content : Content}
    (h : (Content.ofChoice f c).write v = .ok content) : ∃ c', content = .ofChoice f c' := by
  have hlength : ((Choice.all f).map Choice.name).length = f.members.length := by
    rw [List.length_map, Choice.all, List.length_finRange]
  cases v with
  | enumIndex i =>
    simp only [ofChoice, write, hlength] at h
    split at h
    · next hrange =>
      obtain ⟨c', rfl⟩ : ∃ c' : Choice f, c'.index = i := Choice.exists_of_index (by
        have hlt : i.toInt.toNat < f.size := hrange.2
        omega)
      exact ⟨c', (Except.ok.inj h).symm⟩
    · cases h
  | enumText s =>
    simp only [ofChoice, write] at h
    split at h
    · cases h
    · split at h
      · next pos hfind =>
        obtain ⟨hlt, -⟩ := List.findIdx?_eq_some_iff_getElem.mp hfind
        exact ⟨⟨pos, hlength ▸ hlt⟩, (Except.ok.inj h).symm⟩
      · cases h
  | _ => cases h

namespace Device

variable {device device' : Device} {f : Family} {key : String}

/-- A device shows a family under its feature. -/
def Offers (device : Device) (f : Family) : Prop :=
  ∃ c, device.content? f.feature.key = some (.ofChoice f c)

theorem offers_write {v : Write} (hoffers : device.Offers f)
    (h : device.write key v = .ok device') : device'.Offers f := by
  obtain ⟨c, hc⟩ := hoffers
  obtain ⟨before, after, hbefore, hwrite, rfl⟩ := write_eq_ok h
  unfold Offers
  rw [content?_setContent]
  by_cases hkey : Text.squeeze key = Text.squeeze f.feature.key
  · have hcontent : some before = some (Content.ofChoice f c) := by
      rw [← hbefore, ← hc, content?, content?, hkey]
    obtain rfl := Option.some.inj hcontent
    obtain ⟨c', rfl⟩ := Content.ofChoice_write hwrite
    rw [if_pos hkey]
    exact ⟨c', rfl⟩
  · rw [if_neg hkey]
    exact ⟨c, hc⟩

/-- The flag that commands switch shows no family. -/
theorem offers_command (hoffers : device.Offers f) (h : device.command key = .ok device') :
    device'.Offers f := by
  rcases command_eq_ok h with ⟨-, rfl⟩ | ⟨b, -, rfl⟩
  · exact hoffers
  · obtain ⟨c, hc⟩ := hoffers
    have hother : Text.squeeze Feature.cameraAcquiring.key ≠ Text.squeeze f.feature.key := by
      intro heq
      have hfeature := Feature.squeeze_key_injective heq
      revert hfeature
      cases f <;> decide
    refine ⟨c, ?_⟩
    rw [content?_setContent, if_neg hother]
    exact hc

end Device

namespace Driver

variable {d : Driver} {i : Nat} {P : Device → Prop}

/-- A call keeps of one device what writes and commands keep of it. -/
theorem exists_device_step (hd : ∃ device, d.devices[i]? = some device ∧ P device) (c : Call)
    (hwrite : ∀ {key v device device'}, P device → device.write key v = .ok device' → P device')
    (hcommand : ∀ {key device device'}, P device → device.command key = .ok device' →
      P device') :
    ∃ device, (d.step c).driver.devices[i]? = some device ∧ P device := by
  obtain ⟨device, hdevice, hholds⟩ := hd
  -- a call replaces one device at most, which is this one or another
  have hset : ∀ {j before after}, d.devices[j]? = some before → (P before → P after) →
      ∃ device, (d.devices.set j after)[i]? = some device ∧ P device := by
    intro j before after hbefore hkeeps
    by_cases hj : j = i
    · subst hj
      obtain rfl : device = before := Option.some.inj (hdevice.symm.trans hbefore)
      have hlt : j < d.devices.length := (List.getElem?_eq_some_iff.mp hdevice).1
      exact ⟨after, List.getElem?_set_self hlt, hkeeps hholds⟩
    · exact ⟨device, (List.getElem?_set_ne hj).trans hdevice, hholds⟩
  rcases step_cases d c with ⟨code, -, hstep⟩ | ⟨e, he, hstep⟩
  · rw [hstep]
    exact ⟨device, hdevice, hholds⟩
  · rw [hstep]
    cases he with
    | wrote hopen hw => exact hset (opened?_eq_ok hopen).2 fun h => hwrite h hw
    | commanded hopen hc => exact hset (opened?_eq_ok hopen).2 fun h => hcommand h hc
    | _ => exact ⟨device, hdevice, hholds⟩

/-- A device that shows a family shows it whatever calls are made. -/
theorem offers_lasting (i : Nat) (f : Family) :
    Lasting (fun act => act.sparesDevices = true) fun d =>
      ∃ device, d.devices[i]? = some device ∧ device.Offers f where
  step := fun hd c => exists_device_step hd c Device.offers_write Device.offers_command
  script := by
    intro d act hd hact
    rw [devices_script hact]
    exact hd

end Driver

end CameraControl
