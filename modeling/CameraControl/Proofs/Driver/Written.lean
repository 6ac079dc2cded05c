import CameraControl.Proofs.Driver.Frames
import CameraControl.Proofs.Driver.Make

/-
  What a write changes.

  A write that takes effect replaces the contents of one feature of one device and leaves everything
  else as it is: the other features, the other devices, every range, every list of options, every
  mark of being read-only, and the parts of the state that are no devices. `Written` says so;
  keys are compared without blanks, so no other spelling leads to another feature.
-/

namespace CameraControl.Driver

/-- A write took effect between two states and changed one cell. -/
structure Written (d d' : Driver) (handle : Int32) (key : String) (v : Write) : Prop where
  /-- What is not a device stays, and the call is logged. -/
  rest : d' = { d with devices := d'.devices, log := v.function :: d.log }
  length : d'.devices.length = d.devices.length
  /-- The cell of the write has taken the value. -/
  stored : ∃ c c', d.contentAt? handle key = some c ∧ c.write v = .ok c' ∧ c.Takes v c' ∧
    d'.contentAt? handle key = some c'
  /-- Devices keep their make, and every other cell keeps its contents. -/
  others : ∀ i device, d.devices[i]? = some device → ∃ device', d'.devices[i]? = some device' ∧
    device.SameMake device' ∧ ∀ key',
      d.deviceIndex? handle ≠ some i ∨ Text.squeeze key' ≠ Text.squeeze key →
        device'.content? key' = device.content? key'

variable {d : Driver} {handle : Int32} {key : String} {v : Write}

theorem written_of_takesEffect (h : d.TakesEffect (.feature handle key (.write v))) :
    Written d (d.step (.feature handle key (.write v))).driver handle key v := by
  obtain ⟨e, he, hstep⟩ := step_of_takesEffect (fun _ => Call.noConfusion) h
  rw [hstep]
  cases he with
  | answered hread => cases hread
  | @wrote _ _ _ i device device' hopen hwrite =>
    obtain ⟨hindex, hdevice, hbefore⟩ := device?_of_opened? hopen
    obtain ⟨c, c', hc, hcontent, rfl⟩ := Device.write_eq_ok hwrite
    have hset := device?_setDevice (d.logged (.feature handle key (.write v))) i
      (device.setContent key c') handle
    rw [if_pos hindex, hbefore, Option.map_some] at hset
    refine ⟨rfl, List.length_set, ⟨c, c', ?_, hcontent, Content.takes_of_write hcontent, ?_⟩, ?_⟩
    · have hbefore' : d.device? handle = some device := hbefore
      rw [contentAt?, hbefore']
      exact hc
    · rw [contentAt?, hset, Option.bind_some, Device.content?_setContent, if_pos rfl]
    · intro j other hother
      show ∃ device', (d.devices.set i (device.setContent key c'))[j]? = some device' ∧ _
      by_cases hij : i = j
      -- the device of the handle
      · subst hij
        obtain rfl : device = other := Option.some.inj (hdevice.symm.trans hother)
        have hlt : i < d.devices.length := (List.getElem?_eq_some_iff.mp hother).1
        refine ⟨_, List.getElem?_set_self hlt, Device.sameMake_write hwrite, fun key' hkey' => ?_⟩
        have hne : Text.squeeze key' ≠ Text.squeeze key :=
          hkey'.resolve_left fun hindex' => hindex' hindex
        rw [Device.content?_setContent, if_neg (Ne.symm hne)]
      · refine ⟨other, ?_, Device.SameMake.refl other, fun _ _ => rfl⟩
        rw [List.getElem?_set_ne hij]
        exact hother

/-- The cell holds what its contents make of the write. -/
theorem Written.contentAt?_eq {d' : Driver} {c c' : Content} (h : Written d d' handle key v)
    (hbefore : d.contentAt? handle key = some c) (hwrite : c.write v = .ok c') :
    d'.contentAt? handle key = some c' := by
  obtain ⟨c₀, c₁, hbefore₀, hwrite₀, -, hafter⟩ := h.stored
  obtain rfl := Option.some.inj (hbefore₀.symm.trans hbefore)
  obtain rfl := Except.ok.inj (hwrite₀.symm.trans hwrite)
  exact hafter

end CameraControl.Driver
