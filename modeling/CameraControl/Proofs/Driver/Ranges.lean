import CameraControl.Proofs.Driver.Devices
import CameraControl.Proofs.Driver.Make

/-
  The ranges of numbers.

  A number is written only where it is in the range of its feature, with one exception: "not a
  number" is neither below nor above any range, so the check of a floating-point feature lets it
  pass. What calls keep of a device is that its numbers are within their ranges but for that value,
  `Device.Bounded`; they are within them altogether as long as it is not written,
  `Device.InRange`.
-/

namespace CameraControl

/-- Whether one number is at most another; "not a number" compares with nothing. -/
def Binary64.le (a b : Binary64) : Bool :=
  match a.key?, b.key? with
  | some x, some y => x ≤ y
  | _, _ => false

/-- Of two numbers, the second is at most the first unless it is above it. -/
theorem Binary64.le_of_lt_eq_false {a b : Binary64} (ha : a.isNan = false) (hb : b.isNan = false)
    (h : a.lt b = false) : b.le a = true := by
  have hkey {x : Binary64} (hx : x.isNan = false) : ∃ k, x.key? = some k := by
    cases x with
    | nan negative => cases hx
    | infinity negative => exact ⟨_, rfl⟩
    | finite negative m => exact ⟨_, rfl⟩
  obtain ⟨x, hx⟩ := hkey ha
  obtain ⟨y, hy⟩ := hkey hb
  simp only [lt, hx, hy, decide_eq_false_iff_not, Int.not_lt] at h
  simp only [le, hx, hy, decide_eq_true_eq]
  exact h

/-- Nothing compares with "not a number". -/
theorem Binary64.isNan_of_le {a b : Binary64} (h : a.le b = true) :
    a.isNan = false ∧ b.isNan = false := by
  cases a with
  | nan negative => cases h
  | _ =>
    cases b with
    | nan negative => cases h
    | _ => exact ⟨rfl, rfl⟩

namespace Content

/-- A number is within the range of its feature. -/
def InRange : Content → Prop
  | int value min max => min ≤ value ∧ value ≤ max
  | float value min max => min.le value = true ∧ value.le max = true
  | _ => True

instance : DecidablePred InRange
  | int value min max => inferInstanceAs (Decidable (min ≤ value ∧ value ≤ max))
  | float value min max => inferInstanceAs (Decidable (min.le value = true ∧ value.le max = true))
  | bool _ | enum _ _ | text _ | command => .isTrue trivial

/-- A number is within the range of its feature, or it is "not a number" and the range is proper. -/
def Bounded : Content → Prop
  | float value min max => min.isNan = false ∧ max.isNan = false ∧
      (value.isNan = true ∨ min.le value = true ∧ value.le max = true)
  | c => c.InRange

theorem InRange.bounded {c : Content} (h : c.InRange) : c.Bounded := by
  cases c with
  | float value min max =>
    exact ⟨(Binary64.isNan_of_le h.1).1, (Binary64.isNan_of_le h.2).2, .inr h⟩
  | _ => exact h

end Content

/-- A write of "not a number". -/
def Write.isNan : Write → Bool
  | float v => v.isNan
  | _ => false

namespace Content

/-- What a write leaves is within the range, unless "not a number" was written. -/
theorem bounded_of_write {c c' : Content} {w : Write} (hc : c.Bounded) (h : c.write w = .ok c') :
    c'.Bounded ∧ (w.isNan = false → c'.InRange) := by
  unfold write at h
  split at h
  · split at h
    · cases h
    · next hrange =>
      cases h
      rw [not_or, Int64.not_lt, Int64.not_lt] at hrange
      exact ⟨hrange, fun _ => hrange⟩
  · split at h
    · cases h
    · next value min max v hrange =>
      cases h
      rw [not_or, Bool.not_eq_true, Bool.not_eq_true] at hrange
      obtain ⟨hmin, hmax, -⟩ := hc
      have hin (hv : v.isNan = false) : min.le v = true ∧ v.le max = true :=
        ⟨Binary64.le_of_lt_eq_false hv hmin hrange.1, Binary64.le_of_lt_eq_false hmax hv hrange.2⟩
      refine ⟨⟨hmin, hmax, ?_⟩, hin⟩
      cases hv : v.isNan with
      | true => exact .inl rfl
      | false => exact .inr (hin hv)
  · cases h
    exact ⟨trivial, fun _ => trivial⟩
  · split at h
    · cases h
      exact ⟨trivial, fun _ => trivial⟩
    · cases h
  · split at h
    · cases h
    · split at h
      · cases h
        exact ⟨trivial, fun _ => trivial⟩
      · cases h
  · split at h
    · cases h
    · cases h
      exact ⟨trivial, fun _ => trivial⟩
  · cases h

end Content

namespace Device

/-- All numbers of a device are within their ranges. -/
def InRange (device : Device) : Prop := ∀ p ∈ device.features, p.2.InRange

instance (device : Device) : Decidable device.InRange :=
  inferInstanceAs (Decidable (∀ p ∈ device.features, p.2.InRange))

/-- All numbers of a device are within their ranges or "not a number". -/
def Bounded (device : Device) : Prop := ∀ p ∈ device.features, p.2.Bounded

variable {device device' : Device} {key : String} {w : Write}

theorem InRange.bounded (h : device.InRange) : device.Bounded := fun p hp => (h p hp).bounded

/-- A property of all contents is one of the new contents and of the old ones. -/
theorem forall_setContent {P : Content → Prop} (h : ∀ p ∈ device.features, P p.2) (key : String)
    {c : Content} (hc : P c) : ∀ p ∈ (device.setContent key c).features, P p.2 := by
  intro p hp
  rcases Entries.mem_put hp with rfl | hp
  · exact hc
  · exact h p hp

theorem bounded_write (hdevice : device.Bounded) (h : device.write key w = .ok device') :
    device'.Bounded := by
  obtain ⟨c, c', hc, hwrite, rfl⟩ := write_eq_ok h
  have hbounded : c.Bounded := hdevice _ (Entries.mem_of_get? hc)
  exact forall_setContent hdevice key (Content.bounded_of_write hbounded hwrite).1

theorem inRange_write (hdevice : device.InRange) (hw : w.isNan = false)
    (h : device.write key w = .ok device') : device'.InRange := by
  obtain ⟨c, c', hc, hwrite, rfl⟩ := write_eq_ok h
  have hbounded : c.Bounded := (hdevice _ (Entries.mem_of_get? hc)).bounded
  exact forall_setContent hdevice key ((Content.bounded_of_write hbounded hwrite).2 hw)

/-- A command writes no number. -/
theorem forall_command {P : Content → Prop} (hbool : ∀ b, P (.bool b))
    (hdevice : ∀ p ∈ device.features, P p.2) (h : device.command key = .ok device') :
    ∀ p ∈ device'.features, P p.2 := by
  rcases command_eq_ok h with ⟨-, rfl⟩ | ⟨b, -, rfl⟩
  · exact hdevice
  · exact forall_setContent hdevice _ (hbool b)

end Device

/-- Whether an operation is a write of "not a number". -/
def Operation.writesNan : Operation → Bool
  | call (.feature _ _ (.write w)) => w.isNan
  | _ => false

namespace Driver

variable {d : Driver}

/-- Acts of scripting that spare the devices leave them as they are. -/
theorem devices_script {act : Scripting} (hact : act.sparesDevices = true) :
    (d.script act).devices = d.devices := by
  cases act with
  | putKey | putReadOnly | remove => cases hact
  | _ => rfl

/-- All devices stay bounded, whatever calls are made. -/
theorem bounded_lasting :
    Lasting (fun act => act.sparesDevices = true) fun d => ∀ device ∈ d.devices, device.Bounded where
  step := fun hd c => forall_devices_step hd c
    (fun _ _ _ _ _ _ h hw => Device.bounded_write h hw)
    fun _ _ _ _ _ h hc => Device.forall_command (fun _ => trivial) h hc
  script := by
    intro d act hd hact
    rw [devices_script hact]
    exact hd

theorem inRange_operate (hd : ∀ device ∈ d.devices, device.InRange) {op : Operation}
    (hspared : op.sparesDevices = true) (hnan : op.writesNan = false) :
    ∀ device ∈ (d.operate op).devices, device.InRange := by
  cases op with
  | call c =>
    refine forall_devices_step hd c ?_ fun _ _ _ _ _ h hc =>
      Device.forall_command (fun _ => trivial) h hc
    rintro handle key w rfl device device' h hw
    exact Device.inRange_write h hnan hw
  | script act =>
    rw [operate, devices_script hspared]
    exact hd

/-- All numbers stay within their ranges in a run that writes no "not a number". -/
theorem inRange_run (hd : ∀ device ∈ d.devices, device.InRange) {ops : List Operation}
    (hspared : ∀ op ∈ ops, op.sparesDevices = true) (hnan : ∀ op ∈ ops, op.writesNan = false) :
    ∀ device ∈ (d.run ops).devices, device.InRange := by
  induction ops generalizing d with
  | nil => exact hd
  | cons op rest ih =>
    obtain ⟨hop, hspared⟩ := List.forall_mem_cons.mp hspared
    obtain ⟨hvalue, hnan⟩ := List.forall_mem_cons.mp hnan
    exact ih (inRange_operate hd hop hvalue) hspared hnan

end Driver

end CameraControl
