import CameraControl.Proofs.Driver.Content
import CameraControl.Proofs.Driver.Frames

/-
  What calls never change about a device.

  The shape of contents is their kind, with the range of a number and the options of an enumerated
  feature; the make of a device is the shapes of its features and which of them callers may only
  read. Writes and commands replace a value by one of the same shape, so every run of calls keeps
  the make of every device, `calls_keep_make`. The flag of a running acquisition, where callers may
  only read it, follows the commands that start and stop acquisitions and nothing else.
-/

namespace CameraControl

/-! ## Shapes -/

/-- What no call changes about the contents of a feature. -/
inductive Shape where
  | int (min max : Int64)
  | float (min max : Binary64)
  | bool
  | enum (options : List String)
  | text
  | command
  deriving DecidableEq

namespace Content

/-- Contents without their value. -/
def shape : Content → Shape
  | int _ min max => .int min max
  | float _ min max => .float min max
  | bool _ => .bool
  | enum _ options => .enum options
  | text _ => .text
  | command => .command

/-- A write replaces the value only. -/
theorem shape_write {c c' : Content} {w : Write} (h : c.write w = .ok c') :
    c'.shape = c.shape := by
  cases takes_of_write h with
  | _ => rfl

/-- Contents of the shape of a truth value are one. -/
theorem eq_bool_of_shape {c : Content} (h : c.shape = .bool) : ∃ b, c = bool b := by
  cases c with
  | bool b => exact ⟨b, rfl⟩
  | _ => cases h

end Content

namespace Device

/-! ## Makes -/

/-- Two states of a device are of the same make: they have the same features, each of the same
    shape, and callers may only read the same of them. -/
structure SameMake (device device' : Device) : Prop where
  keys : Entries.keys device'.features = Entries.keys device.features
  readOnly : device'.readOnly = device.readOnly
  shape : ∀ key, (device'.content? key).map Content.shape = (device.content? key).map Content.shape

variable {device device' device'' : Device} {key : String} {c c' : Content}

theorem SameMake.refl (device : Device) : device.SameMake device := ⟨rfl, rfl, fun _ => rfl⟩

theorem SameMake.trans (h : device.SameMake device') (h' : device'.SameMake device'') :
    device.SameMake device'' where
  keys := h'.keys.trans h.keys
  readOnly := h'.readOnly.trans h.readOnly
  shape := fun key => (h'.shape key).trans (h.shape key)

theorem SameMake.isReadOnly (h : device.SameMake device') (key : String) :
    device'.isReadOnly key = device.isReadOnly key := by
  unfold Device.isReadOnly
  rw [h.readOnly]

/-- A truth value stays one. -/
theorem SameMake.bool {b : Bool} (h : device.SameMake device')
    (hcontent : device.content? key = some (.bool b)) :
    ∃ b', device'.content? key = some (.bool b') := by
  have hshape : (device'.content? key).map Content.shape = some .bool := by
    rw [h.shape, hcontent]
    rfl
  obtain ⟨c, hc, hbool⟩ := Option.map_eq_some_iff.mp hshape
  obtain ⟨b', rfl⟩ := Content.eq_bool_of_shape hbool
  exact ⟨b', hc⟩

/-- Other contents of the same shape, in the place of a feature that is there. -/
theorem sameMake_setContent (hcontent : device.content? key = some c)
    (hshape : c'.shape = c.shape) : device.SameMake (device.setContent key c') where
  keys := Entries.keys_put_of_mem c' (Entries.mem_keys_of_get? hcontent)
  readOnly := rfl
  shape := by
    intro key'
    rw [content?_setContent]
    by_cases hkey : Text.squeeze key = Text.squeeze key'
    · have hcontent' : device.content? key' = some c := by
        rw [content?, ← hkey]
        exact hcontent
      rw [if_pos hkey, hcontent', Option.map_some, Option.map_some, hshape]
    · rw [if_neg hkey]

theorem sameMake_write {w : Write} (h : device.write key w = .ok device') :
    device.SameMake device' := by
  obtain ⟨c, c', hcontent, hwrite, rfl⟩ := write_eq_ok h
  exact sameMake_setContent hcontent (Content.shape_write hwrite)

/-- A feature that callers may only read keeps its contents whatever is written. -/
theorem content?_write_of_readOnly {key' : String} {w : Write}
    (hreadOnly : device.isReadOnly key' = true) (h : device.write key w = .ok device') :
    device'.content? key' = device.content? key' := by
  obtain ⟨c, c', hcontent, -, rfl⟩ := write_eq_ok h
  rw [content?_setContent, if_neg]
  intro hkey
  -- the feature that was written would be the one that callers may only read
  have hwritten : device.isReadOnly key = true := by
    rw [isReadOnly, hkey]
    exact hreadOnly
  rw [write, if_pos hwritten] at h
  cases h

/-! ## Commands -/

/-- What a command does to the flag of a running acquisition, if it is about acquisitions. -/
def switched? (key : String) : Option Bool :=
  if Text.squeeze key = Text.squeeze Feature.acquisitionStart.key then some true
  else if Text.squeeze key = Text.squeeze Feature.acquisitionStop.key then some false
  else none

/-- A command switches the flag of a running acquisition or does nothing. -/
theorem command_eq_ok (h : device.command key = .ok device') :
    (switched? key = none ∧ device' = device) ∨
      ∃ b, switched? key = some b ∧
        device' = device.setContent Feature.cameraAcquiring.key (.bool b) := by
  unfold command at h
  unfold switched?
  split at h
  · split at h
    · next hstart =>
      cases h
      exact .inr ⟨true, if_pos hstart, rfl⟩
    · next hstart =>
      rw [if_neg hstart]
      split at h
      · next hstop =>
        cases h
        exact .inr ⟨false, if_pos hstop, rfl⟩
      · next hstop =>
        cases h
        exact .inl ⟨if_neg hstop, rfl⟩
  · cases h

/-- On a device that has the flag of a running acquisition, a command keeps the make and leaves the
    flag as it was switched. -/
theorem sameMake_command {b : Bool}
    (hflag : device.content? Feature.cameraAcquiring.key = some (.bool b))
    (h : device.command key = .ok device') :
    device.SameMake device' ∧
      device'.content? Feature.cameraAcquiring.key = some (.bool ((switched? key).getD b)) := by
  rcases command_eq_ok h with ⟨hswitch, rfl⟩ | ⟨b', hswitch, rfl⟩
  · rw [hswitch]
    exact ⟨SameMake.refl device', hflag⟩
  · refine ⟨sameMake_setContent hflag rfl, ?_⟩
    rw [hswitch, content?_setContent, if_pos rfl]
    rfl

end Device

/-! ## Runs -/

/-- Acts of scripting that leave the devices alone. -/
def Scripting.sparesDevices : Scripting → Bool
  | putKey _ _ _ | putReadOnly _ _ _ | remove _ _ => false
  | deviceCount _ | fail _ _ | failForFeature _ _ _ | failOpen _ _ | clearFailures
  | zeroSizeWaits _ => true

/-- Calls, and the acts of scripting that leave the devices alone. -/
def Operation.sparesDevices : Operation → Bool
  | call _ => true
  | script s => s.sparesDevices

namespace Driver

variable {d : Driver} {i : Nat} {device : Device}

/-- How an operation switches the flag of a running acquisition on a device: by a command that
    takes effect on a handle of the device. -/
def switching? (d : Driver) (i : Nat) : Operation → Option Bool
  | .call (.feature handle key .command) =>
    if d.deviceIndex? handle = some i ∧ d.TakesEffect (.feature handle key .command) then
      Device.switched? key
    else none
  | _ => none

/-- How the operations of a run switch the flag, in order. -/
def switchings (d : Driver) (i : Nat) : List Operation → List Bool
  | [] => []
  | op :: rest => (d.switching? i op).toList ++ (d.operate op).switchings i rest

/-- What an operation keeps of a device: its make and, where callers may only read it, the flag of
    a running acquisition, unless the operation switches it. -/
structure Keeps (d : Driver) (i : Nat) (op : Operation) (device device' : Device) : Prop where
  device? : (d.operate op).devices[i]? = some device'
  make : device.SameMake device'
  flag : ∀ b, device.content? Feature.cameraAcquiring.key = some (.bool b) →
    device.isReadOnly Feature.cameraAcquiring.key = true →
    device'.content? Feature.cameraAcquiring.key = some (.bool ((d.switching? i op).getD b))

/-- Only a command that takes effect switches the flag. -/
theorem switching?_of_not_takesEffect {c : Call} (h : ¬d.TakesEffect c) :
    d.switching? i (.call c) = none := by
  unfold switching?
  split
  · next hcall =>
    cases hcall
    rw [if_neg]
    intro heffect
    exact h heffect.2
  · rfl

theorem switching?_of_ne_command {c : Call} (h : ∀ handle key, c ≠ .feature handle key .command) :
    d.switching? i (.call c) = none := by
  unfold switching?
  split
  · next handle key hcall =>
    cases hcall
    exact absurd rfl (h handle key)
  · rfl

/-- Opening leaves the devices alone. -/
theorem devices_open (d : Driver) (index : Int32) :
    (d.step (.open index)).driver.devices = d.devices := by
  rcases step_cases d (.open index) with ⟨code, -, hstep⟩ | ⟨e, he, hstep⟩
  · rw [hstep]
    rfl
  · rw [hstep]
    cases he
    rfl

/-! ### Steps -/

/-- An operation that leaves a device alone and does not switch its flag keeps all of it. -/
theorem keeps_of_eq {op : Operation} (hdevice : (d.operate op).devices[i]? = some device)
    (hswitch : d.switching? i op = none) : d.Keeps i op device device where
  device? := hdevice
  make := Device.SameMake.refl device
  flag := by
    intro b hflag _
    rw [hswitch]
    exact hflag

/-- A write on a handle of the device at an index. -/
theorem keeps_wrote {own : Nat} {before after : Device} {handle : Int32} {key : String} {w : Write}
    (hdevice : d.devices[i]? = some device) (hbefore : d.devices[own]? = some before)
    (hwrite : before.write key w = .ok after)
    (hdevices : (d.operate (.call (.feature handle key (.write w)))).devices =
      d.devices.set own after) :
    ∃ device', d.Keeps i (.call (.feature handle key (.write w))) device device' := by
  by_cases hown : own = i
  · subst hown
    obtain rfl : device = before := Option.some.inj (hdevice.symm.trans hbefore)
    have hlt : own < d.devices.length := (List.getElem?_eq_some_iff.mp hdevice).1
    refine ⟨after, ⟨?_, Device.sameMake_write hwrite, ?_⟩⟩
    · rw [hdevices, List.getElem?_set_self hlt]
    · intro b hflag hreadOnly
      rw [Device.content?_write_of_readOnly hreadOnly hwrite]
      exact hflag
  · refine ⟨device, keeps_of_eq ?_ rfl⟩
    rw [hdevices, List.getElem?_set_ne hown, hdevice]

/-- A command on a handle of the device at an index. -/
theorem keeps_commanded {own : Nat} {before after : Device} {handle : Int32} {key : String}
    {b : Bool} (hdevice : d.devices[i]? = some device)
    (hflag : device.content? Feature.cameraAcquiring.key = some (.bool b))
    (hindex : d.deviceIndex? handle = some own) (hbefore : d.devices[own]? = some before)
    (heffect : d.TakesEffect (.feature handle key .command))
    (hcommand : before.command key = .ok after)
    (hdevices : (d.operate (.call (.feature handle key .command))).devices =
      d.devices.set own after) :
    ∃ device', d.Keeps i (.call (.feature handle key .command)) device device' := by
  by_cases hown : own = i
  · subst hown
    obtain rfl : device = before := Option.some.inj (hdevice.symm.trans hbefore)
    have hlt : own < d.devices.length := (List.getElem?_eq_some_iff.mp hdevice).1
    have hswitch : d.switching? own (.call (.feature handle key .command)) =
        Device.switched? key := if_pos ⟨hindex, heffect⟩
    refine ⟨after, ⟨?_, (Device.sameMake_command hflag hcommand).1, ?_⟩⟩
    · rw [hdevices, List.getElem?_set_self hlt]
    · intro b hflag _
      rw [hswitch]
      exact (Device.sameMake_command hflag hcommand).2
  · refine ⟨device, keeps_of_eq ?_ (if_neg ?_)⟩
    · rw [hdevices, List.getElem?_set_ne hown, hdevice]
    · rintro ⟨hhandle, -⟩
      exact hown (Option.some.inj (hindex.symm.trans hhandle))

/-- One call on a driver whose device has the flag of a running acquisition. -/
theorem keeps_call {b : Bool} (hdevice : d.devices[i]? = some device)
    (hflag : device.content? Feature.cameraAcquiring.key = some (.bool b)) (c : Call) :
    ∃ device', d.Keeps i (.call c) device device' := by
  by_cases hopen : ∃ index, c = .open index
  · obtain ⟨index, rfl⟩ := hopen
    refine ⟨device, keeps_of_eq ?_ rfl⟩
    show (d.step (.open index)).driver.devices[i]? = some device
    rw [devices_open, hdevice]
  by_cases heffect : d.TakesEffect c
  · have hne : ∀ index, c ≠ .open index := fun index h => hopen ⟨index, h⟩
    obtain ⟨e, he, hstep⟩ := step_of_takesEffect hne heffect
    have hdriver : d.operate (.call c) = e.driver := by
      show (d.step c).driver = e.driver
      rw [hstep]
    cases he with
    | wrote hopened hwrite =>
      obtain ⟨-, hbefore, -⟩ := device?_of_opened? hopened
      exact keeps_wrote hdevice hbefore hwrite (by rw [hdriver]; rfl)
    | commanded hopened hcommand =>
      obtain ⟨hindex, hbefore, -⟩ := device?_of_opened? hopened
      exact keeps_commanded hdevice hflag hindex hbefore heffect hcommand (by rw [hdriver]; rfl)
    | opened => exact absurd rfl (hne _)
    | answered hread =>
      refine ⟨device, keeps_of_eq (by rw [hdriver]; exact hdevice) ?_⟩
      apply switching?_of_ne_command
      intro handle key hcall
      cases hcall
      cases hread
    | _ => exact ⟨device, keeps_of_eq (by rw [hdriver]; exact hdevice) rfl⟩
  -- a call that does not take effect is only logged
  · refine ⟨device, keeps_of_eq ?_ (switching?_of_not_takesEffect heffect)⟩
    show (d.step c).driver.devices[i]? = some device
    rw [step_of_not_takesEffect heffect]
    exact hdevice

/-- One operation that spares the devices. -/
theorem keeps_operate {b : Bool} {op : Operation} (hop : op.sparesDevices = true)
    (hdevice : d.devices[i]? = some device)
    (hflag : device.content? Feature.cameraAcquiring.key = some (.bool b)) :
    ∃ device', d.Keeps i op device device' := by
  cases op with
  | call c => exact keeps_call hdevice hflag c
  | script s =>
    refine ⟨device, keeps_of_eq ?_ rfl⟩
    cases s with
    | putKey | putReadOnly | remove => cases hop
    | _ => exact hdevice

/-! ### Runs -/

/-- No run of calls changes the make of a device that has the flag of a running acquisition. Where
    callers may only read the flag, it is as the last command that took effect on the device to
    start or to stop an acquisition has left it, and as it was at first if there was none. -/
theorem calls_keep_make {b : Bool} (hdevice : d.devices[i]? = some device)
    (hflag : device.content? Feature.cameraAcquiring.key = some (.bool b)) {ops : List Operation}
    (hspared : ∀ op ∈ ops, op.sparesDevices = true) :
    ∃ device', (d.run ops).devices[i]? = some device' ∧ device.SameMake device' ∧
      (device.isReadOnly Feature.cameraAcquiring.key = true →
        device'.content? Feature.cameraAcquiring.key =
          some (.bool ((d.switchings i ops).getLast?.getD b))) := by
  induction ops generalizing d device b with
  | nil => exact ⟨device, hdevice, Device.SameMake.refl device, fun _ => hflag⟩
  | cons op rest ih =>
    obtain ⟨hop, hrest⟩ := List.forall_mem_cons.mp hspared
    obtain ⟨device', hkeeps⟩ := keeps_operate hop hdevice hflag
    obtain ⟨b', hflag'⟩ := hkeeps.make.bool hflag
    obtain ⟨device'', hdevice'', hmake, hlast⟩ := ih hkeeps.device? hflag' hrest
    refine ⟨device'', hdevice'', hkeeps.make.trans hmake, fun hreadOnly => ?_⟩
    -- the flag after the first operation is where the rest of the run begins
    have hfirst : b' = (d.switching? i op).getD b := by
      have heq := hflag'.symm.trans (hkeeps.flag b hflag hreadOnly)
      exact Content.bool.inj (Option.some.inj heq)
    rw [hlast ((hkeeps.make.isReadOnly _).trans hreadOnly), hfirst, switchings,
      List.getLast?_append]
    cases ((d.operate op).switchings i rest).getLast? with
    | some b'' => rfl
    | none => cases d.switching? i op <;> rfl

/-- An acquisition is started under another spelling; the flag cannot be written, and the command
    that would stop the acquisition is ordered to fail. Then the device is closed and opened
    again. -/
theorem calls_keep_make_reopened :
    let device := (((Device.bare "A").putReadOnly .cameraAcquiring (.bool false)).put
      .acquisitionStart .command).put .acquisitionStop .command
    let ops : List Operation :=
      [.call (.open 0), .call (.feature 100 "Acquisition Start" .command),
       .call (.feature 100 "CameraAcquiring" (.write (.bool 0))), .script (.fail .command 5),
       .call (.feature 100 "AcquisitionStop" .command), .call (.close 100), .call (.open 0)]
    (((ofDevices [device]).run ops).opened = [(101, 0)]) ∧
      (ofDevices [device]).switchings 0 ops = [true] ∧
      ∃ device', ((ofDevices [device]).run ops).devices[0]? = some device' ∧
        device.SameMake device' ∧
        device'.content? Feature.cameraAcquiring.key = some (.bool true) := by
  intro device ops
  have hflag : device.content? Feature.cameraAcquiring.key = some (.bool false) := by
    decide +kernel
  have hreadOnly : device.isReadOnly Feature.cameraAcquiring.key = true := by decide +kernel
  have hspared : ∀ op ∈ ops, op.sparesDevices = true := by decide
  have hswitchings : (ofDevices [device]).switchings 0 ops = [true] := by decide +kernel
  obtain ⟨device', hdevice', hmake, hlast⟩ :=
    calls_keep_make (d := ofDevices [device]) (i := 0) rfl hflag hspared
  have hrunning := hlast hreadOnly
  rw [hswitchings] at hrunning
  exact ⟨by decide +kernel, hswitchings, device', hdevice', hmake, hrunning⟩

end Driver

end CameraControl
