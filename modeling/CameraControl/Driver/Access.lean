import CameraControl.Device
import CameraControl.Driver.Call
import CameraControl.Text.Wide

/-
  Reads and writes that the contents of a feature admit.

  Contents answer the readings of their own kind. A write must be of their kind as well, and it is
  refused where the value is outside the range or the options.
-/

namespace CameraControl

namespace Content

/-- The number of units that a buffer for the whole of a text needs, at least 64. The number has 32
    bits, and so do the two steps in which it is found. -/
def textMaxLength (value : String) : Int32 := max (Int32.ofNat value.length + 1) 64

/-- A number read from contents. -/
def read? : Content → Reading → Option Output
  | int value _ _, .int => some (.int value)
  | int _ _ max, .intMax => some (.int max)
  | int _ min _, .intMin => some (.int min)
  | float value _ _, .float => some (.float value)
  | float _ _ max, .floatMax => some (.float max)
  | float _ min _, .floatMin => some (.float min)
  | bool value, .bool => some (.word (if value then 1 else 0))
  | enum index _, .enumIndex => some (.word index)
  | enum _ options, .enumCount => some (.word (Int32.ofNat options.length))
  | text value, .textMaxLength => some (.word (textMaxLength value))
  | _, _ => none

/-- The option at an index. -/
def option (c : Content) (index : Int32) : Except Status String :=
  match c with
  | enum _ options =>
    match (if 0 ≤ index.toInt then options[index.toInt.toNat]? else none) with
    | some s => .ok s
    | none => .error Status.outOfRange
  | _ => .error Status.notImplemented

/-- The contents after a write. -/
def write (c : Content) (w : Write) : Except Status Content :=
  match c, w with
  | int _ min max, .int v =>
    if v < min ∨ max < v then .error Status.outOfRange else .ok (int v min max)
  | float _ min max, .float v =>
    if v.lt min ∨ max.lt v then .error Status.outOfRange else .ok (float v min max)
  | bool _, .bool raw => .ok (bool (raw ≠ 0))
  | enum _ options, .enumIndex i =>
    if 0 ≤ i.toInt ∧ i.toInt.toNat < options.length then .ok (enum i options)
    else .error Status.indexNotAvailable
  | enum _ options, .enumText s =>
    if Text.Wide.hasNul s then .error Status.notImplemented
    else match options.findIdx? (· == s) with
      | some i => .ok (enum (Int32.ofNat i) options)
      | none => .error Status.stringNotAvailable
  | text _, .text s => if Text.Wide.hasNul s then .error Status.notImplemented else .ok (text s)
  | _, _ => .error Status.notImplemented

end Content

namespace Device

/-- Whether a feature has a capability. Commands are the features that cannot be read. -/
def can (d : Device) (key : String) : Capability → Bool
  | .implemented => (d.content? key).isSome
  | .readable =>
    match d.content? key with
    | some c => c ≠ .command
    | none => false
  | .writable => (d.content? key).isSome && !d.isReadOnly key
  | .readOnly => d.isReadOnly key

/-- What a feature holds, which must be there. -/
def contentOr (d : Device) (key : String) : Except Status Content :=
  match d.content? key with
  | some c => .ok c
  | none => .error Status.notImplemented

/-- The device after a write. -/
def write (d : Device) (key : String) (w : Write) : Except Status Device :=
  if d.isReadOnly key then .error Status.readOnly
  else
    match d.content? key with
    | none => .error Status.notImplemented
    | some content => (content.write w).map (d.setContent key)

/-- The device after a command. Starting and stopping an acquisition shows in a feature of its
    own; other commands change nothing. -/
def command (d : Device) (key : String) : Except Status Device :=
  match d.content? key with
  | some .command =>
    if Text.squeeze key = Text.squeeze Feature.acquisitionStart.key then
      .ok (d.setContent Feature.cameraAcquiring.key (.bool true))
    else if Text.squeeze key = Text.squeeze Feature.acquisitionStop.key then
      .ok (d.setContent Feature.cameraAcquiring.key (.bool false))
    else .ok d
  | _ => .error Status.notImplemented

end Device

end CameraControl
