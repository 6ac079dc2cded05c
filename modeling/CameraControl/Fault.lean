import CameraControl.Feature
import CameraControl.Status
import CameraControl.Text.Quoted

/-
  What can go wrong when a camera is used.

  A fault names its cause; `Fault.message` is the one place that words it. A fault of the device
  carries the status of the driver call that failed. A breach is a failed consistency check: the
  driver answered, or notified, in a way that does not fit what was agreed with it.
-/

namespace CameraControl

/-- Consistency checks that can fail. -/
inductive Breach where
  /-- The driver counts fewer than no devices. -/
  | negativeDeviceCount (count : Int64)
  /-- The driver counts more devices than indices can tell apart. -/
  | tooManyDevices (count : Int64)
  /-- An enumerated feature stands at an index outside its family of values. -/
  | unknownIndex (feature : Feature) (index : Int32) (count : Nat)
  /-- A wait succeeded but the frame it gave has no size. -/
  | emptyFrame (size : Int32)
  /-- A notification reported another feature than the one subscribed to. -/
  | otherFeature (feature : Feature) (reported : String)
  /-- A notification reported another handle than the one subscribed on. -/
  | otherHandle (feature : Feature) (subscribed reported : Int32)
  /-- A token was given to a camera that did not issue it. -/
  | foreignToken (feature : Feature)
  /-- A token was given back that is not registered any more. -/
  | staleToken (feature : Feature)
  deriving DecidableEq, Repr

/-- The text that tells of a breach. -/
def Breach.message : Breach → String
  | .negativeDeviceCount n => s!"Andor SDK3 reported a negative device count ({n})."
  | .tooManyDevices n => s!"Andor SDK3 reported {n} devices."
  | .unknownIndex f i n =>
    s!"Feature \"{f.key}\" has enumerated index {i}, outside the known range 0..{n}."
  | .emptyFrame n => s!"AT_WaitBuffer succeeded but returned buffer size {n}."
  | .otherFeature f reported =>
    s!"Callback registered for feature \"{f.key}\" was called for feature \"{reported}\"."
  | .otherHandle f own reported =>
    s!"Callback for feature \"{f.key}\" registered on handle {own} " ++
      s!"was called with handle {reported}."
  | .foreignToken f => s!"Callback for feature \"{f.key}\" belongs to a different device."
  | .staleToken f => s!"Callback for feature \"{f.key}\" is not registered."

/-- The causes of a failure. -/
inductive Fault where
  /-- A driver call made for the described purpose answered with a status other than success. -/
  | device (description : String) (code : Status)
  /-- A consistency check failed. -/
  | protocol (breach : Breach)
  /-- There is no usable library at the path. -/
  | libraryNotLoaded (path : String)
  /-- The library at the path lacks a function. -/
  | missingSymbol (path : String) (symbol : String)
  /-- A text with the character of code 0 cannot be handed to the driver. -/
  | interiorNul (value : String)
  /-- A buffer is longer than the driver can count. -/
  | bufferTooLarge (size : UInt64)
  deriving DecidableEq, Repr

namespace Fault

/-- The text that tells of a fault. -/
def message : Fault → String
  | device description code => s!"{description} (Andor SDK3 error {code}: {code.name})"
  | protocol breach => s!"protocol error: {breach.message}"
  | libraryNotLoaded path => s!"Loading library at {path}"
  | missingSymbol path symbol => s!"Library at {path} has no symbol {symbol}"
  | interiorNul value => s!"string {Text.quote value} contains an interior nul"
  | bufferTooLarge size => s!"buffer of {size} bytes is too large for the SDK"

/-- The status of the driver, if a call of it failed. -/
def deviceCode? : Fault → Option Status
  | device _ code => some code
  | _ => none

/-- Whether a consistency check failed. -/
def isProtocol : Fault → Bool
  | protocol _ => true
  | _ => false

/-- A status as an outcome: anything but success is a fault with the given description. -/
def check (code : Status) (description : String) : Except Fault PUnit :=
  if code = Status.success then .ok ⟨⟩ else .error (.device description code)

end Fault

end CameraControl
