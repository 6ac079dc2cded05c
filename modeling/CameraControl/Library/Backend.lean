import CameraControl.Driver.Step
import CameraControl.Library.Foreign

/-
  Ways to reach the driver.

  Cameras call the driver directly or through a loaded library, which takes each call apart and
  puts it together again before the driver gets it. What the driver replies comes back unchanged.
-/

namespace CameraControl

/-- How calls reach the driver. -/
inductive Backend where
  | direct
  | library
  deriving DecidableEq, Repr

/-- A call as it arrives at the driver by way of the library, unless the library refuses it. -/
def Library.pass? (c : Call) : Option Call :=
  match forward c with
  | .ok foreign => receive? foreign
  | .error _ => none

/-- A call as it arrives at the driver by way of a backend, unless the backend refuses it. -/
def Backend.pass? : Backend → Call → Option Call
  | direct, c => some c
  | library, c => Library.pass? c

end CameraControl
