import CameraControl.Camera

/-
  The model names of all attached devices.

  The driver is asked for the number of devices, and each device is opened for a moment to read its
  model name. The first failure ends the enumeration, after the device in question was closed.
-/

namespace CameraControl.Enumeration

/-- The number of devices, which must be one that indices can tell apart. -/
def deviceCount : Action Nat := do
  let reply ← Action.call (.feature systemHandle Feature.deviceCount.key (.read .int))
    "Failed to get Andor device count."
  let count := reply.int
  if count < 0 then throw (.protocol (.negativeDeviceCount count))
  else if Int32.maxValue.toInt < count.toInt then throw (.protocol (.tooManyDevices count))
  else pure count.toInt.toNat

/-- A fault met while the model name of a device was read. -/
def whileReading (index : Int32) : Fault → Fault
  | .device description code =>
    .device s!"Failed to read model name of Andor device with index {index}: {description}" code
  | fault => fault

/-- Reads the model name of a device; an open device is closed whatever comes of it. -/
def modelName (index : Int32) : Action String := do
  let cam ← Camera.openDevice index
  match ← Action.attempt (cam.text .cameraModel) with
  | .ok name =>
    cam.close
    pure name
  | .error fault =>
    cam.drop
    throw (whileReading index fault)

/-- Reads the model names of devices, from an index on. -/
def modelNames (index : Nat) : Nat → Action (List String)
  | 0 => pure []
  | n + 1 => do
    let name ← modelName (Int32.ofNat index)
    let names ← modelNames (index + 1) n
    pure (name :: names)

/-- The model names of all attached devices, by index. -/
def deviceNames : Action (List String) := do modelNames 0 (← deviceCount)

end CameraControl.Enumeration
