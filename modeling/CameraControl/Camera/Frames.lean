import CameraControl.Camera
import CameraControl.Timeout

/-
  Frame buffers of a camera.

  Buffers are queued, filled by the camera and given back one by one in the order in which they
  were queued. While a camera waits for a buffer, the host gives up its lock, so that its other
  threads can run; it takes the lock back before anything else happens.
-/

namespace CameraControl.Camera

/-- Lends a buffer to the camera. The driver counts bytes in 31 bits. -/
def queue (cam : Camera) (address length : UInt64) : Action Unit := do
  if Int32.maxValue.toInt < length.toNat then throw (.bufferTooLarge length)
  else
    let _ ← Action.call (.queue cam.handle address (Int32.ofNat length.toNat))
      s!"AT_QueueBuffer with buffer size {length} failed."

/-- Does something with the host lock given up. -/
def withoutLock {α : Type} (cam : Camera) (a : Action α) : Action α :=
  match cam.hostLock with
  | none => a
  | some lock => fun w =>
    let (result, w) := a.exec (w.record (.released lock))
    (result, w.record (.reacquired lock))

/-- Waits for the next filled buffer and gives its address. A buffer without a size is a breach. -/
def wait (cam : Camera) (timeout : Timeout) : Action UInt64 := do
  let reply ← cam.withoutLock <|
    Action.call (.wait cam.handle timeout.asMillis)
      s!"AT_WaitBuffer with timeout {timeout.message} failed."
  let (address, size) := reply.frame
  if size ≤ 0 then throw (.protocol (.emptyFrame size)) else pure address

/-- Takes back all queued buffers. -/
def flush (cam : Camera) : Action Unit := do
  let _ ← Action.call (.flush cam.handle) "AT_Flush failed."

end CameraControl.Camera
