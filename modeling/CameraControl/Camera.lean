import CameraControl.World
import CameraControl.Number.Decimal

/-
  Cameras.

  A camera is an open device: the index it was opened by, its handle and its session. Everything
  that can be done with it is an action, which changes the world and either succeeds or ends in a
  fault; a fault does not undo what was done before it. An action of one driver call describes in
  its fault what it tried.
-/

namespace CameraControl

/-- Something done in the world, which may end in a fault. -/
abbrev Action (α : Type) := ExceptT Fault (StateM World) α

namespace Action

/-- Runs an action. -/
def exec {α : Type} (a : Action α) (w : World) : Except Fault α × World := a.run w

/-- Changes the world. -/
def modify (f : World → World) : Action Unit := fun w => (.ok (), f w)

/-- Runs an action and gives its outcome, so that a fault can be dealt with. -/
def attempt {α : Type} (a : Action α) : Action (Except Fault α) := fun w =>
  let (outcome, w) := a.exec w
  (.ok outcome, w)

/-- Makes a call, whatever its status. -/
def tryCall (c : Call) : Action Reply := fun w =>
  let (reply, w) := w.call c
  (.ok reply, w)

/-- Makes a call that must succeed. -/
def call (c : Call) (description : String) : Action Reply := do
  let reply ← tryCall c
  if reply.status = Status.success then pure reply
  else throw (.device description reply.status)

end Action

/-- An open device. -/
structure Camera where
  session : Nat
  deviceIndex : Int32
  handle : Int32
  /-- The lock of the host that is given up during waits, if there is one. -/
  hostLock : Option String
  deriving DecidableEq

namespace Camera

/-! ## Opening and closing -/

/-- Opens a device by its index. -/
def openDevice (index : Int32) : Action Camera := do
  let reply ← Action.call (.open index) s!"Failed to open Andor device with index {index}."
  let handle := reply.word noHandle
  fun w => (.ok ⟨w.nextSession, index, handle, none⟩, w.beginSession handle)

/-- Ends the session of a camera; its tokens are no longer live. -/
def endSession (cam : Camera) : Action Unit :=
  Action.modify fun w => w.endSession cam.session

/-- Closes a camera. Its session ends even if the driver reports a failure. -/
def close (cam : Camera) : Action Unit := do
  let reply ← Action.tryCall (.close cam.handle)
  cam.endSession
  if reply.status = Status.success then pure ()
  else throw (.device s!"Failed to close Andor device with index {cam.deviceIndex}." reply.status)

/-- Closes a camera whose owner is gone, so nobody hears of a failure. -/
def drop (cam : Camera) : Action Unit := do
  let _ ← Action.tryCall (.close cam.handle)
  cam.endSession

/-- A camera as its type and fields. -/
def inspect (cam : Camera) : String :=
  "Camera \x7b device_index: " ++ toString cam.deviceIndex ++ ", handle: " ++ toString cam.handle
    ++ ", is_open: true, .. \x7d"

/-! ## Requests about a feature -/

/-- Makes a request about a feature; `detail` is what a fault says between the function and the
    feature. -/
def request (cam : Camera) (f : Feature) (r : Request) (detail : String) : Action Reply :=
  Action.call (.feature cam.handle f.key r)
    (r.function.symbol ++ detail ++ " for feature \"" ++ f.key ++ "\" failed.")

/-- Whether a feature has a capability. -/
def can (cam : Camera) (f : Feature) (c : Capability) : Action Bool :=
  return (← cam.request f (.ask c) "").flag

/-- Reads a number from a feature. -/
def read (cam : Camera) (f : Feature) (r : Reading) : Action Reply := cam.request f (.read r) ""

/-- Reads an integer from a feature. -/
def readInt (cam : Camera) (f : Feature) (r : Reading) : Action Int64 :=
  return (← cam.read f r).int

/-- Reads a floating-point number from a feature. -/
def readFloat (cam : Camera) (f : Feature) (r : Reading) : Action Binary64 :=
  return (← cam.read f r).float

/-- Reads an index, a count or a length from a feature. -/
def readWord (cam : Camera) (f : Feature) (r : Reading) : Action Int32 :=
  return (← cam.read f r).word 0

/-- The value of an integer feature. -/
def int (cam : Camera) (f : Feature) : Action Int64 := cam.readInt f .int

/-- The least and the greatest value of an integer feature. -/
def intRange (cam : Camera) (f : Feature) : Action (Int64 × Int64) :=
  return (← cam.readInt f .intMin, ← cam.readInt f .intMax)

/-- The value of a floating-point feature. -/
def float (cam : Camera) (f : Feature) : Action Binary64 := cam.readFloat f .float

/-- The least and the greatest value of a floating-point feature. -/
def floatRange (cam : Camera) (f : Feature) : Action (Binary64 × Binary64) :=
  return (← cam.readFloat f .floatMin, ← cam.readFloat f .floatMax)

/-- The value of a truth value feature. -/
def bool (cam : Camera) (f : Feature) : Action Bool := return (← cam.read f .bool).flag

/-- The index of an enumerated feature. -/
def enumIndex (cam : Camera) (f : Feature) : Action Int32 := cam.readWord f .enumIndex

/-- How many options an enumerated feature has. -/
def enumCount (cam : Camera) (f : Feature) : Action Int32 := cam.readWord f .enumCount

/-- Whether an index of an enumerated feature is available. -/
def isIndexAvailable (cam : Camera) (f : Feature) (i : Int32) : Action Bool :=
  return (← cam.request f (.isIndexAvailable i) s!" with index {i}").flag

/-- Whether an index of an enumerated feature is implemented. -/
def isIndexImplemented (cam : Camera) (f : Feature) (i : Int32) : Action Bool :=
  return (← cam.request f (.isIndexImplemented i) s!" with index {i}").flag

/-! ## Texts -/

/-- The buffer for reading texts before the call. -/
def textBuffer : List Int32 := List.replicate 256 0

theorem length_textBuffer : textBuffer.length = 256 := List.length_replicate

/-- The library gets all of the buffer. -/
theorem textBuffer_fits : textBuffer.length ≤ Library.lengthLimit := by
  rw [length_textBuffer]
  decide

/-- The text in a buffer after the call. Its last unit is taken for the end mark, because the
    driver sets none where a text fills the buffer. -/
def bufferText (r : Reply) : String := Text.Wide.toText ((r.buffer textBuffer).set 255 0)

/-- The option at an index of an enumerated feature. -/
def enumTextAt (cam : Camera) (f : Feature) (i : Int32) : Action String :=
  return bufferText (← cam.request f (.enumText i textBuffer) s!" with index {i}")

/-- The current option of an enumerated feature. -/
def enumText (cam : Camera) (f : Feature) : Action String := do
  cam.enumTextAt f (← cam.enumIndex f)

/-- All options of an enumerated feature. -/
def enumTexts (cam : Camera) (f : Feature) : Action (List String) := do
  let count ← cam.enumCount f
  (List.range count.toInt.toNat).mapM fun i => cam.enumTextAt f (Int32.ofNat i)

/-- The value of a text feature. -/
def text (cam : Camera) (f : Feature) : Action String :=
  return bufferText (← cam.request f (.text textBuffer) "")

/-- The length of a buffer for the whole value of a text feature. -/
def textMaxLength (cam : Camera) (f : Feature) : Action Int32 := cam.readWord f .textMaxLength

/-! ## Writing -/

/-- A value as faults show it. -/
def showWrite : Write → String
  | .int v => toString v
  | .float v => v.plain
  | .bool raw => toString (raw != 0)
  | .enumIndex i => toString i
  | .enumText s => "\"" ++ s ++ "\""
  | .text s => "\"" ++ s ++ "\""

/-- A truth value as the driver takes it. -/
def boolWrite (b : Bool) : Write := .bool (if b then 1 else 0)

/-- The text that a write hands over, if it does. -/
def writtenText? : Write → Option String
  | .enumText s => some s
  | .text s => some s
  | _ => none

/-- Writes a value to a feature. The driver would silently stop reading a text at an early end, so
    such a text is refused before the call. -/
def write (cam : Camera) (f : Feature) (w : Write) : Action Unit := do
  if let some s := writtenText? w then
    if Text.Wide.hasNul s then throw (.interiorNul s)
  let _ ← cam.request f (.write w) (" with value " ++ showWrite w)

/-- Runs a command feature. -/
def command (cam : Camera) (f : Feature) : Action Unit := do
  let _ ← cam.request f .command ""

/-! ## Families -/

/-- The value of an enumerated feature as a member of its family. -/
def choice (cam : Camera) (f : Family) : Action (Choice f) := do
  let i ← cam.enumIndex f.feature
  match Choice.ofIndex? f i with
  | some c => pure c
  | none => throw (.protocol (.unknownIndex f.feature i f.size))

/-- Writes a member of a family to its feature. -/
def setChoice (cam : Camera) {f : Family} (c : Choice f) : Action Unit :=
  cam.write f.feature (.enumIndex c.index)

end Camera

end CameraControl
