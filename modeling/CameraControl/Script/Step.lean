import CameraControl.Camera.Frames
import CameraControl.Camera.Overlay
import CameraControl.Camera.Subscription
import CameraControl.Enumeration

/-
  Steps of a script.

  A script works with cameras and tokens by names of its own. Some of its steps set up or look into
  the simulated driver, some call it directly, and the others use cameras. Every step has an answer
  or a failure; neither ends the script.
-/

namespace CameraControl.Script

/-- A handle, given by its number or by the name of an open camera. -/
inductive HandleRef where
  | number (handle : Int32)
  | camera (name : String)
  deriving DecidableEq, Repr

/-- Things to do with an open camera. -/
inductive CameraStep where
  | info
  | close
  | drop
  | can (f : Feature) (c : Capability)
  | read (f : Feature) (r : Reading)
  | intRange (f : Feature)
  | floatRange (f : Feature)
  | write (f : Feature) (w : Write)
  | enumText (f : Feature)
  | enumTexts (f : Feature)
  | enumTextAt (f : Feature) (index : Int32)
  | isIndexAvailable (f : Feature) (index : Int32)
  | isIndexImplemented (f : Feature) (index : Int32)
  | command (f : Feature)
  | text (f : Feature)
  | choice (f : Family)
  | setChoice (f : Family) (c : Choice f)
  /-- Settings that come from a text may be missing because the text gave none. -/
  | apply (s : Option Settings)
  | settings
  | subscribe (token : String) (f : Feature) (reactions : List Reaction) (nested : Option Call)
  | unsubscribe (token : String)
  | hostLock (name : String)
  | queue (address length : UInt64)
  | wait (timeout : Timeout)
  | flush

/-- Steps of a script. -/
inductive Step where
  | setDeviceCount (count : Int64)
  | putKey (device : Nat) (key : String) (content : Content)
  | putReadOnly (device : Nat) (f : Feature) (content : Content)
  | remove (device : Nat) (f : Feature)
  | content (device : Nat) (f : Feature)
  | fail (symbol : String) (code : Status) (f : Option Feature)
  | failOpen (index : Int32) (code : Status)
  | clearFailures
  | openHandles
  | registeredCallbacks
  | queuedBuffers (handle : HandleRef)
  | zeroSizeWaits (count : Nat)
  | callCount (symbol : String)
  | fire (handle : HandleRef) (key : String)
  | fireAs (handle : HandleRef) (key : String) (asHandle : HandleRef) (asKey : String)
  | call (c : Call)
  | deviceNames
  | openCamera (name : String) (index : Int32)
  | camera (name : String) (step : CameraStep)
  | token (name : String)
  | dispatch (token : String) (handle : HandleRef) (key : String)

/-- What a step answers. -/
inductive Answer where
  | nothing
  | bool (b : Bool)
  | number (n : Int)
  | float (x : Binary64)
  | text (s : String)
  | texts (l : List String)
  | statuses (l : List Status)
  | intRange (min max : Int64)
  | floatRange (min max : Binary64)
  | content (c : Option Content)
  | opened (handle : Int32)
  | info (cam : Camera)
  | choice (f : Family) (c : Choice f)
  | settings (s : Settings)
  | subscribed (t : Token)
  | token (t : Token)
  | raw (c : Call) (r : Reply)

/-- Why a step has no answer. -/
inductive Failure where
  | fault (e : Fault)
  /-- The script has no open camera of that name. -/
  | noSuchCamera
  /-- The script has no token of that name. -/
  | noSuchToken
  /-- A subscriber broke down while it was invoked by the script itself. -/
  | panicked
  /-- A text gave no settings. -/
  | noSettings
  deriving DecidableEq

/-- What a script has at hand: the world, and its names for open cameras and tokens. -/
structure State where
  world : World
  cameras : List (String × Camera)
  tokens : List (String × Nat)

/-- Part of a step. -/
abbrev Run (α : Type) := ExceptT Failure (StateM State) α

end CameraControl.Script
