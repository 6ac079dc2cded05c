import CameraControl.Number.Binary64
import CameraControl.Status

/-
  Calls of the camera driver.

  The driver has 34 functions. A call names a device to open, or a handle and what to do with it;
  most calls are requests about one feature, given by its key. The reply has a status and, if the
  driver wrote to the caller's variable, its new value.
-/

namespace CameraControl

/-! ## Functions -/

/-- The functions of the driver. -/
inductive Function where
  | initialiseLibrary | finaliseLibrary
  | open | close
  | registerFeatureCallback | unregisterFeatureCallback
  | isImplemented | isReadable | isWritable | isReadOnly
  | setInt | getInt | getIntMax | getIntMin
  | setFloat | getFloat | getFloatMax | getFloatMin
  | setBool | getBool
  | setEnumIndex | setEnumString | getEnumIndex | getEnumCount
  | isEnumIndexAvailable | isEnumIndexImplemented | getEnumStringByIndex
  | command
  | setString | getString | getStringMaxLength
  | queueBuffer | waitBuffer | flush
  deriving DecidableEq, Repr

namespace Function

/-- The name that a library exports a function under. -/
def symbol : Function → String
  | initialiseLibrary => "AT_InitialiseLibrary"
  | finaliseLibrary => "AT_FinaliseLibrary"
  | .open => "AT_Open"
  | close => "AT_Close"
  | registerFeatureCallback => "AT_RegisterFeatureCallback"
  | unregisterFeatureCallback => "AT_UnregisterFeatureCallback"
  | isImplemented => "AT_IsImplemented"
  | isReadable => "AT_IsReadable"
  | isWritable => "AT_IsWritable"
  | isReadOnly => "AT_IsReadOnly"
  | setInt => "AT_SetInt"
  | getInt => "AT_GetInt"
  | getIntMax => "AT_GetIntMax"
  | getIntMin => "AT_GetIntMin"
  | setFloat => "AT_SetFloat"
  | getFloat => "AT_GetFloat"
  | getFloatMax => "AT_GetFloatMax"
  | getFloatMin => "AT_GetFloatMin"
  | setBool => "AT_SetBool"
  | getBool => "AT_GetBool"
  | setEnumIndex => "AT_SetEnumIndex"
  | setEnumString => "AT_SetEnumString"
  | getEnumIndex => "AT_GetEnumIndex"
  | getEnumCount => "AT_GetEnumCount"
  | isEnumIndexAvailable => "AT_IsEnumIndexAvailable"
  | isEnumIndexImplemented => "AT_IsEnumIndexImplemented"
  | getEnumStringByIndex => "AT_GetEnumStringByIndex"
  | command => "AT_Command"
  | setString => "AT_SetString"
  | getString => "AT_GetString"
  | getStringMaxLength => "AT_GetStringMaxLength"
  | queueBuffer => "AT_QueueBuffer"
  | waitBuffer => "AT_WaitBuffer"
  | flush => "AT_Flush"

/-- All functions, in the order in which a library is searched for them. -/
def all : List Function :=
  [initialiseLibrary, finaliseLibrary, .open, close, registerFeatureCallback,
   unregisterFeatureCallback, isImplemented, isReadable, isWritable, isReadOnly, setInt, getInt,
   getIntMax, getIntMin, setFloat, getFloat, getFloatMax, getFloatMin, setBool, getBool,
   setEnumIndex, setEnumString, getEnumIndex, getEnumCount, isEnumIndexAvailable,
   isEnumIndexImplemented, getEnumStringByIndex, command, setString, getString,
   getStringMaxLength, queueBuffer, waitBuffer, flush]

/-- The function with a given name. -/
def ofSymbol? (s : String) : Option Function := all.find? fun f => f.symbol == s

end Function

/-! ## Requests about a feature -/

/-- What can be asked of every feature. -/
inductive Capability where
  | implemented | readable | writable | readOnly
  deriving DecidableEq, Repr

/-- Numbers that can be read from a feature. -/
inductive Reading where
  | int | intMax | intMin
  | float | floatMax | floatMin
  | bool
  | enumIndex | enumCount
  | textMaxLength
  deriving DecidableEq, Repr

/-- Values that can be written to a feature. -/
inductive Write where
  | int (value : Int64)
  | float (value : Binary64)
  /-- Every number but zero means true. -/
  | bool (raw : Int32)
  | enumIndex (index : Int32)
  | enumText (value : String)
  | text (value : String)
  deriving DecidableEq, Repr

/-- Requests about one feature. Buffers are given with what they hold before the call; a
    subscription is given by the number of its token. -/
inductive Request where
  | ask (capability : Capability)
  | read (reading : Reading)
  | isIndexAvailable (index : Int32)
  | isIndexImplemented (index : Int32)
  | enumText (index : Int32) (buffer : List Int32)
  | text (buffer : List Int32)
  | write (value : Write)
  | command
  | subscribe (token : Nat)
  | unsubscribe (token : Nat)
  deriving DecidableEq, Repr

/-! ## Calls and replies -/

/-- A call of the driver. -/
inductive Call where
  | open (index : Int32)
  | close (handle : Int32)
  | feature (handle : Int32) (key : String) (request : Request)
  | queue (handle : Int32) (address : UInt64) (size : Int32)
  | wait (handle : Int32) (timeout : UInt32)
  | flush (handle : Int32)
  deriving DecidableEq, Repr

/-- The handle of the system, which is never that of a device. -/
def systemHandle : Int32 := 1

/-- The handle of a device that was not opened. -/
def noHandle : Int32 := -1

/-- The function that answers a question. -/
def Capability.function : Capability → Function
  | implemented => .isImplemented
  | readable => .isReadable
  | writable => .isWritable
  | readOnly => .isReadOnly

/-- The function that reads a number. -/
def Reading.function : Reading → Function
  | int => .getInt
  | intMax => .getIntMax
  | intMin => .getIntMin
  | float => .getFloat
  | floatMax => .getFloatMax
  | floatMin => .getFloatMin
  | bool => .getBool
  | enumIndex => .getEnumIndex
  | enumCount => .getEnumCount
  | textMaxLength => .getStringMaxLength

/-- The function that writes a value. -/
def Write.function : Write → Function
  | int _ => .setInt
  | float _ => .setFloat
  | bool _ => .setBool
  | enumIndex _ => .setEnumIndex
  | enumText _ => .setEnumString
  | text _ => .setString

/-- The function that serves a request. -/
def Request.function : Request → Function
  | ask c => c.function
  | read r => r.function
  | isIndexAvailable _ => .isEnumIndexAvailable
  | isIndexImplemented _ => .isEnumIndexImplemented
  | enumText _ _ => .getEnumStringByIndex
  | text _ => .getString
  | write w => w.function
  | command => .command
  | subscribe _ => .registerFeatureCallback
  | unsubscribe _ => .unregisterFeatureCallback

namespace Call

/-- The function that is called. -/
def function : Call → Function
  | .open _ => .open
  | close _ => .close
  | feature _ _ r => r.function
  | queue _ _ _ => .queueBuffer
  | wait _ _ => .waitBuffer
  | flush _ => .flush

/-- The key of the feature that a call is about, if it is about one. -/
def key? : Call → Option String
  | feature _ key _ => some key
  | _ => none

end Call

/-- What a call wrote to the caller's variable. -/
inductive Output where
  | int (n : Int64)
  | float (x : Binary64)
  /-- A number of 32 bits: a handle, an index, a length or a truth value. -/
  | word (n : Int32)
  | buffer (units : List Int32)
  | frame (address : UInt64) (size : Int32)
  deriving DecidableEq, Repr

/-- The answer to a call. Where nothing was written the output is missing. -/
structure Reply where
  status : Status
  output : Option Output
  deriving DecidableEq, Repr

/-! ## The caller's variable -/

/-- What the caller's variable for numbers read from a feature holds before the call. -/
def Reading.blank : Reading → Output
  | int | intMax | intMin => .int 0
  | float | floatMax | floatMin => .float (.zero false)
  | bool | enumIndex | enumCount | textMaxLength => .word 0

/-- What the caller's variable holds before the call, if the call has one. -/
def Call.blank? : Call → Option Output
  | .open _ => some (.word 0)
  | feature _ _ (.ask _) => some (.word 0)
  | feature _ _ (.read r) => some r.blank
  | feature _ _ (.isIndexAvailable _) => some (.word 0)
  | feature _ _ (.isIndexImplemented _) => some (.word 0)
  | feature _ _ (.enumText _ buffer) => some (.buffer buffer)
  | feature _ _ (.text buffer) => some (.buffer buffer)
  | wait _ _ => some (.frame 0 0)
  | _ => none

namespace Reply

/-- The caller's variable after the call, if the call has one. Of a buffer the units are written
    that the driver got; those behind them stay. -/
def shown (r : Reply) (c : Call) : Option Output :=
  match r.output, c.blank? with
  | some (.buffer units), some (.buffer before) =>
    some (.buffer (units ++ before.drop units.length))
  | output, blank => output <|> blank

/-- The integer that was read; zero stands where nothing was written. -/
def int (r : Reply) : Int64 :=
  match r.output with
  | some (.int n) => n
  | _ => 0

/-- The number that was read; zero stands where nothing was written. -/
def float (r : Reply) : Binary64 :=
  match r.output with
  | some (.float x) => x
  | _ => .zero false

/-- The 32-bit number that was read, or the given one where nothing was written. -/
def word (r : Reply) (blank : Int32) : Int32 :=
  match r.output with
  | some (.word n) => n
  | _ => blank

/-- The truth value that was read; false stands where nothing was written. -/
def flag (r : Reply) : Bool := r.word 0 != 0

/-- The buffer after the call. -/
def buffer (r : Reply) (before : List Int32) : List Int32 :=
  match r.output with
  | some (.buffer units) => units ++ before.drop units.length
  | _ => before

/-- A buffer that the driver got whole. -/
theorem buffer_of_length {status : Status} {units before : List Int32}
    (h : units.length = before.length) :
    buffer ⟨status, some (.buffer units)⟩ before = units := by
  show units ++ before.drop units.length = units
  rw [h, List.drop_length, List.append_nil]

/-- The address and the size of a frame; zeros stand where nothing was written. -/
def frame (r : Reply) : UInt64 × Int32 :=
  match r.output with
  | some (.frame address size) => (address, size)
  | _ => (0, 0)

end Reply

end CameraControl
