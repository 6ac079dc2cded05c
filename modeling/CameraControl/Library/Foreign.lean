import CameraControl.Driver.Call
import CameraControl.Text.Wide

/-
  Calls in their foreign form.

  A loaded library is called by function and arguments only: a call is taken apart into them on one
  side, `forward`, and put together from them on the other, `receive?`. Texts go as wide texts that
  are read up to their end mark; a text that would end early is refused before anything is called.
  A buffer goes with its length, a number of 32 bits: of a buffer that is longer than such a number
  can tell, the library gets no more than the first `lengthLimit` units.
-/

namespace CameraControl

/-- An argument of a foreign function. -/
inductive Argument where
  /-- A handle, an index, a size or a truth value. -/
  | word (n : Int32)
  | int (n : Int64)
  | float (x : Binary64)
  | timeout (millis : UInt32)
  /-- A pointer to a wide text. -/
  | text (units : List Int32)
  /-- A pointer to a buffer for a wide text. -/
  | buffer (units : List Int32)
  /-- How many units of a buffer may be written. -/
  | length (n : Int32)
  /-- A pointer to a frame buffer. -/
  | address (address : UInt64)
  /-- A pointer to a variable that the function writes to. -/
  | out
  /-- A function to notify, with the token that it gets back. -/
  | subscriber (token : Nat)
  deriving DecidableEq, Repr

/-- A call of a foreign function. -/
structure ForeignCall where
  function : Function
  arguments : List Argument
  deriving DecidableEq, Repr

namespace Library

/-! ## Taking calls apart -/

/-- The largest length of a buffer that can be told. -/
def lengthLimit : Nat := 2147483647

/-- The length that is told of a buffer. -/
def bufferLength (buffer : List Int32) : Int32 := Int32.ofNat (min buffer.length lengthLimit)

/-- The arguments for a value that is written. -/
def writeArguments : Write → Except Fault (List Argument)
  | .int v => pure [.int v]
  | .float v => pure [.float v]
  | .bool raw => pure [.word raw]
  | .enumIndex i => pure [.word i]
  | .enumText s | .text s => return [.text (← Text.Wide.ofText s)]

/-- The arguments for a request, after the handle and the key. -/
def requestArguments : Request → Except Fault (List Argument)
  | .ask _ | .read _ => pure [.out]
  | .isIndexAvailable i | .isIndexImplemented i => pure [.word i, .out]
  | .enumText i buffer => pure [.word i, .buffer buffer, .length (bufferLength buffer)]
  | .text buffer => pure [.buffer buffer, .length (bufferLength buffer)]
  | .write w => writeArguments w
  | .command => pure []
  | .subscribe token | .unsubscribe token => pure [.subscriber token]

/-- The foreign form of a call. -/
def forward : Call → Except Fault ForeignCall
  | .open index => pure ⟨.open, [.word index, .out]⟩
  | .close handle => pure ⟨.close, [.word handle]⟩
  | .feature handle key r => do
    let key ← Text.Wide.ofText key
    let arguments ← requestArguments r
    pure ⟨r.function, .word handle :: .text key :: arguments⟩
  | .queue handle address size => pure ⟨.queueBuffer, [.word handle, .address address, .word size]⟩
  | .wait handle millis => pure ⟨.waitBuffer, [.word handle, .out, .out, .timeout millis]⟩
  | .flush handle => pure ⟨.flush, [.word handle]⟩

/-! ## Putting them together -/

/-- A wide text as the library reads it. -/
def read (units : List Int32) : String := Text.Wide.scan (some units)

/-- The request that a function serves with the arguments after the handle and the key. -/
def receiveRequest? : Function → List Argument → Option Request
  | .isImplemented, [.out] => some (.ask .implemented)
  | .isReadable, [.out] => some (.ask .readable)
  | .isWritable, [.out] => some (.ask .writable)
  | .isReadOnly, [.out] => some (.ask .readOnly)
  | .getInt, [.out] => some (.read .int)
  | .getIntMax, [.out] => some (.read .intMax)
  | .getIntMin, [.out] => some (.read .intMin)
  | .getFloat, [.out] => some (.read .float)
  | .getFloatMax, [.out] => some (.read .floatMax)
  | .getFloatMin, [.out] => some (.read .floatMin)
  | .getBool, [.out] => some (.read .bool)
  | .getEnumIndex, [.out] => some (.read .enumIndex)
  | .getEnumCount, [.out] => some (.read .enumCount)
  | .getStringMaxLength, [.out] => some (.read .textMaxLength)
  | .isEnumIndexAvailable, [.word i, .out] => some (.isIndexAvailable i)
  | .isEnumIndexImplemented, [.word i, .out] => some (.isIndexImplemented i)
  | .getEnumStringByIndex, [.word i, .buffer units, .length n] =>
    some (.enumText i (units.take n.toInt.toNat))
  | .getString, [.buffer units, .length n] => some (.text (units.take n.toInt.toNat))
  | .setInt, [.int v] => some (.write (.int v))
  | .setFloat, [.float v] => some (.write (.float v))
  | .setBool, [.word raw] => some (.write (.bool raw))
  | .setEnumIndex, [.word i] => some (.write (.enumIndex i))
  | .setEnumString, [.text units] => some (.write (.enumText (read units)))
  | .setString, [.text units] => some (.write (.text (read units)))
  | .command, [] => some .command
  | .registerFeatureCallback, [.subscriber token] => some (.subscribe token)
  | .unregisterFeatureCallback, [.subscriber token] => some (.unsubscribe token)
  | _, _ => none

/-- The call that a foreign one stands for; arguments that do not fit the function stand for
    none. -/
def receive? : ForeignCall → Option Call
  | ⟨.open, [.word index, .out]⟩ => some (.open index)
  | ⟨.close, [.word handle]⟩ => some (.close handle)
  | ⟨.queueBuffer, [.word handle, .address address, .word size]⟩ =>
    some (.queue handle address size)
  | ⟨.waitBuffer, [.word handle, .out, .out, .timeout millis]⟩ => some (.wait handle millis)
  | ⟨.flush, [.word handle]⟩ => some (.flush handle)
  | ⟨f, .word handle :: .text key :: arguments⟩ =>
    (receiveRequest? f arguments).map (.feature handle (read key))
  | _ => none

end Library

end CameraControl
