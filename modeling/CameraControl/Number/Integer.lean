/-
  Integers in decimal digits, read within bounds.

  A text is read from left to right, and the first flaw decides: a character that is no digit, or
  a digit with which the number leaves its bounds.
-/

namespace CameraControl

/-- Why a text is no integer within the bounds. -/
inductive IntegerFlaw where
  | empty
  | invalidDigit
  | tooLarge
  | tooSmall
  deriving DecidableEq, Repr

/-- The text that tells of a flaw. -/
def IntegerFlaw.message : IntegerFlaw → String
  | empty => "cannot parse integer from empty string"
  | invalidDigit => "invalid digit found in string"
  | tooLarge => "number too large to fit in target type"
  | tooSmall => "number too small to fit in target type"

namespace Integer

/-- Reads further digits of a number that grows away from zero, up to a bound on its absolute
    value; passing the bound is the given flaw. -/
def readDigits (bound : Nat) (passed : IntegerFlaw) : Nat → List Char → Except IntegerFlaw Nat
  | n, [] => .ok n
  | n, c :: cs =>
    if !c.isDigit then .error .invalidDigit
    else
      let m := 10 * n + (c.toNat - 48)
      if bound < m then .error passed else readDigits bound passed m cs

/-- Reads an integer from `-least` to `most`; a sign may stand in front, a minus sign only if
    `signed`. -/
def read (least most : Nat) (signed : Bool) (s : String) : Except IntegerFlaw Int :=
  match s.toList with
  | [] => .error .empty
  | ['+'] => .error .invalidDigit
  | ['-'] => .error .invalidDigit
  | '+' :: ds => (readDigits most .tooLarge 0 ds).map Int.ofNat
  | '-' :: ds =>
    if signed then (readDigits least .tooSmall 0 ds).map fun n => -(n : Int)
    else .error .invalidDigit
  | ds => (readDigits most .tooLarge 0 ds).map Int.ofNat

/-- Reads a signed integer of 64 bits. -/
def readInt64 (s : String) : Except IntegerFlaw Int64 :=
  (read (1 <<< 63) ((1 <<< 63) - 1) true s).map Int64.ofInt

/-- Reads a natural number of 64 bits. -/
def readUInt64 (s : String) : Except IntegerFlaw UInt64 :=
  (read 0 ((1 <<< 64) - 1) false s).map fun n => UInt64.ofNat n.toNat

end Integer

end CameraControl
