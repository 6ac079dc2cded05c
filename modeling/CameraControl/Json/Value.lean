/-
  Values of JSON texts.

  A number keeps its digits, because how they are rounded depends on what is read from them. A
  text whose escapes do not make up characters is known to be a text but has no contents. Objects
  keep their pairs in order and may repeat a name.
-/

namespace CameraControl.Json

/-- A number as it was written. -/
structure NumberText where
  negative : Bool
  whole : List Char
  fraction : List Char
  /-- The sign and the digits of the exponent, if there is one. -/
  exponent : Option (Bool × List Char)
  deriving DecidableEq, Repr

/-- A value of a JSON text. -/
inductive Value where
  | null
  | boolean (b : Bool)
  | number (n : NumberText)
  | text (s : Option String)
  | array (items : List Value)
  | object (pairs : List (Option String × Value))
  deriving Repr

instance : Inhabited Value := ⟨.null⟩

/-- Whether a number was written as an integer. -/
def NumberText.isInteger (n : NumberText) : Bool := n.fraction.isEmpty && n.exponent.isNone

end CameraControl.Json
