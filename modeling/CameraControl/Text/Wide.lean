import CameraControl.Fault

/-
  Wide texts: the form in which the driver takes and gives texts.

  A wide text is a list of signed 32-bit units, one for each character, ended by a unit 0. `encode`
  and `decode` translate the characters; `ofText` adds the end mark, `toText` stops at it,
  `scan` stops at it or after `scanLimit` units, and `fill` writes a text into a buffer of fixed
  length.
-/

namespace CameraControl.Text.Wide

/-- How far a text of unknown length is read. -/
def scanLimit : Nat := 4096

/-- The unit for a character. -/
def ofChar (c : Char) : Int32 := Int32.ofNat c.toNat

/-- The character for a unit; units that are no character give the replacement character. -/
def toChar (u : Int32) : Char :=
  if u.toUInt32.toNat.isValidChar then Char.ofNat u.toUInt32.toNat else '\ufffd'

/-- The units of a text, without an end mark. -/
def encode (s : String) : List Int32 := s.toList.map ofChar

/-- The text of some units. -/
def decode (units : List Int32) : String := String.ofList (units.map toChar)

/-- Whether a text holds the character that would end it early. -/
def hasNul (s : String) : Bool := s.toList.any (· == Char.ofNat 0)

/-- A text with its end mark. A text that would end early is refused. -/
def ofText (s : String) : Except Fault (List Int32) :=
  if hasNul s then .error (.interiorNul s) else .ok (encode s ++ [0])

/-- The text up to the end mark or, without one, the whole list. -/
def toText (units : List Int32) : String := decode (units.takeWhile (· != 0))

/-- The text up to the end mark, but at most `scanLimit` characters of it. No list at all stands
    for the empty text. -/
def scan (units : Option (List Int32)) : String :=
  match units with
  | none => ""
  | some us => toText (us.take scanLimit)

/-- A buffer after a text was written into it: cut to the length of the buffer, with an end mark
    if there is room for one. -/
def fill (s : String) (buffer : List Int32) : List Int32 :=
  let units := (encode s).take buffer.length
  if units.length < buffer.length then units ++ 0 :: buffer.drop (units.length + 1) else units

/-! ## First facts -/

theorem length_fill (s : String) (buffer : List Int32) :
    (fill s buffer).length = buffer.length := by
  simp only [fill]
  split
  · next h => simp only [List.length_append, List.length_cons, List.length_drop]; omega
  · next h =>
    have := List.length_take_le buffer.length (encode s)
    omega

end CameraControl.Text.Wide
