import CameraControl.Number.Binary64

/-
  Decimal numbers and their binary counterparts.

  A decimal number is a natural number of digits and a power of ten. `Decimal.toBinary64` gives
  the nearest binary number. `shortest` goes the other way: it gives the decimal number with the
  fewest digits that reads back as a given binary number, and the nearest such one. `positional`
  writes a decimal number without an exponent, and `plain` and `pointed` are the two written forms
  of a binary number.
-/

namespace CameraControl

/-- The absolute value `digits · 10 ^ exponent`. -/
structure Decimal where
  digits : Nat
  exponent : Int
  deriving DecidableEq, Repr

namespace Decimal

/-- A natural number in decimal digits. -/
def numeral (n : Nat) : List Char := Nat.toDigits 10 n

/-- The code of the binary number nearest to a decimal number. Exponents far outside the range of
    binary numbers are decided by the place of the first digit. -/
def toCode (d : Decimal) : Nat :=
  let place := (numeral d.digits).length + d.exponent
  if d.digits = 0 ∨ place < -400 then 0
  else if 400 < place then Binary64.infinityCode
  else if 0 ≤ d.exponent then Binary64.roundCode (d.digits * Nat.pow 10 d.exponent.toNat) 1
  else Binary64.roundCode d.digits (Nat.pow 10 (-d.exponent).toNat)

/-- The binary number nearest to a decimal number with a sign. -/
def toBinary64 (negative : Bool) (d : Decimal) : Binary64 :=
  Binary64.ofCode negative d.toCode

/-! ## The shortest decimal number that reads back -/

/-- The power of ten above the quotient `num / den`: its first digit stands one place below. -/
def placeOf (num den : Nat) : Int :=
  if den ≤ num then (numeral (num / den)).length
  else 1 - (numeral (den / num)).length

/-- The two neighbours of `num / den` among the decimal numbers with `n` digits, the nearer one
    first; the upper one counts as nearer when both are equally near. -/
def neighbours (num den : Nat) (n : Nat) : List Decimal :=
  let exponent := placeOf num den - n
  let num := if exponent < 0 then num * Nat.pow 10 (-exponent).toNat else num
  let den := if exponent < 0 then den else den * Nat.pow 10 exponent.toNat
  let below : Decimal := ⟨num / den, exponent⟩
  let above : Decimal := ⟨num / den + 1, exponent⟩
  if 2 * (num % den) < den then [below, above] else [above, below]

/-- The exact decimal value of the number with a code. -/
def exactly (code : Nat) : Decimal :=
  let units := Binary64.units code
  if units % (1 <<< 1074) = 0 then ⟨units >>> 1074, 0⟩ else ⟨units * Nat.pow 5 1074, -1074⟩

/-- The decimal number with the fewest digits that reads back as the number with a code. -/
def shortest (code : Nat) : Decimal :=
  let candidates :=
    ((List.range 17).map (· + 1)).flatMap (neighbours (Binary64.units code) (1 <<< 1074))
  (candidates.find? fun d => d.toCode == code).getD (exactly code)

/-! ## Written forms -/

/-- A list without the zeros at its end. -/
def dropTrailingZeros (ds : List Char) : List Char :=
  (ds.reverse.dropWhile (· == '0')).reverse

/-- The whole part and the fraction of a decimal number, the fraction without zeros at its end. -/
def wholeAndFraction (d : Decimal) : List Char × List Char :=
  if 0 ≤ d.exponent then (numeral (d.digits * Nat.pow 10 d.exponent.toNat), [])
  else
    let places := (-d.exponent).toNat
    let fraction := numeral (d.digits % Nat.pow 10 places)
    (numeral (d.digits / Nat.pow 10 places),
      dropTrailingZeros (List.replicate (places - fraction.length) '0' ++ fraction))

/-- A decimal number without an exponent; a whole number has no point. -/
def positional (d : Decimal) : String :=
  match d.wholeAndFraction with
  | (whole, []) => String.ofList whole
  | (whole, fraction) => String.ofList (whole ++ '.' :: fraction)

/-- A decimal number without an exponent and with at least one digit after the point. -/
def pointed (d : Decimal) : String :=
  match d.wholeAndFraction with
  | (whole, []) => String.ofList (whole ++ ['.', '0'])
  | (whole, fraction) => String.ofList (whole ++ '.' :: fraction)

end Decimal

namespace Binary64

/-- A sign in front of a written number. -/
def signed (negative : Bool) (s : String) : String := if negative then "-" ++ s else s

/-- A number as messages show it. -/
def plain : Binary64 → String
  | nan _ => "NaN"
  | infinity negative => signed negative "inf"
  | finite negative m => signed negative (Decimal.shortest m.val).positional

/-- A number as settings files show it: it can be told from an integer. -/
def pointed : Binary64 → String
  | nan negative => signed negative "nan"
  | infinity negative => signed negative "inf"
  | finite negative m => signed negative (Decimal.shortest m.val).pointed

end Binary64

/-! ## Reading -/

/-- Why a text is no number. -/
inductive FloatFlaw where
  | empty
  | invalid
  deriving DecidableEq, Repr

/-- The text that tells of a flaw. -/
def FloatFlaw.message : FloatFlaw → String
  | empty => "cannot parse float from empty string"
  | invalid => "invalid float literal"

namespace Decimal

/-- The value of a list of decimal digits. -/
def valueOf (ds : List Char) : Nat := ds.foldl (fun n c => 10 * n + (c.toNat - 48)) 0

/-- The number with digits before and after the point and a power of ten. -/
def ofParts (whole fraction : List Char) (exponent : Int) : Decimal :=
  ⟨valueOf (whole ++ fraction), exponent - fraction.length⟩

/-- A sign, if there is one, and the rest. -/
def splitSign : List Char → Bool × List Char
  | '-' :: rest => (true, rest)
  | '+' :: rest => (false, rest)
  | rest => (false, rest)

/-- The value of a signed run of digits that fills a text. -/
def readExponent? (cs : List Char) : Option Int :=
  let (negative, ds) := splitSign cs
  if ds.isEmpty || !ds.all Char.isDigit then none
  else some (if negative then -(valueOf ds : Int) else valueOf ds)

/-- Reads digits with an optional point and an optional exponent; at least one digit must stand
    before the exponent. -/
def read? (cs : List Char) : Option Decimal :=
  let whole := cs.takeWhile Char.isDigit
  let rest := cs.dropWhile Char.isDigit
  let (fraction, rest) := match rest with
    | '.' :: tail => (tail.takeWhile Char.isDigit, tail.dropWhile Char.isDigit)
    | _ => ([], rest)
  if whole.isEmpty && fraction.isEmpty then none
  else match rest with
    | [] => some (ofParts whole fraction 0)
    | c :: tail =>
      if c = 'e' ∨ c = 'E' then (readExponent? tail).map (ofParts whole fraction) else none

end Decimal

namespace Binary64

/-- Reads a number: an optional sign, then digits, `inf`, `infinity` or `nan` in any case. -/
def read (s : String) : Except FloatFlaw Binary64 :=
  if s.isEmpty then .error .empty
  else
    let (negative, body) := Decimal.splitSign s.toList
    match Decimal.read? body with
    | some d => .ok (d.toBinary64 negative)
    | none =>
      let word := String.ofList (body.map Char.toLower)
      if word = "inf" ∨ word = "infinity" then .ok (.infinity negative)
      else if word = "nan" then .ok (.nan negative)
      else .error .invalid

end Binary64

end CameraControl
