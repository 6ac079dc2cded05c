import CameraControl.Json.Value
import CameraControl.Number.Decimal

/-
  Numbers of JSON texts as machine numbers.

  An integer must have been written as one. A floating-point number is made from at most 64 bits
  of leading digits, which are rounded once, and is then multiplied or divided by a power of ten,
  which rounds a second time; so its last bit may differ from that of the nearest number. Numbers
  that are too large for a finite result are refused.
-/

namespace CameraControl.Json.NumberText

/-- The largest value that the leading digits may have. -/
def leadingLimit : Nat := (1 <<< 64) - 1

/-- Adds digits to a number as long as it stays within the limit; gives it with the digits that are
    left. -/
def addDigits : Nat → List Char → Nat × List Char
  | n, [] => (n, [])
  | n, c :: rest =>
    let m := 10 * n + (c.toNat - 48)
    if leadingLimit < m then (n, c :: rest) else addDigits m rest

/-- The leading digits of a number, and the power of ten that belongs to them. -/
def leading (n : NumberText) : Nat × Int :=
  let (whole, dropped) := addDigits 0 n.whole
  let (all, unused) := addDigits whole n.fraction
  (all, (dropped.length : Int) - ((n.fraction.length - unused.length : Nat) : Int))

/-- A power of ten as a floating-point number. -/
def tenTo (k : Nat) : Binary64 := Decimal.toBinary64 false ⟨1, k⟩

/-- A number times a power of ten, in steps of at most 308 places; nothing if it gets infinite. -/
def scaled? (x : Binary64) (e : Int) : Option Binary64 :=
  if 0 ≤ e then
    if e ≤ 308 then
      let y := x.mul (tenTo e.toNat)
      if y.isFinite then some y else none
    else if x = Binary64.zero false then some x
    else none
  else if -308 ≤ e then some (x.div (tenTo (-e).toNat))
  else if x = Binary64.zero false then some x
  else scaled? (x.div (tenTo 308)) (e + 308)
termination_by (-e).toNat
decreasing_by omega

/-- The largest exponent that is looked at as a number. -/
def exponentLimit : Nat := (1 <<< 31) - 1

/-- The absolute value as a floating-point number. -/
def magnitude? (n : NumberText) : Option Binary64 :=
  let (digits, place) := n.leading
  match n.exponent with
  | none => scaled? (Binary64.ofInt digits) place
  | some (negative, ds) =>
    let e := Decimal.valueOf ds
    if exponentLimit < e then
      if digits ≠ 0 ∧ !negative then none else some (Binary64.zero false)
    else scaled? (Binary64.ofInt digits) (if negative then place - e else place + e)

/-- The number as a floating-point number. -/
def toBinary64? (n : NumberText) : Option Binary64 :=
  n.magnitude?.map fun x => if n.negative then x.neg else x

/-- The number as an integer of 64 bits. Zero with a minus sign is none. -/
def toInt64? (n : NumberText) : Option Int64 :=
  if n.isInteger then
    let v := Decimal.valueOf n.whole
    if n.negative then
      if 0 < v ∧ v ≤ 1 <<< 63 then some (Int64.ofInt (-(v : Int))) else none
    else if v < 1 <<< 63 then some (Int64.ofInt v)
    else none
  else none

end CameraControl.Json.NumberText
