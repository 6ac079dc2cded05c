/-
  Floating-point numbers of 64 bits.

  A number is not a number, infinite, or finite; a finite one is a sign and a magnitude, where the
  magnitude is the 63-bit code of the absolute value. Codes are ordered like the values, and the
  code after the largest finite one stands for infinity, so rounding may count codes. Of the "not a
  number" bit patterns only the sign is kept. `round` gives the number nearest to a quotient of
  natural numbers.
-/

namespace CameraControl

/-- A floating-point number of 64 bits. -/
inductive Binary64 where
  | nan (negative : Bool)
  | infinity (negative : Bool)
  | finite (negative : Bool) (magnitude : Fin (2047 <<< 52))
  deriving DecidableEq, Repr

namespace Binary64

instance : Inhabited Binary64 := ⟨.finite false ⟨0, by decide⟩⟩

/-- The code of infinity, the first that is not finite. -/
def infinityCode : Nat := 2047 <<< 52

/-- Positive or negative zero. -/
def zero (negative : Bool) : Binary64 := .finite negative ⟨0, by decide⟩

/-- The number with a sign and the code of an absolute value; codes past the finite ones give
    infinity. -/
def ofCode (negative : Bool) (code : Nat) : Binary64 :=
  if h : code < 2047 <<< 52 then .finite negative ⟨code, h⟩ else .infinity negative

/-! ## Bit patterns -/

/-- The bit that is set in the patterns of negative numbers. -/
def signBit : Nat := 1 <<< 63

/-- The number that a bit pattern stands for. -/
def ofBits (bits : UInt64) : Binary64 :=
  let code := bits.toNat % signBit
  let negative : Bool := signBit ≤ bits.toNat
  if infinityCode < code then .nan negative else ofCode negative code

/-- The bit pattern of a number. -/
def toBits : Binary64 → UInt64
  | nan negative => if negative then 0xfff8000000000000 else 0x7ff8000000000000
  | infinity negative => UInt64.ofNat ((if negative then signBit else 0) + infinityCode)
  | finite negative m => UInt64.ofNat ((if negative then signBit else 0) + m.val)

/-! ## Order -/

/-- A key that orders all numbers but "not a number"; both zeros have the same. -/
def key? : Binary64 → Option Int
  | nan _ => none
  | infinity negative => some (if negative then -(infinityCode : Int) else infinityCode)
  | finite negative m => some (if negative then -(m.val : Int) else m.val)

/-- Whether one number is below another; nothing is below or above "not a number". -/
def lt (a b : Binary64) : Bool :=
  match a.key?, b.key? with
  | some x, some y => x < y
  | _, _ => false

/-- The same number with the other sign. -/
def neg : Binary64 → Binary64
  | nan negative => nan !negative
  | infinity negative => infinity !negative
  | finite negative m => finite (!negative) m

/-! ## Values and rounding

The absolute value of a finite number is `significand · 2 ^ (scale - 1074)`.
-/

/-- The whole part of the significand that a code stands for, implicit bit included. -/
def significand (code : Nat) : Nat :=
  if code < 1 <<< 52 then code else (1 <<< 52) + code % (1 <<< 52)

/-- The power of two that a code scales its significand by, counted from the least one. -/
def scale (code : Nat) : Nat := (code >>> 52) - 1

/-- The natural number nearest to `num / den`; a half goes to the even neighbour. -/
def nearest (num den : Nat) : Nat :=
  let q := num / den
  let r := num % den
  if 2 * r < den then q
  else if den < 2 * r then q + 1
  else if q % 2 = 0 then q else q + 1

/-- The scale at which `num / den`, counted in units of `2 ^ -1074`, has a significand of 53 bits;
    zero if it has fewer. -/
def scaleOf (num den : Nat) : Nat :=
  let units := (num <<< 1074) / den
  units.log2 - 52

/-- The code of the number nearest to `num / den`, a half going to the even neighbour. -/
def roundCode (num den : Nat) : Nat :=
  let s := scaleOf num den
  (s <<< 52) + nearest (num <<< 1074) (den <<< s)

/-- The number nearest to the quotient `num / den` with a given sign. -/
def round (negative : Bool) (num den : Nat) : Binary64 :=
  ofCode negative (roundCode num den)

/-- The number nearest to an integer. -/
def ofInt (n : Int) : Binary64 := round (n < 0) n.natAbs 1

/-- The absolute value of a finite number, in units of `2 ^ -1074`. -/
def units (code : Nat) : Nat := significand code <<< scale code

/-- The product of two numbers. -/
def mul : Binary64 → Binary64 → Binary64
  | finite s m, finite t n =>
    round (s != t) (units m.val * units n.val) (1 <<< 2148)
  | nan s, _ => nan s
  | _, nan t => nan t
  | infinity s, infinity t => infinity (s != t)
  | infinity s, finite t n => if n.val = 0 then nan false else infinity (s != t)
  | finite s m, infinity t => if m.val = 0 then nan false else infinity (s != t)

/-- The quotient of two numbers. -/
def div : Binary64 → Binary64 → Binary64
  | finite s m, finite t n =>
    if n.val = 0 then (if m.val = 0 then nan false else infinity (s != t))
    else round (s != t) (units m.val) (units n.val)
  | nan s, _ => nan s
  | _, nan t => nan t
  | infinity _, infinity _ => nan false
  | infinity s, finite t _ => infinity (s != t)
  | finite s _, infinity t => zero (s != t)

/-- Whether a number is "not a number". -/
def isNan : Binary64 → Bool
  | nan _ => true
  | _ => false

/-- Whether a number is finite. -/
def isFinite : Binary64 → Bool
  | finite _ _ => true
  | _ => false

end Binary64

end CameraControl
