import CameraControl.Number.Integer
import CameraControl.Proofs.Number.Digits

/-
  Integers that are written out and read.

  Reading goes digit by digit and ends at the first digit with which the number leaves its bounds;
  a number within the bounds never does on the way, because it only grows. So what an integer is
  written as is read as this integer by every reader whose bounds it is within, `read_repr`.
-/

namespace CameraControl.Integer

open Decimal (numeral valueOf)

/-- What an integer is written as. -/
theorem toList_repr (z : Int) :
    z.repr.toList = if z < 0 then '-' :: numeral z.natAbs else numeral z.natAbs := by
  rw [Int.repr_eq_if]
  by_cases h : z < 0
  · rw [if_neg (by omega), if_pos h, String.toList_append, Nat.toList_repr,
      show (-z).toNat = z.natAbs by omega]
    rfl
  · rw [if_pos (by omega), if_neg h, Nat.toList_repr, show z.toNat = z.natAbs by omega]
    rfl

/-! ## Runs of digits -/

/-- A number grows with further digits. -/
theorem le_foldl_digits (ds : List Char) (n : Nat) :
    n ≤ ds.foldl (fun n c => 10 * n + (c.toNat - 48)) n := by
  induction ds generalizing n with
  | nil => exact Nat.le_refl n
  | cons c ds ih =>
    have hrest := ih (10 * n + (c.toNat - 48))
    rw [List.foldl_cons]
    omega

theorem readDigits_of_le {bound : Nat} {passed : IntegerFlaw} {ds : List Char} {n : Nat}
    (hds : ∀ c ∈ ds, c.isDigit = true)
    (hbound : ds.foldl (fun n c => 10 * n + (c.toNat - 48)) n ≤ bound) :
    readDigits bound passed n ds = .ok (ds.foldl (fun n c => 10 * n + (c.toNat - 48)) n) := by
  induction ds generalizing n with
  | nil => rfl
  | cons c ds ih =>
    obtain ⟨hc, hrest⟩ := List.forall_mem_cons.mp hds
    rw [List.foldl_cons] at hbound ⊢
    have hgrows := le_foldl_digits ds (10 * n + (c.toNat - 48))
    rw [readDigits, hc]
    simp only [Bool.not_true, Bool.false_eq_true, if_false]
    rw [if_neg (by omega)]
    exact ih hrest hbound

theorem readDigits_numeral {bound : Nat} {passed : IntegerFlaw} {n : Nat} (hn : n ≤ bound) :
    readDigits bound passed 0 (numeral n) = .ok n := by
  have hvalue : (numeral n).foldl (fun n c => 10 * n + (c.toNat - 48)) 0 = n :=
    Decimal.valueOf_numeral n
  have hdigits (c : Char) : c ∈ numeral n → c.isDigit = true := Decimal.isDigit_of_mem_numeral
  rw [readDigits_of_le hdigits (hvalue.symm ▸ hn), hvalue]

/-! ## Whole integers -/

variable {least most : Nat} {signed : Bool} {s : String}

theorem read_numeral {n : Nat} (hs : s.toList = numeral n) (hn : n ≤ most) :
    read least most signed s = .ok n := by
  have hdigit {c : Char} {cs : List Char} (h : s.toList = c :: cs) : c.isDigit = true :=
    Decimal.isDigit_of_mem_numeral (n := n) (by rw [← hs, h]; exact List.mem_cons_self)
  unfold read
  split
  next h => exact absurd (hs.symm.trans h) (Decimal.numeral_ne_nil n)
  next h => exact absurd (hdigit h) (by decide)
  next h => exact absurd (hdigit h) (by decide)
  next h => exact absurd (hdigit h) (by decide)
  next h => exact absurd (hdigit h) (by decide)
  next => rw [hs, readDigits_numeral hn]; rfl

theorem read_minus_numeral {n : Nat} (hs : s.toList = '-' :: numeral n) (hn : n ≤ least) :
    read least most true s = .ok (-n) := by
  unfold read
  rw [hs]
  split
  next h => cases h
  next h => cases h
  next h => exact absurd (List.cons.inj h).2 (Decimal.numeral_ne_nil n)
  next h => cases h
  next h =>
    obtain ⟨-, rfl⟩ := List.cons.inj h
    rw [if_pos rfl, readDigits_numeral hn]
    rfl
  next hminus => exact absurd rfl (hminus _)

/-- What an integer within the bounds is written as is read as this integer. -/
theorem read_repr {z : Int} (hsigned : z < 0 → signed = true) (hleast : -least ≤ z)
    (hmost : z ≤ most) : read least most signed z.repr = .ok z := by
  have hwritten := toList_repr z
  by_cases hneg : z < 0
  · rw [if_pos hneg] at hwritten
    rw [hsigned hneg, read_minus_numeral hwritten (by omega)]
    exact congrArg Except.ok (by omega)
  · rw [if_neg hneg] at hwritten
    rw [read_numeral hwritten (by omega)]
    exact congrArg Except.ok (by omega)

end CameraControl.Integer
