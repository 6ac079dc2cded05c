import CameraControl.Number.Decimal
import Mathlib.Algebra.Group.Nat.Defs
import Mathlib.Data.List.TakeWhile

/-
  Decimal numerals.

  A numeral consists of digits, has no superfluous zero in front, and its value is the number it
  was written for. Zeros at the end of a run of digits multiply its value by powers of ten.
-/

namespace CameraControl.Decimal

/-! ## Values of digits -/

theorem valueOf_eq_ofDigitChars (ds : List Char) : valueOf ds = Nat.ofDigitChars 10 ds 0 :=
  Nat.ofDigitChars_eq_foldl.symm

@[simp] theorem valueOf_numeral (n : Nat) : valueOf (numeral n) = n := by
  rw [valueOf_eq_ofDigitChars]
  exact Nat.ofDigitChars_ten_toDigits

theorem valueOf_append (ds es : List Char) :
    valueOf (ds ++ es) = valueOf ds * 10 ^ es.length + valueOf es := by
  simp only [valueOf_eq_ofDigitChars, Nat.ofDigitChars_append]
  rw [Nat.ofDigitChars_eq_ofDigitChars_zero, Nat.mul_comm]

@[simp] theorem valueOf_zeros (k : Nat) : valueOf (List.replicate k '0') = 0 := by
  rw [valueOf_eq_ofDigitChars, Nat.ofDigitChars_replicate_zero, Nat.mul_zero]

/-! ## Numerals -/

theorem numeral_ne_nil (n : Nat) : numeral n ≠ [] := Nat.toDigits_ne_nil

theorem isDigit_of_mem_numeral {n : Nat} {c : Char} (h : c ∈ numeral n) : c.isDigit = true :=
  Nat.isDigit_of_mem_toDigits (by decide) (by decide) h

/-- A numeral has its last digit behind the numeral of the other digits. -/
theorem numeral_append_digit {n d : Nat} (hn : 0 < n) (hd : d < 10) :
    numeral (10 * n + d) = numeral n ++ [d.digitChar] := by
  rw [numeral, ← Nat.toDigits_append_toDigits (by decide) hn hd, Nat.toDigits_of_lt_base hd]
  rfl

/-- The numeral of a positive number does not begin with a zero. -/
theorem head?_numeral_ne_zero {n : Nat} (hn : 0 < n) : (numeral n).head? ≠ some '0' := by
  induction n using Nat.strongRecOn with
  | ind n ih =>
    by_cases h : n < 10
    · have hdigit : ∀ d < 10, 0 < d → [d.digitChar].head? ≠ some '0' := by decide
      rw [numeral, Nat.toDigits_of_lt_base h]
      exact hdigit n h hn
    · have hsplit : numeral n = numeral (n / 10) ++ [(n % 10).digitChar] := by
        rw [← numeral_append_digit (by omega) (by omega), Nat.div_add_mod]
      obtain ⟨c, rest, hcons⟩ := List.exists_cons_of_ne_nil (numeral_ne_nil (n / 10))
      have hfirst := ih (n / 10) (by omega) (by omega)
      rw [hcons] at hfirst
      rw [hsplit, hcons]
      exact hfirst

/-- Only the numeral of zero begins with a zero, and it has no other digit. -/
theorem numeral_of_head_zero {n : Nat} {ds : List Char} (h : numeral n = '0' :: ds) : ds = [] := by
  by_cases hn : n = 0
  · subst hn
    simpa [numeral] using h.symm
  · exact absurd (by rw [h]; rfl) (head?_numeral_ne_zero (Nat.pos_of_ne_zero hn))

theorem length_numeral_le_iff {n k : Nat} (hk : 0 < k) :
    (numeral n).length ≤ k ↔ n < 10 ^ k :=
  Nat.length_toDigits_le_iff (by decide) hk

/-- A factor that is a power of ten adds digits at the end of a numeral. -/
theorem length_numeral_mul_pow {n : Nat} (hn : 0 < n) (k : Nat) :
    (numeral (n * 10 ^ k)).length = (numeral n).length + k := by
  induction k with
  | zero => rw [Nat.pow_zero, Nat.mul_one, Nat.add_zero]
  | succ k ih =>
    have hpos : 0 < n * 10 ^ k := Nat.mul_pos hn (Nat.pow_pos (by decide))
    have hstep : n * 10 ^ (k + 1) = 10 * (n * 10 ^ k) + 0 := by
      rw [Nat.pow_succ, Nat.add_zero, ← Nat.mul_assoc, Nat.mul_comm 10]
    rw [hstep, numeral_append_digit hpos (by decide), List.length_append, ih]
    rfl

/-! ## Zeros at the end -/

/-- What is left out at the end of a run of digits is zeros. -/
theorem dropTrailingZeros_append_zeros (ds : List Char) :
    ∃ k, ds = dropTrailingZeros ds ++ List.replicate k '0' := by
  refine ⟨(ds.reverse.takeWhile (· == '0')).length, ?_⟩
  have hzeros : ds.reverse.takeWhile (· == '0')
      = List.replicate (ds.reverse.takeWhile (· == '0')).length '0' := by
    refine List.eq_replicate_iff.mpr ⟨rfl, fun c hc => ?_⟩
    simpa using List.mem_takeWhile_imp hc
  have hsplit := List.takeWhile_append_dropWhile (p := (· == '0')) (l := ds.reverse)
  rw [hzeros] at hsplit
  rw [dropTrailingZeros, ← List.reverse_replicate, ← List.reverse_append, hsplit,
    List.reverse_reverse]

end CameraControl.Decimal
