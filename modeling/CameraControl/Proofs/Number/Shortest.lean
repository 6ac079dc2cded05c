import CameraControl.Proofs.Number.Digits
import CameraControl.Proofs.Number.Rounding

/-
  Written numbers read back.

  What a decimal number is rounded to does not depend on how many zeros stand at the end of its
  digits. The shortest decimal number of a floating-point number is rounded to that number again:
  if no candidate with few digits is, the exact value is taken, and that one always is.
-/

namespace CameraControl.Decimal

open Binary64 (roundCode units infinityCode)

/-! ## Rounding decimal numbers -/

/-- The power of ten above a number: its first digit stands one place below. -/
def place (d : Decimal) : Int := (numeral d.digits).length + d.exponent

/-- A decimal number within the range of places is rounded like the quotient it stands for. -/
theorem toCode_eq (d : Decimal) :
    d.toCode =
      if d.digits = 0 ∨ d.place < -400 then 0
      else if 400 < d.place then infinityCode
      else roundCode (d.digits * 10 ^ d.exponent.toNat) (10 ^ (-d.exponent).toNat) := by
  have hquotient :
      (if 0 ≤ d.exponent then roundCode (d.digits * Nat.pow 10 d.exponent.toNat) 1
        else roundCode d.digits (Nat.pow 10 (-d.exponent).toNat))
      = roundCode (d.digits * 10 ^ d.exponent.toNat) (10 ^ (-d.exponent).toNat) := by
    split
    · rw [show (-d.exponent).toNat = 0 by omega]
      rfl
    · rw [show d.exponent.toNat = 0 by omega, Nat.pow_zero, Nat.mul_one]
      rfl
  rw [← hquotient]
  rfl

/-- Zeros at the end of the digits count as powers of ten. -/
theorem toCode_mul_pow (n k : Nat) (e : Int) :
    toCode ⟨n * 10 ^ k, e⟩ = toCode ⟨n, e + k⟩ := by
  by_cases hn : n = 0
  · simp [toCode_eq, hn]
  · have hpow : ∀ m, 0 < 10 ^ m := fun m => Nat.pow_pos (by decide)
    have hne : n * 10 ^ k ≠ 0 := Nat.mul_ne_zero hn (Nat.ne_of_gt (hpow k))
    have hplace : place ⟨n * 10 ^ k, e⟩ = place ⟨n, e + k⟩ := by
      simp only [place, length_numeral_mul_pow (Nat.pos_of_ne_zero hn)]
      omega
    have hround : roundCode (n * 10 ^ k * 10 ^ e.toNat) (10 ^ (-e).toNat)
        = roundCode (n * 10 ^ (e + k).toNat) (10 ^ (-(e + k)).toNat) := by
      refine Binary64.roundCode_congr (hpow _) (hpow _) ?_
      simp only [Nat.mul_assoc, ← Nat.pow_add]
      congr 2
      omega
    simp only [toCode_eq, hplace, hne, hn, hround]

/-- Zeros at the end of a fraction do not matter. -/
theorem toCode_ofParts_append_zeros (whole fraction : List Char) (k : Nat) (e : Int) :
    (ofParts whole (fraction ++ List.replicate k '0') e).toCode
      = (ofParts whole fraction e).toCode := by
  have hvalue : valueOf (whole ++ (fraction ++ List.replicate k '0'))
      = valueOf (whole ++ fraction) * 10 ^ k := by
    rw [← List.append_assoc, valueOf_append, valueOf_zeros, List.length_replicate, Nat.add_zero]
  simp only [ofParts, hvalue, toCode_mul_pow, List.length_append, List.length_replicate]
  congr 2
  omega

/-! ## Exact values -/

/-- What a decimal number is rounded to, with bounds on its digits for those on its place. -/
theorem toCode_of_bounds {digits low high : Nat} {exponent : Int} (hlow : 10 ^ low ≤ digits)
    (hhigh : digits < 10 ^ high) (hleast : -400 ≤ low + exponent)
    (hmost : high + exponent ≤ 400) :
    toCode ⟨digits, exponent⟩
      = roundCode (digits * 10 ^ exponent.toNat) (10 ^ (-exponent).toNat) := by
  have hpositive : 0 < digits := Nat.lt_of_lt_of_le (Nat.pow_pos (by decide)) hlow
  have hshort : (numeral digits).length ≤ high := by
    refine (length_numeral_le_iff (Nat.pos_of_ne_zero fun hzero => ?_)).mpr hhigh
    rw [hzero, Nat.pow_zero] at hhigh
    omega
  have hlong : low < (numeral digits).length := by
    refine Nat.lt_of_not_le fun hle => ?_
    by_cases hzero : low = 0
    · exact numeral_ne_nil digits (List.length_eq_zero_iff.mp (by omega))
    · exact Nat.not_lt.mpr hlow ((length_numeral_le_iff (Nat.pos_of_ne_zero hzero)).mp hle)
  rw [toCode_eq, if_neg, if_neg]
  · simp only [place]
    omega
  · simp only [place]
    omega

theorem two_pow_le_ten_pow (k : Nat) : 2 ^ (3 * k) ≤ 10 ^ k := by
  rw [Nat.pow_mul]
  exact Nat.pow_le_pow_left (by decide) k

theorem ten_pow_le_five_pow (k : Nat) : 10 ^ (2 * k) ≤ 5 ^ (3 * k) := by
  rw [Nat.pow_mul, Nat.pow_mul]
  exact Nat.pow_le_pow_left (by decide) k

/-- The exact value of a finite number is rounded to that number. -/
theorem toCode_exactly {code : Nat} (h : code < infinityCode) : (exactly code).toCode = code := by
  by_cases hzero : code = 0
  · subst hzero
    decide +kernel
  have hunits : 0 < units code := Nat.pos_of_ne_zero (mt Binary64.units_eq_zero_iff.mp hzero)
  have hround := Binary64.roundCode_units code
  simp only [exactly]
  -- a unit is `2 ^ -1074`; that power is never evaluated
  generalize hleast : 1074 = least at hround ⊢
  have hlt : units code < 2 ^ (3 * 342) * 2 ^ least := by
    rw [← Nat.pow_add]
    exact Binary64.units_lt h (by omega)
  rw [Nat.one_shiftLeft] at hround ⊢
  by_cases hwhole : units code % 2 ^ least = 0
  · have hdigits : units code / 2 ^ least * 2 ^ least = units code :=
      Nat.div_mul_cancel (Nat.dvd_of_mod_eq_zero hwhole)
    have hmany : 10 ^ 0 ≤ units code / 2 ^ least :=
      Nat.pos_of_ne_zero fun hnone => by rw [hnone, Nat.zero_mul] at hdigits; omega
    have hfew : units code / 2 ^ least < 10 ^ 342 :=
      Nat.lt_of_lt_of_le (Nat.div_lt_of_lt_mul (by rwa [Nat.mul_comm])) (two_pow_le_ten_pow 342)
    rw [if_pos hwhole, Nat.shiftRight_eq_div_pow,
      toCode_of_bounds hmany hfew (by decide) (by decide)]
    refine Eq.trans (Binary64.roundCode_congr (by decide) (Nat.two_pow_pos least) ?_) hround
    simpa using hdigits
  · have hmany : 10 ^ (2 * 358) ≤ units code * 5 ^ least := by
      refine Nat.le_trans (ten_pow_le_five_pow 358) ?_
      rw [show 3 * 358 = least by omega]
      exact Nat.le_mul_of_pos_left _ hunits
    have hfew : units code * 5 ^ least < 10 ^ (342 + least) :=
      calc units code * 5 ^ least
          < 2 ^ (3 * 342) * 2 ^ least * 5 ^ least :=
            Nat.mul_lt_mul_of_pos_right hlt (Nat.pow_pos (by decide))
        _ = 2 ^ (3 * 342) * 10 ^ least := by rw [Nat.mul_assoc, ← Nat.mul_pow]
        _ ≤ 10 ^ 342 * 10 ^ least := Nat.mul_le_mul_right _ (two_pow_le_ten_pow 342)
        _ = 10 ^ (342 + least) := by rw [Nat.pow_add]
    have hcode : toCode ⟨units code * 5 ^ least, -1074⟩ = _ :=
      toCode_of_bounds hmany hfew (by omega) (by omega)
    rw [if_neg hwhole]
    refine hcode.trans (Eq.trans (Binary64.roundCode_congr (Nat.pow_pos (by decide))
      (Nat.two_pow_pos least) ?_) hround)
    rw [show (-1074 : Int).toNat = 0 by omega, show (-(-1074 : Int)).toNat = least by omega,
      Nat.pow_zero, Nat.mul_one, Nat.mul_assoc, ← Nat.mul_pow]

/-- The shortest decimal number that reads back does read back. -/
theorem toCode_shortest {code : Nat} (h : code < infinityCode) :
    (shortest code).toCode = code := by
  unfold shortest
  simp only
  cases hfind : List.find? _ _ with
  | none => exact toCode_exactly h
  | some d => simpa using List.find?_some hfind

/-! ## Written forms -/

/-- A number below a power of ten, filled up with zeros in front, has as many digits as there are
    zeros in the power. -/
theorem length_padded {n places : Nat} (h : n < 10 ^ places) (hplaces : 0 < places) :
    (List.replicate (places - (numeral n).length) '0' ++ numeral n).length = places := by
  have := (length_numeral_le_iff hplaces).mpr h
  rw [List.length_append, List.length_replicate]
  omega

/-- The parts of a written number, put together, are rounded like the number. -/
theorem toCode_wholeAndFraction (d : Decimal) :
    (ofParts d.wholeAndFraction.1 d.wholeAndFraction.2 0).toCode = d.toCode := by
  by_cases h : 0 ≤ d.exponent
  · have hvalue : ofParts d.wholeAndFraction.1 d.wholeAndFraction.2 0
        = ⟨d.digits * 10 ^ d.exponent.toNat, 0⟩ := by
      simp [wholeAndFraction, h, ofParts]
    rw [hvalue, toCode_mul_pow, Int.zero_add, Int.toNat_of_nonneg h]
  · simp only [wholeAndFraction, if_neg h, Nat.pow_eq]
    obtain ⟨places, hplaces⟩ : ∃ places : Nat, d.exponent = -(places : Int) :=
      ⟨(-d.exponent).toNat, by omega⟩
    rw [hplaces, Int.neg_neg, Int.toNat_natCast]
    have hlength := length_padded (Nat.mod_lt d.digits (Nat.pow_pos (n := places) (by decide)))
      (by omega)
    generalize hpadded : List.replicate (places - (numeral (d.digits % 10 ^ places)).length) '0'
      ++ numeral (d.digits % 10 ^ places) = padded at hlength ⊢
    have hvalue : ofParts (numeral (d.digits / 10 ^ places)) padded 0
        = ⟨d.digits, -(places : Int)⟩ := by
      rw [ofParts, valueOf_append, valueOf_numeral, hlength, ← hpadded, valueOf_append,
        valueOf_zeros, valueOf_numeral, Nat.zero_mul, Nat.zero_add, Nat.div_add_mod', Int.zero_sub]
    obtain ⟨k, hk⟩ := dropTrailingZeros_append_zeros padded
    calc (ofParts (numeral (d.digits / 10 ^ places)) (dropTrailingZeros padded) 0).toCode
        = (ofParts (numeral (d.digits / 10 ^ places)) padded 0).toCode := by
          rw [← toCode_ofParts_append_zeros _ _ k 0, ← hk]
      _ = d.toCode := by rw [hvalue, ← hplaces]

theorem isDigit_of_mem_wholeAndFraction {d : Decimal} {c : Char} (h : c ∈ d.wholeAndFraction.2) :
    c.isDigit = true := by
  unfold wholeAndFraction at h
  split at h
  next => cases h
  next =>
    have hmem := List.mem_reverse.mp ((List.dropWhile_sublist _).mem (List.mem_reverse.mp h))
    rcases List.mem_append.mp hmem with hzero | hdigit
    · rw [(List.mem_replicate.mp hzero).2]
      rfl
    · exact isDigit_of_mem_numeral hdigit

/-- What a number looks like with a point in it. -/
theorem pointed_parts (d : Decimal) :
    ∃ n fraction, d.pointed = String.ofList (numeral n ++ '.' :: fraction) ∧ fraction ≠ [] ∧
      (∀ c ∈ fraction, c.isDigit = true) ∧ (ofParts (numeral n) fraction 0).toCode = d.toCode := by
  have hcode := toCode_wholeAndFraction d
  have hdigits : ∀ c ∈ d.wholeAndFraction.2, c.isDigit = true :=
    fun _ => isDigit_of_mem_wholeAndFraction
  obtain ⟨n, hn⟩ : ∃ n, d.wholeAndFraction.1 = numeral n := by
    unfold wholeAndFraction
    split <;> exact ⟨_, rfl⟩
  generalize hparts : d.wholeAndFraction = parts at hcode hdigits hn
  obtain ⟨whole, fraction⟩ := parts
  simp only at hn hcode hdigits
  subst hn
  cases fraction with
  | nil =>
    refine ⟨n, ['0'], by simp only [pointed, hparts], by decide,
      List.forall_mem_singleton.mpr rfl, ?_⟩
    exact (toCode_ofParts_append_zeros (numeral n) [] 1 0).trans hcode
  | cons c rest =>
    exact ⟨n, c :: rest, by simp only [pointed, hparts], List.cons_ne_nil _ _, hdigits, hcode⟩

example : (shortest 0x3f847ae147ae147b).pointed = "0.01" := by decide +kernel

end CameraControl.Decimal
