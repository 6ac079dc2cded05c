import CameraControl.Number.Binary64
import Mathlib.Algebra.Group.Nat.Defs

/-
  Bit patterns of floating-point numbers, and rounding to such numbers.

  A bit pattern can be told from the number that it stands for, unless that is "not a number". The
  code that a quotient is rounded to depends on the quotient alone, not on how it is written. The
  value of a code, as a quotient, is rounded to that code: rounding leaves the numbers that exist
  where they are.
-/

namespace CameraControl.Binary64

/-! ## Bit patterns -/

/-- The sign and the code of a bit pattern, put together again. -/
theorem ofNat_sign_add_code (bits : UInt64) :
    UInt64.ofNat ((if decide (signBit ≤ bits.toNat) then signBit else 0)
      + bits.toNat % signBit) = bits := by
  have hlt := bits.toNat_lt
  have hsign : signBit = 9223372036854775808 := rfl
  have hsum : (if decide (signBit ≤ bits.toNat) then signBit else 0) + bits.toNat % signBit
      = bits.toNat := by
    simp only [decide_eq_true_eq, hsign]
    split <;> omega
  rw [hsum, UInt64.ofNat_toNat]

/-- Only patterns of "not a number" are identified with each other. -/
theorem toBits_ofBits {bits : UInt64} (h : (ofBits bits).isNan = false) :
    (ofBits bits).toBits = bits := by
  have hbits := ofNat_sign_add_code bits
  unfold ofBits at h ⊢
  simp only at h ⊢
  split
  next hnan =>
    rw [if_pos hnan] at h
    cases h
  next hcode =>
    unfold ofCode
    split
    next => exact hbits
    next hinfinite =>
      have heq : bits.toNat % signBit = infinityCode :=
        Nat.le_antisymm (Nat.le_of_not_lt hcode) (Nat.le_of_not_lt hinfinite)
      rw [heq] at hbits
      exact hbits

/-! ## Quotients that are equal -/

theorem nearest_mul_right (num den : Nat) {c : Nat} (hc : 0 < c) :
    nearest (num * c) (den * c) = nearest num den := by
  have below : (2 * (num % den * c) < den * c) = (2 * (num % den) < den) := by
    rw [← Nat.mul_assoc]
    exact propext (Nat.mul_lt_mul_right hc)
  have above : (den * c < 2 * (num % den * c)) = (den < 2 * (num % den)) := by
    rw [← Nat.mul_assoc]
    exact propext (Nat.mul_lt_mul_right hc)
  simp only [nearest, Nat.mul_div_mul_right _ _ hc, Nat.mul_mod_mul_right, below, above]

/-- A whole number is nearest to itself. -/
theorem nearest_one (n : Nat) : nearest n 1 = n := by
  simp [nearest, Nat.mod_one]

theorem shiftLeft_mul_right (n k c : Nat) : (n * c) <<< k = n <<< k * c := by
  rw [Nat.shiftLeft_eq, Nat.shiftLeft_eq, Nat.mul_right_comm]

theorem scaleOf_mul_right (num den : Nat) {c : Nat} (hc : 0 < c) :
    scaleOf (num * c) (den * c) = scaleOf num den := by
  simp only [scaleOf, shiftLeft_mul_right, Nat.mul_div_mul_right _ _ hc]

theorem roundCode_mul_right (num den : Nat) {c : Nat} (hc : 0 < c) :
    roundCode (num * c) (den * c) = roundCode num den := by
  simp only [roundCode, scaleOf_mul_right _ _ hc, shiftLeft_mul_right, nearest_mul_right _ _ hc]

/-- Equal quotients are rounded to the same code. -/
theorem roundCode_congr {a b c d : Nat} (hb : 0 < b) (hd : 0 < d) (h : a * d = c * b) :
    roundCode a b = roundCode c d :=
  calc roundCode a b
      = roundCode (a * d) (b * d) := (roundCode_mul_right a b hd).symm
    _ = roundCode (c * b) (d * b) := by rw [h, Nat.mul_comm b d]
    _ = roundCode c d := roundCode_mul_right c d hb

/-! ## Values of codes -/

theorem hiddenBit_eq : 1 <<< 52 = 4503599627370496 := rfl

theorem scale_of_lt {code : Nat} (h : code < 1 <<< 52) : scale code = 0 := by
  simp only [scale, Nat.shiftRight_eq_div_pow]
  omega

theorem significand_of_lt {code : Nat} (h : code < 1 <<< 52) : significand code = code :=
  if_pos h

theorem significand_of_le {code : Nat} (h : 1 <<< 52 ≤ code) :
    significand code = 1 <<< 52 + code % 1 <<< 52 := if_neg (Nat.not_lt.mpr h)

/-- A subnormal code is its own value. -/
theorem units_of_lt {code : Nat} (h : code < 1 <<< 52) : units code = code := by
  rw [units, scale_of_lt h, significand_of_lt h, Nat.shiftLeft_zero]

/-- The significand of a code that is not subnormal has 53 bits. -/
theorem significand_bounds {code : Nat} (h : 1 <<< 52 ≤ code) :
    2 ^ 52 ≤ significand code ∧ significand code < 2 ^ 53 := by
  rw [significand_of_le h, hiddenBit_eq]
  omega

/-- A code is put together from its scale and its significand. -/
theorem scale_add_significand (code : Nat) :
    scale code <<< 52 + significand code = code := by
  by_cases h : code < 1 <<< 52
  · rw [scale_of_lt h, significand_of_lt h, Nat.zero_shiftLeft, Nat.zero_add]
  · rw [significand_of_le (Nat.le_of_not_lt h), scale, Nat.shiftRight_eq_div_pow,
      Nat.shiftLeft_eq]
    rw [hiddenBit_eq] at h ⊢
    omega

/-- The first bit of the value of a code that is not subnormal. -/
theorem log2_units_of_le {code : Nat} (h : 1 <<< 52 ≤ code) :
    (units code).log2 = 52 + scale code := by
  obtain ⟨least, most⟩ := significand_bounds h
  have hpos : units code ≠ 0 := by
    rw [units, Nat.shiftLeft_eq]
    exact Nat.mul_ne_zero (by omega) (Nat.ne_of_gt (Nat.two_pow_pos _))
  rw [Nat.log2_eq_iff hpos, units, Nat.shiftLeft_eq]
  constructor
  · rw [Nat.pow_add]
    exact Nat.mul_le_mul_right _ least
  · rw [show 52 + scale code + 1 = 53 + scale code by omega, Nat.pow_add]
    exact Nat.mul_lt_mul_of_pos_right most (Nat.two_pow_pos _)

/-- The scale of a code can be read off its value. -/
theorem log2_units (code : Nat) : (units code).log2 - 52 = scale code := by
  by_cases h : code < 1 <<< 52
  · rw [units_of_lt h, scale_of_lt h, Nat.sub_eq_zero_iff_le]
    by_cases hzero : code = 0
    · simp [hzero]
    · exact Nat.le_of_lt ((Nat.log2_lt hzero).mpr h)
  · rw [log2_units_of_le (Nat.le_of_not_lt h), Nat.add_sub_cancel_left]

/-- Only the code of zero has the value zero. -/
theorem units_eq_zero_iff {code : Nat} : units code = 0 ↔ code = 0 := by
  by_cases h : code < 1 <<< 52
  · rw [units_of_lt h]
  · have hle := Nat.le_of_not_lt h
    have hpos : 0 < units code := by
      rw [units, Nat.shiftLeft_eq]
      exact Nat.mul_pos (by have := significand_bounds hle; omega) (Nat.two_pow_pos _)
    rw [hiddenBit_eq] at hle
    omega

/-- The values of finite numbers stay below `2 ^ 1024`, which is `2 ^ 2098` units. -/
theorem units_lt {code k : Nat} (h : code < infinityCode) (hk : 2098 ≤ k) :
    units code < 2 ^ k := by
  have hscale : scale code ≤ 2045 := by
    have : code < 2047 * 2 ^ 52 := h
    rw [scale, Nat.shiftRight_eq_div_pow]
    omega
  have hsignificand : significand code < 2 ^ 53 := by
    by_cases hsub : code < 1 <<< 52
    · rw [significand_of_lt hsub]
      exact Nat.lt_trans hsub (by decide)
    · exact (significand_bounds (Nat.le_of_not_lt hsub)).2
  calc units code
      = significand code * 2 ^ scale code := Nat.shiftLeft_eq _ _
    _ < 2 ^ 53 * 2 ^ scale code := Nat.mul_lt_mul_of_pos_right hsignificand (Nat.two_pow_pos _)
    _ = 2 ^ (53 + scale code) := (Nat.pow_add 2 53 _).symm
    _ ≤ 2 ^ k := Nat.pow_le_pow_right (by decide) (by omega)

/-- Rounding leaves the value of a code where it is. -/
theorem roundCode_units (code : Nat) : roundCode (units code) (1 <<< 1074) = code := by
  simp only [roundCode, scaleOf]
  -- the least unit is never evaluated
  generalize 1074 = least
  have hpos : ∀ k, 0 < 1 <<< k := fun k => by rw [Nat.one_shiftLeft]; exact Nat.two_pow_pos k
  have hquotient : units code <<< least / 1 <<< least = units code := by
    rw [Nat.shiftLeft_eq (units code), Nat.one_shiftLeft]
    exact Nat.mul_div_cancel _ (Nat.two_pow_pos _)
  have hnum : units code <<< least = significand code * 1 <<< least <<< scale code := by
    simp only [units, Nat.shiftLeft_eq, Nat.one_mul]
    rw [Nat.mul_assoc, Nat.mul_comm (2 ^ scale code)]
  have hnearest : nearest (units code <<< least) (1 <<< least <<< scale code)
      = significand code := by
    have hden : 0 < 1 <<< least <<< scale code := by
      rw [← Nat.shiftLeft_add]
      exact hpos _
    calc nearest (units code <<< least) (1 <<< least <<< scale code)
        = nearest (significand code * 1 <<< least <<< scale code)
            (1 * 1 <<< least <<< scale code) := by rw [hnum, Nat.one_mul]
      _ = significand code := by rw [nearest_mul_right _ _ hden, nearest_one]
  rw [hquotient, log2_units, hnearest]
  exact scale_add_significand code

end CameraControl.Binary64
