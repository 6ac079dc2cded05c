import CameraControl.Proofs.Number.Integers
import CameraControl.Proofs.Number.Shortest
import CameraControl.Toml.Section

/-
  Written numbers as TOML values.

  A run of digits that a number is written with is read whole, so integers and numbers with a point
  are read as what they were written for. No such number looks like a date or has another base.
-/

namespace CameraControl.Toml

open Decimal (numeral valueOf ofParts)

/-! ## Runs of digits -/

theorem isDigitOf_ten {c : Char} (h : c.isDigit = true) : isDigitOf 10 c = true := by
  have hbounds : '0' ≤ c ∧ c ≤ '9' := by
    simp only [Char.isDigit, Bool.and_eq_true, decide_eq_true_eq] at h
    exact h
  have hless : c.toNat - 48 < 10 := by
    have : c.toNat ≤ '9'.toNat := hbounds.2
    have hnine : '9'.toNat = 57 := rfl
    omega
  simp [isDigitOf, Text.hexValue?, hbounds, hless]

/-- Further digits of a run, which may not follow a superfluous zero. -/
theorem digitRun?_of_started {zeros zeroFirst : Bool} {ds : List Char}
    (hds : ∀ c ∈ ds, c.isDigit = true) (h : zeroFirst = true → zeros = true ∨ ds = []) :
    digitRun? 10 zeros ⟨true, zeroFirst, false⟩ ds = some (ds, []) := by
  induction ds with
  | nil => rfl
  | cons c ds ih =>
    have hzeros : (zeroFirst && !zeros) = false := by
      cases zeroFirst <;> simp_all
    have hrest := ih (fun a ha => hds a (List.mem_cons_of_mem _ ha)) fun hz => by simp_all
    rw [digitRun?]
    simp [isDigitOf_ten (hds c List.mem_cons_self), hzeros, hrest, Token.push]

/-- A whole run of digits. -/
theorem digitRun?_digits {zeros : Bool} {ds : List Char} (hne : ds ≠ [])
    (hds : ∀ c ∈ ds, c.isDigit = true) (h : zeros = true ∨ ∀ rest, ds = '0' :: rest → rest = []) :
    digitRun? 10 zeros ⟨false, false, false⟩ ds = some (ds, []) := by
  obtain ⟨c, ds, rfl⟩ := List.exists_cons_of_ne_nil hne
  have hrest : ∀ a ∈ ds, a.isDigit = true := fun a ha => hds a (List.mem_cons_of_mem _ ha)
  rw [digitRun?]
  by_cases hc : c = '0'
  · subst hc
    have hzero : digitRun? 10 zeros ⟨true, true, false⟩ ds = some (ds, []) :=
      digitRun?_of_started hrest fun _ => h.imp_right fun hds => hds ds rfl
    simp [hzero, Token.push]
  · have hmore : digitRun? 10 zeros ⟨true, false, false⟩ ds = some (ds, []) :=
      digitRun?_of_started hrest fun hz => by cases hz
    simp [hc, isDigitOf_ten (hds c List.mem_cons_self), hmore, Token.push]

theorem digitRun?_numeral (zeros : Bool) (n : Nat) :
    digitRun? 10 zeros ⟨false, false, false⟩ (numeral n) = some (numeral n, []) :=
  digitRun?_digits (Decimal.numeral_ne_nil n) (fun _ => Decimal.isDigit_of_mem_numeral)
    (.inr fun _ => Decimal.numeral_of_head_zero)

/-! ## Numerals with a sign -/

/-- A numeral that may have a minus sign. -/
def signedNumeral (negative : Bool) (n : Nat) : List Char :=
  if negative then '-' :: numeral n else numeral n

theorem signedNumeral_ne_nil (negative : Bool) (n : Nat) : signedNumeral negative n ≠ [] := by
  cases negative
  · exact Decimal.numeral_ne_nil n
  · exact List.cons_ne_nil _ _

/-- A numeral is digits but for its sign. -/
theorem isDigit_of_mem_signedNumeral {negative : Bool} {n : Nat} {c : Char}
    (h : c ∈ signedNumeral negative n) (hc : c ≠ '-') : c.isDigit = true := by
  cases negative
  · exact Decimal.isDigit_of_mem_numeral h
  · exact Decimal.isDigit_of_mem_numeral ((List.mem_cons.mp h).resolve_left hc)

/-- No letter stands in a numeral. -/
theorem not_mem_signedNumeral {negative : Bool} {n : Nat} {c : Char} (hc : c ≠ '-')
    (hdigit : c.isDigit = false) : c ∉ signedNumeral negative n := fun hmem => by
  rw [isDigit_of_mem_signedNumeral hmem hc] at hdigit
  cases hdigit

theorem isDigit_of_mem_tail_signedNumeral {negative : Bool} {n : Nat} {c : Char}
    (h : c ∈ (signedNumeral negative n).tail) : c.isDigit = true := by
  cases negative
  · exact Decimal.isDigit_of_mem_numeral (List.mem_of_mem_tail h)
  · exact Decimal.isDigit_of_mem_numeral h

/-- The second character of a numeral names no base. -/
theorem digit_of_signedNumeral {negative : Bool} {n : Nat} {a c : Char} {rest : List Char}
    (h : signedNumeral negative n = a :: c :: rest) : c.isDigit = true := by
  have hmem : c ∈ (signedNumeral negative n).tail := by
    rw [h]
    exact List.mem_cons_self
  exact isDigit_of_mem_tail_signedNumeral hmem

theorem signedRun?_signedNumeral (zeros negative : Bool) (n : Nat) :
    signedRun? zeros (signedNumeral negative n) = some (negative, numeral n, []) := by
  cases negative
  · unfold signedRun?
    split
    next tail hminus =>
      have hmem : '-' ∈ numeral n := by
        have : numeral n = '-' :: tail := hminus
        rw [this]
        exact List.mem_cons_self
      exact absurd (Decimal.isDigit_of_mem_numeral hmem) (by decide)
    next => exact congrArg (Option.map _) (digitRun?_numeral zeros n)
  · exact congrArg (Option.map _) (digitRun?_numeral zeros n)

theorem beginsDate_signedNumeral (negative : Bool) (n : Nat) :
    beginsDate (signedNumeral negative n) = false := by
  have hdash : '-' ∉ (signedNumeral negative n).tail := fun hmem =>
    absurd (isDigit_of_mem_tail_signedNumeral hmem) (by decide)
  simp [beginsDate, not_mem_signedNumeral, hdash]

/-! ## Values -/

/-- A signed numeral begins a number; it is no other word, and no date without a colon. -/
theorem value?_signedNumeral (negative : Bool) (n k : Nat) {tokens : List Token}
    (htokens : ∀ rest, tokens ≠ .colon :: rest) :
    Section.value? (k + 1) (.word (signedNumeral negative n) :: tokens)
      = number? (signedNumeral negative n) tokens := by
  have hnumber : numberOrDate? (signedNumeral negative n) tokens
      = number? (signedNumeral negative n) tokens := by
    rw [numberOrDate?, if_neg (by rw [beginsDate_signedNumeral]; decide)]
    exact htokens
  obtain ⟨c, cs, hcons⟩ := List.exists_cons_of_ne_nil (signedNumeral_ne_nil negative n)
  have hc : (c == '-' || c.isDigit) = true := by
    by_cases hminus : c = '-'
    · simp [hminus]
    · have hmem : c ∈ signedNumeral negative n := by
        rw [hcons]
        exact List.mem_cons_self
      simp [isDigit_of_mem_signedNumeral hmem hminus]
  rw [← hnumber, hcons, Section.value?]
  · simp [hc]
  all_goals
    intro h
    cases h
    exact absurd hc (by decide)

/-- A signed numeral before the end of a line is an integer. -/
theorem number?_newline (negative : Bool) (n : Nat) (rest : List Token) :
    number? (signedNumeral negative n) (.newline :: rest)
      = (decimalInteger? (signedNumeral negative n)).map fun m =>
          (.integer m, .newline :: rest) := by
  have hword : ∀ c w, c ≠ '-' → c.isDigit = false → c ∈ w → signedNumeral negative n ≠ w :=
    fun c w hc hdigit hmem heq => not_mem_signedNumeral hc hdigit (heq ▸ hmem)
  unfold number?
  split
  case h_4 =>
    rw [if_neg (by simp [not_mem_signedNumeral])]
    simp only []
    rw [if_neg (hword 'n' _ (by decide) (by decide) (by decide)),
      if_neg (hword 'n' _ (by decide) (by decide) (by decide)),
      if_neg (hword 'n' _ (by decide) (by decide) (by decide)),
      if_neg (hword 'n' _ (by decide) (by decide) (by decide))]
  all_goals
    next hbase =>
      exact absurd (digit_of_signedNumeral hbase) (by decide)

/-- A signed numeral before a point begins a number with a point. -/
theorem number?_period (negative : Bool) (n : Nat) (after : List Char) (rest : List Token) :
    number? (signedNumeral negative n) (.period :: .word after :: rest)
      = pointedFloat? (signedNumeral negative n) after rest := by
  unfold number?
  split
  case h_4 => exact if_neg (by simp [not_mem_signedNumeral])
  all_goals
    next hbase =>
      exact absurd (digit_of_signedNumeral hbase) (by decide)

/-! ## Integers -/

theorem inInt64?_toInt (n : Int64) : inInt64? n.toInt = some n := by
  rw [inInt64?, if_pos ⟨n.minValue_le_toInt, n.toInt_le⟩, Int64.ofInt_toInt]

theorem decimalInteger?_signedNumeral (negative : Bool) (n : Nat) :
    decimalInteger? (signedNumeral negative n) = inInt64? (if negative then -(n : Int) else n) := by
  rw [decimalInteger?, signedRun?_signedNumeral]
  simp only [Decimal.valueOf_numeral]

theorem toList_toString_int64 (n : Int64) :
    (toString n).toList = signedNumeral (decide (n.toInt < 0)) n.toInt.natAbs := by
  have hrepr : toString n = n.toInt.repr := rfl
  rw [hrepr, Integer.toList_repr]
  by_cases h : n.toInt < 0
  · rw [if_pos h, decide_eq_true h]
    rfl
  · rw [if_neg h, decide_eq_false h]
    rfl

/-- A written integer is read as what it was. -/
theorem value?_integer (n : Int64) (k : Nat) (rest : List Token) :
    Section.value? (k + 1) (.word (toString n).toList :: .newline :: rest)
      = some (.integer n, .newline :: rest) := by
  have hvalue : (if decide (n.toInt < 0) then -(n.toInt.natAbs : Int) else n.toInt.natAbs)
      = n.toInt := by
    by_cases h : n.toInt < 0
    · rw [if_pos (decide_eq_true h)]
      omega
    · rw [if_neg (by rw [decide_eq_false h]; decide)]
      omega
  rw [toList_toString_int64, value?_signedNumeral _ _ _ (fun _ => by simp), number?_newline,
    decimalInteger?_signedNumeral, hvalue, inInt64?_toInt]
  rfl

/-! ## Numbers with a point -/

/-- The parts of a number are read as the number that they are rounded to. -/
theorem floatOf?_eq {negative : Bool} {whole fraction : List Char} {m : Fin (2047 <<< 52)}
    (h : (ofParts whole fraction 0).toCode = m.val) :
    floatOf? negative whole fraction 0 = some (.finite negative m) := by
  have hcode : (ofParts whole fraction 0).toBinary64 negative = .finite negative m := by
    rw [Decimal.toBinary64, h, Binary64.ofCode, dif_pos m.isLt]
  rw [floatOf?, hcode]
  rfl

/-- A number written with a point is read as what its parts are rounded to. -/
theorem value?_pointed {negative : Bool} {n : Nat} {fraction : List Char} {m : Fin (2047 <<< 52)}
    (hne : fraction ≠ []) (hdigits : ∀ c ∈ fraction, c.isDigit = true)
    (h : (ofParts (numeral n) fraction 0).toCode = m.val) (k : Nat) (rest : List Token) :
    Section.value? (k + 1)
        (.word (signedNumeral negative n) :: .period :: .word fraction :: .newline :: rest)
      = some (.float (.finite negative m), .newline :: rest) := by
  have hfraction : digitRun? 10 true ⟨false, false, false⟩ fraction = some (fraction, []) :=
    digitRun?_digits hne hdigits (.inl rfl)
  rw [value?_signedNumeral _ _ _ (fun _ => by simp), number?_period]
  simp [pointedFloat?, signedRun?_signedNumeral, hfraction, exponent?, floatOf?_eq h]

end CameraControl.Toml
