import CameraControl.Proofs.Toml.Lexing
import CameraControl.Proofs.Toml.Numerals

/-
  Values that take one line.

  A scalar has a written form and a value. `Stands` says what reading needs to know of a written
  form: how it is cut into tokens at the end of a line, and that its value is read from them.
  Every scalar stands for its value.
-/

namespace CameraControl.Toml

open Token (lex? isWordChar isSpacing isSteady)

/-- A text of letters, digits, dashes and underscores, and not an empty one. -/
def IsWord (s : String) : Prop := s.toList ≠ [] ∧ s.toList.all isWordChar = true

instance (s : String) : Decidable (IsWord s) := inferInstanceAs (Decidable (_ ∧ _))

theorem IsWord.isWordChar {s : String} (h : IsWord s) : ∀ c ∈ s.toList, isWordChar c = true :=
  List.all_eq_true.mp h.2

theorem IsWord.isSteady {s : String} (h : IsWord s) : ∀ c ∈ s.toList, isSteady c = true :=
  fun c hc => Token.isSteady_of_isWordChar (h.isWordChar c hc)

/-- A value that takes one line. -/
inductive Scalar where
  | float (x : Binary64)
  | integer (n : Int64)
  | boolean (b : Bool)
  | word (s : String) (isWord : IsWord s)

namespace Scalar

/-- The written form of a scalar. -/
def text : Scalar → String
  | float x => x.pointed
  | integer n => toString n
  | boolean b => toString b
  | word s _ => "\"" ++ s ++ "\""

/-- A scalar as a value. -/
def value : Scalar → Value
  | float x => .float x
  | integer n => .integer n
  | boolean b => .boolean b
  | word s _ => .text s

end Scalar

/-- A text, cut into tokens at the end of a line, stands for a value. -/
structure Stands (text : List Char) (tokens : List Token) (v : Value) : Prop where
  steady : ∀ c ∈ text, isSteady c = true
  visible : ∃ c cs, text = c :: cs ∧ isSpacing c = false
  lexes : ∀ rest, lex? (text ++ '\n' :: rest) = (lex? ('\n' :: rest)).map (tokens ++ ·)
  solid : ∀ rest, Section.skipBlank (tokens ++ rest) = tokens ++ rest
  reads : ∀ k rest, Section.value? (k + 1) (tokens ++ .newline :: rest)
    = some (v, .newline :: rest)

namespace Stands

/-- A word that is read as a value stands for it. -/
theorem of_word {w : List Char} {v : Value} (hne : w ≠ []) (hw : w.all isWordChar = true)
    (reads : ∀ k rest, Section.value? (k + 1) (.word w :: .newline :: rest)
      = some (v, .newline :: rest)) : Stands w [.word w] v where
  steady c hc := Token.isSteady_of_isWordChar (List.all_eq_true.mp hw c hc)
  visible := by
    obtain ⟨c, cs, rfl⟩ := List.exists_cons_of_ne_nil hne
    exact ⟨c, cs, rfl,
      Token.isSpacing_of_isWordChar (List.all_eq_true.mp hw c List.mem_cons_self)⟩
  lexes rest := Token.lex?_word hne (List.all_eq_true.mp hw) (by decide) rest
  solid _ := rfl
  reads := reads

theorem isWordChar_of_isDigit {c : Char} (h : c.isDigit = true) : isWordChar c = true := by
  simp [isWordChar, Char.isAlphanum, h]

/-- A signed numeral consists of characters of words. -/
theorem isWordChar_of_mem_signedNumeral {negative : Bool} {n : Nat} {c : Char}
    (h : c ∈ signedNumeral negative n) : isWordChar c = true := by
  by_cases hc : c = '-'
  · rw [hc]
    decide
  · exact isWordChar_of_isDigit (isDigit_of_mem_signedNumeral h hc)

theorem integer (n : Int64) :
    Stands (toString n).toList [.word (toString n).toList] (.integer n) := by
  refine of_word ?_ (List.all_eq_true.mpr fun c hc => ?_) (value?_integer n)
  · rw [toList_toString_int64]
    exact signedNumeral_ne_nil _ _
  · rw [toList_toString_int64] at hc
    exact isWordChar_of_mem_signedNumeral hc

theorem boolean (b : Bool) :
    Stands (toString b).toList [.word (toString b).toList] (.boolean b) := by
  cases b
  · exact of_word (by decide) (by decide) fun _ _ => rfl
  · exact of_word (by decide) (by decide) fun _ _ => rfl

theorem nan (negative : Bool) :
    Stands (Binary64.nan negative).pointed.toList [.word (Binary64.nan negative).pointed.toList]
      (.float (.nan negative)) := by
  cases negative
  · exact of_word (by decide) (by decide) fun _ _ => rfl
  · exact of_word (by decide) (by decide) fun _ _ => rfl

theorem infinity (negative : Bool) :
    Stands (Binary64.infinity negative).pointed.toList
      [.word (Binary64.infinity negative).pointed.toList] (.float (.infinity negative)) := by
  cases negative
  · exact of_word (by decide) (by decide) fun _ _ => rfl
  · exact of_word (by decide) (by decide) fun _ _ => rfl

/-- The written form of a finite number has a point between runs of digits. -/
theorem pointed_finite (negative : Bool) (m : Fin (2047 <<< 52)) :
    ∃ n fraction, (Binary64.finite negative m).pointed.toList
        = signedNumeral negative n ++ '.' :: fraction ∧
      fraction ≠ [] ∧ (∀ c ∈ fraction, c.isDigit = true) ∧
      (Decimal.ofParts (Decimal.numeral n) fraction 0).toCode = m.val := by
  obtain ⟨n, fraction, htext, hne, hdigits, hcode⟩ := Decimal.pointed_parts (Decimal.shortest m.val)
  refine ⟨n, fraction, ?_, hne, hdigits, hcode.trans (Decimal.toCode_shortest m.isLt)⟩
  cases negative
  · simp [Binary64.pointed, Binary64.signed, htext, signedNumeral]
  · simp [Binary64.pointed, Binary64.signed, htext, signedNumeral]

theorem finite (negative : Bool) (m : Fin (2047 <<< 52)) :
    ∃ tokens, Stands (Binary64.finite negative m).pointed.toList tokens
      (.float (.finite negative m)) := by
  obtain ⟨n, fraction, htext, hne, hdigits, hcode⟩ := pointed_finite negative m
  have hwhole : ∀ c ∈ signedNumeral negative n, isWordChar c = true :=
    fun c => isWordChar_of_mem_signedNumeral
  have hfraction : ∀ c ∈ fraction, isWordChar c = true :=
    fun c hc => isWordChar_of_isDigit (hdigits c hc)
  refine ⟨[.word (signedNumeral negative n), .period, .word fraction], ?_⟩
  rw [htext]
  exact
    { steady := by
        simp only [List.forall_mem_append, List.forall_mem_cons]
        exact ⟨fun c hc => Token.isSteady_of_isWordChar (hwhole c hc), by decide,
          fun c hc => Token.isSteady_of_isWordChar (hfraction c hc)⟩
      visible := by
        obtain ⟨c, cs, hcons⟩ := List.exists_cons_of_ne_nil (signedNumeral_ne_nil negative n)
        have hc := hwhole c (by rw [hcons]; exact List.mem_cons_self)
        exact ⟨c, cs ++ '.' :: fraction, by rw [hcons]; rfl, Token.isSpacing_of_isWordChar hc⟩
      lexes := fun rest => by
        rw [List.append_assoc, List.cons_append,
          Token.lex?_word (signedNumeral_ne_nil negative n) hwhole (by decide),
          Token.lex?_mark '.' .period fun _ => rfl, Token.lex?_word hne hfraction (by decide)]
        simp only [Option.map_map]
        rfl
      solid := fun _ => rfl
      reads := value?_pointed hne hdigits hcode }

theorem word {s : String} (h : IsWord s) :
    Stands ("\"" ++ s ++ "\"").toList [.text s false] (.text s) := by
  have htext : ("\"" ++ s ++ "\"").toList = '"' :: (s.toList ++ ['"']) := by
    simp
  rw [htext]
  exact
    { steady := List.forall_mem_cons.mpr ⟨by decide,
        List.forall_mem_append.mpr ⟨h.isSteady, List.forall_mem_singleton.mpr (by decide)⟩⟩
      visible := ⟨_, _, rfl, by decide⟩
      lexes := fun rest => by
        rw [List.cons_append, List.append_assoc, List.singleton_append,
          Token.lex?_quoted h.1 fun c hc => Token.isPlain_of_isWordChar (h.isWordChar c hc),
          String.ofList_toList]
        rfl
      solid := fun _ => rfl
      reads := fun _ _ => rfl }

end Stands

/-- Every scalar stands for its value. -/
theorem Scalar.stands (x : Scalar) : ∃ tokens, Stands x.text.toList tokens x.value := by
  cases x with
  | float x =>
    cases x with
    | nan negative => exact ⟨_, Stands.nan negative⟩
    | infinity negative => exact ⟨_, Stands.infinity negative⟩
    | finite negative m => exact Stands.finite negative m
  | integer n => exact ⟨_, Stands.integer n⟩
  | boolean b => exact ⟨_, Stands.boolean b⟩
  | word s h => exact ⟨_, Stands.word h⟩

end CameraControl.Toml
