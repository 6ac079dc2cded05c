import CameraControl.Toml.Token
import Mathlib.Data.List.TakeWhile

/-
  Cutting written texts into tokens.

  Each lemma cuts one token off the front of a text. A word and a run of spacing end where a
  character of another kind follows, so that character is part of the statement.
-/

namespace CameraControl.Toml.Token

/-! ## One token -/

theorem lex?_of_first? {cs rest : List Char} {token : Token} (h : first? cs = some (token, rest))
    (hless : rest.length < cs.length) : lex? cs = (lex? rest).map (token :: ·) := by
  have hne : cs ≠ [] := by
    rintro rfl
    cases h
  rw [lex?, if_neg hne, h]
  exact if_pos hless

/-- A character that is a token of its own, whatever follows. -/
theorem lex?_mark (c : Char) (token : Token)
    (h : ∀ rest, first? (c :: rest) = some (token, rest)) (rest : List Char) :
    lex? (c :: rest) = (lex? rest).map (token :: ·) :=
  lex?_of_first? (h rest) (Nat.lt_succ_self _)

theorem lex?_newline (rest : List Char) :
    lex? ('\n' :: rest) = (lex? rest).map (.newline :: ·) :=
  lex?_mark '\n' .newline (fun _ => rfl) rest

/-- A single space between other characters. -/
theorem lex?_space {c : Char} (hc : isSpacing c = false) (rest : List Char) :
    lex? (' ' :: c :: rest) = (lex? (c :: rest)).map (.blank [' '] :: ·) := by
  refine lex?_of_first? ?_ (Nat.lt_succ_self _)
  have htake : (c :: rest).takeWhile isSpacing = [] := by simp [hc]
  have hdrop : (c :: rest).dropWhile isSpacing = c :: rest := by simp [hc]
  show some (Token.blank (' ' :: (c :: rest).takeWhile isSpacing), (c :: rest).dropWhile isSpacing)
    = _
  rw [htake, hdrop]

/-! ## Words -/

theorem isSpacing_of_isWordChar {c : Char} (h : isWordChar c = true) : isSpacing c = false := by
  refine Bool.eq_false_iff.mpr fun hspacing => ?_
  rcases Bool.or_eq_true_iff.mp hspacing with heq | heq <;> rw [eq_of_beq heq] at h <;>
    exact absurd h (by decide)

theorem first?_of_isWordChar {a : Char} (ha : isWordChar a = true) (rest : List Char) :
    first? (a :: rest)
      = some (.word (a :: rest.takeWhile isWordChar), rest.dropWhile isWordChar) := by
  unfold first?
  split
  case h_17 c tail hcons =>
    obtain ⟨rfl, rfl⟩ := List.cons.inj hcons
    rw [if_neg (by rw [isSpacing_of_isWordChar ha]; decide), if_pos ha]
  -- the characters that begin other tokens belong to no word
  all_goals
    next hcons =>
      cases hcons <;> exact absurd ha (by decide)

/-- A word, up to a character that belongs to none. -/
theorem lex?_word {w : List Char} (hne : w ≠ []) (hw : ∀ a ∈ w, isWordChar a = true) {c : Char}
    (hc : isWordChar c = false) (rest : List Char) :
    lex? (w ++ c :: rest) = (lex? (c :: rest)).map (.word w :: ·) := by
  obtain ⟨a, w, rfl⟩ := List.exists_cons_of_ne_nil hne
  have hmore : ∀ b ∈ w, isWordChar b = true := fun b hb => hw b (List.mem_cons_of_mem _ hb)
  have htake : (w ++ c :: rest).takeWhile isWordChar = w := by
    rw [List.takeWhile_append_of_pos hmore, List.takeWhile_cons_of_neg (by simp [hc]),
      List.append_nil]
  have hdrop : (w ++ c :: rest).dropWhile isWordChar = c :: rest := by
    rw [List.dropWhile_append_of_pos hmore, List.dropWhile_cons_of_neg (by simp [hc])]
  refine lex?_of_first? ?_ ?_
  · rw [List.cons_append, first?_of_isWordChar (hw a List.mem_cons_self), htake, hdrop]
  · rw [List.length_append]
    exact Nat.lt_add_of_pos_left (Nat.succ_pos _)

/-! ## Quoted texts -/

/-- Whether a character stands for itself in a quoted text and ends it neither. -/
def isPlain (c : Char) : Bool := isTextChar c && c != '"' && c != '\\'

/-- The characters of words are visible ones of the basic range. -/
theorem toNat_of_isWordChar {c : Char} (h : isWordChar c = true) :
    0x20 < c.toNat ∧ c.toNat < 0x7f := by
  delta isWordChar Char.isAlphanum Char.isAlpha Char.isUpper Char.isLower Char.isDigit at h
  simp only [Bool.or_eq_true, Bool.and_eq_true, decide_eq_true_eq, beq_iff_eq,
    UInt32.le_iff_toNat_le] at h
  rcases h with ((((h | h) | h) | rfl) | rfl)
  case inr | inl.inr => decide
  -- the capital and the small letters and the digits, each a range of codes
  all_goals
    exact ⟨Nat.lt_of_lt_of_le (by decide) h.1, Nat.lt_of_le_of_lt h.2 (by decide)⟩

theorem isPlain_of_isWordChar {c : Char} (h : isWordChar c = true) : isPlain c = true := by
  obtain ⟨hleast, hmost⟩ := toNat_of_isWordChar h
  have hquote : c ≠ '"' := by
    rintro rfl
    exact absurd h (by decide)
  have hescape : c ≠ '\\' := by
    rintro rfl
    exact absurd h (by decide)
  have htext : isTextChar c = true := by
    simp only [isTextChar, Bool.or_eq_true, Bool.and_eq_true, decide_eq_true_eq, bne_iff_ne]
    exact .inr ⟨by omega, by omega⟩
  simp [isPlain, htext, hquote, hescape]

theorem basicLine_cons {c : Char} (hc : isPlain c = true) (rest : List Char) :
    basicLine (c :: rest) = push c (basicLine rest) := by
  simp only [isPlain, Bool.and_eq_true, bne_iff_ne] at hc
  obtain ⟨⟨htext, hquote⟩, hescape⟩ := hc
  rw [basicLine.eq_def]
  split
  case h_6 d tail _ _ _ _ hcons =>
    obtain ⟨rfl, rfl⟩ := List.cons.inj hcons
    exact if_pos ⟨hescape, htext⟩
  all_goals
    next hcons =>
      cases hcons <;> contradiction

/-- Plain characters up to the closing quotes are the contents. -/
theorem basicLine_plain {s : List Char} (hs : ∀ c ∈ s, isPlain c = true) (rest : List Char) :
    basicLine (s ++ '"' :: rest) = some (s, rest) := by
  induction s with
  | nil => rfl
  | cons c s ih =>
    rw [List.cons_append, basicLine_cons (hs c List.mem_cons_self),
      ih fun a ha => hs a (List.mem_cons_of_mem _ ha)]
    rfl

/-- A quote that no second quote follows begins a text on one line. -/
theorem first?_quote {c : Char} (hc : c ≠ '"') (rest : List Char) :
    first? ('"' :: c :: rest) = ofContents false (basicLine (c :: rest)) := by
  unfold first?
  split
  case h_16 tail _ hcons => rw [(List.cons.inj hcons).2]
  all_goals
    next hcons =>
      cases hcons <;> contradiction

/-- A quoted text of plain characters. -/
theorem lex?_quoted {s : List Char} (hne : s ≠ []) (hs : ∀ c ∈ s, isPlain c = true)
    (rest : List Char) :
    lex? ('"' :: (s ++ '"' :: rest))
      = (lex? rest).map (.text (String.ofList s) false :: ·) := by
  refine lex?_of_first? ?_ ?_
  · obtain ⟨c, tail, rfl⟩ := List.exists_cons_of_ne_nil hne
    have hc : c ≠ '"' := by
      rintro rfl
      exact absurd (hs _ List.mem_cons_self) (by decide)
    rw [List.cons_append, first?_quote hc, ← List.cons_append, basicLine_plain hs]
    rfl
  · simp only [List.length_cons, List.length_append]
    omega

/-! ## Texts as they stand in files -/

/-- Whether a character is left as it is before a text is cut. -/
def isSteady (c : Char) : Bool := c != '\r' && c != '\ufeff'

theorem isSteady_of_isWordChar {c : Char} (h : isWordChar c = true) : isSteady c = true := by
  refine Bool.and_eq_true_iff.mpr ⟨bne_iff_ne.mpr ?_, bne_iff_ne.mpr ?_⟩ <;> rintro rfl <;>
    exact absurd h (by decide)

theorem foldLineEnds_of_steady {cs : List Char} (h : ∀ c ∈ cs, isSteady c = true) :
    foldLineEnds cs = cs := by
  induction cs with
  | nil => rfl
  | cons c cs ih =>
    have hc : c ≠ '\r' := by
      rintro rfl
      exact absurd (h _ List.mem_cons_self) (by decide)
    rw [foldLineEnds, ih fun a ha => h a (List.mem_cons_of_mem _ ha)]
    rintro rest rfl
    exact fun _ => hc rfl

theorem dropMark_of_steady {cs : List Char} (h : ∀ c ∈ cs, isSteady c = true) :
    dropMark cs = cs := by
  unfold dropMark
  split
  · exact absurd (h _ List.mem_cons_self) (by decide)
  · rfl

theorem ofText?_of_steady {s : String} (h : ∀ c ∈ s.toList, isSteady c = true) :
    ofText? s = lex? s.toList := by
  rw [ofText?, dropMark_of_steady h, foldLineEnds_of_steady h]

end CameraControl.Toml.Token
