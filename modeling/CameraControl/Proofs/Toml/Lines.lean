import CameraControl.Proofs.Toml.Scalars
import CameraControl.Settings.Toml

/-
  Lines of settings texts.

  A line with a name and a scalar adds one pair to the section it stands in, a header begins the
  next section, and an empty line does nothing. A run of lines therefore adds its pairs in order,
  whatever follows it.
-/

namespace CameraControl.Toml

open Token (lex? isSteady)

/-! ## One line -/

/-- The tokens of a line with a name, given those of its value. -/
def lineTokens (name : String) (tokens : List Token) : List Token :=
  .word name.toList :: .blank [' '] :: .equals :: .blank [' '] :: (tokens ++ [.newline])

variable {name : String} {text : List Char} {tokens : List Token} {v : Value}

theorem lex?_line (hname : IsWord name) (h : Stands text tokens v) (rest : List Char) :
    lex? (name.toList ++ ' ' :: '=' :: ' ' :: (text ++ '\n' :: rest))
      = (lex? rest).map (lineTokens name tokens ++ ·) := by
  obtain ⟨c, cs, htext, hc⟩ := h.visible
  have hspace : lex? (' ' :: (text ++ '\n' :: rest))
      = (lex? (text ++ '\n' :: rest)).map (.blank [' '] :: ·) := by
    rw [htext]
    exact Token.lex?_space hc _
  rw [Token.lex?_word hname.1 hname.isWordChar (by decide), Token.lex?_space (by decide),
    Token.lex?_mark '=' .equals fun _ => rfl, hspace, h.lexes, Token.lex?_newline]
  simp only [Option.map_map]
  congr 1
  funext ts
  simp [lineTokens]

namespace Section

theorem pair?_line (h : Stands text tokens v) (rest : List Token) :
    pair? (lineTokens name tokens ++ rest) = some (([name], v), rest) := by
  have hkey : key? (lineTokens name tokens ++ rest)
      = some ([name], .equals :: .blank [' '] :: (tokens ++ .newline :: rest)) := by
    simp [key?, keyParts?, lineTokens]
  obtain ⟨k, hk⟩ : ∃ k, (lineTokens name tokens ++ rest).length = k + 1 := ⟨_, rfl⟩
  rw [pair?, hkey, hk]
  simp only [skipBlank, h.reads]
  rfl

/-- A line with a name adds a pair to the section it stands in. -/
theorem lines?_line (h : Stands text tokens v) (fuel : Nat) (current : Section)
    (rest : List Token) :
    lines? (fuel + 1) current (lineTokens name tokens ++ rest)
      = lines? fuel { current with pairs := current.pairs ++ [(name, v)] } rest := by
  have hskip : skipLines (lineTokens name tokens ++ rest) = lineTokens name tokens ++ rest := rfl
  simp only [lines?, hskip]
  split
  next hnil => cases hnil
  next hbracket => cases hbracket
  next =>
    rw [pair?_line h]
    rfl

/-- An empty line does nothing. -/
theorem lines?_newline (fuel : Nat) (current : Section) (rest : List Token) :
    lines? fuel current (.newline :: rest) = lines? fuel current rest := by
  cases fuel with
  | zero => rfl
  | succ fuel => rfl

/-- A header of one part begins the next section. -/
theorem lines?_header (fuel : Nat) (current : Section) (name : String) (rest : List Token) :
    lines? (fuel + 1) current
        (.leftBracket :: .word name.toList :: .rightBracket :: .newline :: rest)
      = (lines? fuel ⟨[name], false, []⟩ rest).map (current :: ·) := by
  have hheader : header? (.word name.toList :: .rightBracket :: .newline :: rest)
      = some (⟨[name], false, []⟩, rest) := by
    simp [header?, key?, keyParts?, endLine?, skipBlank]
  simp only [lines?, skipLines, hheader]

theorem lines?_nil (fuel : Nat) (current : Section) :
    lines? (fuel + 1) current [] = some [current] := rfl

end Section

/-! ## Runs of lines -/

/-- The lines of named scalars. -/
def written (ps : List (String × Scalar)) : List (String × String) :=
  ps.map fun p => (p.1, p.2.text)

/-- The pairs of named scalars. -/
def valued (ps : List (String × Scalar)) : List (String × Value) :=
  ps.map fun p => (p.1, p.2.value)

/-- A text of whole lines, cut into tokens, stands for pairs: it adds them to the section it stands
    in, and as many steps are enough. -/
structure LinesStand (text : List Char) (tokens : List Token) (pairs : List (String × Value)) :
    Prop where
  steady : ∀ c ∈ text, isSteady c = true
  lexes : ∀ rest, lex? (text ++ rest) = (lex? rest).map (tokens ++ ·)
  reads : ∀ fuel current rest, Section.lines? (pairs.length + fuel) current (tokens ++ rest)
    = Section.lines? fuel { current with pairs := current.pairs ++ pairs } rest
  short : pairs.length ≤ tokens.length

theorem LinesStand.nil : LinesStand [] [] [] where
  steady _ h := by cases h
  lexes rest := by simp
  reads fuel current rest := by simp
  short := Nat.le_refl 0

/-- A line in front of a run of lines. -/
theorem LinesStand.cons {more : List Char} {moreTokens : List Token}
    {pairs : List (String × Value)} (hname : IsWord name) (h : Stands text tokens v)
    (hmore : LinesStand more moreTokens pairs) :
    LinesStand (name.toList ++ ' ' :: '=' :: ' ' :: (text ++ '\n' :: more))
      (lineTokens name tokens ++ moreTokens) ((name, v) :: pairs) where
  steady := by
    simp only [List.forall_mem_append, List.forall_mem_cons]
    exact ⟨hname.isSteady, by decide, by decide, by decide, h.steady, by decide, hmore.steady⟩
  lexes rest := by
    have happend : name.toList ++ ' ' :: '=' :: ' ' :: (text ++ '\n' :: more) ++ rest
        = name.toList ++ ' ' :: '=' :: ' ' :: (text ++ '\n' :: (more ++ rest)) := by simp
    rw [happend, lex?_line hname h, hmore.lexes, Option.map_map]
    congr 1
    funext ts
    exact (List.append_assoc _ _ ts).symm
  reads fuel current rest := by
    have hfuel : ((name, v) :: pairs).length + fuel = pairs.length + fuel + 1 := by
      rw [List.length_cons]
      omega
    rw [hfuel, List.append_assoc, Section.lines?_line h, hmore.reads]
    simp only [List.append_assoc, List.singleton_append]
  short := by
    have := hmore.short
    simp only [lineTokens, List.length_append, List.length_cons]
    omega

theorem linesStand_written {ps : List (String × Scalar)} (hnames : ∀ p ∈ ps, IsWord p.1) :
    ∃ tokens, LinesStand (Settings.renderLines (written ps)).toList tokens (valued ps) := by
  induction ps with
  | nil => exact ⟨[], LinesStand.nil⟩
  | cons p ps ih =>
    obtain ⟨moreTokens, hmore⟩ := ih fun q hq => hnames q (List.mem_cons_of_mem _ hq)
    obtain ⟨tokens, h⟩ := p.2.stands
    refine ⟨lineTokens p.1 tokens ++ moreTokens, ?_⟩
    have htext : (Settings.renderLines (written (p :: ps))).toList
        = p.1.toList ++ ' ' :: '=' :: ' ' :: (p.2.text.toList
            ++ '\n' :: (Settings.renderLines (written ps)).toList) := by
      simp [Settings.renderLines, written]
    rw [htext]
    exact LinesStand.cons (hnames p List.mem_cons_self) h hmore

/-! ## Texts -/

/-- The section in front of all headers, which is left out if it is empty. -/
def frontSection (pairs : List (String × Value)) : List Section :=
  if pairs.isEmpty then [] else [⟨[], false, pairs⟩]

/-- A table at the end of a text: its header, after an empty line if something stands in front, and
    its lines. -/
def tableText (started : Bool) (name : String) (lines : List (String × String)) : String :=
  (if started then "\n" else "") ++ "[" ++ name ++ "]\n" ++ Settings.renderLines lines

/-- A text that ends, cut into tokens, ends the section it stands in and adds others. -/
structure EndStands (text : List Char) (tokens : List Token) (sections : List Section) : Prop where
  steady : ∀ c ∈ text, isSteady c = true
  lexes : lex? text = some tokens
  reads : ∀ fuel current, tokens.length < fuel →
    Section.lines? fuel current tokens = some (current :: sections)

theorem EndStands.nil : EndStands [] [] [] where
  steady _ h := by cases h
  lexes := by rw [lex?]; rfl
  reads fuel current h := by
    obtain ⟨k, rfl⟩ := Nat.exists_eq_add_of_lt h
    exact Section.lines?_nil _ current

theorem EndStands.newline {more : List Char} {sections : List Section}
    (h : EndStands more tokens sections) :
    EndStands ('\n' :: more) (.newline :: tokens) sections where
  steady := List.forall_mem_cons.mpr ⟨by decide, h.steady⟩
  lexes := by rw [Token.lex?_newline, h.lexes]; rfl
  reads fuel current hfuel := by
    rw [Section.lines?_newline]
    exact h.reads fuel current (Nat.lt_of_succ_lt hfuel)

theorem EndStands.header {lines : List Char} {pairs : List (String × Value)}
    (hname : IsWord name) (h : LinesStand lines tokens pairs) :
    EndStands ('[' :: (name.toList ++ ']' :: '\n' :: lines))
      (.leftBracket :: .word name.toList :: .rightBracket :: .newline :: tokens)
      [⟨[name], false, pairs⟩] where
  steady := by
    simp only [List.forall_mem_append, List.forall_mem_cons]
    exact ⟨by decide, hname.isSteady, by decide, by decide, h.steady⟩
  lexes := by
    have hlines : lex? lines = some tokens := by
      have := h.lexes []
      rw [List.append_nil, EndStands.nil.lexes] at this
      simpa using this
    rw [Token.lex?_mark '[' .leftBracket fun _ => rfl,
      Token.lex?_word hname.1 hname.isWordChar (by decide),
      Token.lex?_mark ']' .rightBracket fun _ => rfl, Token.lex?_newline, hlines]
    rfl
  reads fuel current hfuel := by
    have hshort := h.short
    simp only [List.length_cons] at hfuel
    obtain ⟨k, rfl⟩ : ∃ k, fuel = pairs.length + (k + 1) + 1 := ⟨fuel - pairs.length - 2, by omega⟩
    have hlines := h.reads (k + 1) ⟨[name], false, []⟩ []
    rw [List.append_nil, Section.lines?_nil] at hlines
    rw [Section.lines?_header, hlines]
    rfl

/-- Lines in front of a text that ends. -/
theorem ofText?_of_stands {s : String} {front rest : List Char} {frontTokens : List Token}
    {pairs : List (String × Value)} {sections : List Section} (hs : s.toList = front ++ rest)
    (hfront : LinesStand front frontTokens pairs) (hrest : EndStands rest tokens sections) :
    Section.ofText? s = some (frontSection pairs ++ sections) := by
  have hsteady : ∀ c ∈ s.toList, isSteady c = true := by
    rw [hs]
    exact List.forall_mem_append.mpr ⟨hfront.steady, hrest.steady⟩
  have hlex : lex? s.toList = some (frontTokens ++ tokens) := by
    rw [hs, hfront.lexes, hrest.lexes]
    rfl
  have hlines : Section.lines? ((frontTokens ++ tokens).length + 1) ⟨[], false, []⟩
      (frontTokens ++ tokens) = some (⟨[], false, pairs⟩ :: sections) := by
    obtain ⟨more, hmore⟩ := Nat.exists_eq_add_of_le hfront.short
    rw [List.length_append, hmore, Nat.add_assoc, Nat.add_assoc, hfront.reads]
    exact hrest.reads _ _ (by omega)
  rw [Section.ofText?, Token.ofText?_of_steady hsteady, hlex]
  simp only [Option.bind_eq_bind, Option.bind_some, hlines, frontSection]
  split <;> rfl

variable {ps qs : List (String × Scalar)}

/-- A text of lines alone has at most one section. -/
theorem ofText?_lines (hps : ∀ p ∈ ps, IsWord p.1) :
    Section.ofText? (Settings.renderLines (written ps)) = some (frontSection (valued ps)) := by
  obtain ⟨tokens, h⟩ := linesStand_written hps
  rw [ofText?_of_stands (List.append_nil _).symm h EndStands.nil, List.append_nil]

/-- A text of lines and a table has the section of the table behind that of the lines. -/
theorem ofText?_table (hps : ∀ p ∈ ps, IsWord p.1) (hname : IsWord name)
    (hqs : ∀ q ∈ qs, IsWord q.1) (started : Bool) :
    Section.ofText? (Settings.renderLines (written ps) ++ tableText started name (written qs))
      = some (frontSection (valued ps) ++ [⟨[name], false, valued qs⟩]) := by
  obtain ⟨frontTokens, hfront⟩ := linesStand_written hps
  obtain ⟨tokens, h⟩ := linesStand_written hqs
  have htable := EndStands.header hname h
  cases started with
  | false =>
    refine ofText?_of_stands ?_ hfront htable
    simp [tableText]
  | true =>
    refine ofText?_of_stands ?_ hfront htable.newline
    simp [tableText]

/-! ## Documents -/

theorem documentPairs?_frontSection (pairs : List (String × Value)) :
    documentPairs? (frontSection pairs) = some pairs := by
  cases pairs with
  | nil => rfl
  | cons p pairs => simp [documentPairs?, frontSection, tablePairs?]

/-- A table behind the pairs of a text is one more pair. -/
theorem documentPairs?_table (pairs inner : List (String × Value)) (name : String) :
    documentPairs? (frontSection pairs ++ [⟨[name], false, inner⟩])
      = some (pairs ++ [(name, .table .header inner)]) := by
  cases pairs with
  | nil => simp [documentPairs?, frontSection, tablePairs?]
  | cons p pairs => simp [documentPairs?, frontSection, tablePairs?]

end CameraControl.Toml
