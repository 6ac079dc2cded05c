import CameraControl.Text.Hexadecimal

/-
  Tokens of TOML texts.

  A text is cut into tokens before its lines are read. A word is a run of letters, digits, dashes
  and underscores; what it means (a key, a number, a piece of a date) depends on where it stands.
  Quoted texts become their contents. A carriage return in front of a line feed belongs to the
  line end, and a byte order mark at the start of the text is skipped.
-/

namespace CameraControl.Toml

/-- A token of a TOML text. -/
inductive Token where
  | newline
  /-- A run of spaces and tabs. -/
  | blank (run : List Char)
  | comment
  | equals
  | period
  | comma
  | colon
  | plus
  | leftBrace
  | rightBrace
  | leftBracket
  | rightBracket
  | word (s : List Char)
  /-- The contents of a quoted text, and whether it was quoted over several lines. -/
  | text (s : String) (multiline : Bool)
  deriving DecidableEq, Repr

namespace Token

/-- Whether a character belongs to words. -/
def isWordChar (c : Char) : Bool := c.isAlphanum || c == '-' || c == '_'

/-- Whether a character separates tokens within a line. -/
def isSpacing (c : Char) : Bool := c == ' ' || c == '\t'

/-- Whether a character may stand in a comment. -/
def isCommentChar (c : Char) : Bool := c == '\t' || 0x20 ≤ c.toNat

/-- Whether a character may stand in a quoted text as itself. -/
def isTextChar (c : Char) : Bool := c == '\t' || (0x20 ≤ c.toNat && c.toNat != 0x7f)

/-! ## Quoted texts

Each reader gets what follows the opening quotes and gives the contents and what follows the
closing ones.
-/

/-- A character in front of the contents that were read. -/
def push (c : Char) (r : Option (List Char × List Char)) : Option (List Char × List Char) :=
  r.map fun p => (c :: p.1, p.2)

/-- Up to two further quotes after three closing ones; they belong to the contents. -/
def extraQuotes (quote : Char) : List Char → List Char × List Char
  | a :: b :: rest =>
    if a = quote then (if b = quote then ([a, b], rest) else ([a], b :: rest))
    else ([], a :: b :: rest)
  | [a] => if a = quote then ([a], []) else ([], [a])
  | [] => ([], [])

/-- The contents of a literal text on one line. -/
def literalLine : List Char → Option (List Char × List Char)
  | [] => none
  | c :: rest =>
    if c = '\'' then some ([], rest)
    else if isTextChar c then push c (literalLine rest) else none

/-- The contents of a literal text over several lines. -/
def literalLines : List Char → Option (List Char × List Char)
  | [] => none
  | '\'' :: '\'' :: '\'' :: rest => some (extraQuotes '\'' rest)
  | c :: rest => if c = '\n' || isTextChar c then push c (literalLines rest) else none

/-- The character that a backslash and a letter stand for. -/
def escape? : Char → Option Char
  | 'b' => some (Char.ofNat 8)
  | 't' => some '\t'
  | 'n' => some '\n'
  | 'f' => some (Char.ofNat 12)
  | 'r' => some '\r'
  | '"' => some '"'
  | '\\' => some '\\'
  | _ => none

/-- The character whose code point is given by hexadecimal digits. -/
def charOfHex? (cs : List Char) : Option Char :=
  match Text.hexNumber? cs with
  | some n => if n.isValidChar then some (Char.ofNat n) else none
  | none => none

/-- The contents of a basic text on one line. -/
def basicLine : List Char → Option (List Char × List Char)
  | [] => none
  | '"' :: rest => some ([], rest)
  | '\\' :: 'u' :: a :: b :: c :: d :: rest =>
    match charOfHex? [a, b, c, d] with
    | some x => push x (basicLine rest)
    | none => none
  | '\\' :: 'U' :: a :: b :: c :: d :: e :: f :: g :: h :: rest =>
    match charOfHex? [a, b, c, d, e, f, g, h] with
    | some x => push x (basicLine rest)
    | none => none
  | '\\' :: c :: rest =>
    match escape? c with
    | some x => push x (basicLine rest)
    | none => none
  | c :: rest => if c ≠ '\\' ∧ isTextChar c then push c (basicLine rest) else none

/-- What the reader of a text over several lines leaves out at the moment. -/
inductive Skipping where
  /-- Nothing. -/
  | nothing
  /-- The rest of a line that ended in a backslash; only spacing may stand there. -/
  | line
  /-- Spacing and line ends in front of the next character. -/
  | space
  deriving DecidableEq, Repr

/-- The contents of a basic text over several lines. -/
def basicLines : Skipping → List Char → Option (List Char × List Char)
  | _, [] => none
  | .line, c :: rest =>
    if isSpacing c then basicLines .line rest
    else if c = '\n' then basicLines .space rest
    else none
  | _, '"' :: '"' :: '"' :: rest => some (extraQuotes '"' rest)
  | _, '\\' :: 'u' :: a :: b :: c :: d :: rest =>
    match charOfHex? [a, b, c, d] with
    | some x => push x (basicLines .nothing rest)
    | none => none
  | _, '\\' :: 'U' :: a :: b :: c :: d :: e :: f :: g :: h :: rest =>
    match charOfHex? [a, b, c, d, e, f, g, h] with
    | some x => push x (basicLines .nothing rest)
    | none => none
  | _, '\\' :: c :: rest =>
    match escape? c with
    | some x => push x (basicLines .nothing rest)
    | none =>
      if c = '\n' then basicLines .space rest
      else if isSpacing c then basicLines .line rest
      else none
  | skipping, c :: rest =>
    if skipping = .space ∧ (isSpacing c ∨ c = '\n') then basicLines .space rest
    else if c ≠ '\\' ∧ (c = '\n' || isTextChar c) then push c (basicLines .nothing rest)
    else none

/-- A text without a line end at its very start. -/
def dropNewline : List Char → List Char
  | '\n' :: rest => rest
  | rest => rest

/-- What was read between quotes as a token. -/
def ofContents (multiline : Bool) (r : Option (List Char × List Char)) :
    Option (Token × List Char) :=
  r.map fun p => (.text (String.ofList p.1) multiline, p.2)

/-! ## Cutting a text -/

/-- The first token of a text and what follows it. -/
def first? : List Char → Option (Token × List Char)
  | [] => none
  | '\n' :: rest => some (.newline, rest)
  | '#' :: rest => some (.comment, rest.dropWhile isCommentChar)
  | '=' :: rest => some (.equals, rest)
  | '.' :: rest => some (.period, rest)
  | ',' :: rest => some (.comma, rest)
  | ':' :: rest => some (.colon, rest)
  | '+' :: rest => some (.plus, rest)
  | '\x7b' :: rest => some (.leftBrace, rest)
  | '\x7d' :: rest => some (.rightBrace, rest)
  | '[' :: rest => some (.leftBracket, rest)
  | ']' :: rest => some (.rightBracket, rest)
  | '\'' :: '\'' :: '\'' :: rest => ofContents true (literalLines (dropNewline rest))
  | '\'' :: rest => ofContents false (literalLine rest)
  | '"' :: '"' :: '"' :: rest => ofContents true (basicLines .nothing (dropNewline rest))
  | '"' :: rest => ofContents false (basicLine rest)
  | c :: rest =>
    if isSpacing c then some (.blank (c :: rest.takeWhile isSpacing), rest.dropWhile isSpacing)
    else if isWordChar c then
      some (.word (c :: rest.takeWhile isWordChar), rest.dropWhile isWordChar)
    else none

/-- All tokens of a text. Every token takes at least one character. -/
def lex? (cs : List Char) : Option (List Token) :=
  if cs = [] then some []
  else match first? cs with
    | some (token, rest) =>
      if rest.length < cs.length then (lex? rest).map (token :: ·) else none
    | none => none
termination_by cs.length

/-- A text with every line end written as a line feed alone. -/
def foldLineEnds : List Char → List Char
  | '\r' :: '\n' :: rest => '\n' :: foldLineEnds rest
  | c :: rest => c :: foldLineEnds rest
  | [] => []

/-- A text without a byte order mark at its start. -/
def dropMark : List Char → List Char
  | '\ufeff' :: rest => rest
  | rest => rest

/-- The tokens of a text as it stands in a file. -/
def ofText? (s : String) : Option (List Token) :=
  lex? (foldLineEnds (dropMark s.toList))

end Token

end CameraControl.Toml
