import CameraControl.Toml.Number

/-
  Sections of TOML texts.

  A text is a list of sections: the pairs in front of the first header, then each header line with
  the pairs that follow it. `sections?` reads them from the tokens. What the headers of several
  sections mean together is the matter of `CameraControl.Toml.Document`.
-/

namespace CameraControl.Toml

/-- A header line with the pairs below it. The pairs in front of all headers stand under an empty
    header. -/
structure Section where
  header : List String
  isArray : Bool
  pairs : List (String × Value)
  deriving Repr

namespace Section

/-! ## Keys -/

/-- The tokens without spacing at their start. -/
def skipBlank : List Token → List Token
  | .blank _ :: rest => rest
  | tokens => tokens

/-- The tokens without spacing, comments and line ends at their start. -/
def skipLines : List Token → List Token
  | .blank _ :: rest => skipLines rest
  | .comment :: rest => skipLines rest
  | .newline :: rest => skipLines rest
  | tokens => tokens

/-- The parts of a key, between points and with spacing anywhere, and the tokens after it. With
    `part`, a part of the key must come next, which is a word or a text on one line. -/
def keyParts? (part : Bool) : List Token → Option (List String × List Token)
  | .blank _ :: rest => keyParts? part rest
  | token :: rest =>
    if part then
      match token with
      | .word s => (keyParts? false rest).map fun p => (String.ofList s :: p.1, p.2)
      | .text s false => (keyParts? false rest).map fun p => (s :: p.1, p.2)
      | _ => none
    else if token = .period then keyParts? true rest
    else some ([], token :: rest)
  | [] => if part then none else some ([], [])

/-- A key, which has at least one part, and the tokens after it. -/
def key? (tokens : List Token) : Option (List String × List Token) := keyParts? true tokens

/-- Puts a value under a key of several parts into the pairs of a table. The tables on the way must
    have been made by such keys as well. -/
def insert? : List (String × Value) → List String → Value → Option (List (String × Value))
  | _, [], _ => none
  | pairs, [k], v => some (pairs ++ [(k, v)])
  | pairs, k :: ks, v =>
    match pairs.findIdx? fun p => p.1 == k with
    | none => (insert? [] ks v).map fun inner => pairs ++ [(k, .table .dotted inner)]
    | some i =>
      match pairs[i]? with
      | some (_, .table .dotted inner) =>
        (insert? inner ks v).map fun inner => pairs.set i (k, .table .dotted inner)
      | _ => none

/-! ## Values

The readers of values take a bound on their depth, which the number of tokens always meets.
-/

mutual

/-- A value at the start of the tokens. -/
def value? : Nat → List Token → Option (Value × List Token)
  | 0, _ => none
  | _ + 1, .text s _ :: rest => some (.text s, rest)
  | _ + 1, .word ['t', 'r', 'u', 'e'] :: rest => some (.boolean true, rest)
  | _ + 1, .word ['f', 'a', 'l', 's', 'e'] :: rest => some (.boolean false, rest)
  | _ + 1, .word w :: rest =>
    if w = ['i', 'n', 'f'] ∨ w = ['n', 'a', 'n'] ∨ w.head?.any (fun c => c == '-' || c.isDigit)
    then numberOrDate? w rest
    else none
  | _ + 1, .plus :: .word w :: rest => number? w rest
  | n + 1, .leftBrace :: rest =>
    match skipBlank rest with
    | .rightBrace :: rest => some (.table .inline [], rest)
    | rest => (inlinePairs? n [] rest).map fun p => (.table .inline p.1, p.2)
  | n + 1, .leftBracket :: rest => (items? n rest).map fun p => (.array p.1, p.2)
  | _ + 1, _ => none

/-- The items of an array up to its closing bracket. -/
def items? : Nat → List Token → Option (List Value × List Token)
  | 0, _ => none
  | n + 1, tokens =>
    match skipLines tokens with
    | .rightBracket :: rest => some ([], rest)
    | tokens =>
      match value? n tokens with
      | none => none
      | some (v, rest) =>
        match skipLines rest with
        | .comma :: rest => (items? n rest).map fun p => (v :: p.1, p.2)
        | .rightBracket :: rest => some ([v], rest)
        | _ => none

/-- The pairs of a table between braces up to its closing brace, after those already read. -/
def inlinePairs? : Nat → List (String × Value) → List Token →
    Option (List (String × Value) × List Token)
  | 0, _, _ => none
  | n + 1, pairs, tokens =>
    match key? tokens with
    | some (key, .equals :: rest) =>
      match value? n (skipBlank rest) with
      | none => none
      | some (v, rest) =>
        match insert? pairs key v with
        | none => none
        | some pairs =>
          match skipBlank rest with
          | .rightBrace :: rest => some (pairs, rest)
          | .comma :: rest => inlinePairs? n pairs (skipBlank rest)
          | _ => none
    | _ => none

end

/-! ## Lines -/

/-- The end of a line, with a comment in front of it or not. -/
def endLine? (tokens : List Token) : Option (List Token) :=
  match skipBlank tokens with
  | [] => some []
  | .newline :: rest => some rest
  | [.comment] => some []
  | .comment :: .newline :: rest => some rest
  | _ => none

/-- A line with a key and a value. -/
def pair? (tokens : List Token) : Option ((List String × Value) × List Token) :=
  match key? tokens with
  | some (key, .equals :: rest) => do
    let (v, rest) ← value? tokens.length (skipBlank rest)
    let rest ← endLine? rest
    pure ((key, v), rest)
  | _ => none

/-- A header line, after its first bracket. -/
def header? (tokens : List Token) : Option (Section × List Token) :=
  let (isArray, tokens) := match tokens with
    | .leftBracket :: rest => (true, rest)
    | _ => (false, tokens)
  match key? tokens with
  | some (key, .rightBracket :: rest) =>
    if isArray then
      match rest with
      | .rightBracket :: rest => (endLine? rest).map fun rest => (⟨key, true, []⟩, rest)
      | _ => none
    else (endLine? rest).map fun rest => (⟨key, false, []⟩, rest)
  | _ => none

/-- Reads lines into the current section; each header begins the next one. -/
def lines? : Nat → Section → List Token → Option (List Section)
  | 0, _, _ => none
  | n + 1, current, tokens =>
    match skipLines tokens with
    | [] => some [current]
    | .leftBracket :: rest =>
      match header? rest with
      | some (next, rest) => (lines? n next rest).map (current :: ·)
      | none => none
    | tokens =>
      match pair? tokens with
      | some ((key, v), rest) =>
        match insert? current.pairs key v with
        | some pairs => lines? n { current with pairs := pairs } rest
        | none => none
      | none => none

/-- The sections of a text. The section in front of all headers is left out if it has no pairs. -/
def ofText? (s : String) : Option (List Section) := do
  let tokens ← Token.ofText? s
  match ← lines? (tokens.length + 1) ⟨[], false, []⟩ tokens with
  | [] => none
  | first :: rest => pure (if first.pairs.isEmpty then rest else first :: rest)

end Section

end CameraControl.Toml
