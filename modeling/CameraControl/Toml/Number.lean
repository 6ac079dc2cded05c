import CameraControl.Toml.Token
import CameraControl.Toml.Value

/-
  Numbers and dates of TOML texts.

  A number is a word, or several tokens if it has a point or a plus sign in its exponent. Single
  underscores may stand between digits, and a decimal number has no superfluous zero in front. A
  word with a letter T or with a dash that belongs to no exponent begins a date.
-/

namespace CameraControl.Toml

/-! ## Runs of digits -/

/-- Whether a character is a digit of a base up to sixteen. -/
def isDigitOf (base : Nat) (c : Char) : Bool :=
  match Text.hexValue? c with
  | some n => n < base
  | none => false

/-- How far a run of digits has got: whether it began, whether it began with a zero, and whether
    its last character was an underscore. -/
structure RunState where
  started : Bool := false
  zeroFirst : Bool := false
  underscore : Bool := false

/-- A run of digits at the start of a word, without its underscores, and the rest of the word.
    With `zeros`, superfluous zeros may stand in front. -/
def digitRun? (base : Nat) (zeros : Bool) : RunState → List Char → Option (List Char × List Char)
  | st, [] => if !st.started || st.underscore then none else some ([], [])
  | st, c :: rest =>
    if c = '0' ∧ !st.started then
      Token.push c (digitRun? base zeros ⟨true, true, st.underscore⟩ rest)
    else if isDigitOf base c then
      if st.started && st.zeroFirst && !zeros then none
      else Token.push c (digitRun? base zeros ⟨true, st.zeroFirst, false⟩ rest)
    else if c = '_' ∧ !st.started then none
    else if c = '_' ∧ !st.underscore then digitRun? base zeros ⟨true, st.zeroFirst, true⟩ rest
    else if !st.started || st.underscore then none
    else some ([], c :: rest)

/-- A run of decimal digits that may have a minus sign: its sign, its digits, the rest. -/
def signedRun? (zeros : Bool) : List Char → Option (Bool × List Char × List Char)
  | '-' :: rest => (digitRun? 10 zeros ⟨false, false, false⟩ rest).map fun p => (true, p.1, p.2)
  | word => (digitRun? 10 zeros ⟨false, false, false⟩ word).map fun p => (false, p.1, p.2)

/-! ## Integers -/

/-- The value of digits of a base. -/
def valueIn (base : Nat) (ds : List Char) : Nat :=
  ds.foldl (fun n c => base * n + (Text.hexValue? c).getD 0) 0

/-- An integer if it has at most 64 bits. -/
def inInt64? (n : Int) : Option Int64 :=
  if Int64.minValue.toInt ≤ n ∧ n ≤ Int64.maxValue.toInt then some (Int64.ofInt n) else none

/-- A whole word as an integer of a base other than ten. -/
def basedInteger? (base : Nat) (word : List Char) : Option Int64 :=
  match digitRun? base true ⟨false, false, false⟩ word with
  | some (ds, []) => inInt64? (valueIn base ds)
  | _ => none

/-- A whole word as a decimal integer. -/
def decimalInteger? (word : List Char) : Option Int64 :=
  match signedRun? false word with
  | some (negative, ds, []) =>
    inInt64? (if negative then -(Decimal.valueOf ds : Int) else Decimal.valueOf ds)
  | _ => none

/-! ## Floating-point numbers -/

/-- The number with the given parts, if it is finite. -/
def floatOf? (negative : Bool) (whole fraction : List Char) (exponent : Int) : Option Binary64 :=
  let x := (Decimal.ofParts whole fraction exponent).toBinary64 negative
  if x.isFinite then some x else none

/-- Reads the exponent of a number, if there is one, and gives it with the tokens that follow. An
    exponent whose mark ends its word goes on after a plus sign. -/
def exponent? (suffix : List Char) (tokens : List Token) : Option (Int × List Token) :=
  match suffix with
  | [] => some (0, tokens)
  | [c] =>
    if c = 'e' ∨ c = 'E' then
      match tokens with
      | .plus :: .word w :: rest =>
        match digitRun? 10 true ⟨false, false, false⟩ w with
        | some (ds, []) => some ((Decimal.valueOf ds : Int), rest)
        | _ => none
      | _ => none
    else none
  | c :: more =>
    if c = 'e' ∨ c = 'E' then
      match signedRun? true more with
      | some (negative, ds, []) =>
        some (if negative then -(Decimal.valueOf ds : Int) else Decimal.valueOf ds, tokens)
      | _ => none
    else none

/-- Reads a number without a point from a word and the tokens after it. -/
def wholeFloat? (word : List Char) (tokens : List Token) : Option (Value × List Token) := do
  let (negative, whole, suffix) ← signedRun? false word
  let (exponent, rest) ← exponent? suffix tokens
  let x ← floatOf? negative whole [] exponent
  pure (.float x, rest)

/-- Reads a number with a point from the words before and after it and the tokens after those. -/
def pointedFloat? (word after : List Char) (tokens : List Token) :
    Option (Value × List Token) := do
  let (negative, whole, suffix) ← signedRun? false word
  if suffix ≠ [] then none
  else
    let (fraction, suffix) ← digitRun? 10 true ⟨false, false, false⟩ after
    let (exponent, rest) ← exponent? suffix tokens
    let x ← floatOf? negative whole fraction exponent
    pure (.float x, rest)

/-- Reads a number from a word and the tokens after it. -/
def number? (word : List Char) (tokens : List Token) : Option (Value × List Token) :=
  match word with
  | '0' :: 'x' :: ds => (basedInteger? 16 ds).map fun n => (.integer n, tokens)
  | '0' :: 'o' :: ds => (basedInteger? 8 ds).map fun n => (.integer n, tokens)
  | '0' :: 'b' :: ds => (basedInteger? 2 ds).map fun n => (.integer n, tokens)
  | _ =>
    if 'e' ∈ word ∨ 'E' ∈ word then wholeFloat? word tokens
    else match tokens with
      | .period :: .word after :: rest => pointedFloat? word after rest
      | .period :: _ => none
      | _ =>
        if word = ['i', 'n', 'f'] then some (.float (.infinity false), tokens)
        else if word = ['-', 'i', 'n', 'f'] then some (.float (.infinity true), tokens)
        else if word = ['n', 'a', 'n'] then some (.float (.nan false), tokens)
        else if word = ['-', 'n', 'a', 'n'] then some (.float (.nan true), tokens)
        else (decimalInteger? word).map fun n => (.integer n, tokens)

/-! ## Dates -/

/-- Whether two characters stand side by side in a word. -/
def hasPair (a b : Char) : List Char → Bool
  | x :: y :: rest => (x == a && y == b) || hasPair a b (y :: rest)
  | _ => false

/-- Whether a word begins a date. -/
def beginsDate (word : List Char) : Bool :=
  'T' ∈ word || 't' ∈ word ||
    ('-' ∈ word.drop 1 && !hasPair 'e' '-' word && !hasPair 'E' '-' word)

/-- Leaves out a word if it follows a mark. -/
def skipMarked? (mark : Token) (tokens : List Token) : Option (List Token) :=
  match tokens with
  | token :: rest =>
    if token = mark then
      match rest with
      | .word _ :: more => some more
      | _ => none
    else some tokens
  | [] => some []

/-- Leaves out the minutes, the seconds and what may follow them in a time of day. -/
def skipClock? (tokens : List Token) : Option (List Token) :=
  match tokens with
  | .word _ :: .colon :: .word _ :: rest => do
    let rest ← skipMarked? .period rest
    let rest ← skipMarked? .plus rest
    skipMarked? .colon rest
  | _ => none

/-- Leaves out the rest of a date whose first word has been read; after a single space it may go on
    with a time of day. With `clock`, the colon after the hour has been read as well. -/
def skipDate? (clock : Bool) (tokens : List Token) : Option (List Token) :=
  let tokens := match tokens with
    | .blank [' '] :: .word _ :: rest => rest
    | _ => tokens
  if clock then skipClock? tokens
  else match tokens with
    | .colon :: rest => skipClock? rest
    | _ => some tokens

/-- Reads a number or a date from a word and the tokens after it. -/
def numberOrDate? (word : List Char) (tokens : List Token) : Option (Value × List Token) :=
  if beginsDate word then (skipDate? false tokens).map fun rest => (.date, rest)
  else match tokens with
    | .colon :: rest => (skipDate? true rest).map fun rest => (.date, rest)
    | _ => number? word tokens

end CameraControl.Toml
