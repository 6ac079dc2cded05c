import CameraControl.Number.Integer

/-
  Arguments of the command line.

  The arguments are options and values in any order. A long option is spelled in full and takes its
  value after an equals sign or as the next argument; a short option also takes it right behind its
  letter. An argument that begins with a dash is never the next argument's value. After two dashes
  alone everything is a value. The first value of the whole line is the command; what follows it is
  read with the options of that command.

  The arguments are read from left to right, each with its value, and the first that does not fit
  or that asks for help or for the version ends the reading. What is missing shows at the end.
-/

namespace CameraControl.Terminal

/-- A device to work with. -/
abbrev DeviceIndex := Int32

/-- The commands. -/
inductive Command where
  | list
  | info (index : DeviceIndex)
  | get (index : DeviceIndex) (feature : String)
  | set (index : DeviceIndex) (feature value : String)
  | apply (index : DeviceIndex) (path : String)
  | grab (index : DeviceIndex) (count : UInt64) (timeout : UInt32)
  deriving DecidableEq, Repr

/-- A command line: how many cameras are to be simulated, if any, and the command. -/
structure Request where
  simulated : Option UInt64
  command : Command
  deriving DecidableEq, Repr

/-- Options with a value. -/
inductive OptionName where
  | mock | index | count | timeout
  deriving DecidableEq, Repr

namespace OptionName

/-- The long spelling, without dashes. -/
def long : OptionName → String
  | mock => "mock"
  | index => "index"
  | count => "count"
  | timeout => "timeout-ms"

/-- The short spelling, without its dash. -/
def short? : OptionName → Option Char
  | mock => none
  | index => some 'i'
  | count => some 'c'
  | timeout => some 't'

end OptionName

/-- Why the arguments give no request. -/
inductive Stop where
  /-- They do not fit the grammar. -/
  | misuse
  /-- They ask for help. -/
  | help
  /-- They ask for the version. -/
  | version
  deriving DecidableEq, Repr

/-! ## Kinds of arguments -/

/-- What an argument is. -/
inductive Shape where
  /-- Two dashes alone. -/
  | separator
  /-- An option with the value attached to it, if there is one. -/
  | option (name : OptionName) (attached : Option String)
  | help
  | version
  | unknown
  | value
  deriving DecidableEq, Repr

/-- The text before the first equals sign, and the text after it if there is one. -/
def splitEquals (cs : List Char) : List Char × Option (List Char) :=
  match cs.dropWhile (· != '=') with
  | [] => (cs, none)
  | _ :: rest => (cs.takeWhile (· != '='), some rest)

/-- What a long option is, given without its dashes. -/
def longShape (allowed : List OptionName) (version : Bool) (cs : List Char) : Shape :=
  let (name, attached) := splitEquals cs
  let name := String.ofList name
  match allowed.find? fun o => o.long == name with
  | some o => .option o (attached.map String.ofList)
  | none =>
    if attached.isSome then .unknown
    else if name = "help" then .help
    else if version ∧ name = "version" then .version
    else .unknown

/-- What a short option is, given without its dash. -/
def shortShape (allowed : List OptionName) (version : Bool) : List Char → Shape
  | [] => .value
  | c :: rest =>
    match allowed.find? fun o => o.short? == some c with
    | some o =>
      match rest with
      | [] => .option o none
      | '=' :: rest => .option o (some (String.ofList rest))
      | _ => .option o (some (String.ofList rest))
    | none =>
      if c = 'h' then .help
      else if version ∧ c = 'V' then .version
      else .unknown

/-- What an argument is where some options are allowed, and asking for the version or not. -/
def shape (allowed : List OptionName) (version : Bool) (arg : String) : Shape :=
  match arg.toList with
  | ['-', '-'] => .separator
  | '-' :: '-' :: rest => longShape allowed version rest
  | '-' :: rest => shortShape allowed version rest
  | _ => .value

/-! ## Numbers -/

/-- An integer between two bounds, read as one of 64 bits first. -/
def readBounded? (min max : Int) (s : String) : Option Int :=
  match Integer.readInt64 s with
  | .ok n => if min ≤ n.toInt ∧ n.toInt ≤ max then some n.toInt else none
  | .error _ => none

/-- A signed integer of 32 bits. -/
def readInt32? (s : String) : Option Int32 :=
  (readBounded? Int32.minValue.toInt Int32.maxValue.toInt s).map Int32.ofInt

/-- A natural number of 32 bits. -/
def readUInt32? (s : String) : Option UInt32 :=
  (readBounded? 0 (UInt32.size - 1) s).map fun n => UInt32.ofNat n.toNat

/-- A natural number of 64 bits. -/
def readUInt64? (s : String) : Option UInt64 := (Integer.readUInt64 s).toOption

/-! ## Names of commands -/

/-- The names of the commands. -/
inductive CommandName where
  | list | info | get | set | apply | grab
  deriving DecidableEq, Repr

namespace CommandName

/-- The command that a word names. -/
def ofWord? : String → Option CommandName
  | "list" => some list
  | "info" => some info
  | "get" => some get
  | "set" => some set
  | "apply" => some apply
  | "grab" => some grab
  | _ => none

/-- The options of a command. -/
def options : CommandName → List OptionName
  | list => [.mock]
  | info | get | set | apply => [.mock, .index]
  | grab => [.mock, .index, .count, .timeout]

/-- How many values a command takes. -/
def arity : CommandName → Nat
  | list | info | grab => 0
  | get | apply => 1
  | set => 2

/-- Whether a command takes a text as a value: a path is not empty. -/
def accepts : CommandName → String → Bool
  | apply, path => !path.isEmpty
  | _, _ => true

end CommandName

/-! ## Reading -/

/-- What was read so far: the options, each of which may stand once, and the values. -/
structure Parsed where
  simulated : Option UInt64
  index : Option DeviceIndex
  count : Option UInt64
  timeout : Option UInt32
  values : List String

namespace Parsed

/-- Nothing. -/
def empty : Parsed := ⟨none, none, none, none, []⟩

/-- The value of an option that has not stood before. -/
def once {α : Type} (earlier : Option α) (value : Option α) : Except Stop α :=
  match earlier, value with
  | none, some a => .ok a
  | _, _ => .error .misuse

/-- Adds an option. -/
def addOption (p : Parsed) (name : OptionName) (value : String) : Except Stop Parsed :=
  match name with
  | .mock => (once p.simulated (readUInt64? value)).map fun n => { p with simulated := some n }
  | .index => (once p.index (readInt32? value)).map fun n => { p with index := some n }
  | .count => (once p.count (readUInt64? value)).map fun n => { p with count := some n }
  | .timeout => (once p.timeout (readUInt32? value)).map fun n => { p with timeout := some n }

/-- Adds a value of a command. -/
def addValue (p : Parsed) (name : CommandName) (value : String) : Except Stop Parsed :=
  if p.values.length < name.arity ∧ name.accepts value then
    .ok { p with values := p.values ++ [value] }
  else .error .misuse

/-- Reads the arguments after the name of a command. -/
def read (name : CommandName) (p : Parsed) : List String → Except Stop Parsed
  | [] => .ok p
  | arg :: rest =>
    match shape name.options false arg with
    | .separator => rest.foldlM (fun p value => p.addValue name value) p
    | .help => .error .help
    | .version => .error .version
    | .unknown => .error .misuse
    | .value => do
      read name (← p.addValue name arg) rest
    | .option o (some value) => do
      read name (← p.addOption o value) rest
    | .option o none =>
      match rest with
      | value :: rest =>
        if shape name.options false value = .value then do
          read name (← p.addOption o value) rest
        else .error .misuse
      | [] => .error .misuse

/-- Reads the arguments before the command; gives the options there, the command and what follows
    it. -/
def readFront (p : Parsed) : List String → Except Stop (Parsed × String × List String)
  | [] => .error .misuse
  | arg :: rest =>
    match shape [.mock] true arg with
    | .separator => .error .misuse
    | .help => .error .help
    | .version => .error .version
    | .unknown => .error .misuse
    | .value => .ok (p, arg, rest)
    | .option o (some value) => do
      readFront (← p.addOption o value) rest
    | .option o none =>
      match rest with
      | value :: rest =>
        if shape [.mock] true value = .value then do
          readFront (← p.addOption o value) rest
        else .error .misuse
      | [] => .error .misuse

/-- The command that a name, options and values stand for, if no value is missing. -/
def command? (p : Parsed) (name : CommandName) : Option Command :=
  let index := p.index.getD 0
  match name, p.values with
  | .list, [] => some .list
  | .info, [] => some (.info index)
  | .get, [feature] => some (.get index feature)
  | .set, [feature, value] => some (.set index feature value)
  | .apply, [path] => some (.apply index path)
  | .grab, [] => some (.grab index (p.count.getD 10) (p.timeout.getD 5000))
  | _, _ => none

end Parsed

/-! ## Whole command lines -/

/-- What asking for help about something comes to. There is help about everything, about one
    command, and about help. -/
def helpAbout : List String → Stop
  | [] => .help
  | [word] => if word = "help" ∨ (CommandName.ofWord? word).isSome then .help else .misuse
  | _ => .misuse

/-- The request that the arguments make. How many cameras to simulate may be said before and after
    the command; what is said after it counts. -/
def Request.ofArguments (args : List String) : Except Stop Request := do
  let (front, word, rest) ← Parsed.empty.readFront args
  if word = "help" then throw (helpAbout rest)
  match CommandName.ofWord? word with
  | none => throw .misuse
  | some name =>
    let p ← Parsed.empty.read name rest
    match p.command? name with
    | none => throw .misuse
    | some command => pure ⟨p.simulated <|> front.simulated, command⟩

end CameraControl.Terminal
