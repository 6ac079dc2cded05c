import CameraControl.Settings
import CameraControl.Toml.Document

/-
  Camera settings as TOML texts.

  `toToml` writes one line for each field that is set, and the area of interest as a table at the
  end. `ofToml?` reads what it writes and every other TOML text that gives the same fields.
-/

namespace CameraControl.Settings

open CameraControl.Toml (Value Section TableForm)

/-! ## Reading -/

/-- An integer. -/
def tomlInt? : Value → Option Int64
  | .integer n => some n
  | _ => none

/-- A number; an integer counts as one. -/
def tomlFloat? : Value → Option Binary64
  | .float x => some x
  | .integer n => some (Binary64.ofInt n.toInt)
  | _ => none

/-- A truth value. -/
def tomlBool? : Value → Option Bool
  | .boolean b => some b
  | _ => none

/-- A value of a family: its identifier as a text, or as the only key of a table between braces
    with an empty table under it. -/
def tomlChoice? (f : Family) : Value → Option (Choice f)
  | .text s => Choice.ofIdentifier? f s
  | .table .inline [(s, .table .inline [])] => Choice.ofIdentifier? f s
  | _ => none

/-- An area of interest: a table with its fields, or a list of four numbers. -/
def tomlAoi? : Value → Option Aoi
  | .table _ pairs => Aoi.ofPairs? tomlInt? pairs
  | .array items => Aoi.ofList? tomlInt? items
  | _ => none

/-- How TOML values give fields. A field that is there is set. -/
def tomlReaders : FieldReaders Value where
  float v := (tomlFloat? v).map some
  int v := (tomlInt? v).map some
  bool v := (tomlBool? v).map some
  choice f v := (tomlChoice? f v).map some
  aoi v := (tomlAoi? v).map some

/-- The families that settings have a field of, with the names of the fields. -/
def choiceFields : List (String × Family) :=
  [("cycle_mode", .cycleMode), ("trigger_mode", .triggerMode), ("shutter", .shutter),
   ("binning", .binning), ("simple_pre_amp", .simplePreAmp),
   ("pixel_readout_rate", .pixelReadoutRate), ("fan_speed", .fanSpeed),
   ("auxiliary_out_source", .auxiliaryOutSource)]

/-- A text may consist of nothing but one header whose first part names a field of a family and
    whose last part is the identifier of its value. The pair that such a text stands for. -/
def loneHeader? : List Section → Option (String × Value)
  | [⟨name :: more, _, []⟩] =>
    if (choiceFields.lookup name).isSome then some (name, .text (more.getLastD name)) else none
  | _ => none

/-- The settings that a TOML text gives. -/
def ofToml? (s : String) : Option Settings := do
  let sections ← Section.ofText? s
  match loneHeader? sections with
  | some pair => ofPairs? tomlReaders [pair]
  | none => ofPairs? tomlReaders (← Toml.documentPairs? sections)

/-! ## Writing -/

/-- The lines of the fields that are set, without the area of interest. -/
def tomlLines (s : Settings) : List (String × String) :=
  let line {α : Type} (name : String) (write : α → String) : Option α → List (String × String)
    | none => []
    | some v => [(name, write v)]
  let quoted {f : Family} (c : Choice f) : String := "\"" ++ c.identifier ++ "\""
  let int (n : Int64) : String := toString n
  let bool (b : Bool) : String := toString b
  line "exposure_time" Binary64.pointed s.exposureTime
    ++ line "frame_rate" Binary64.pointed s.frameRate
    ++ line "frame_count" int s.frameCount
    ++ line "accumulate_count" int s.accumulateCount
    ++ line "cycle_mode" quoted s.cycleMode
    ++ line "trigger_mode" quoted s.triggerMode
    ++ line "shutter" quoted s.shutter
    ++ line "binning" quoted s.binning
    ++ line "simple_pre_amp" quoted s.simplePreAmp
    ++ line "pixel_readout_rate" quoted s.pixelReadoutRate
    ++ line "fan_speed" quoted s.fanSpeed
    ++ line "auxiliary_out_source" quoted s.auxiliaryOutSource
    ++ line "sensor_cooling" bool s.sensorCooling
    ++ line "overlap" bool s.overlap
    ++ line "spurious_noise_filter" bool s.spuriousNoiseFilter
    ++ line "metadata_enable" bool s.metadataEnable

/-- The lines of the fields of an area of interest. -/
def tomlAoiLines (a : Aoi) : List (String × String) :=
  [("left", toString a.left), ("top", toString a.top), ("width", toString a.width),
   ("height", toString a.height)]

/-- Lines with a name and a value each. -/
def renderLines (lines : List (String × String)) : String :=
  String.join (lines.map fun l => l.1 ++ " = " ++ l.2 ++ "\n")

/-- Settings as a TOML text; the table of the area of interest follows an empty line unless it is
    all there is. -/
def toToml (s : Settings) : String :=
  let lines := s.tomlLines
  renderLines lines ++
    match s.aoi with
    | none => ""
    | some a =>
      (if lines.isEmpty then "" else "\n") ++ "[aoi]\n" ++ renderLines (tomlAoiLines a)

end CameraControl.Settings
