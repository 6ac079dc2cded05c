import CameraControl.Family
import CameraControl.Number.Decimal

/-
  Camera settings, as they are kept in files.

  Every field is optional. A field that is not set is left alone when the settings are applied to
  a camera. `ofPairs?` builds settings from the pairs of a decoded table, whatever format it came
  from: unknown and repeated fields are refused.
-/

namespace CameraControl

/-- The area of interest on the sensor, in binned pixels. -/
structure Aoi where
  left : Int64
  top : Int64
  width : Int64
  height : Int64
  deriving DecidableEq, Repr

/-- A set of camera settings. -/
structure Settings where
  /-- Seconds. -/
  exposureTime : Option Binary64 := none
  /-- Frames per second. -/
  frameRate : Option Binary64 := none
  frameCount : Option Int64 := none
  accumulateCount : Option Int64 := none
  cycleMode : Option (Choice .cycleMode) := none
  triggerMode : Option (Choice .triggerMode) := none
  shutter : Option (Choice .shutter) := none
  binning : Option (Choice .binning) := none
  simplePreAmp : Option (Choice .simplePreAmp) := none
  pixelReadoutRate : Option (Choice .pixelReadoutRate) := none
  fanSpeed : Option (Choice .fanSpeed) := none
  auxiliaryOutSource : Option (Choice .auxiliaryOutSource) := none
  sensorCooling : Option Bool := none
  overlap : Option Bool := none
  spuriousNoiseFilter : Option Bool := none
  metadataEnable : Option Bool := none
  aoi : Option Aoi := none
  deriving DecidableEq

namespace Settings

/-- Settings with no field set. -/
def empty : Settings :=
  ⟨none, none, none, none, none, none, none, none, none, none, none, none, none, none, none, none,
    none⟩

/-- Whether no field is set. -/
def isEmpty (s : Settings) : Bool := decide (s = empty)

/-- The names of the fields. -/
def fieldNames : List String :=
  ["exposure_time", "frame_rate", "frame_count", "accumulate_count", "cycle_mode", "trigger_mode",
   "shutter", "binning", "simple_pre_amp", "pixel_readout_rate", "fan_speed",
   "auxiliary_out_source", "sensor_cooling", "overlap", "spurious_noise_filter",
   "metadata_enable", "aoi"]

end Settings

namespace Aoi

/-- The names of the fields. -/
def fieldNames : List String := ["left", "top", "width", "height"]

/-- An area from the pairs of a table: each field exactly once, other pairs ignored. -/
def ofPairs? {V : Type} (int : V → Option Int64) (pairs : List (String × V)) : Option Aoi := do
  if fieldNames.all fun name => (pairs.filter fun p => p.1 == name).length == 1 then
    let left ← (pairs.lookup "left").bind int
    let top ← (pairs.lookup "top").bind int
    let width ← (pairs.lookup "width").bind int
    let height ← (pairs.lookup "height").bind int
    pure ⟨left, top, width, height⟩
  else none

/-- An area from a list of four numbers, in the order of its fields. -/
def ofList? {V : Type} (int : V → Option Int64) : List V → Option Aoi
  | [left, top, width, height] => do
    pure ⟨← int left, ← int top, ← int width, ← int height⟩
  | _ => none

end Aoi

/-- How a format gives the values of settings: each reader takes what the format has there, and
    gives nothing inside if the format says that the field is not set. -/
structure FieldReaders (V : Type) where
  float : V → Option (Option Binary64)
  int : V → Option (Option Int64)
  bool : V → Option (Option Bool)
  choice : (f : Family) → V → Option (Option (Choice f))
  aoi : V → Option (Option Aoi)

namespace Settings

/-- Settings from fields that a look-up gives; a field that it does not give is not set. -/
def ofFields? {V : Type} (r : FieldReaders V) (get : String → Option V) : Option Settings := do
  let field {α : Type} (name : String) (read : V → Option (Option α)) : Option (Option α) :=
    match get name with
    | none => some none
    | some v => read v
  pure
    { exposureTime := ← field "exposure_time" r.float
      frameRate := ← field "frame_rate" r.float
      frameCount := ← field "frame_count" r.int
      accumulateCount := ← field "accumulate_count" r.int
      cycleMode := ← field "cycle_mode" (r.choice .cycleMode)
      triggerMode := ← field "trigger_mode" (r.choice .triggerMode)
      shutter := ← field "shutter" (r.choice .shutter)
      binning := ← field "binning" (r.choice .binning)
      simplePreAmp := ← field "simple_pre_amp" (r.choice .simplePreAmp)
      pixelReadoutRate := ← field "pixel_readout_rate" (r.choice .pixelReadoutRate)
      fanSpeed := ← field "fan_speed" (r.choice .fanSpeed)
      auxiliaryOutSource := ← field "auxiliary_out_source" (r.choice .auxiliaryOutSource)
      sensorCooling := ← field "sensor_cooling" r.bool
      overlap := ← field "overlap" r.bool
      spuriousNoiseFilter := ← field "spurious_noise_filter" r.bool
      metadataEnable := ← field "metadata_enable" r.bool
      aoi := ← field "aoi" r.aoi }

/-- Whether the names of some pairs are names of fields and no two are equal. -/
def namesFit {V : Type} (pairs : List (String × V)) : Bool :=
  (pairs.all fun p => fieldNames.contains p.1) && decide (pairs.map (·.1)).Nodup

/-- Settings from the pairs of a table. -/
def ofPairs? {V : Type} (r : FieldReaders V) (pairs : List (String × V)) : Option Settings :=
  if namesFit pairs then ofFields? r fun name => pairs.lookup name else none

/-- Settings from a list with a value for every field, in the order of the fields. -/
def ofList? {V : Type} (r : FieldReaders V) (values : List V) : Option Settings :=
  if values.length = fieldNames.length then
    ofFields? r fun name => (fieldNames.zip values).lookup name
  else none

end Settings

end CameraControl
