import CameraControl.Feature.Lookup
import CameraControl.Text.Lowercase

/-
  Families of values of enumerated features.

  The driver gives an enumerated feature as an index. A family is the closed list of values that
  are known for one such feature: each has an index, an identifier (used in files) and a name, the
  text that the driver shows for it. `Choice f` is a value of family `f`, so an index outside the
  family cannot be written down.
-/

namespace CameraControl

/-- The enumerated features whose values are known. -/
inductive Family where
  /-- Gain and dynamic range presets. -/
  | simplePreAmp
  /-- Electronic shuttering modes. -/
  | shutter
  /-- What starts an exposure. -/
  | triggerMode
  /-- States of the sensor cooling; read-only. -/
  | temperatureStatus
  /-- Symmetric pixel binning. -/
  | binning
  /-- What the auxiliary output shows. -/
  | auxiliaryOutSource
  /-- Whether a series of frames ends by itself. -/
  | cycleMode
  /-- Speeds of the fan. -/
  | fanSpeed
  /-- Layouts of pixel data in frames; read-only, they follow from the gain preset. -/
  | pixelEncoding
  /-- The lines that an input or output setting is about. -/
  | ioSelector
  /-- Rates at which the sensor is read out. -/
  | pixelReadoutRate
  deriving DecidableEq, Repr, Inhabited

namespace Family

/-- All families. -/
def all : List Family :=
  [.simplePreAmp, .shutter, .triggerMode, .temperatureStatus, .binning, .auxiliaryOutSource,
   .cycleMode, .fanSpeed, .pixelEncoding, .ioSelector, .pixelReadoutRate]

/-- The identifier of a family. -/
def identifier : Family → String
  | .simplePreAmp => "SimplePreAmp"
  | .shutter => "Shutter"
  | .triggerMode => "TriggerMode"
  | .temperatureStatus => "TemperatureStatus"
  | .binning => "Binning"
  | .auxiliaryOutSource => "AuxiliaryOutSource"
  | .cycleMode => "CycleMode"
  | .fanSpeed => "FanSpeed"
  | .pixelEncoding => "PixelEncoding"
  | .ioSelector => "IOSelector"
  | .pixelReadoutRate => "PixelReadoutRate"

/-- The family with a given identifier. -/
def ofIdentifier? (s : String) : Option Family :=
  all.find? fun f => f.identifier == s

/-- The feature that takes the values of a family. -/
def feature : Family → Feature
  | .simplePreAmp => .simplePreAmpGainControl
  | .shutter => .electronicShutteringMode
  | .triggerMode => .triggerMode
  | .temperatureStatus => .temperatureStatus
  | .binning => .aoiBinning
  | .auxiliaryOutSource => .auxiliaryOutSource
  | .cycleMode => .cycleMode
  | .fanSpeed => .fanSpeed
  | .pixelEncoding => .pixelEncoding
  | .ioSelector => .ioSelector
  | .pixelReadoutRate => .pixelReadoutRate

/-- A value of a family as files and the driver write it. -/
structure Member where
  /-- The name in files. -/
  identifier : String
  /-- The text that the driver shows. -/
  name : String
  deriving DecidableEq, Repr

/-- The values of a family in the order of their indices. -/
def members : Family → List Member
  | .simplePreAmp =>
    [⟨"HighCapacity12Bit", "12-bit (high well capacity)"⟩, ⟨"LowNoise12Bit", "12-bit (low noise)"⟩,
     ⟨"LowNoiseHighCapacity16Bit", "16-bit (low noise & high well capacity)"⟩]
  | .shutter =>
    [⟨"Rolling", "Rolling"⟩, ⟨"Global", "Global"⟩]
  | .triggerMode =>
    [⟨"Internal", "Internal"⟩, ⟨"ExternalLevelTransition", "External Level Transition"⟩,
     ⟨"ExternalStart", "External Start"⟩, ⟨"ExternalExposure", "External Exposure"⟩,
     ⟨"Software", "Software"⟩, ⟨"Advanced", "Advanced"⟩, ⟨"External", "External"⟩]
  | .temperatureStatus =>
    [⟨"CoolerOff", "Cooler Off"⟩, ⟨"Stabilized", "Stabilised"⟩, ⟨"Cooling", "Cooling"⟩,
     ⟨"Drift", "Drift"⟩, ⟨"NotStabilized", "Not Stabilised"⟩, ⟨"Fault", "Fault"⟩]
  | .binning =>
    [⟨"Bin1x1", "1x1"⟩, ⟨"Bin2x2", "2x2"⟩, ⟨"Bin3x3", "3x3"⟩, ⟨"Bin4x4", "4x4"⟩, ⟨"Bin8x8", "8x8"⟩]
  | .auxiliaryOutSource =>
    [⟨"FireRow1", "FireRow1"⟩, ⟨"FireRowN", "FireRowN"⟩, ⟨"FireAll", "FireAll"⟩,
     ⟨"FireAny", "FireAny"⟩]
  | .cycleMode =>
    [⟨"Fixed", "Fixed"⟩, ⟨"Continuous", "Continuous"⟩]
  | .fanSpeed =>
    [⟨"Off", "Off"⟩, ⟨"On", "On"⟩]
  | .pixelEncoding =>
    [⟨"Mono12", "Mono12"⟩, ⟨"Mono12Packed", "Mono12Packed"⟩, ⟨"Mono16", "Mono16"⟩,
     ⟨"RGB8Packed", "RGB8Packed"⟩, ⟨"Mono12Coded", "Mono12Coded"⟩,
     ⟨"Mono12CodedPacked", "Mono12CodedPacked"⟩, ⟨"Mono22Parallel", "Mono22Parallel"⟩,
     ⟨"Mono22PackedParallel", "Mono22PackedParallel"⟩, ⟨"Mono8", "Mono8"⟩, ⟨"Mono32", "Mono32"⟩]
  | .ioSelector =>
    [⟨"Fire1", "Fire 1"⟩, ⟨"FireN", "Fire N"⟩, ⟨"AuxOut1", "Aux Out 1"⟩, ⟨"Arm", "Arm"⟩,
     ⟨"AuxOut2", "Aux Out 2"⟩, ⟨"SpareInput", "Spare Input"⟩,
     ⟨"ExternalTrigger", "External Trigger"⟩, ⟨"FireNand1", "Fire N and 1"⟩]
  | .pixelReadoutRate =>
    [⟨"Rate10MHz", "10 MHz"⟩, ⟨"Rate100MHz", "100 MHz"⟩, ⟨"Rate200MHz", "200 MHz"⟩,
     ⟨"Rate300MHz", "300 MHz"⟩]

/-- How many values a family has. -/
def size (f : Family) : Nat := f.members.length

end Family

/-- A value of a family, given by its index. -/
abbrev Choice (f : Family) := Fin f.members.length

namespace Choice

variable {f : Family}

/-- What is known of a value. -/
def member (c : Choice f) : Family.Member := f.members[c]

/-- The name of a value in files. -/
def identifier (c : Choice f) : String := c.member.identifier

/-- The text that the driver shows for a value. -/
def name (c : Choice f) : String := c.member.name

/-- The index of a value, as the driver counts. -/
def index (c : Choice f) : Int32 := Int32.ofNat c.val

/-- All values of a family in the order of their indices. -/
def all (f : Family) : List (Choice f) := List.finRange f.members.length

/-- The value at an index; the family is closed, so other indices have none. -/
def ofIndex? (f : Family) (i : Int32) : Option (Choice f) :=
  if h : 0 ≤ i.toInt ∧ i.toInt.toNat < f.members.length then some ⟨i.toInt.toNat, h.2⟩ else none

/-- A text without blanks and in lower case, character by character. -/
def foldName (s : String) : List Char :=
  (Text.solids s).flatMap Text.lowercase

/-- The value whose name equals a text up to blanks and case. -/
def ofName? (f : Family) (s : String) : Option (Choice f) :=
  (all f).find? fun c => foldName c.name == foldName s

/-- The value with a given identifier, spelled exactly. -/
def ofIdentifier? (f : Family) (s : String) : Option (Choice f) :=
  (all f).find? fun c => c.identifier == s

end Choice

end CameraControl
