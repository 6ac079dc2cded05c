import CameraControl.Entries
import CameraControl.Family
import CameraControl.Number.Binary64

/-
  Simulated devices.

  A device holds features under their keys, which are kept without blanks, so every spelling of a
  key reaches the same feature. What a feature holds decides which reads and writes it admits; a
  feature may be read-only for callers of the driver.
-/

namespace CameraControl

/-- What a feature of a device holds. -/
inductive Content where
  | int (value min max : Int64)
  | float (value min max : Binary64)
  | bool (value : Bool)
  /-- The index is given out as it is, even where it is outside the options. -/
  | enum (index : Int32) (options : List String)
  | text (value : String)
  | command
  deriving DecidableEq

/-- An enumerated feature that shows the names of a family. -/
def Content.ofChoice (f : Family) (c : Choice f) : Content :=
  .enum c.index ((Choice.all f).map Choice.name)

/-- A simulated device. -/
structure Device where
  /-- What the features hold, under their keys. -/
  features : List (String × Content)
  /-- The keys of the features that callers may only read. -/
  readOnly : List String
  deriving DecidableEq

namespace Device

/-- What the feature under a key holds, in any spelling of the key. -/
def content? (d : Device) (key : String) : Option Content :=
  Entries.get? d.features (Text.squeeze key)

/-- Whether callers may only read the feature under a key, in any spelling of the key. -/
def isReadOnly (d : Device) (key : String) : Bool := d.readOnly.contains (Text.squeeze key)

/-! ## Setting up a device -/

/-- The device with a feature under a key that callers may write. -/
def putKey (d : Device) (key : String) (content : Content) : Device :=
  { features := Entries.put d.features (Text.squeeze key) content
    readOnly := d.readOnly.filter (· ≠ Text.squeeze key) }

/-- The device with a feature that callers may write. -/
def put (d : Device) (f : Feature) (content : Content) : Device := d.putKey f.key content

/-- The device with a feature that callers may only read. -/
def putReadOnly (d : Device) (f : Feature) (content : Content) : Device :=
  { features := Entries.put d.features (Text.squeeze f.key) content
    readOnly := d.readOnly.insert (Text.squeeze f.key) }

/-- The device without a feature. -/
def remove (d : Device) (f : Feature) : Device :=
  { features := Entries.erase d.features (Text.squeeze f.key)
    readOnly := d.readOnly.filter (· ≠ Text.squeeze f.key) }

/-- The device with other contents of the feature under a key; whether it is read-only stays. -/
def setContent (d : Device) (key : String) (content : Content) : Device :=
  { d with features := Entries.put d.features (Text.squeeze key) content }

/-- A device with no features but its model name. -/
def bare (model : String) : Device := putReadOnly ⟨[], []⟩ .cameraModel (.text model)

/-- The features of a usual device that callers may only read, besides its names. The temperature is
    -0.5 degrees, from -100 to 50. -/
def standardReadOnly : List (Feature × Content) :=
  [(.serialNumber, .text "MOCK-0001"),
   (.firmwareVersion, .text "1.0.0"),
   (.interfaceType, .text "Mock"),
   (.sensorWidth, .int 2560 2560 2560),
   (.sensorHeight, .int 2160 2160 2160),
   (.imageSizeBytes, .int 4096 0 0x7fffffffffffffff),
   (.sensorTemperature, .float (.ofBits 0xbfe0000000000000) (.ofBits 0xc059000000000000)
     (.ofBits 0x4049000000000000)),
   (.cameraAcquiring, .bool false),
   (.pixelEncoding, .ofChoice .pixelEncoding ⟨0, by decide⟩),
   (.temperatureStatus, .ofChoice .temperatureStatus ⟨0, by decide⟩)]

/-- The features of a usual device that callers may write. The exposure time is 0.01 seconds, from
    0.00001 to 30; the frame rate is 10 per second, from 0.1 to 100. -/
def standardWritable : List (Feature × Content) :=
  [(.exposureTime, .float (.ofBits 0x3f847ae147ae147b) (.ofBits 0x3ee4f8b588e368f1)
     (.ofBits 0x403e000000000000)),
   (.frameRate, .float (.ofBits 0x4024000000000000) (.ofBits 0x3fb999999999999a)
     (.ofBits 0x4059000000000000)),
   (.frameCount, .int 1 1 0x100000),
   (.accumulateCount, .int 1 1 0x100000),
   (.aoiWidth, .int 2560 1 2560),
   (.aoiHeight, .int 2160 1 2160),
   (.aoiLeft, .int 1 1 2560),
   (.aoiTop, .int 1 1 2160),
   (.electronicShutteringMode, .ofChoice .shutter ⟨0, by decide⟩),
   (.triggerMode, .ofChoice .triggerMode ⟨0, by decide⟩),
   (.aoiBinning, .ofChoice .binning ⟨0, by decide⟩),
   (.cycleMode, .ofChoice .cycleMode ⟨0, by decide⟩),
   (.fanSpeed, .ofChoice .fanSpeed ⟨1, by decide⟩),
   (.auxiliaryOutSource, .ofChoice .auxiliaryOutSource ⟨3, by decide⟩),
   (.simplePreAmpGainControl, .ofChoice .simplePreAmp ⟨1, by decide⟩),
   (.pixelReadoutRate, .ofChoice .pixelReadoutRate ⟨1, by decide⟩),
   (.ioSelector, .ofChoice .ioSelector ⟨0, by decide⟩),
   (.sensorCooling, .bool false),
   (.overlap, .bool false),
   (.spuriousNoiseFilter, .bool true),
   (.metadataEnable, .bool false),
   (.acquisitionStart, .command),
   (.acquisitionStop, .command),
   (.softwareTrigger, .command)]

/-- A device that resembles a camera with 2560 by 2160 pixels. -/
def standard (model : String) : Device :=
  let named := (bare model).putReadOnly .cameraName (.text (model ++ " (mock)"))
  let fixed := standardReadOnly.foldl (fun d p => d.putReadOnly p.1 p.2) named
  standardWritable.foldl (fun d p => d.put p.1 p.2) fixed

end Device

end CameraControl
