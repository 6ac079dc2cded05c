/-
  The registry of camera features.

  A camera is steered through named features. Each feature has an identifier (used in files and
  messages of this library), the key under which the driver knows it, and a kind, which decides
  the family of driver functions that can read and write it. The registry lists all of them in a
  fixed order; a feature's place in that order is its ordinal.
-/

namespace CameraControl

/-- The type of the values that a feature holds. -/
inductive FeatureKind where
  | int | float | bool | enum | string | command
  deriving DecidableEq, Repr, Inhabited

namespace FeatureKind

/-- The identifier of a kind. -/
def identifier : FeatureKind → String
  | .int => "Int"
  | .float => "Float"
  | .bool => "Bool"
  | .enum => "Enum"
  | .string => "String"
  | .command => "Command"

/-- All kinds. -/
def all : List FeatureKind := [.int, .float, .bool, .enum, .string, .command]

/-- The kind with a given identifier. -/
def ofIdentifier? (s : String) : Option FeatureKind :=
  all.find? fun k => k.identifier == s

end FeatureKind

/-- A named feature of a camera. -/
inductive Feature where
  | accumulateCount
  | acquisitionStart
  | acquisitionStop
  | aoiBinning
  | aoiHBin
  | aoiHeight
  | aoiLeft
  | aoiStride
  | aoiTop
  | aoiVBin
  | aoiWidth
  | auxiliaryOutSource
  | baselineLevel
  | bitDepth
  | bufferOverflowEvent
  | bytesPerPixel
  | cameraAcquiring
  | cameraDump
  | cameraModel
  | cameraName
  | controllerId
  | cycleMode
  | deviceCount
  | deviceVideoIndex
  | electronicShutteringMode
  | eventEnable
  | eventsMissedEvent
  | eventSelector
  | exposureTime
  | exposureEndEvent
  | exposureStartEvent
  | fanSpeed
  | firmwareVersion
  | frameCount
  | frameRate
  | fullAoiControl
  | imageSizeBytes
  | interfaceType
  | ioInvert
  | ioSelector
  | lutIndex
  | lutValue
  | maxInterfaceTransferRate
  | metadataEnable
  | metadataFrame
  | metadataTimestamp
  | overlap
  | pixelCorrection
  | pixelEncoding
  | pixelHeight
  | pixelReadoutRate
  | pixelWidth
  | preAmpGain
  | preAmpGainChannel
  | preAmpGainControl
  | preAmpGainSelector
  | readoutTime
  | rollingShutterGlobalClear
  | rowNExposureEndEvent
  | rowNExposureStartEvent
  | sensorCooling
  | sensorHeight
  | sensorTemperature
  | sensorWidth
  | serialNumber
  | simplePreAmpGainControl
  | softwareTrigger
  | softwareVersion
  | spuriousNoiseFilter
  | synchronousTriggering
  | targetSensorTemperature
  | temperatureControl
  | temperatureStatus
  | timestampClock
  | timestampClockFrequency
  | timestampClockReset
  | triggerMode
  | verticallyCenterAoi
  deriving DecidableEq, Repr, Inhabited

namespace Feature

/-- What the registry says about a feature. -/
structure Entry where
  /-- The name of the feature in files. -/
  identifier : String
  /-- The name of the feature in calls of the driver. -/
  key : String
  /-- The type of its values. -/
  kind : FeatureKind

/-- The registry. -/
def entry : Feature → Entry
  | .accumulateCount => ⟨"AccumulateCount", "Accumulate Count", .int⟩
  | .acquisitionStart => ⟨"AcquisitionStart", "Acquisition Start", .command⟩
  | .acquisitionStop => ⟨"AcquisitionStop", "Acquisition Stop", .command⟩
  | .aoiBinning => ⟨"AOIBinning", "AOI Binning", .enum⟩
  | .aoiHBin => ⟨"AOIHBin", "AOIHBin", .int⟩
  | .aoiHeight => ⟨"AOIHeight", "AOI Height", .int⟩
  | .aoiLeft => ⟨"AOILeft", "AOI Left", .int⟩
  | .aoiStride => ⟨"AOIStride", "AOI Stride", .int⟩
  | .aoiTop => ⟨"AOITop", "AOI Top", .int⟩
  | .aoiVBin => ⟨"AOIVBin", "AOIVBin", .int⟩
  | .aoiWidth => ⟨"AOIWidth", "AOI Width", .int⟩
  | .auxiliaryOutSource => ⟨"AuxiliaryOutSource", "Auxiliary Out Source", .enum⟩
  | .baselineLevel => ⟨"BaselineLevel", "Baseline Level", .int⟩
  | .bitDepth => ⟨"BitDepth", "Bit Depth", .enum⟩
  | .bufferOverflowEvent => ⟨"BufferOverflowEvent", "Buffer Overflow Event", .int⟩
  | .bytesPerPixel => ⟨"BytesPerPixel", "Bytes Per Pixel", .float⟩
  | .cameraAcquiring => ⟨"CameraAcquiring", "Camera Acquiring", .bool⟩
  | .cameraDump => ⟨"CameraDump", "Camera Dump", .command⟩
  | .cameraModel => ⟨"CameraModel", "Camera Model", .string⟩
  | .cameraName => ⟨"CameraName", "Camera Name", .string⟩
  | .controllerId => ⟨"ControllerID", "Controller ID", .string⟩
  | .cycleMode => ⟨"CycleMode", "Cycle Mode", .enum⟩
  | .deviceCount => ⟨"DeviceCount", "Device Count", .int⟩
  | .deviceVideoIndex => ⟨"DeviceVideoIndex", "Device Video Index", .int⟩
  | .electronicShutteringMode => ⟨"ElectronicShutteringMode", "Electronic Shuttering Mode", .enum⟩
  | .eventEnable => ⟨"EventEnable", "Event Enable", .bool⟩
  | .eventsMissedEvent => ⟨"EventsMissedEvent", "Events Missed Event", .int⟩
  | .eventSelector => ⟨"EventSelector", "Event Selector", .enum⟩
  | .exposureTime => ⟨"ExposureTime", "Exposure Time", .float⟩
  | .exposureEndEvent => ⟨"ExposureEndEvent", "Exposure End Event", .int⟩
  | .exposureStartEvent => ⟨"ExposureStartEvent", "Exposure Start Event", .int⟩
  | .fanSpeed => ⟨"FanSpeed", "Fan Speed", .enum⟩
  | .firmwareVersion => ⟨"FirmwareVersion", "Firmware Version", .string⟩
  | .frameCount => ⟨"FrameCount", "Frame Count", .int⟩
  | .frameRate => ⟨"FrameRate", "Frame Rate", .float⟩
  | .fullAoiControl => ⟨"FullAOIControl", "Full AOIControl", .bool⟩
  | .imageSizeBytes => ⟨"ImageSizeBytes", "Image Size Bytes", .int⟩
  | .interfaceType => ⟨"InterfaceType", "Interface Type", .string⟩
  | .ioInvert => ⟨"IOInvert", "IO Invert", .bool⟩
  | .ioSelector => ⟨"IOSelector", "IO Selector", .enum⟩
  | .lutIndex => ⟨"LUTIndex", "LUT Index", .int⟩
  | .lutValue => ⟨"LUTValue", "LUT Value", .int⟩
  | .maxInterfaceTransferRate => ⟨"MaxInterfaceTransferRate", "Max Interface Transfer Rate", .float⟩
  | .metadataEnable => ⟨"MetadataEnable", "Metadata Enable", .bool⟩
  | .metadataFrame => ⟨"MetadataFrame", "Metadata Frame", .bool⟩
  | .metadataTimestamp => ⟨"MetadataTimestamp", "Metadata Timestamp", .bool⟩
  | .overlap => ⟨"Overlap", "Overlap", .bool⟩
  | .pixelCorrection => ⟨"PixelCorrection", "Pixel Correction", .enum⟩
  | .pixelEncoding => ⟨"PixelEncoding", "Pixel Encoding", .enum⟩
  | .pixelHeight => ⟨"PixelHeight", "Pixel Height", .float⟩
  | .pixelReadoutRate => ⟨"PixelReadoutRate", "Pixel Readout Rate", .enum⟩
  | .pixelWidth => ⟨"PixelWidth", "Pixel Width", .float⟩
  | .preAmpGain => ⟨"PreAmpGain", "Pre Amp Gain", .enum⟩
  | .preAmpGainChannel => ⟨"PreAmpGainChannel", "Pre Amp Gain Channel", .enum⟩
  | .preAmpGainControl => ⟨"PreAmpGainControl", "Pre Amp Gain Control", .enum⟩
  | .preAmpGainSelector => ⟨"PreAmpGainSelector", "Pre Amp Gain Selector", .enum⟩
  | .readoutTime => ⟨"ReadoutTime", "Readout Time", .float⟩
  | .rollingShutterGlobalClear =>
    ⟨"RollingShutterGlobalClear", "Rolling Shutter Global Clear", .bool⟩
  | .rowNExposureEndEvent => ⟨"RowNExposureEndEvent", "Row N Exposure End Event", .int⟩
  | .rowNExposureStartEvent => ⟨"RowNExposureStartEvent", "Row N Exposure Start Event", .int⟩
  | .sensorCooling => ⟨"SensorCooling", "Sensor Cooling", .bool⟩
  | .sensorHeight => ⟨"SensorHeight", "Sensor Height", .int⟩
  | .sensorTemperature => ⟨"SensorTemperature", "Sensor Temperature", .float⟩
  | .sensorWidth => ⟨"SensorWidth", "Sensor Width", .int⟩
  | .serialNumber => ⟨"SerialNumber", "Serial Number", .string⟩
  | .simplePreAmpGainControl => ⟨"SimplePreAmpGainControl", "Simple Pre Amp Gain Control", .enum⟩
  | .softwareTrigger => ⟨"SoftwareTrigger", "Software Trigger", .command⟩
  | .softwareVersion => ⟨"SoftwareVersion", "Software Version", .string⟩
  | .spuriousNoiseFilter => ⟨"SpuriousNoiseFilter", "Spurious Noise Filter", .bool⟩
  | .synchronousTriggering => ⟨"SynchronousTriggering", "Synchronous Triggering", .bool⟩
  | .targetSensorTemperature => ⟨"TargetSensorTemperature", "Target Sensor Temperature", .float⟩
  | .temperatureControl => ⟨"TemperatureControl", "Temperature Control", .enum⟩
  | .temperatureStatus => ⟨"TemperatureStatus", "Temperature Status", .enum⟩
  | .timestampClock => ⟨"TimestampClock", "Timestamp Clock", .int⟩
  | .timestampClockFrequency => ⟨"TimestampClockFrequency", "Timestamp Clock Frequency", .int⟩
  | .timestampClockReset => ⟨"TimestampClockReset", "Timestamp Clock Reset", .command⟩
  | .triggerMode => ⟨"TriggerMode", "Trigger Mode", .enum⟩
  | .verticallyCenterAoi => ⟨"VerticallyCenterAOI", "Vertically Center AOI", .bool⟩

/-- The name of a feature in files. -/
def identifier (f : Feature) : String := f.entry.identifier

/-- The name of a feature in calls of the driver; messages use it as well. -/
def key (f : Feature) : String := f.entry.key

/-- The type of the values of a feature. -/
def kind (f : Feature) : FeatureKind := f.entry.kind

/-- All features in the order of the registry. -/
def all : List Feature :=
  [.accumulateCount, .acquisitionStart, .acquisitionStop, .aoiBinning, .aoiHBin, .aoiHeight,
   .aoiLeft, .aoiStride, .aoiTop, .aoiVBin, .aoiWidth, .auxiliaryOutSource, .baselineLevel,
   .bitDepth, .bufferOverflowEvent, .bytesPerPixel, .cameraAcquiring, .cameraDump, .cameraModel,
   .cameraName, .controllerId, .cycleMode, .deviceCount, .deviceVideoIndex,
   .electronicShutteringMode, .eventEnable, .eventsMissedEvent, .eventSelector, .exposureTime,
   .exposureEndEvent, .exposureStartEvent, .fanSpeed, .firmwareVersion, .frameCount, .frameRate,
   .fullAoiControl, .imageSizeBytes, .interfaceType, .ioInvert, .ioSelector, .lutIndex, .lutValue,
   .maxInterfaceTransferRate, .metadataEnable, .metadataFrame, .metadataTimestamp, .overlap,
   .pixelCorrection, .pixelEncoding, .pixelHeight, .pixelReadoutRate, .pixelWidth, .preAmpGain,
   .preAmpGainChannel, .preAmpGainControl, .preAmpGainSelector, .readoutTime,
   .rollingShutterGlobalClear, .rowNExposureEndEvent, .rowNExposureStartEvent, .sensorCooling,
   .sensorHeight, .sensorTemperature, .sensorWidth, .serialNumber, .simplePreAmpGainControl,
   .softwareTrigger, .softwareVersion, .spuriousNoiseFilter, .synchronousTriggering,
   .targetSensorTemperature, .temperatureControl, .temperatureStatus, .timestampClock,
   .timestampClockFrequency, .timestampClockReset, .triggerMode, .verticallyCenterAoi]

/-- How many features there are. -/
def count : Nat := all.length

/-- The place of a feature in the registry. -/
def ordinal (f : Feature) : Nat := f.ctorIdx

/-- The feature at a place of the registry. -/
def ofOrdinal? (n : Nat) : Option Feature := all[n]?

/-- The feature with a given identifier. -/
def ofIdentifier? (s : String) : Option Feature :=
  all.find? fun f => f.identifier == s

end Feature

end CameraControl
