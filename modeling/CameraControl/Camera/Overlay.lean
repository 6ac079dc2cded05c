import CameraControl.Camera
import CameraControl.Settings

/-
  Applying settings to a camera and reading them from it.

  The fields that are set are written one after another in a fixed order, because the allowed range
  of some depends on others: binning before the area of interest, its width and left edge before
  its height and top edge, the exposure time before the frame rate. The first write that fails ends
  the series. Reading gives the fields of the features that the camera has and can read.
-/

namespace CameraControl

namespace Settings

/-- The writes for the fields that are set, in order. -/
def writes (s : Settings) : List (Feature × Write) :=
  let choice {f : Family} (o : Option (Choice f)) : List (Feature × Write) :=
    (o.map fun c => (f.feature, Write.enumIndex c.index)).toList
  let int (f : Feature) (o : Option Int64) : List (Feature × Write) :=
    (o.map fun v => (f, Write.int v)).toList
  let float (f : Feature) (o : Option Binary64) : List (Feature × Write) :=
    (o.map fun v => (f, Write.float v)).toList
  let bool (f : Feature) (o : Option Bool) : List (Feature × Write) :=
    (o.map fun v => (f, Camera.boolWrite v)).toList
  let area (o : Option Aoi) : List (Feature × Write) :=
    match o with
    | none => []
    | some a =>
      [(.aoiWidth, .int a.width), (.aoiLeft, .int a.left), (.aoiHeight, .int a.height),
       (.aoiTop, .int a.top)]
  choice s.binning
    ++ area s.aoi
    ++ choice s.shutter
    ++ choice s.simplePreAmp
    ++ choice s.pixelReadoutRate
    ++ choice s.triggerMode
    ++ choice s.cycleMode
    ++ int .frameCount s.frameCount
    ++ int .accumulateCount s.accumulateCount
    ++ float .exposureTime s.exposureTime
    ++ float .frameRate s.frameRate
    ++ choice s.fanSpeed
    ++ bool .sensorCooling s.sensorCooling
    ++ bool .overlap s.overlap
    ++ bool .spuriousNoiseFilter s.spuriousNoiseFilter
    ++ bool .metadataEnable s.metadataEnable
    ++ choice s.auxiliaryOutSource

end Settings

namespace Camera

/-- Makes writes one after another up to the first that fails. -/
def writeAll (cam : Camera) : List (Feature × Write) → Action Unit
  | [] => pure ()
  | (f, w) :: rest => do
    cam.write f w
    cam.writeAll rest

/-- Writes the fields that are set. -/
def apply (cam : Camera) (s : Settings) : Action Unit := cam.writeAll s.writes

/-- Whether a feature is there and can be read. -/
def has (cam : Camera) (f : Feature) : Action Bool := do
  if ← cam.can f .implemented then cam.can f .readable else pure false

/-- Reads from a feature if it is there and can be read. -/
def readIf {α : Type} (cam : Camera) (f : Feature) (read : Action α) : Action (Option α) := do
  if ← cam.has f then return some (← read) else return none

/-- Reads the value of a family if its feature is there and can be read. -/
def choiceIf (cam : Camera) (f : Family) : Action (Option (Choice f)) :=
  cam.readIf f.feature (cam.choice f)

/-- Reads the area of interest. -/
def aoi (cam : Camera) : Action Aoi := do
  let left ← cam.int .aoiLeft
  let top ← cam.int .aoiTop
  let width ← cam.int .aoiWidth
  let height ← cam.int .aoiHeight
  pure ⟨left, top, width, height⟩

/-- Reads the settings of a camera. -/
def settings (cam : Camera) : Action Settings := do
  let aoi ← cam.readIf .aoiWidth cam.aoi
  let exposureTime ← cam.readIf .exposureTime (cam.float .exposureTime)
  let frameRate ← cam.readIf .frameRate (cam.float .frameRate)
  let frameCount ← cam.readIf .frameCount (cam.int .frameCount)
  let accumulateCount ← cam.readIf .accumulateCount (cam.int .accumulateCount)
  let cycleMode ← cam.choiceIf .cycleMode
  let triggerMode ← cam.choiceIf .triggerMode
  let shutter ← cam.choiceIf .shutter
  let binning ← cam.choiceIf .binning
  let simplePreAmp ← cam.choiceIf .simplePreAmp
  let pixelReadoutRate ← cam.choiceIf .pixelReadoutRate
  let fanSpeed ← cam.choiceIf .fanSpeed
  let auxiliaryOutSource ← cam.choiceIf .auxiliaryOutSource
  let sensorCooling ← cam.readIf .sensorCooling (cam.bool .sensorCooling)
  let overlap ← cam.readIf .overlap (cam.bool .overlap)
  let spuriousNoiseFilter ← cam.readIf .spuriousNoiseFilter (cam.bool .spuriousNoiseFilter)
  let metadataEnable ← cam.readIf .metadataEnable (cam.bool .metadataEnable)
  pure
    { exposureTime := exposureTime
      frameRate := frameRate
      frameCount := frameCount
      accumulateCount := accumulateCount
      cycleMode := cycleMode
      triggerMode := triggerMode
      shutter := shutter
      binning := binning
      simplePreAmp := simplePreAmp
      pixelReadoutRate := pixelReadoutRate
      fanSpeed := fanSpeed
      auxiliaryOutSource := auxiliaryOutSource
      sensorCooling := sensorCooling
      overlap := overlap
      spuriousNoiseFilter := spuriousNoiseFilter
      metadataEnable := metadataEnable
      aoi := aoi }

end Camera

end CameraControl
