import CameraControl.Camera.Frames
import CameraControl.Camera.Overlay
import CameraControl.Feature.Lookup
import CameraControl.Library.Loading
import CameraControl.Settings.Toml
import CameraControl.Terminal.Arguments
import CameraControl.Terminal.Files

/-
  The commands of the command line.

  A command works with at most one camera, which is closed before the command ends: by the command
  itself if all went well, and otherwise silently. What a command prints before a complaint stays
  printed. Only the outermost cause of a complaint is told.

  What a command prints is its own output. The log is switched off: applying settings and grabbing
  frames also log lines, that the settings were applied, at which address each frame is and that
  acquisition could not be stopped, which the filter `andor=info` lets through to the standard
  output unless the environment says otherwise. None of these lines is among what is printed here.
-/

namespace CameraControl.Terminal

/-- Why a command cannot do its work. -/
inductive Complaint where
  | fault (e : Fault)
  | unknownFeature (name : String)
  /-- A command has no value to be read. -/
  | commandFeature (f : Feature)
  | integer (flaw : IntegerFlaw)
  | float (flaw : FloatFlaw)
  | notBool
  | unreadableFile (path : String)
  | unparsableFile (path : String)
  /-- The camera gave a negative number for the size of its frames. -/
  | negativeSize
  deriving DecidableEq

/-- The text that tells of a complaint. -/
def Complaint.message : Complaint → String
  | fault e => e.message
  | unknownFeature name => "unknown feature \"" ++ name ++ "\""
  | commandFeature f => "\"" ++ f.key ++ "\" is a command"
  | integer flaw => flaw.message
  | float flaw => flaw.message
  | notBool => "provided string was not \x60true\x60 or \x60false\x60"
  | unreadableFile path => "reading settings file " ++ path
  | unparsableFile path => "parsing " ++ path
  | negativeSize => "out of range integral type conversion attempted"

/-- The world and what was printed. -/
structure Console where
  world : World
  printed : String

/-- Part of a command. -/
abbrev Job (α : Type) := ExceptT Complaint (StateM Console) α

namespace Job

/-- Does something with a camera. -/
def act {α : Type} (a : Action α) : Job α := fun c =>
  let (outcome, world) := a.exec c.world
  (outcome.mapError .fault, { c with world := world })

/-- Runs a job and gives its outcome. -/
def attempt {α : Type} (j : Job α) : Job (Except Complaint α) := fun c =>
  let (outcome, c) := j.run c
  (.ok outcome, c)

/-- Prints a text. -/
def print (s : String) : Job Unit := modify fun c => { c with printed := c.printed ++ s }

/-- Prints a line. -/
def printLine (s : String) : Job Unit := print (s ++ "\n")

/-- Works with a camera and closes it. After a complaint a failure to close it is not told. -/
def withCamera {α : Type} (index : DeviceIndex) (body : Camera → Job α) : Job α := do
  let cam ← act (Camera.openDevice index)
  match ← attempt (body cam) with
  | .ok a =>
    act cam.close
    pure a
  | .error complaint =>
    act cam.drop
    throw complaint

/-- The feature with a name. -/
def feature (name : String) : Job Feature :=
  match Feature.ofKey? name with
  | some f => pure f
  | none => throw (.unknownFeature name)

end Job

open Job

/-! ## Reading -/

/-- Prints lines with a number each, from a number on. -/
def printNumbered (i : Nat) : List String → Job Unit
  | [] => pure ()
  | name :: rest => do
    printLine (toString i ++ ": " ++ name)
    printNumbered (i + 1) rest

/-- Lists the attached cameras. -/
def list : Job Unit := do printNumbered 0 (← act Enumeration.deviceNames)

/-- Prints those of some text features that a camera has. -/
def printTexts (cam : Camera) : List Feature → Job Unit
  | [] => pure ()
  | f :: rest => do
    if ← act (cam.can f .implemented) then
      printLine (f.key ++ ": " ++ (← act (cam.text f)))
    printTexts cam rest

/-- Prints what kind of camera it is, and its settings. -/
def printInfo (cam : Camera) : Job Unit := do
  printTexts cam [.cameraModel, .serialNumber, .firmwareVersion, .interfaceType]
  let width ← act (cam.int .sensorWidth)
  let height ← act (cam.int .sensorHeight)
  printLine ("Sensor: " ++ toString width ++ "x" ++ toString height)
  if ← act (cam.can .pixelEncoding .implemented) then
    printLine ("Pixel Encoding: " ++ (← act (cam.choice .pixelEncoding)).name)
  if ← act (cam.can .temperatureStatus .implemented) then
    let temperature ← act (cam.float .sensorTemperature)
    let status ← act (cam.choice .temperatureStatus)
    printLine ("Sensor Temperature: " ++ temperature.plain ++ " (" ++ status.name ++ ")")
  print (← act cam.settings).toToml

/-- Shows a camera. -/
def info (index : DeviceIndex) : Job Unit := withCamera index printInfo

/-- The value of a feature as a text. -/
def showFeature (cam : Camera) (f : Feature) : Job String := do
  match f.kind with
  | .int => return toString (← act (cam.int f))
  | .float => return (← act (cam.float f)).plain
  | .bool => return toString (← act (cam.bool f))
  | .enum => act (cam.enumText f)
  | .string => act (cam.text f)
  | .command => throw (.commandFeature f)

/-- Prints the value of a feature. -/
def get (index : DeviceIndex) (name : String) : Job Unit := do
  let f ← feature name
  withCamera index fun cam => do printLine (← showFeature cam f)

/-! ## Writing -/

/-- The write that a text means for a feature of a kind; a command has none. -/
def writeOf? (kind : FeatureKind) (value : String) : Except Complaint (Option Write) :=
  match kind with
  | .int => ((Integer.readInt64 value).mapError .integer).map fun n => some (.int n)
  | .float => ((Binary64.read value).mapError .float).map fun x => some (.float x)
  | .bool =>
    if value = "true" then .ok (some (Camera.boolWrite true))
    else if value = "false" then .ok (some (Camera.boolWrite false))
    else .error .notBool
  | .enum => .ok (some (.enumText value))
  | .string => .ok (some (.text value))
  | .command => .ok none

/-- Sets a feature to the value that a text stands for, or runs it if it is a command. -/
def setFeature (cam : Camera) (f : Feature) (value : String) : Job Unit :=
  match writeOf? f.kind value with
  | .error complaint => throw complaint
  | .ok (some w) => act (cam.write f w)
  | .ok none => act (cam.command f)

/-- Writes a feature. -/
def set (index : DeviceIndex) (name value : String) : Job Unit := do
  let f ← feature name
  withCamera index fun cam => setFeature cam f value

/-- Applies the settings in a file. -/
def apply (files : Files) (index : DeviceIndex) (path : String) : Job Unit := do
  match files.read? path with
  | none => throw (.unreadableFile path)
  | some text =>
    match Settings.ofToml? text with
    | none => throw (.unparsableFile path)
    | some s => withCamera index fun cam => act (cam.apply s)

/-! ## Acquiring frames -/

/-- Queues a number of buffers of a size, which lie one behind the other in memory. -/
def queueBuffers (cam : Camera) (size : UInt64) (address : UInt64) : Nat → Action Unit
  | 0 => pure ()
  | n + 1 => do
    cam.queue address size
    queueBuffers cam size (address + size) n

/-- Waits for a number of buffers, up to the first fault. -/
def awaitBuffers (cam : Camera) (timeout : Timeout) : Nat → Action Unit
  | 0 => pure ()
  | n + 1 => do
    let _ ← cam.wait timeout
    awaitBuffers cam timeout n

/-- The timeout that a number of milliseconds means; zero is no limit. -/
def timeoutOf (millis : UInt32) : Timeout := if millis = 0 then .infinite else .millis millis

/-- Acquires frames with an open camera. Gives the outcome of the waits, which does not keep the
    acquisition from being stopped and the buffers from being taken back. -/
def acquire (cam : Camera) (count : Nat) (timeout : Timeout) : Job (Except Fault Unit) := do
  let size ← act (cam.int .imageSizeBytes)
  if size < 0 then throw .negativeSize
  act (queueBuffers cam (UInt64.ofInt size.toInt) 4096 count)
  act (cam.command .acquisitionStart)
  let waits ← act (Action.attempt (awaitBuffers cam timeout count))
  let _ ← act (Action.attempt (cam.command .acquisitionStop))
  act cam.flush
  pure waits

/-- Acquires frames. -/
def grab (index : DeviceIndex) (count : UInt64) (millis : UInt32) : Job Unit := do
  match ← withCamera index fun cam => acquire cam count.toNat (timeoutOf millis) with
  | .ok () => pure ()
  | .error fault => throw (.fault fault)

/-! ## A whole run -/

/-- Runs a command. -/
def Command.run (files : Files) : Command → Job Unit
  | .list => Terminal.list
  | .info index => Terminal.info index
  | .get index name => Terminal.get index name
  | .set index name value => Terminal.set index name value
  | .apply index path => Terminal.apply files index path
  | .grab index count timeout => Terminal.grab index count timeout

/-- What a run leaves behind: its exit code, what it printed, and its complaint. -/
structure Report where
  exitCode : UInt32
  printed : String
  complaint : String
  deriving DecidableEq, Repr

/-- The report of a run that ended with an outcome. -/
def Report.ofOutcome (printed : String) : Except Complaint Unit → Report
  | .ok () => ⟨0, printed, ""⟩
  | .error c => ⟨1, printed, "Error: " ++ c.message⟩

/-- The report of a command that was run in a world. -/
def Command.report (files : Files) (c : Command) (w : World) : Report :=
  let (outcome, console) := (c.run files).run ⟨w, ""⟩
  .ofOutcome console.printed outcome

/-- The most bytes that a list may take up in memory. -/
def memoryLimit : Nat := (1 <<< 63) - 1

/-- Whether the list of simulated cameras, each with 96 bytes, or the list of frame buffers, each
    with 24 bytes, would take up more than the limit. -/
def Request.exceedsMemory (r : Request) : Bool :=
  let cameras := (r.simulated.getD 0).toNat
  let buffers := match r.command with
    | .grab _ count _ => count.toNat
    | _ => 0
  memoryLimit < 96 * cameras || memoryLimit < 24 * buffers

/-- The report of a run that is broken off because it exceeds the memory. -/
def Report.brokenOff : Report := ⟨101, "", ""⟩

/-- Runs a request. Without simulated cameras the driver's library is needed, and it is given up
    after the command. A request that exceeds the memory is broken off before it is begun. -/
def Request.run (files : Files) (libraryFile : Library.File) (r : Request) : Report :=
  match r.simulated with
  | some n =>
    if r.exceedsMemory then .brokenOff
    else r.command.report files (World.ofDriver .direct (Driver.withCameras n.toNat))
  | none =>
    match (Library.load Library.Location.standard.toPath libraryFile).1 with
    | .error fault => .ofOutcome "" (.error (.fault fault))
    | .ok e =>
      if r.exceedsMemory then .brokenOff
      else r.command.report files (World.ofDriver .library e.driver)

/-- The name and the version of the program. -/
def versionLine : String := "andor 0.1.0\n"

/-- Runs a command line. Arguments that make no request end the run at once. -/
def run (files : Files) (libraryFile : Library.File) (args : List String) : Report :=
  match Request.ofArguments args with
  | .ok r => r.run files libraryFile
  | .error .misuse => ⟨2, "", ""⟩
  | .error .help => ⟨0, "", ""⟩
  | .error .version => ⟨0, versionLine, ""⟩

end CameraControl.Terminal
