import CameraControl.Script.Step

/-
  Running scripts.

  `run` makes the steps of a script one after another and gives, for each, its outcome with the
  events that it caused. Cameras that are open at the end are closed in the order of their names.
-/

namespace CameraControl.Script

namespace Run

/-- Does something with a camera or the driver. -/
def act {α : Type} (a : Action α) : Run α := fun s =>
  let (outcome, world) := a.exec s.world
  (outcome.mapError .fault, { s with world := world })

/-- Scripts the driver. -/
def script (s : Scripting) : Run Unit := act (Action.modify (·.script s))

/-- Looks at the driver. -/
def driver : Run Driver := return (← get).world.driver

/-- The camera with a name. -/
def camera (name : String) : Run Camera := do
  match Entries.get? (← get).cameras name with
  | some cam => pure cam
  | none => throw .noSuchCamera

/-- The place of the token with a name. -/
def token (name : String) : Run Nat := do
  match Entries.get? (← get).tokens name with
  | some id => pure id
  | none => throw .noSuchToken

/-- The token at a place. -/
def tokenAt (id : Nat) : Run Token := do
  match (← get).world.tokens[id]? with
  | some t => pure t
  | none => throw .noSuchToken

/-- The number of a handle. -/
def handle : HandleRef → Run Int32
  | .number h => pure h
  | .camera name => return (← camera name).handle

/-- Gives a name to a camera. -/
def bindCamera (name : String) (cam : Camera) : Run Unit :=
  modify fun s => { s with cameras := Entries.put s.cameras name cam }

/-- Takes away the name of a camera. -/
def unbindCamera (name : String) : Run Unit :=
  modify fun s => { s with cameras := Entries.erase s.cameras name }

/-- Delivers notices and answers with their statuses. -/
def deliver (notices : List Notice) : Run Answer := fun s =>
  let (statuses, world) := s.world.deliverAll notices
  (.ok (.statuses statuses), { s with world := world })

end Run

open Run

/-- What a reading answers. -/
def readingAnswer (r : Reading) (reply : Reply) : Answer :=
  match r with
  | .int | .intMax | .intMin => .number reply.int.toInt
  | .float | .floatMax | .floatMin => .float reply.float
  | .bool => .bool reply.flag
  | .enumIndex | .enumCount | .textMaxLength => .number (reply.word 0).toInt

/-- What a script that dispatched a notification gets for the verdict. -/
def verdictAnswer : Verdict → Run Answer
  | .answered success => return .bool success
  | .refused breach => throw (.fault (.protocol breach))
  | .panicked => throw .panicked

/-- Does something with the camera that a name stands for. -/
def runCamera (name : String) (cam : Camera) : CameraStep → Run Answer
  | .info => return .info cam
  | .close => do
    unbindCamera name
    act cam.close
    return .nothing
  | .drop => do
    unbindCamera name
    act cam.drop
    return .nothing
  | .can f c => return .bool (← act (cam.can f c))
  | .read f r => return readingAnswer r (← act (cam.read f r))
  | .intRange f => do
    let (min, max) ← act (cam.intRange f)
    return .intRange min max
  | .floatRange f => do
    let (min, max) ← act (cam.floatRange f)
    return .floatRange min max
  | .write f w => do
    act (cam.write f w)
    return .nothing
  | .enumText f => return .text (← act (cam.enumText f))
  | .enumTexts f => return .texts (← act (cam.enumTexts f))
  | .enumTextAt f i => return .text (← act (cam.enumTextAt f i))
  | .isIndexAvailable f i => return .bool (← act (cam.isIndexAvailable f i))
  | .isIndexImplemented f i => return .bool (← act (cam.isIndexImplemented f i))
  | .command f => do
    act (cam.command f)
    return .nothing
  | .text f => return .text (← act (cam.text f))
  | .choice f => return .choice f (← act (cam.choice f))
  | .setChoice _ c => do
    act (cam.setChoice c)
    return .nothing
  | .apply none => throw .noSettings
  | .apply (some s) => do
    act (cam.apply s)
    return .nothing
  | .settings => return .settings (← act cam.settings)
  | .subscribe label f reactions nested => do
    let id ← act (cam.subscribe label f reactions nested)
    modify fun s => { s with tokens := Entries.put s.tokens label id }
    return .subscribed (← tokenAt id)
  | .unsubscribe label => do
    act (cam.unsubscribe (← token label))
    return .nothing
  | .hostLock lock => do
    bindCamera name { cam with hostLock := some lock }
    return .nothing
  | .queue address length => do
    act (cam.queue address length)
    return .nothing
  | .wait timeout => return .number (← act (cam.wait timeout)).toNat
  | .flush => do
    act cam.flush
    return .nothing

/-- Makes a step. -/
def runStep : Step → Run Answer
  | .setDeviceCount n => do
    script (.deviceCount n)
    return .nothing
  | .putKey device key c => do
    script (.putKey device key c)
    return .nothing
  | .putReadOnly device f c => do
    script (.putReadOnly device f c)
    return .nothing
  | .remove device f => do
    script (.remove device f)
    return .nothing
  | .content device f => do
    return .content ((← driver).devices[device]? |>.bind (·.content? f.key))
  | .fail symbol code feature? => do
    match Function.ofSymbol? symbol, feature? with
    | none, _ => pure ()
    | some f, none => script (.fail f code)
    | some f, some feature => script (.failForFeature f feature code)
    return .nothing
  | .failOpen index code => do
    script (.failOpen index code)
    return .nothing
  | .clearFailures => do
    script .clearFailures
    return .nothing
  | .openHandles => return .number (← driver).openCount
  | .registeredCallbacks => return .number (← driver).subscriptions.length
  | .queuedBuffers h => do
    let h ← handle h
    return .number ((← driver).queue h).length
  | .zeroSizeWaits n => do
    script (.zeroSizeWaits n)
    return .nothing
  | .callCount symbol => do
    match Function.ofSymbol? symbol with
    | some f => return .number ((← driver).callCount f)
    | none => return .number 0
  | .fire h key => do
    let h ← handle h
    deliver ((← driver).fire h key)
  | .fireAs h key asHandle asKey => do
    let h ← handle h
    let asHandle ← handle asHandle
    deliver ((← driver).fireAs h key asHandle asKey)
  | .call c => return .raw c (← act (Action.tryCall c))
  | .deviceNames => return .texts (← act Enumeration.deviceNames)
  | .openCamera name index => do
    let cam ← act (Camera.openDevice index)
    let old := Entries.get? (← get).cameras name
    bindCamera name cam
    if let some old := old then act old.drop
    return .opened cam.handle
  | .camera name step => do
    let cam ← camera name
    runCamera name cam step
  | .token name => do
    let id ← token name
    return .token (← tokenAt id)
  | .dispatch name h key => do
    let id ← token name
    let h ← handle h
    let (verdict, world) := (← get).world.dispatch id h key
    modify fun s => { s with world := world }
    verdictAnswer verdict

/-- The outcome of a step and the events that it caused. -/
structure StepResult where
  outcome : Except Failure Answer
  events : List Event

/-- Makes a step and gives the events that it caused. -/
def runRecorded (s : State) (step : Step) : StepResult × State :=
  let (outcome, after) := (runStep step).run s
  (⟨outcome, after.world.eventsSince s.world⟩, after)

/-- Makes steps one after another. -/
def runSteps (s : State) : List Step → List StepResult × State
  | [] => ([], s)
  | step :: rest =>
    let (result, s) := runRecorded s step
    let (results, s) := runSteps s rest
    (result :: results, s)

/-- A script at its start. -/
def start (backend : Backend) (devices : List Device) : State :=
  ⟨World.ofDriver backend (Driver.ofDevices devices), [], []⟩

/-- The world after all cameras that are still open were closed, in the order of their names. -/
def finish (s : State) : World :=
  let cameras := s.cameras.mergeSort fun a b => decide (a.1 ≤ b.1)
  cameras.foldl (fun w p => (p.2.drop.exec w).2) s.world

/-- Runs a script: the results of its steps, and the driver after all. -/
def run (backend : Backend) (devices : List Device) (steps : List Step) :
    List StepResult × Driver :=
  let (results, s) := runSteps (start backend devices) steps
  (results, (finish s).driver)

end CameraControl.Script
