import CameraControl.Driver.Access
import CameraControl.Driver.State

/-
  One call of the simulated driver.

  A call is logged first. If an order to fail matches it, it answers with the code of the earliest
  such order and does nothing. Otherwise it is attempted: an attempt either fails, which leaves the
  driver as it was, or takes effect, which may write to the caller's variable and may notify
  subscribers. The notices are given out with the new state; delivering them is not the driver's
  work.
-/

namespace CameraControl

/-- A call that took effect: the new state, what it wrote, whom it notifies. -/
structure Effect where
  driver : Driver
  output : Option Output
  notices : List Notice

/-- The outcome of a call: the new state, the reply, whom it notifies. -/
structure Outcome where
  driver : Driver
  reply : Reply
  notices : List Notice

/-- Whether an order to fail is about calls of a function with a key. -/
def FailureOrder.matches (o : FailureOrder) (f : Function) (key : Option String) : Bool :=
  o.function == f &&
    match o.key, key with
    | none, _ => true
    | some a, some b => keysMatch a b
    | some _, none => false

namespace Driver

/-- A call that only reads. -/
def answer (d : Driver) (output : Output) : Effect := ⟨d, some output, []⟩

/-- The open device that a handle belongs to, with its index. -/
def opened? (d : Driver) (handle : Int32) : Except Status (Nat × Device) :=
  match d.deviceIndex? handle with
  | none => .error Status.invalidHandle
  | some i =>
    match d.devices[i]? with
    | some device => .ok (i, device)
    | none => .error Status.invalidHandle

/-- The driver with another state of a device. -/
def setDevice (d : Driver) (index : Nat) (device : Device) : Driver :=
  { d with devices := d.devices.set index device }

/-- Opens a device under a new handle. -/
def openDevice (d : Driver) (index : Int32) : Except Status Effect :=
  match Entries.get? d.openFailures index with
  | some code => .error code
  | none =>
    if 0 ≤ index.toInt ∧ index.toInt.toNat < d.devices.length then
      if d.opened.any fun p => p.2 == index.toInt.toNat then .error Status.deviceInUse
      else .ok
        { driver :=
            { d with
              nextHandle := d.nextHandle + 1
              opened := Entries.put d.opened d.nextHandle index.toInt.toNat }
          output := some (.word d.nextHandle)
          notices := [] }
    else .error Status.outOfRange

/-- Closes a device; its subscriptions and its queue go with the handle. -/
def closeDevice (d : Driver) (handle : Int32) : Except Status Effect :=
  match d.deviceIndex? handle with
  | none => .error Status.invalidHandle
  | some _ => .ok
    { driver :=
        { d with
          opened := Entries.erase d.opened handle
          subscriptions := d.subscriptions.filter fun s => s.handle != handle
          queues := Entries.erase d.queues handle }
      output := none
      notices := [] }

/-- Subscribes to a feature that the device has; the new subscriber is notified at once. -/
def subscribe (d : Driver) (device : Device) (handle : Int32) (key : String) (token : Nat) :
    Except Status Effect := do
  let _ ← device.contentOr key
  let new : Subscription := ⟨handle, Text.squeeze key, token⟩
  pure ⟨{ d with subscriptions := d.subscriptions ++ [new] }, none, noticesFor [new] handle key⟩

/-- Takes back the first subscription of a token to a feature on a handle. -/
def unsubscribe (d : Driver) (handle : Int32) (key : String) (token : Nat) :
    Except Status Effect :=
  let s : Subscription := ⟨handle, Text.squeeze key, token⟩
  if s ∈ d.subscriptions then
    .ok ⟨{ d with subscriptions := d.subscriptions.erase s }, none, []⟩
  else .error Status.invalidHandle

/-- The number of devices, which the system alone can tell. -/
def deviceCount (d : Driver) (key : String) : Except Status Effect :=
  if Text.squeeze key = Text.squeeze Feature.deviceCount.key then
    .ok (d.answer (.int (d.reportedCount.getD (Int64.ofNat d.devices.length))))
  else .error Status.notImplemented

/-- Serves a request about a feature of an open device. -/
def serve (d : Driver) (handle : Int32) (key : String) (r : Request) : Except Status Effect := do
  let (index, device) ← d.opened? handle
  match r with
  | .ask c => pure (d.answer (.word (if device.can key c then 1 else 0)))
  | .read reading =>
    match (← device.contentOr key).read? reading with
    | some output => pure (d.answer output)
    | none => throw Status.notImplemented
  | .isIndexAvailable i | .isIndexImplemented i =>
    let _ ← (← device.contentOr key).option i
    pure (d.answer (.word 1))
  | .enumText i buffer =>
    let s ← (← device.contentOr key).option i
    pure (d.answer (.buffer (Text.Wide.fill s buffer)))
  | .text buffer =>
    match ← device.contentOr key with
    | .text s => pure (d.answer (.buffer (Text.Wide.fill s buffer)))
    | _ => throw Status.notImplemented
  | .write w =>
    let device ← device.write key w
    let d := d.setDevice index device
    pure ⟨d, none, d.fire handle key⟩
  | .command =>
    let device ← device.command key
    pure ⟨d.setDevice index device, none, []⟩
  | .subscribe token => d.subscribe device handle key token
  | .unsubscribe token => d.unsubscribe handle key token

/-- Serves a request about a feature. The system itself has one feature. -/
def request (d : Driver) (handle : Int32) (key : String) (r : Request) : Except Status Effect :=
  match r with
  | .read .int => if handle = systemHandle then d.deviceCount key else d.serve handle key r
  | _ => d.serve handle key r

/-- Adds a frame buffer to the queue of a handle. -/
def queueFrame (d : Driver) (handle : Int32) (address : UInt64) (size : Int32) :
    Except Status Effect := do
  let _ ← d.opened? handle
  if size ≤ 0 ∨ address = 0 then throw Status.invalidSize
  else
    let queue := (d.queue handle).push ⟨address, size⟩
    pure ⟨{ d with queues := Entries.put d.queues handle queue }, none, []⟩

/-- Gives out the oldest frame buffer of a handle as filled. The simulated driver never waits: if
    there is none, the time is up at once. -/
def waitFrame (d : Driver) (handle : Int32) : Except Status Effect := do
  let _ ← d.opened? handle
  match (d.queue handle).pop? with
  | none => throw Status.timedOut
  | some (frame, rest) =>
    let size := if 0 < d.zeroSizeWaits then 0 else frame.size
    pure
      ⟨{ d with
          queues := Entries.put d.queues handle rest
          zeroSizeWaits := d.zeroSizeWaits - 1 },
        some (.frame frame.address size), []⟩

/-- Discards the frame buffers of a handle. -/
def flushFrames (d : Driver) (handle : Int32) : Except Status Effect := do
  let _ ← d.opened? handle
  pure ⟨{ d with queues := Entries.erase d.queues handle }, none, []⟩

/-- What a call does if it is not ordered to fail: a failed attempt changes nothing. -/
def attempt (d : Driver) : Call → Except Status Effect
  | .open index => d.openDevice index
  | .close handle => d.closeDevice handle
  | .feature handle key r => d.request handle key r
  | .queue handle address size => d.queueFrame handle address size
  | .wait handle _ => d.waitFrame handle
  | .flush handle => d.flushFrames handle

/-- The code that a call is ordered to fail with: that of the earliest order about it. An order that
    names a feature is about calls with an equal key, up to blanks. -/
def orderedFailure? (d : Driver) (c : Call) : Option Status :=
  (d.failures.find? fun o => o.matches c.function c.key?).map FailureOrder.code

/-- The driver with a call in its log. -/
def logged (d : Driver) (c : Call) : Driver := { d with log := c.function :: d.log }

/-- One call. -/
def step (d : Driver) (c : Call) : Outcome :=
  let d := d.logged c
  match d.orderedFailure? c with
  | some code => ⟨d, ⟨code, none⟩, []⟩
  | none =>
    match d.attempt c with
    | .error code => ⟨d, ⟨code, none⟩, []⟩
    | .ok e => ⟨e.driver, ⟨Status.success, e.output⟩, e.notices⟩

end Driver

end CameraControl
