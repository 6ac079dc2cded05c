import CameraControl.Device
import CameraControl.Driver.Call
import CameraControl.Driver.FrameQueue
import CameraControl.Text.Wide

/-
  The state of the simulated driver, and how it is scripted.

  The driver has devices, the handles under which some of them are open, the subscriptions to
  their features, and a queue of frame buffers for each handle. Besides, it can be told to fail
  calls, to count its devices wrongly and to report frames without a size; and it keeps a log of
  the functions that were called.
-/

namespace CameraControl

/-- A subscription to changes of a feature. The key is kept without blanks. -/
structure Subscription where
  handle : Int32
  key : String
  token : Nat
  deriving DecidableEq, Repr

/-- An order to fail the calls of a function, either all or those about one feature. -/
structure FailureOrder where
  function : Function
  key : Option String
  code : Status
  deriving DecidableEq, Repr

/-- A notification on its way to a subscriber. The feature is reported as a wide text. -/
structure Notice where
  token : Nat
  handle : Int32
  reported : List Int32
  deriving DecidableEq, Repr

/-- Acts of scripting: they set up the devices, the orders to fail and the reports of the driver. -/
inductive Scripting where
  | deviceCount (count : Int64)
  | putKey (device : Nat) (key : String) (content : Content)
  | putReadOnly (device : Nat) (f : Feature) (content : Content)
  | remove (device : Nat) (f : Feature)
  | fail (f : Function) (code : Status)
  | failForFeature (f : Function) (feature : Feature) (code : Status)
  | failOpen (index : Int32) (code : Status)
  | clearFailures
  | zeroSizeWaits (count : Nat)
  deriving DecidableEq

/-- The simulated driver. -/
structure Driver where
  devices : List Device
  /-- The number of devices to report instead of the true one. -/
  reportedCount : Option Int64
  nextHandle : Int32
  /-- The open handles with the indices of their devices. -/
  opened : List (Int32 × Nat)
  /-- The functions called so far, the latest first. -/
  log : List Function
  failures : List FailureOrder
  /-- The statuses that opening some devices answers with. -/
  openFailures : List (Int32 × Status)
  subscriptions : List Subscription
  queues : List (Int32 × FrameQueue)
  /-- How many of the next frames are reported without a size. -/
  zeroSizeWaits : Nat
  deriving DecidableEq

namespace Driver

/-- A driver with some devices, none of them open. Handles count from 100. -/
def ofDevices (devices : List Device) : Driver :=
  { devices := devices
    reportedCount := none
    nextHandle := 100
    opened := []
    log := []
    failures := []
    openFailures := []
    subscriptions := []
    queues := []
    zeroSizeWaits := 0 }

/-- A driver with a number of usual devices. -/
def withCameras (n : Nat) : Driver :=
  ofDevices ((List.range n).map fun i => .standard s!"Mock {i}")

/-! ## Views -/

/-- How often a function was called. -/
def callCount (d : Driver) (f : Function) : Nat := d.log.count f

/-- How many devices are open. -/
def openCount (d : Driver) : Nat := d.opened.length

/-- The queue of the frame buffers that wait to be filled on a handle. -/
def queue (d : Driver) (handle : Int32) : FrameQueue :=
  (Entries.get? d.queues handle).getD .empty

/-- The index of the device that a handle belongs to. -/
def deviceIndex? (d : Driver) (handle : Int32) : Option Nat := Entries.get? d.opened handle

/-- The device that a handle belongs to. -/
def device? (d : Driver) (handle : Int32) : Option Device :=
  (d.deviceIndex? handle).bind fun i => d.devices[i]?

/-! ## Scripting -/

/-- Changes a device. -/
def modifyDevice (d : Driver) (index : Nat) (f : Device → Device) : Driver :=
  { d with devices := d.devices.modify index f }

/-- Lets the driver report a number of devices. -/
def setDeviceCount (d : Driver) (count : Int64) : Driver := { d with reportedCount := some count }

/-- Lets all calls of a function fail. -/
def fail (d : Driver) (f : Function) (code : Status) : Driver :=
  { d with failures := d.failures ++ [⟨f, none, code⟩] }

/-- Lets the calls of a function about one feature fail. -/
def failForFeature (d : Driver) (f : Function) (feature : Feature) (code : Status) : Driver :=
  { d with failures := d.failures ++ [⟨f, some feature.key, code⟩] }

/-- Lets opening a device fail. -/
def failOpen (d : Driver) (index : Int32) (code : Status) : Driver :=
  { d with openFailures := Entries.put d.openFailures index code }

/-- Withdraws all orders to fail. -/
def clearFailures (d : Driver) : Driver := { d with failures := [], openFailures := [] }

/-- Lets the next frames be reported without a size. -/
def reportZeroSizeWaits (d : Driver) (n : Nat) : Driver := { d with zeroSizeWaits := n }

/-- One act of scripting. -/
def script (d : Driver) : Scripting → Driver
  | .deviceCount count => d.setDeviceCount count
  | .putKey index key content => d.modifyDevice index (·.putKey key content)
  | .putReadOnly index f content => d.modifyDevice index (·.putReadOnly f content)
  | .remove index f => d.modifyDevice index (·.remove f)
  | .fail f code => d.fail f code
  | .failForFeature f feature code => d.failForFeature f feature code
  | .failOpen index code => d.failOpen index code
  | .clearFailures => d.clearFailures
  | .zeroSizeWaits n => d.reportZeroSizeWaits n

/-! ## Notifications -/

/-- Notices for some subscriptions that report a handle and a feature; a name that cannot be
    written as a wide text reaches nobody. -/
def noticesFor (subscriptions : List Subscription) (handle : Int32) (reported : String) :
    List Notice :=
  match Text.Wide.ofText reported with
  | .ok units => subscriptions.map fun s => ⟨s.token, handle, units⟩
  | .error _ => []

/-- The subscriptions to a feature on a handle, in the order in which they were made. -/
def subscribers (d : Driver) (handle : Int32) (key : String) : List Subscription :=
  d.subscriptions.filter fun s => s.handle == handle && s.key == Text.squeeze key

/-- Notices for the subscribers to a feature on a handle that report a handle and a feature. -/
def fireAs (d : Driver) (handle : Int32) (key : String) (reportedHandle : Int32)
    (reported : String) : List Notice :=
  noticesFor (d.subscribers handle key) reportedHandle reported

/-- Notices for the subscribers to a feature on a handle that report a change of it. -/
def fire (d : Driver) (handle : Int32) (key : String) : List Notice :=
  d.fireAs handle key handle key

end Driver

end CameraControl
