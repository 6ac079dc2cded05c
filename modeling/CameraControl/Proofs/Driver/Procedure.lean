import CameraControl.Proofs.Camera.Uses
import CameraControl.Proofs.Driver.Coherence

/-
  The functions of the driver, one statement after another.

  `Driver.step` says what a call comes to as a whole. Here the same functions are procedures that
  work in place: each statement changes the state of the driver, writes to the caller's variable or
  sends out notices where it stands, and a procedure that ends early leaves all that it has done
  until then. `perform_run` says that in every reachable state the procedures come to what
  `Driver.step` says, so none of them does anything before its last check.
-/

namespace CameraControl

/-! ## Handles and devices -/

namespace Driver

variable {d : Driver}

/-- Every open handle is that of a device. -/
def Placed (d : Driver) : Prop := ∀ p ∈ d.opened, p.2 < d.devices.length

/-- A call that takes effect opens no handle but that of a device, and takes away no device. -/
theorem placed_of_effects {c : Call} {e : Effect} (hd : d.Placed) (he : d.Effects c e) :
    e.driver.Placed := by
  cases he with
  | opened _ _ hlt =>
    intro p hp
    rcases Entries.mem_put hp with rfl | hp
    · exact hlt
    · exact hd p hp
  | closed => exact fun p hp => hd p (Entries.mem_erase.mp hp).1
  | wrote | commanded =>
    intro p hp
    rw [setDevice, List.length_set]
    exact hd p hp
  | _ => exact hd

theorem placed_operate (hd : d.Placed) (op : Operation) : (d.operate op).Placed := by
  cases op with
  | script act =>
    cases act with
    | putKey | putReadOnly | remove =>
      intro p hp
      show p.2 < (d.devices.modify _ _).length
      rw [List.length_modify]
      exact hd p hp
    | _ => exact hd
  | call c =>
    rcases step_cases d c with ⟨code, -, hstep⟩ | ⟨e, he, hstep⟩
    · rw [operate, hstep]
      exact hd
    · rw [operate, hstep]
      exact placed_of_effects (d := d.logged c) hd he

theorem placed_of_run (devices : List Device) (ops : List Operation) :
    ((ofDevices devices).run ops).Placed := by
  have hrun : ∀ (d : Driver), d.Placed → (d.run ops).Placed := by
    induction ops with
    | nil => exact fun _ hd => hd
    | cons op rest ih => exact fun d hd => ih _ (placed_operate hd op)
  exact hrun _ (List.forall_mem_nil _)

/-- A handle that does not lead to a device is not open. -/
theorem opened?_eq_error (hd : d.Placed) {handle : Int32} {code : Status}
    (h : d.opened? handle = .error code) :
    code = Status.invalidHandle ∧ handle ∉ Entries.keys d.opened := by
  unfold opened? at h
  split at h
  · next hindex =>
    refine ⟨(Except.error.inj h).symm, fun hmem => ?_⟩
    obtain ⟨i, hi⟩ := Entries.get?_of_mem_keys hmem
    exact Option.some_ne_none i (hi.symm.trans hindex)
  · next i hindex =>
    have hlt : i < d.devices.length := hd _ (Entries.mem_of_get? hindex)
    rw [List.getElem?_eq_getElem hlt] at h
    cases h

end Driver

/-! ## Procedures -/

/-- What a procedure works on. -/
structure Scene where
  driver : Driver
  /-- The caller's variable, if the caller has one. -/
  cell : Option Output
  /-- The notices sent out so far. -/
  notices : List Notice
  deriving DecidableEq

/-- A procedure of the driver. One that ends early leaves what it has done until then. -/
abbrev Procedure (α : Type) := ExceptT Status (StateM Scene) α

namespace Procedure

/-! ### Statements -/

/-- Looks at the state of the driver. -/
def driver : Procedure Driver := return (← get).driver

/-- Changes the state of the driver. -/
def change (f : Driver → Driver) : Procedure Unit := modify fun s => { s with driver := f s.driver }

/-- Writes to the caller's variable. -/
def write (output : Output) : Procedure Unit := modify fun s => { s with cell := some output }

/-- Sends out notices. -/
def notify (notices : List Notice) : Procedure Unit :=
  modify fun s => { s with notices := s.notices ++ notices }

/-- Makes a check, which ends the procedure if it fails. -/
def check {α : Type} (x : Except Status α) : Procedure α :=
  match x with
  | .ok a => pure a
  | .error code => throw code

/-- Counts a call, and fails it if there is an order to. -/
def enter (c : Call) : Procedure Unit := do
  change (·.logged c)
  match (← driver).orderedFailure? c with
  | some code => throw code
  | none => pure ()

/-! ### Functions about devices -/

/-- Opens a device under a new handle. -/
def openDevice (index : Int32) : Procedure Unit := do
  let d ← driver
  match Entries.get? d.openFailures index with
  | some code => throw code
  | none =>
    if 0 ≤ index.toInt ∧ index.toInt.toNat < d.devices.length then
      if d.opened.any fun p => p.2 == index.toInt.toNat then throw Status.deviceInUse
      else
        change fun d => { d with nextHandle := d.nextHandle + 1 }
        change fun e => { e with opened := Entries.put e.opened d.nextHandle index.toInt.toNat }
        write (.word d.nextHandle)
    else throw Status.outOfRange

/-- Closes a device. The handle is taken out before it is known whether it was there. -/
def closeDevice (handle : Int32) : Procedure Unit := do
  let removed := (← driver).deviceIndex? handle
  change fun d => { d with opened := Entries.erase d.opened handle }
  match removed with
  | none => throw Status.invalidHandle
  | some _ =>
    change fun d => { d with subscriptions := d.subscriptions.filter fun s => s.handle != handle }
    change fun d => { d with queues := Entries.erase d.queues handle }

/-! ### Functions about features -/

/-- The device that a handle belongs to, with its index. -/
def device (handle : Int32) : Procedure (Nat × Device) := do check ((← driver).opened? handle)

/-- Puts something into a feature of a device, whether or not it was there. -/
def store (index : Nat) (key : String) (content : Content) : Procedure Unit :=
  change (·.modifyDevice index (·.setContent key content))

/-- Writes a value to a feature that callers may write, and notifies the subscribers. -/
def assign (handle : Int32) (key : String) (w : Write) : Procedure Unit := do
  let (index, device) ← device handle
  if device.isReadOnly key then throw Status.readOnly
  else
    let content ← check (device.contentOr key)
    let content ← check (content.write w)
    store index key content
    notify ((← driver).fire handle key)

/-- Runs a command. Starting and stopping an acquisition shows in a feature of its own. -/
def command (handle : Int32) (key : String) : Procedure Unit := do
  let (index, device) ← device handle
  let content ← check (device.contentOr key)
  if content ≠ .command then throw Status.notImplemented
  else if Text.squeeze key = Text.squeeze Feature.acquisitionStart.key then
    store index Feature.cameraAcquiring.key (.bool true)
  else if Text.squeeze key = Text.squeeze Feature.acquisitionStop.key then
    store index Feature.cameraAcquiring.key (.bool false)
  else pure ()

/-- Adds a subscription, and notifies the new subscriber. -/
def subscribe (handle : Int32) (key : String) (token : Nat) : Procedure Unit := do
  let (_, device) ← device handle
  let _ ← check (device.contentOr key)
  let new : Subscription := ⟨handle, Text.squeeze key, token⟩
  change fun d => { d with subscriptions := d.subscriptions ++ [new] }
  notify (Driver.noticesFor [new] handle key)

/-- Takes back a subscription. Whether the handle is open is not asked for. -/
def unsubscribe (handle : Int32) (key : String) (token : Nat) : Procedure Unit := do
  let s : Subscription := ⟨handle, Text.squeeze key, token⟩
  if s ∈ (← driver).subscriptions then
    change fun d => { d with subscriptions := d.subscriptions.erase s }
  else throw Status.invalidHandle

/-- Counts the devices, which the system alone can do. -/
def countDevices (key : String) : Procedure Unit := do
  if Text.squeeze key ≠ Text.squeeze Feature.deviceCount.key then throw Status.notImplemented
  else
    let d ← driver
    write (.int (d.reportedCount.getD (Int64.ofNat d.devices.length)))

/-- Reads a number from a feature. -/
def read (handle : Int32) (key : String) (reading : Reading) : Procedure Unit := do
  let (_, device) ← device handle
  match (← check (device.contentOr key)).read? reading with
  | some output => write output
  | none => throw Status.notImplemented

/-- Serves a request about a feature. -/
def request (handle : Int32) (key : String) : Request → Procedure Unit
  | .ask c => do
    let (_, device) ← device handle
    write (.word (if device.can key c then 1 else 0))
  | .read .int => if handle = systemHandle then countDevices key else read handle key .int
  | .read reading => read handle key reading
  | .isIndexAvailable i | .isIndexImplemented i => do
    let (_, device) ← device handle
    let _ ← check ((← check (device.contentOr key)).option i)
    write (.word 1)
  | .enumText i buffer => do
    let (_, device) ← device handle
    let s ← check ((← check (device.contentOr key)).option i)
    write (.buffer (Text.Wide.fill s buffer))
  | .text buffer => do
    let (_, device) ← device handle
    match ← check (device.contentOr key) with
    | .text s => write (.buffer (Text.Wide.fill s buffer))
    | _ => throw Status.notImplemented
  | .write w => assign handle key w
  | .command => command handle key
  | .subscribe token => subscribe handle key token
  | .unsubscribe token => unsubscribe handle key token

/-! ### Functions about frames -/

/-- Adds a frame buffer to the queue of a handle. -/
def queueFrame (handle : Int32) (address : UInt64) (size : Int32) : Procedure Unit := do
  let _ ← device handle
  if size ≤ 0 ∨ address = 0 then throw Status.invalidSize
  else
    change fun d =>
      { d with queues := Entries.put d.queues handle ((d.queue handle).push ⟨address, size⟩) }

/-- The size to report for a frame. While frames are to be reported without a size, each of them
    uses up one such report. -/
def reportedSize (frame : Frame) : Procedure Int32 := do
  if 0 < (← driver).zeroSizeWaits then
    change fun d => { d with zeroSizeWaits := d.zeroSizeWaits - 1 }
    pure 0
  else pure frame.size

/-- Gives out the oldest frame buffer of a handle. -/
def waitFrame (handle : Int32) : Procedure Unit := do
  let _ ← device handle
  match ((← driver).queue handle).pop? with
  | none => throw Status.timedOut
  | some (frame, rest) =>
    change fun d => { d with queues := Entries.put d.queues handle rest }
    let size ← reportedSize frame
    write (.frame frame.address size)

/-- Discards the frame buffers of a handle. -/
def flushFrames (handle : Int32) : Procedure Unit := do
  let _ ← device handle
  change fun d => { d with queues := Entries.erase d.queues handle }

/-! ### Calls -/

/-- What a call does if it is not ordered to fail. -/
def body : Call → Procedure Unit
  | .open index => openDevice index
  | .close handle => closeDevice handle
  | .feature handle key r => request handle key r
  | .queue handle address size => queueFrame handle address size
  | .wait handle _ => waitFrame handle
  | .flush handle => flushFrames handle

/-- One call. -/
def perform (c : Call) : Procedure Unit := do
  enter c
  body c

/-- The status that a procedure ends with. -/
def status : Except Status Unit → Status
  | .ok _ => Status.success
  | .error code => code

/-- The end of a procedure that comes to what an attempt says: nothing is done if the attempt fails,
    and all of it if it takes effect. -/
def settle (s : Scene) : Except Status Effect → Except Status Unit × Scene
  | .error code => (.error code, s)
  | .ok e => (.ok (), ⟨e.driver, e.output <|> s.cell, s.notices ++ e.notices⟩)

/-! ## One statement after another -/

variable {α : Type} {s : Scene}

theorem run_driver_bind (f : Driver → Procedure α) (s : Scene) :
    (driver >>= f).run s = (f s.driver).run s := rfl

theorem run_check_ok_bind (a : α) (f : α → Procedure Unit) (s : Scene) :
    (check (.ok a) >>= f).run s = (f a).run s := rfl

theorem run_check_error_bind (code : Status) (f : α → Procedure Unit) (s : Scene) :
    (check (.error code) >>= f).run s = (.error code, s) := rfl

/-- The end of a procedure that notifies nobody. -/
theorem settle_silent (s : Scene) (d : Driver) (output : Option Output) :
    settle s (.ok ⟨d, output, []⟩) = (.ok (), ⟨d, output <|> s.cell, s.notices⟩) := by
  rw [settle, List.append_nil]

/-- A procedure whose last statement is a change. -/
theorem run_change (f : Driver → Driver) (s : Scene) :
    (change f).run s = settle s (.ok ⟨f s.driver, none, []⟩) := by
  rw [settle_silent]
  rfl

/-- A procedure whose last statement writes what was asked for. -/
theorem run_write (output : Output) (s : Scene) :
    (write output).run s = settle s (.ok (s.driver.answer output)) := by
  rw [Driver.answer, settle_silent]
  rfl

/-- A statement that only makes a check, and what follows it if the check succeeds. -/
theorem run_check_bind {x : Except Status α} {f : α → Procedure Unit}
    {g : α → Except Status Effect} (h : ∀ a, x = .ok a → (f a).run s = settle s (g a)) :
    (check x >>= f).run s = settle s (x >>= g) := by
  cases x with
  | error code => exact run_check_error_bind code f s
  | ok a => exact (run_check_ok_bind a f s).trans (h a rfl)

/-- A procedure that works on an open device. -/
theorem run_device_bind {handle : Int32} {f : Nat × Device → Procedure Unit}
    {g : Nat × Device → Except Status Effect}
    (h : ∀ index device, s.driver.opened? handle = .ok (index, device) →
      (f (index, device)).run s = settle s (g (index, device))) :
    (device handle >>= f).run s = settle s (s.driver.opened? handle >>= g) :=
  run_check_bind fun p hopen => h p.1 p.2 hopen

/-! ## Functions about devices -/

theorem openDevice_run (index : Int32) (s : Scene) :
    (openDevice index).run s = settle s (s.driver.openDevice index) := by
  unfold openDevice Driver.openDevice
  rw [run_driver_bind]
  cases Entries.get? s.driver.openFailures index with
  | some code => rfl
  | none =>
    dsimp only
    split
    · split
      · rfl
      · rw [settle_silent]
        rfl
    · rfl

theorem closeDevice_run (handle : Int32) (s : Scene) :
    (closeDevice handle).run s = settle s (s.driver.closeDevice handle) := by
  unfold closeDevice Driver.closeDevice
  rw [run_driver_bind]
  cases hindex : s.driver.deviceIndex? handle with
  | none =>
    -- taking out a handle that is not there changes nothing
    have hsame : Entries.erase s.driver.opened handle = s.driver.opened :=
      Entries.erase_of_get?_none hindex
    show (Except.error Status.invalidHandle,
      { s with driver := { s.driver with opened := Entries.erase s.driver.opened handle } }) = _
    rw [hsame]
    rfl
  | some i =>
    rw [settle_silent]
    rfl

/-! ## Functions about features -/

/-- Changing a device in its place is putting the changed device there. -/
theorem modifyDevice_eq {d : Driver} {handle : Int32} {index : Nat} {device : Device}
    (hopen : d.opened? handle = .ok (index, device)) (f : Device → Device) :
    d.modifyDevice index f = d.setDevice index (f device) := by
  rw [Driver.modifyDevice, Driver.setDevice, List.modify_eq_set_getElem?,
    (Driver.opened?_eq_ok hopen).2]
  rfl

/-- Putting back the device that is there changes nothing. -/
theorem setDevice_self {d : Driver} {handle : Int32} {index : Nat} {device : Device}
    (hopen : d.opened? handle = .ok (index, device)) : d.setDevice index device = d := by
  obtain ⟨hlt, rfl⟩ := List.getElem?_eq_some_iff.mp (Driver.opened?_eq_ok hopen).2
  rw [Driver.setDevice, List.set_getElem_self]

theorem run_store {handle : Int32} {index : Nat} {device : Device}
    (hopen : s.driver.opened? handle = .ok (index, device)) (key : String) (content : Content) :
    (store index key content).run s =
      settle s (.ok ⟨s.driver.setDevice index (device.setContent key content), none, []⟩) := by
  rw [← modifyDevice_eq hopen (·.setContent key content)]
  exact run_change _ s

theorem assign_run (handle : Int32) (key : String) (w : Write) (s : Scene) :
    (assign handle key w).run s = settle s (s.driver.serve handle key (.write w)) := by
  refine run_device_bind fun index device hopen => ?_
  show _ = settle s (device.write key w >>= _)
  unfold Device.write
  dsimp only
  split
  · rfl
  · unfold Device.contentOr
    cases device.content? key with
    | none => rfl
    | some c =>
      refine (run_check_ok_bind c _ s).trans ?_
      dsimp only
      cases c.write w with
      | error code => rfl
      | ok c' =>
        refine (run_check_ok_bind c' _ s).trans ?_
        rw [run_bind, run_store hopen, settle_silent]
        rfl

theorem command_run (handle : Int32) (key : String) (s : Scene) :
    (command handle key).run s = settle s (s.driver.serve handle key .command) := by
  refine run_device_bind fun index device hopen => ?_
  show _ = settle s (device.command key >>= _)
  unfold Device.command Device.contentOr
  dsimp only
  cases device.content? key with
  | none => rfl
  | some c =>
    cases c with
    | command =>
      refine (run_check_ok_bind _ _ s).trans ?_
      rw [if_neg (not_not_intro rfl)]
      split
      · exact run_store hopen _ _
      · split
        · exact run_store hopen _ _
        · show _ = settle s (.ok ⟨s.driver.setDevice index device, none, []⟩)
          rw [settle_silent, setDevice_self hopen]
          rfl
    | _ => rfl

theorem subscribe_run (handle : Int32) (key : String) (token : Nat) (s : Scene) :
    (subscribe handle key token).run s =
      settle s (s.driver.serve handle key (.subscribe token)) :=
  run_device_bind fun _ _ _ => run_check_bind fun _ _ => rfl

/-- The subscriptions on a handle that is not open are none, so asking for the subscription is
    asking for the handle as well. -/
theorem unsubscribe_run (handle : Int32) (key : String) (token : Nat) (hs : s.driver.Coherent)
    (hplaced : s.driver.Placed) :
    (unsubscribe handle key token).run s =
      settle s (s.driver.serve handle key (.unsubscribe token)) := by
  unfold unsubscribe Driver.serve
  rw [run_driver_bind]
  cases hopen : s.driver.opened? handle with
  | error code =>
    obtain ⟨rfl, hclosed⟩ := Driver.opened?_eq_error hplaced hopen
    rw [if_neg fun hmem => hclosed (hs.subscription_open _ hmem)]
    rfl
  | ok p =>
    show _ = settle s (s.driver.unsubscribe handle key token)
    unfold Driver.unsubscribe
    dsimp only
    split
    · exact run_change _ s
    · rfl

theorem countDevices_run (key : String) (s : Scene) :
    (countDevices key).run s = settle s (s.driver.deviceCount key) := by
  unfold countDevices Driver.deviceCount
  by_cases hkey : Text.squeeze key = Text.squeeze Feature.deviceCount.key
  · rw [if_neg (not_not_intro hkey), if_pos hkey]
    exact run_write _ s
  · rw [if_pos hkey, if_neg hkey]
    rfl

theorem read_run (handle : Int32) (key : String) (reading : Reading) (s : Scene) :
    (read handle key reading).run s = settle s (s.driver.serve handle key (.read reading)) := by
  refine run_device_bind fun index device _ => run_check_bind fun c _ => ?_
  cases c.read? reading with
  | none => rfl
  | some output => exact run_write _ s

theorem request_run (handle : Int32) (key : String) (r : Request) (hs : s.driver.Coherent)
    (hplaced : s.driver.Placed) :
    (request handle key r).run s = settle s (s.driver.request handle key r) := by
  cases r with
  | ask c => exact run_device_bind fun index device _ => run_write _ s
  | read reading =>
    cases reading with
    | int =>
      show (if handle = systemHandle then countDevices key else read handle key .int).run s =
        settle s (if handle = systemHandle then s.driver.deviceCount key
          else s.driver.serve handle key (.read .int))
      split
      · exact countDevices_run key s
      · exact read_run handle key .int s
    | _ => exact read_run handle key _ s
  | isIndexAvailable i | isIndexImplemented i =>
    exact run_device_bind fun index device _ => run_check_bind fun c _ =>
      run_check_bind fun text _ => run_write _ s
  | enumText i buffer =>
    exact run_device_bind fun index device _ => run_check_bind fun c _ =>
      run_check_bind fun text _ => run_write _ s
  | text buffer =>
    refine run_device_bind fun index device _ => run_check_bind fun c _ => ?_
    cases c with
    | text text => exact run_write _ s
    | _ => rfl
  | write w => exact assign_run handle key w s
  | command => exact command_run handle key s
  | subscribe token => exact subscribe_run handle key token s
  | unsubscribe token => exact unsubscribe_run handle key token hs hplaced

/-! ## Functions about frames -/

theorem queueFrame_run (handle : Int32) (address : UInt64) (size : Int32) (s : Scene) :
    (queueFrame handle address size).run s =
      settle s (s.driver.queueFrame handle address size) := by
  refine run_device_bind fun index device _ => ?_
  dsimp only
  split
  · rfl
  · exact run_change _ s

/-- Where no frame is to be reported without a size, there is no such report to use up. -/
theorem run_reportedSize (frame : Frame) (s : Scene) :
    (reportedSize frame).run s =
      (.ok (if 0 < s.driver.zeroSizeWaits then 0 else frame.size),
        { s with
          driver := { s.driver with zeroSizeWaits := s.driver.zeroSizeWaits - 1 } }) := by
  unfold reportedSize
  rw [run_driver_bind]
  by_cases hzero : 0 < s.driver.zeroSizeWaits
  · rw [if_pos hzero, if_pos hzero]
    rfl
  · have hsame : s.driver.zeroSizeWaits - 1 = s.driver.zeroSizeWaits := by omega
    rw [if_neg hzero, if_neg hzero, hsame]
    rfl

theorem waitFrame_run (handle : Int32) (s : Scene) :
    (waitFrame handle).run s = settle s (s.driver.waitFrame handle) := by
  refine run_device_bind fun index device _ => ?_
  dsimp only
  rw [run_driver_bind]
  cases (s.driver.queue handle).pop? with
  | none => rfl
  | some p =>
    obtain ⟨frame, rest⟩ := p
    dsimp only
    refine (run_bind _ _ s).trans ?_
    show (reportedSize frame >>= _).run _ = _
    rw [run_bind, run_reportedSize]
    exact run_write _ _

theorem flushFrames_run (handle : Int32) (s : Scene) :
    (flushFrames handle).run s = settle s (s.driver.flushFrames handle) :=
  run_device_bind fun _ _ _ => run_change _ s

/-! ## Calls -/

/-- The procedure of a function comes to what an attempt of the call says. -/
theorem body_run (c : Call) (hs : s.driver.Coherent) (hplaced : s.driver.Placed) :
    (body c).run s = settle s (s.driver.attempt c) := by
  cases c with
  | «open» index => exact openDevice_run index s
  | close handle => exact closeDevice_run handle s
  | feature handle key r => exact request_run handle key r hs hplaced
  | queue handle address size => exact queueFrame_run handle address size s
  | wait handle timeout => exact waitFrame_run handle s
  | flush handle => exact flushFrames_run handle s

/-- A call is counted, and then an order to fail it is obeyed or its function is run. -/
theorem run_perform (c : Call) (s : Scene) :
    (perform c).run s =
      match s.driver.orderedFailure? c with
      | some code => (.error code, { s with driver := s.driver.logged c })
      | none => (body c).run { s with driver := s.driver.logged c } := by
  have henter : (enter c).run s =
      (match s.driver.orderedFailure? c with
        | some code => throw code
        | none => pure () : Procedure Unit).run { s with driver := s.driver.logged c } := rfl
  rw [perform, run_bind, henter]
  cases s.driver.orderedFailure? c <;> rfl

/-- The end of a call: the status, and what is there afterwards. -/
def ended (c : Call) (s : Scene) : Status × Scene :=
  (status ((perform c).run s).1, ((perform c).run s).2)

/-- In a state where every subscription is on an open handle and every open handle is that of a
    device, the procedures come to what `Driver.step` says. -/
theorem ended_eq (c : Call) (hs : s.driver.Coherent) (hplaced : s.driver.Placed) :
    ended c s =
      ((s.driver.step c).reply.status,
        ⟨(s.driver.step c).driver, (s.driver.step c).reply.output <|> s.cell,
          s.notices ++ (s.driver.step c).notices⟩) := by
  unfold ended
  rw [run_perform]
  cases hordered : s.driver.orderedFailure? c with
  | some code =>
    rw [Driver.step_of_order hordered]
    dsimp only
    rw [List.append_nil]
    rfl
  | none =>
    have hbody := body_run (s := { s with driver := s.driver.logged c }) c
      (Driver.coherent_logged hs c) hplaced
    dsimp only at hbody ⊢
    rw [hbody]
    cases hattempt : (s.driver.logged c).attempt c with
    | error code =>
      rw [Driver.step_of_failedAttempt hordered hattempt]
      dsimp only
      rw [List.append_nil]
      rfl
    | ok e =>
      rw [Driver.step_of_attempt hordered hattempt]
      rfl

end Procedure

end CameraControl
