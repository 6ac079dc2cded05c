import CameraControl.Proofs.Driver.Closing
import CameraControl.Proofs.Driver.Visit

/-
  Devices that are lent for a while.

  Whoever opens a device works with it by calls on its handle and closes it at the end. `Lent` says
  what has become of the driver in the meantime: the device is open under the handle that was fresh,
  and what belongs to other handles is as before. Opening establishes it, every call that keeps to
  the handle preserves it, and closing the handle ends it without a trace in what is open, queued or
  subscribed.
-/

namespace CameraControl

/-- A call deals with what belongs to a handle; it neither opens nor closes anything, and it has
    nothing to do with subscriptions. -/
def Call.KeepsTo (handle : Int32) : Call → Prop
  | .open _ | close _ | feature _ _ (.subscribe _) | feature _ _ (.unsubscribe _) => False
  | feature h _ _ | queue h _ _ | wait h _ | flush h => h = handle

namespace Entries

variable {κ α : Type} [DecidableEq κ]

/-- What is written under a key is gone when the key is. -/
theorem erase_put (m : List (κ × α)) (key : κ) (value : α) :
    erase (put m key value) key = erase m key := by
  induction m with
  | nil => simp [put, erase]
  | cons p rest ih =>
    obtain ⟨k, v⟩ := p
    unfold erase at ih ⊢
    by_cases hk : k = key
    · simp [put, hk]
    · simp only [put, if_neg hk, List.filter_cons, ih]

theorem erase_erase (m : List (κ × α)) (key : κ) : erase (erase m key) key = erase m key := by
  simp [erase, List.filter_filter]

end Entries

namespace Driver

variable {d d' : Driver} {i : Nat} {device : Device}

/-- What has become of a driver while a device is open under the handle that was to be handed out
    next. Devices may have changed; what belongs to other handles, and what is ordered, has not. -/
structure Lent (d : Driver) (i : Nat) (d' : Driver) : Prop where
  nextHandle : d'.nextHandle = d.nextHandle + 1
  opened : d'.opened = d.opened ++ [(d.nextHandle, i)]
  subscriptions : d'.subscriptions = d.subscriptions
  queues : Entries.erase d'.queues d.nextHandle = d.queues
  failures : d'.failures = d.failures
  openFailures : d'.openFailures = d.openFailures
  place : i < d'.devices.length

/-! ## Lending -/

theorem lent_holding (hd : d.Fresh) (hdevice : d.devices[i]? = some device) (fs : List Function) :
    d.Lent i (d.holding i fs) where
  nextHandle := rfl
  opened := rfl
  subscriptions := rfl
  queues := List.filter_eq_self.mpr fun p hp => by simpa using hd.not_queued p hp
  failures := rfl
  openFailures := rfl
  place := (List.getElem?_eq_some_iff.mp hdevice).1

/-- Calls that keep to the handle leave what belongs to others alone. -/
theorem Lent.step (h : d.Lent i d') {c : Call} (hc : c.KeepsTo d.nextHandle) :
    d.Lent i (d'.step c).driver := by
  rcases step_cases d' c with ⟨code, -, hstep⟩ | ⟨e, he, hstep⟩
  · rw [hstep]
    exact { h with }
  · rw [hstep]
    cases he with
    -- calls that keep to a handle have none of these effects
    | opened | closed | subscribed | unsubscribed => exact hc.elim
    | answered => exact { h with }
    | wrote | commanded => exact { h with place := List.length_set.symm ▸ h.place }
    | queued | waited =>
      obtain rfl : _ = d.nextHandle := hc
      exact { h with queues := (Entries.erase_put _ _ _).trans h.queues }
    | flushed =>
      obtain rfl : _ = d.nextHandle := hc
      exact { h with queues := (Entries.erase_erase _ _).trans h.queues }

theorem Lent.deviceIndex? (h : d.Lent i d') (hd : d.Fresh) :
    d'.deviceIndex? d.nextHandle = some i := by
  rw [Driver.deviceIndex?, h.opened, ← Entries.put_of_not_mem i hd.not_open, Entries.get?_put,
    if_pos rfl]

theorem Lent.opened? (h : d.Lent i d') (hd : d.Fresh) (hdevice : d'.devices[i]? = some device) :
    d'.opened? d.nextHandle = .ok (i, device) := by
  rw [Driver.opened?, h.deviceIndex? hd]
  dsimp only
  rw [hdevice]

/-- What the handle reaches is what the device holds. -/
theorem Lent.contentAt? (h : d.Lent i d') (hd : d.Fresh) (key : String) :
    d'.contentAt? d.nextHandle key = d'.devices[i]?.bind (·.content? key) := by
  rw [Driver.contentAt?, device?, h.deviceIndex? hd, Option.bind_some]

/-- Calls that only show in the log change nothing of it. -/
theorem Lent.of_log (h : d.Lent i d') (log : List Function) :
    d.Lent i { d' with log := log } :=
  { h with }

/-! ## Orders to fail -/

/-- No order is about a call without a feature if none is about its function. -/
theorem orderedFailure?_eq_none {c : Call} (h : ∀ o ∈ d.failures, o.function ≠ c.function) :
    d.orderedFailure? c = none := by
  rw [orderedFailure?, Option.map_eq_none_iff, List.find?_eq_none]
  intro o ho
  simp [FailureOrder.matches, h o ho]

/-! ## Writing -/

/-- A write on the handle comes to what the device makes of it. -/
theorem Lent.step_write (h : d.Lent i d') (hd : d.Fresh) (hobedient : d.failures = [])
    (hdevice : d'.devices[i]? = some device) (key : String) (v : Write) :
    (∀ device', device.write key v = .ok device' →
      (d'.step (.feature d.nextHandle key (.write v))).reply.status = Status.success ∧
      (d'.step (.feature d.nextHandle key (.write v))).driver.devices[i]? = some device') ∧
    ∀ code, device.write key v = .error code →
      (d'.step (.feature d.nextHandle key (.write v))).reply.status = code := by
  have hgrant : d'.orderedFailure? (.feature d.nextHandle key (.write v)) = none :=
    orderedFailure?_eq_none (by rw [h.failures, hobedient]; exact List.forall_mem_nil _)
  have hopen : (d'.logged (.feature d.nextHandle key (.write v))).opened? d.nextHandle =
      .ok (i, device) := h.opened? hd hdevice
  have hattempt : (d'.logged (.feature d.nextHandle key (.write v))).attempt
      (.feature d.nextHandle key (.write v)) = (device.write key v >>= fun device' =>
        let after := (d'.logged (.feature d.nextHandle key (.write v))).setDevice i device'
        .ok ⟨after, none, after.fire d.nextHandle key⟩) := by
    show serve _ d.nextHandle key (.write v) = _
    unfold serve
    rw [hopen]
    rfl
  refine ⟨fun device' hwrite => ?_, fun code hwrite => ?_⟩
  · rw [hwrite] at hattempt
    rw [step_of_attempt hgrant hattempt]
    exact ⟨rfl, List.getElem?_set_self h.place⟩
  · rw [hwrite] at hattempt
    have hlogged : (d'.logged (.feature d.nextHandle key (.write v))).orderedFailure?
        (.feature d.nextHandle key (.write v)) = none := hgrant
    simp only [Driver.step, hlogged, hattempt]
    rfl

/-! ## Giving back -/

/-- Flushing the handle takes its frames back. -/
theorem Lent.step_flush (h : d.Lent i d') (hd : d.Fresh)
    (hflush : ∀ o ∈ d.failures, o.function ≠ .flush) :
    d'.step (.flush d.nextHandle) =
      ⟨{ d' with queues := d.queues, log := .flush :: d'.log }, ⟨Status.success, none⟩, []⟩ := by
  have hgrant : d'.orderedFailure? (.flush d.nextHandle) = none :=
    orderedFailure?_eq_none (h.failures ▸ hflush)
  have hplace := h.place
  have hopen : (d'.logged (.flush d.nextHandle)).opened? d.nextHandle =
      .ok (i, d'.devices[i]) := h.opened? hd (List.getElem?_eq_getElem h.place)
  have hattempt : (d'.logged (.flush d.nextHandle)).attempt (.flush d.nextHandle) =
      .ok ⟨{ d' with queues := d.queues, log := .flush :: d'.log }, none, []⟩ := by
    show flushFrames _ _ = _
    unfold flushFrames
    rw [hopen, ← h.queues]
    rfl
  exact step_of_attempt hgrant hattempt

/-- Closing the handle leaves nothing of it. -/
theorem Lent.step_close (h : d.Lent i d') (hd : d.Fresh)
    (hclose : ∀ o ∈ d.failures, o.function ≠ .close) :
    d'.step (.close d.nextHandle) =
      ⟨{ d' with opened := d.opened, queues := d.queues, log := .close :: d'.log },
        ⟨Status.success, none⟩, []⟩ := by
  have hgrant : d'.orderedFailure? (.close d.nextHandle) = none :=
    orderedFailure?_eq_none (h.failures ▸ hclose)
  have hindex : (d'.logged (.close d.nextHandle)).deviceIndex? d.nextHandle = some i :=
    h.deviceIndex? hd
  -- the handle was fresh, so nothing else is open under it and nobody has subscribed to it
  have hopened : Entries.erase d'.opened d.nextHandle = d.opened := by
    have hothers : ∀ p ∈ d.opened, p.1 ≠ d.nextHandle := fun p hp heq =>
      hd.not_open (heq ▸ Entries.mem_keys_iff.mpr ⟨p.2, hp⟩)
    rw [h.opened]
    simpa [Entries.erase] using hothers
  have hsubscriptions :
      (d'.subscriptions.filter fun s => s.handle != d.nextHandle) = d'.subscriptions := by
    rw [List.filter_eq_self, h.subscriptions]
    intro s hs
    simpa using hd.not_subscribed s hs
  have hattempt : (d'.logged (.close d.nextHandle)).attempt (.close d.nextHandle) =
      .ok ⟨{ d' with opened := d.opened, queues := d.queues, log := .close :: d'.log },
        none, []⟩ := by
    show closeDevice _ _ = _
    unfold closeDevice
    rw [hindex]
    show Except.ok (⟨{ d' with
        opened := Entries.erase d'.opened d.nextHandle
        subscriptions := d'.subscriptions.filter fun s => s.handle != d.nextHandle
        queues := Entries.erase d'.queues d.nextHandle
        log := .close :: d'.log }, none, []⟩ : Effect) = _
    rw [hopened, hsubscriptions, h.queues]
  exact step_of_attempt hgrant hattempt

/-! ## Idle drivers -/

/-- Nothing is open, nobody has subscribed, and no failures are ordered. -/
structure Idle (d : Driver) : Prop where
  opened : d.opened = []
  subscriptions : d.subscriptions = []
  failures : d.failures = []
  openFailures : d.openFailures = []

/-- Nothing is queued either, and the next handle is not that of the system. -/
structure Resting (d : Driver) : Prop extends d.Idle where
  queues : d.queues = []
  handle : d.nextHandle ≠ systemHandle

theorem Idle.honest (h : d.Idle) : d.Honest where
  failures := h.failures ▸ List.forall_mem_nil _
  openFailures := h.openFailures ▸ List.forall_mem_nil _

theorem Idle.fresh (h : d.Idle) (hqueues : d.queues = []) : d.Fresh where
  not_open := by simp [h.opened]
  not_subscribed := h.subscriptions ▸ List.forall_mem_nil _
  not_queued := hqueues ▸ List.forall_mem_nil _

theorem Resting.fresh (h : d.Resting) : d.Fresh := h.toIdle.fresh h.queues

/-- Opening a device succeeds exactly if there is one at the index. -/
theorem Idle.step_open (h : d.Idle) (index : Int32) :
    d.step (.open index) =
      if 0 ≤ index.toInt ∧ index.toInt.toNat < d.devices.length then
        ⟨d.holding index.toInt.toNat [.open], ⟨Status.success, some (.word d.nextHandle)⟩, []⟩
      else ⟨d.logged (.open index), ⟨Status.outOfRange, none⟩, []⟩ := by
  have hgrant : (d.logged (.open index)).orderedFailure? (.open index) = none :=
    orderedFailure?_eq_none (h.failures ▸ List.forall_mem_nil _)
  have hattempt : (d.logged (.open index)).attempt (.open index) =
      if 0 ≤ index.toInt ∧ index.toInt.toNat < d.devices.length then
        .ok ⟨d.holding index.toInt.toNat [.open], some (.word d.nextHandle), []⟩
      else .error Status.outOfRange := by
    show (d.logged (.open index)).openDevice index = _
    unfold openDevice logged holding
    simp only [h.opened, h.openFailures]
    rfl
  simp only [step, hgrant, hattempt]
  by_cases hplace : 0 ≤ index.toInt ∧ index.toInt.toNat < d.devices.length
  · rw [if_pos hplace, if_pos hplace]
  · rw [if_neg hplace, if_neg hplace]

/-- So a device that was opened is at the index. -/
theorem Idle.place_of_open (h : d.Idle) {index : Int32}
    (hstatus : (d.step (.open index)).reply.status = Status.success) :
    0 ≤ index.toInt ∧ index.toInt.toNat < d.devices.length := by
  by_contra hplace
  rw [h.step_open, if_neg hplace] at hstatus
  have hrefused : Status.outOfRange ≠ Status.success := by decide
  exact hrefused hstatus

/-! ### Opening and closing over and over -/

/-- A device is opened and closed again, a number of times, from a handle on. -/
def visits (handle : Int32) : Nat → List Operation
  | 0 => []
  | n + 1 => .call (.open 0) :: .call (.close handle) :: visits (handle + 1) n

/-- The driver after the first device was opened and closed. -/
theorem run_visit (hd : d.Idle) (hqueues : d.queues = []) (hdevice : d.devices[0]? = some device) :
    d.run [.call (.open 0), .call (.close d.nextHandle)] = d.released [.close, .open] := by
  have hfresh := hd.fresh hqueues
  have hplace : 0 ≤ (0 : Int32).toInt ∧ (0 : Int32).toInt.toNat < d.devices.length :=
    ⟨by decide, (List.getElem?_eq_some_iff.mp hdevice).1⟩
  have hopen := hd.step_open 0
  rw [if_pos hplace] at hopen
  have hclose := (lent_holding hfresh hdevice [.open]).step_close hfresh
    (hd.failures ▸ List.forall_mem_nil _)
  show ((d.step (.open 0)).driver.step (.close d.nextHandle)).driver = _
  rw [hopen]
  exact congrArg Outcome.driver hclose

/-- The counter of the handles goes on, and that is all. -/
theorem run_visits (n : Nat) (hd : d.Idle) (hqueues : d.queues = [])
    (hdevice : d.devices[0]? = some device) :
    ∃ log, d.run (visits d.nextHandle n) =
      { d with nextHandle := d.nextHandle + Int32.ofNat n, log := log } := by
  induction n generalizing d with
  | zero => exact ⟨d.log, by simp [visits, run]⟩
  | succ n ih =>
    have hfirst := run_visit hd hqueues hdevice
    -- a driver that a visit leaves is idle as well, and has the same devices
    obtain ⟨log, hrest⟩ := ih (d := d.released [.close, .open])
      ⟨hd.opened, hd.subscriptions, hd.failures, hd.openFailures⟩ hqueues hdevice
    refine ⟨log, ?_⟩
    have hsplit : visits d.nextHandle (n + 1) =
        [.call (.open 0), .call (.close d.nextHandle)] ++ visits (d.nextHandle + 1) n := rfl
    have hcount : d.nextHandle + Int32.ofNat (n + 1) = d.nextHandle + 1 + Int32.ofNat n := by
      rw [Nat.add_comm, Int32.ofNat_add, ← Int32.add_assoc]
      rfl
    rw [hsplit, run_append, hfirst, hcount]
    exact hrest

end Driver

end CameraControl
