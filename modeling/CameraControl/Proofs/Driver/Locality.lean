import CameraControl.Proofs.Driver.Coherence

/-
  What a call on a handle depends on.

  A call on a handle works with what belongs to the handle, its share of the driver, and with a few
  things that no call on a handle changes. `step_agree` says that it does the same in two drivers
  which agree on these, and `agree_step_of_other` that a call on another handle leaves them alone as
  long as the two handles are those of different devices.
-/

namespace CameraControl

/-- The handle that a call is made on. A call that opens a device has none. -/
def Call.handle? : Call → Option Int32
  | .open _ => none
  | close handle | feature handle _ _ | queue handle _ _ | wait handle _ | flush handle =>
    some handle

namespace Driver

/-- What belongs to a handle. -/
structure Share where
  /-- The index of its device, while it is open. -/
  deviceIndex? : Option Nat
  /-- The device that it was opened for. -/
  device? : Option Device
  queue : FrameQueue
  /-- Its subscriptions, in the order in which they were made. -/
  subscriptions : List Subscription
  deriving DecidableEq

/-- The share of a handle that was opened for the device at an index. -/
def share (d : Driver) (handle : Int32) (index : Nat) : Share :=
  { deviceIndex? := d.deviceIndex? handle
    device? := d.devices[index]?
    queue := d.queue handle
    subscriptions := d.subscriptions.filter fun s => s.handle == handle }

theorem share_congr {d d' : Driver} {handle : Int32} {index : Nat}
    (hopened : d.deviceIndex? handle = d'.deviceIndex? handle)
    (hdevice : d.devices[index]? = d'.devices[index]?) (hqueue : d.queue handle = d'.queue handle)
    (hsubscriptions : (d.subscriptions.filter fun s => s.handle == handle) =
      d'.subscriptions.filter fun s => s.handle == handle) :
    d.share handle index = d'.share handle index := by
  unfold share
  rw [hopened, hdevice, hqueue, hsubscriptions]

/-- A handle is that of the device at an index, or it is not open. -/
def Bound (d : Driver) (handle : Int32) (index : Nat) : Prop :=
  ∀ i, d.deviceIndex? handle = some i → i = index

/-- Two drivers agree on what a call on a handle depends on. -/
structure Agree (handle : Int32) (index : Nat) (d d' : Driver) : Prop where
  bound : d.Bound handle index
  share : d.share handle index = d'.share handle index
  count : d.devices.length = d'.devices.length
  reportedCount : d.reportedCount = d'.reportedCount
  failures : d.failures = d'.failures
  zeroSizeWaits : d.zeroSizeWaits = d'.zeroSizeWaits

namespace Agree

variable {handle : Int32} {index : Nat} {d d' d'' : Driver}

theorem deviceIndex? (h : Agree handle index d d') :
    d.deviceIndex? handle = d'.deviceIndex? handle := congrArg Share.deviceIndex? h.share

theorem device? (h : Agree handle index d d') : d.devices[index]? = d'.devices[index]? :=
  congrArg Share.device? h.share

theorem queue (h : Agree handle index d d') : d.queue handle = d'.queue handle :=
  congrArg Share.queue h.share

theorem subscriptions (h : Agree handle index d d') :
    (d.subscriptions.filter fun s => s.handle == handle) =
      d'.subscriptions.filter fun s => s.handle == handle := congrArg Share.subscriptions h.share

theorem refl (hd : d.Bound handle index) : Agree handle index d d := ⟨hd, rfl, rfl, rfl, rfl, rfl⟩

theorem trans (h : Agree handle index d d') (h' : Agree handle index d' d'') :
    Agree handle index d d'' where
  bound := h.bound
  share := h.share.trans h'.share
  count := h.count.trans h'.count
  reportedCount := h.reportedCount.trans h'.reportedCount
  failures := h.failures.trans h'.failures
  zeroSizeWaits := h.zeroSizeWaits.trans h'.zeroSizeWaits

theorem logged (h : Agree handle index d d') (c : Call) :
    Agree handle index (d.logged c) (d'.logged c) := { h with }

/-- The device that the handle gives access to is the same one, and it is the one at the index. -/
theorem opened? (h : Agree handle index d d') :
    d.opened? handle = d'.opened? handle ∧
      ∀ i device, d.opened? handle = .ok (i, device) → i = index := by
  unfold Driver.opened?
  rw [← h.deviceIndex?]
  cases hopen : d.deviceIndex? handle with
  | none =>
    refine ⟨rfl, fun i device hok => ?_⟩
    cases hok
  | some i =>
    obtain rfl := h.bound i hopen
    refine ⟨?_, fun j device hok => ?_⟩
    · dsimp only
      rw [h.device?]
    · dsimp only at hok
      split at hok
      · cases hok
        rfl
      · cases hok

/-- The subscribers to a feature on the handle are among the subscriptions of its share. -/
theorem subscribers (h : Agree handle index d d') (key : String) :
    d.subscribers handle key = d'.subscribers handle key := by
  have hfilter (d : Driver) : d.subscribers handle key =
      (d.subscriptions.filter fun s => s.handle == handle).filter fun s =>
        s.key == Text.squeeze key := by
    rw [List.filter_filter]
    unfold Driver.subscribers
    refine List.filter_congr fun s _ => ?_
    exact Bool.and_comm _ _
  rw [hfilter d, hfilter d', h.subscriptions]

/-! ### Changes to a share -/

theorem setDevice (h : Agree handle index d d') (device : Device) :
    Agree handle index (d.setDevice index device) (d'.setDevice index device) where
  bound := h.bound
  share := by
    refine share_congr h.deviceIndex? ?_ h.queue h.subscriptions
    simp [Driver.setDevice, List.getElem?_set, h.count]
  count := by simpa [Driver.setDevice] using h.count
  reportedCount := h.reportedCount
  failures := h.failures
  zeroSizeWaits := h.zeroSizeWaits

theorem putQueue (h : Agree handle index d d') (q : FrameQueue) {n n' : Nat} (hn : n = n') :
    Agree handle index
      { d with
        queues := Entries.put d.queues handle q
        zeroSizeWaits := n }
      { d' with
        queues := Entries.put d'.queues handle q
        zeroSizeWaits := n' } where
  bound := h.bound
  share := by
    refine share_congr h.deviceIndex? h.device? ?_ h.subscriptions
    unfold Driver.queue
    rw [Entries.get?_put, Entries.get?_put, if_pos rfl, if_pos rfl]
  count := h.count
  reportedCount := h.reportedCount
  failures := h.failures
  zeroSizeWaits := hn

theorem eraseQueue (h : Agree handle index d d') :
    Agree handle index { d with queues := Entries.erase d.queues handle }
      { d' with queues := Entries.erase d'.queues handle } where
  bound := h.bound
  share := by
    refine share_congr h.deviceIndex? h.device? ?_ h.subscriptions
    unfold Driver.queue
    rw [Entries.get?_erase, Entries.get?_erase, if_pos rfl, if_pos rfl]
  count := h.count
  reportedCount := h.reportedCount
  failures := h.failures
  zeroSizeWaits := h.zeroSizeWaits

theorem subscribed (h : Agree handle index d d') (s : Subscription) :
    Agree handle index { d with subscriptions := d.subscriptions ++ [s] }
      { d' with subscriptions := d'.subscriptions ++ [s] } where
  bound := h.bound
  share := by
    refine share_congr h.deviceIndex? h.device? h.queue ?_
    rw [List.filter_append, List.filter_append, h.subscriptions]
  count := h.count
  reportedCount := h.reportedCount
  failures := h.failures
  zeroSizeWaits := h.zeroSizeWaits

theorem unsubscribed (h : Agree handle index d d') (s : Subscription) :
    Agree handle index { d with subscriptions := d.subscriptions.erase s }
      { d' with subscriptions := d'.subscriptions.erase s } where
  bound := h.bound
  share := by
    refine share_congr h.deviceIndex? h.device? h.queue ?_
    rw [← List.erase_filter, ← List.erase_filter, h.subscriptions]
  count := h.count
  reportedCount := h.reportedCount
  failures := h.failures
  zeroSizeWaits := h.zeroSizeWaits

theorem closed (h : Agree handle index d d') :
    Agree handle index
      { d with
        opened := Entries.erase d.opened handle
        subscriptions := d.subscriptions.filter fun s => s.handle != handle
        queues := Entries.erase d.queues handle }
      { d' with
        opened := Entries.erase d'.opened handle
        subscriptions := d'.subscriptions.filter fun s => s.handle != handle
        queues := Entries.erase d'.queues handle } where
  bound := by
    intro i hi
    simp [Driver.deviceIndex?, Entries.get?_erase] at hi
  share := by
    refine share_congr ?_ h.device? ?_ ?_
    · unfold Driver.deviceIndex?
      rw [Entries.get?_erase, Entries.get?_erase, if_pos rfl, if_pos rfl]
    · unfold Driver.queue
      rw [Entries.get?_erase, Entries.get?_erase, if_pos rfl, if_pos rfl]
    -- no subscription of the handle is left
    · rw [List.filter_filter, List.filter_filter]
      simp [bne]
  count := h.count
  reportedCount := h.reportedCount
  failures := h.failures
  zeroSizeWaits := h.zeroSizeWaits

end Agree

/-! ## Calls on the handle -/

/-- Two attempts fail with the same code, or write and notify alike and leave drivers that agree. -/
inductive Alike (handle : Int32) (index : Nat) :
    Except Status Effect → Except Status Effect → Prop where
  | error (code : Status) : Alike handle index (.error code) (.error code)
  | ok {d d' : Driver} (h : Agree handle index d d') (output : Option Output)
      (notices : List Notice) :
      Alike handle index (.ok ⟨d, output, notices⟩) (.ok ⟨d', output, notices⟩)

section Attempts

variable {handle : Int32} {index : Nat} {d d' : Driver}

/-- What follows on the same computation may depend on its result. -/
theorem Alike.bind {α : Type} {x : Except Status α} {f g : α → Except Status Effect}
    (h : ∀ a, x = .ok a → Alike handle index (f a) (g a)) :
    Alike handle index (x >>= f) (x >>= g) := by
  cases x with
  | error code => exact .error code
  | ok a => exact h a rfl

theorem serve_alike (h : Agree handle index d d') (key : String) (r : Request) :
    Alike handle index (d.serve handle key r) (d'.serve handle key r) := by
  unfold serve
  rw [← h.opened?.1]
  refine .bind fun p hp => ?_
  obtain ⟨i, device⟩ := p
  obtain rfl := h.opened?.2 i device hp
  cases r with
  | ask c => exact .ok h _ _
  | read reading =>
    refine .bind fun content _ => ?_
    split
    · exact .ok h _ _
    · exact .error _
  | isIndexAvailable | isIndexImplemented | enumText =>
    exact .bind fun content _ => .bind fun _ _ => .ok h _ _
  | text buffer =>
    refine .bind fun content _ => ?_
    split
    · exact .ok h _ _
    · exact .error _
  | write w =>
    refine .bind fun device' _ => ?_
    have hset := h.setDevice device'
    -- the notices depend on the subscriptions of the share only
    have hfire : (d.setDevice i device').fire handle key =
        (d'.setDevice i device').fire handle key := by
      unfold fire fireAs
      rw [hset.subscribers]
    show Alike handle i (.ok ⟨_, none, (d.setDevice i device').fire handle key⟩)
      (.ok ⟨_, none, (d'.setDevice i device').fire handle key⟩)
    rw [hfire]
    exact .ok hset _ _
  | command => exact .bind fun device' _ => .ok (h.setDevice device') _ _
  | subscribe token => exact .bind fun content _ => .ok (h.subscribed _) _ _
  | unsubscribe token =>
    show Alike handle i (d.unsubscribe handle key token) (d'.unsubscribe handle key token)
    unfold unsubscribe
    dsimp only
    have hmem (d : Driver) : ⟨handle, Text.squeeze key, token⟩ ∈ d.subscriptions ↔
        ⟨handle, Text.squeeze key, token⟩ ∈ d.subscriptions.filter (·.handle == handle) := by
      simp
    simp only [hmem d, hmem d', h.subscriptions]
    split
    · exact .ok (h.unsubscribed _) _ _
    · exact .error _

theorem request_alike (h : Agree handle index d d') (key : String) (r : Request) :
    Alike handle index (d.request handle key r) (d'.request handle key r) := by
  unfold request
  split
  · split
    · unfold deviceCount
      split
      · rw [h.reportedCount, h.count]
        exact .ok h _ _
      · exact .error _
    · exact serve_alike h key _
  · exact serve_alike h key _

/-- Attempting a call on the handle does the same in both drivers. -/
theorem attempt_alike (h : Agree handle index d d') {c : Call} (hc : c.handle? = some handle) :
    Alike handle index (d.attempt c) (d'.attempt c) := by
  cases c with
  | «open» => cases hc
  | close =>
    obtain rfl := Option.some.inj hc
    show Alike _ _ (d.closeDevice _) (d'.closeDevice _)
    unfold closeDevice
    rw [← h.deviceIndex?]
    split
    · exact .error _
    · exact .ok h.closed _ _
  | feature _ key r =>
    obtain rfl := Option.some.inj hc
    exact request_alike h key r
  | queue own address size =>
    obtain rfl : own = handle := Option.some.inj hc
    show Alike _ _ (d.queueFrame _ _ _) (d'.queueFrame _ _ _)
    unfold queueFrame
    rw [← h.opened?.1, ← h.queue]
    refine .bind fun p _ => ?_
    split
    · exact .error _
    · exact .ok (h.putQueue _ h.zeroSizeWaits) _ _
  | wait _ timeout =>
    obtain rfl := Option.some.inj hc
    show Alike _ _ (d.waitFrame _) (d'.waitFrame _)
    unfold waitFrame
    rw [← h.opened?.1, ← h.queue, ← h.zeroSizeWaits]
    refine .bind fun p _ => ?_
    split
    · exact .error _
    · exact .ok (h.putQueue _ rfl) _ _
  | flush =>
    obtain rfl := Option.some.inj hc
    show Alike _ _ (d.flushFrames _) (d'.flushFrames _)
    unfold flushFrames
    rw [← h.opened?.1]
    exact .bind fun p _ => .ok h.eraseQueue _ _

end Attempts

variable {handle other : Int32} {index otherIndex : Nat} {d d' : Driver}

/-- A call on the handle has the same reply in both drivers, notifies the same subscribers, and
    leaves drivers that agree again. -/
theorem step_agree (h : Agree handle index d d') {c : Call} (hc : c.handle? = some handle) :
    (d.step c).reply = (d'.step c).reply ∧ (d.step c).notices = (d'.step c).notices ∧
      Agree handle index (d.step c).driver (d'.step c).driver := by
  have hlogged := h.logged c
  have hordered : (d.logged c).orderedFailure? c = (d'.logged c).orderedFailure? c := by
    unfold orderedFailure?
    rw [hlogged.failures]
  unfold step
  dsimp only
  rw [← hordered]
  split
  · exact ⟨rfl, rfl, hlogged⟩
  · generalize hattempt : (d.logged c).attempt c = outcome
    generalize hattempt' : (d'.logged c).attempt c = outcome'
    have halike := attempt_alike hlogged hc
    rw [hattempt, hattempt'] at halike
    cases halike with
    | error code => exact ⟨rfl, rfl, hlogged⟩
    | ok h' output notices => exact ⟨rfl, rfl, h'⟩

/-- The log does not count for the reply. -/
theorem reply_of_log (d : Driver) (log : List Function) {c : Call} (hc : c.handle? = some handle) :
    (({ d with log := log } : Driver).step c).reply = (d.step c).reply := by
  have hbound : d.Bound handle ((d.deviceIndex? handle).getD 0) := by
    intro i hi
    rw [hi]
    rfl
  have hagree : Agree handle ((d.deviceIndex? handle).getD 0) { d with log := log } d :=
    { Agree.refl hbound with }
  exact (step_agree hagree hc).1

/-! ## Calls on other handles -/

/-- A change to another device is not one to the share. -/
theorem agree_setDevice_of_ne (hd : d.Bound handle index) (hindex : otherIndex ≠ index)
    (device : Device) : Agree handle index (d.setDevice otherIndex device) d :=
  { Agree.refl hd with
    share := share_congr rfl (List.getElem?_set_ne hindex) rfl rfl
    count := List.length_set }

theorem agree_putQueue_of_ne (hd : d.Bound handle index) (hne : other ≠ handle) (q : FrameQueue)
    {n : Nat} (hn : n = d.zeroSizeWaits) :
    Agree handle index
      { d with
        queues := Entries.put d.queues other q
        zeroSizeWaits := n } d := by
  refine { Agree.refl hd with share := share_congr rfl rfl ?_ rfl, zeroSizeWaits := hn }
  unfold queue
  rw [Entries.get?_put, if_neg hne]

theorem agree_eraseQueue_of_ne (hd : d.Bound handle index) (hne : other ≠ handle) :
    Agree handle index { d with queues := Entries.erase d.queues other } d := by
  refine { Agree.refl hd with share := share_congr rfl rfl ?_ rfl }
  unfold queue
  rw [Entries.get?_erase, if_neg hne]

theorem agree_subscribed_of_ne (hd : d.Bound handle index) {s : Subscription}
    (hs : s.handle ≠ handle) :
    Agree handle index { d with subscriptions := d.subscriptions ++ [s] } d := by
  refine { Agree.refl hd with share := share_congr rfl rfl rfl ?_ }
  rw [List.filter_append]
  simp [hs]

theorem agree_unsubscribed_of_ne (hd : d.Bound handle index) {s : Subscription}
    (hs : s.handle ≠ handle) :
    Agree handle index { d with subscriptions := d.subscriptions.erase s } d := by
  refine { Agree.refl hd with share := share_congr rfl rfl rfl ?_ }
  rw [← List.erase_filter, List.erase_of_not_mem]
  simp [hs]

/-- A handle that is closed takes nothing of another one with it. -/
theorem agree_closed_of_ne (hd : d.Bound handle index) (hne : other ≠ handle) :
    Agree handle index
      { d with
        opened := Entries.erase d.opened other
        subscriptions := d.subscriptions.filter fun s => s.handle != other
        queues := Entries.erase d.queues other } d := by
  have hopened : Entries.get? (Entries.erase d.opened other) handle = d.deviceIndex? handle := by
    rw [Entries.get?_erase, if_neg hne, deviceIndex?]
  have hqueue := (agree_eraseQueue_of_ne hd hne).queue
  refine { Agree.refl hd with bound := ?_, share := share_congr hopened rfl hqueue ?_ }
  · intro i hi
    exact hd i (hopened ▸ hi)
  -- the subscriptions that go are those of the other handle
  · rw [List.filter_filter]
    refine List.filter_congr fun s _ => ?_
    by_cases hs : s.handle = handle
    · simp [hs, Ne.symm hne]
    · simp [hs]

/-- A call on the handle of another device leaves the share of a handle alone, and what it depends
    on besides. -/
theorem agree_step_of_other (hd : d.Bound handle index) (hother : d.Bound other otherIndex)
    (hne : other ≠ handle) (hindex : otherIndex ≠ index) (hzero : d.zeroSizeWaits = 0)
    {c : Call} (hc : c.handle? = some other) : Agree handle index (d.step c).driver d := by
  have hbound : (d.logged c).Bound handle index := hd
  have hlogged : Agree handle index (d.logged c) d := ⟨hd, rfl, rfl, rfl, rfl, rfl⟩
  have hdevice {i : Nat} {device device' : Device}
      (hopen : (d.logged c).opened? other = .ok (i, device)) :
      Agree handle index ((d.logged c).setDevice i device') (d.logged c) := by
    have hother' : (d.logged c).Bound other otherIndex := hother
    obtain rfl : i = otherIndex := (Agree.refl hother').opened?.2 i device hopen
    exact agree_setDevice_of_ne hbound hindex device'
  rcases step_cases d c with ⟨code, -, hstep⟩ | ⟨e, he, hstep⟩
  · rw [hstep]
    exact hlogged
  rw [hstep]
  refine Agree.trans ?_ hlogged
  cases he with
  | opened => cases hc
  | closed =>
    obtain rfl := Option.some.inj hc
    exact agree_closed_of_ne hbound hne
  | answered => exact .refl hbound
  | wrote hopen =>
    obtain rfl := Option.some.inj hc
    exact hdevice hopen
  | commanded hopen =>
    obtain rfl := Option.some.inj hc
    exact hdevice hopen
  | subscribed =>
    obtain rfl := Option.some.inj hc
    exact agree_subscribed_of_ne hbound hne
  | unsubscribed =>
    obtain rfl := Option.some.inj hc
    exact agree_unsubscribed_of_ne hbound hne
  | queued =>
    obtain rfl := Option.some.inj hc
    exact agree_putQueue_of_ne hbound hne _ rfl
  | waited =>
    obtain rfl := Option.some.inj hc
    -- no frame is to be reported without a size, so none fewer after the wait
    exact agree_putQueue_of_ne hbound hne _ (by simp [Driver.logged, hzero])
  | flushed =>
    obtain rfl := Option.some.inj hc
    exact agree_eraseQueue_of_ne hbound hne

/-! ## Notices and the log -/

theorem handle_of_mem_noticesFor {subscriptions : List Subscription} {reported : String}
    {n : Notice} (hn : n ∈ noticesFor subscriptions handle reported) : n.handle = handle := by
  unfold noticesFor at hn
  split at hn
  · obtain ⟨s, -, rfl⟩ := List.mem_map.mp hn
    rfl
  · cases hn

/-- A call on a handle gives notice of that handle only. -/
theorem handle_of_mem_notices {c : Call} (hc : c.handle? = some handle) {n : Notice}
    (hn : n ∈ (d.step c).notices) : n.handle = handle := by
  rcases step_cases d c with ⟨code, -, hstep⟩ | ⟨e, he, hstep⟩
  · rw [hstep] at hn
    cases hn
  rw [hstep] at hn
  cases he with
  | wrote | subscribed =>
    obtain rfl := Option.some.inj hc
    exact handle_of_mem_noticesFor hn
  | _ => cases hn

end Driver

end CameraControl
