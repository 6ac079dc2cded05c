import CameraControl.Proofs.Driver.Coherence
import CameraControl.Proofs.Driver.Refusal
import Mathlib.Data.List.DropRight

/-
  Frame buffers in runs of the driver.

  A deed is what a call that took effect did to the frames of a handle. The deeds of a run say what
  its queues hold: the frames queued on a handle since it was opened or last flushed, in order,
  without as many of the first ones as waits were served since then. `queue_eq_remaining` says so,
  and `wait_of_takesEffect` that each such wait gives out the oldest frame that remains.
-/

namespace CameraControl

/-- Whether a call is about the frames of a handle. -/
def Call.aboutFrames : Call → Bool
  | queue _ _ _ | wait _ _ | flush _ => true
  | _ => false

/-- What a call that takes effect does to the frames of a handle. -/
inductive Deed where
  | opened (handle : Int32)
  | queued (handle : Int32) (frame : Frame)
  | waited (handle : Int32)
  | flushed (handle : Int32)
  deriving DecidableEq, Repr

namespace Deed

/-- A handle starts afresh, without frames. -/
def begins (handle : Int32) : Deed → Bool
  | opened h | flushed h => h == handle
  | queued _ _ | waited _ => false

/-- The frame that is queued on a handle, if one is. -/
def frame? (handle : Int32) : Deed → Option Frame
  | queued h frame => if h = handle then some frame else none
  | _ => none

/-- Whether a wait on a handle is served. -/
def isWait (handle : Int32) : Deed → Bool
  | waited h => h == handle
  | _ => false

end Deed

/-! ## Periods -/

/-- The deeds since a handle was opened or, if that came later, flushed for the last time. -/
def period (handle : Int32) (deeds : List Deed) : List Deed :=
  deeds.rtakeWhile fun deed => !deed.begins handle

/-- The frames queued on a handle in its period, in order. -/
def queuedFrames (handle : Int32) (deeds : List Deed) : List Frame :=
  (period handle deeds).filterMap (Deed.frame? handle)

/-- How many waits on a handle were served in its period. -/
def servedWaits (handle : Int32) (deeds : List Deed) : Nat :=
  (period handle deeds).countP (Deed.isWait handle)

/-- The frames of a handle that no wait has given out. -/
def remaining (handle : Int32) (deeds : List Deed) : List Frame :=
  (queuedFrames handle deeds).drop (servedWaits handle deeds)

section Periods

variable {handle : Int32} {deeds : List Deed} {deed : Deed}

theorem period_of_begins (h : deed.begins handle = true) :
    period handle (deeds ++ [deed]) = [] := by
  rw [period, List.rtakeWhile_concat_neg]
  simp [h]

theorem period_of_not_begins (h : deed.begins handle = false) :
    period handle (deeds ++ [deed]) = period handle deeds ++ [deed] := by
  rw [period, List.rtakeWhile_concat_pos]
  · rfl
  · simp [h]

theorem queuedFrames_concat (h : deed.begins handle = false) :
    queuedFrames handle (deeds ++ [deed]) =
      queuedFrames handle deeds ++ (deed.frame? handle).toList := by
  rw [queuedFrames, period_of_not_begins h, List.filterMap_append]
  cases hframe : deed.frame? handle <;> simp [queuedFrames, hframe]

theorem servedWaits_concat (h : deed.begins handle = false) :
    servedWaits handle (deeds ++ [deed]) =
      servedWaits handle deeds + if deed.isWait handle then 1 else 0 := by
  rw [servedWaits, period_of_not_begins h, List.countP_append, List.countP_singleton]
  rfl

/-- A handle that starts afresh has no frames, and no wait has been served. -/
theorem remaining_of_begins (deeds : List Deed) (h : deed.begins handle = true) :
    queuedFrames handle (deeds ++ [deed]) = [] ∧ servedWaits handle (deeds ++ [deed]) = 0 := by
  rw [queuedFrames, servedWaits, period_of_begins h]
  exact ⟨rfl, rfl⟩

/-- Deeds about other handles do not count. -/
theorem remaining_of_other (deeds : List Deed) (hbegins : deed.begins handle = false)
    (hframe : deed.frame? handle = none) (hwait : deed.isWait handle = false) :
    queuedFrames handle (deeds ++ [deed]) = queuedFrames handle deeds ∧
      servedWaits handle (deeds ++ [deed]) = servedWaits handle deeds := by
  rw [queuedFrames_concat hbegins, servedWaits_concat hbegins, hframe, hwait]
  simp

end Periods

namespace Driver

variable {d : Driver}

/-! ## Calls that take effect -/

/-- A call takes effect: it succeeds, and not because an order says so. -/
def TakesEffect (d : Driver) (c : Call) : Prop :=
  d.orderedFailure? c = none ∧ (d.step c).reply.status = Status.success

instance (d : Driver) (c : Call) : Decidable (d.TakesEffect c) :=
  inferInstanceAs (Decidable (_ ∧ _))

theorem step_of_takesEffect {c : Call} (hc : ∀ index, c ≠ .open index) (h : d.TakesEffect c) :
    ∃ e, (d.logged c).Effects c e ∧
      d.step c = ⟨e.driver, ⟨Status.success, e.output⟩, e.notices⟩ := by
  rcases step_cases d c with ⟨code, hcode, hstep⟩ | heffect
  · have hsuccess : code = Status.success := by
      have hstatus := h.2
      rwa [hstep] at hstatus
    rcases hcode with hordered | hattempt
    · rw [h.1] at hordered
      cases hordered
    · exact absurd hsuccess ((d.logged c).attempt_frank_of_ne_open hc code hattempt)
  · exact heffect

/-- A call that does not take effect is logged and does nothing else. -/
theorem step_of_not_takesEffect {c : Call} (h : ¬d.TakesEffect c) :
    (d.step c).driver = d.logged c := by
  cases hordered : d.orderedFailure? c with
  | some code => rw [step_of_order hordered]
  | none =>
    rcases step_cases d c with ⟨code, -, hstep⟩ | ⟨e, -, hstep⟩
    · rw [hstep]
    · exact absurd ⟨hordered, by rw [hstep]⟩ h

/-! ## Queues -/

/-- The queue of a handle after one of the queues was written. -/
theorem queue_put (d : Driver) (handle : Int32) (q : FrameQueue) (n : Nat) (handle' : Int32) :
    ({ d with
        queues := Entries.put d.queues handle q
        zeroSizeWaits := n } : Driver).queue handle' =
      if handle = handle' then q else d.queue handle' := by
  unfold queue
  rw [Entries.get?_put]
  split <;> rfl

/-- The queue of a handle after one of the queues was discarded. -/
theorem queue_erase (d : Driver) (handle handle' : Int32) :
    ({ d with queues := Entries.erase d.queues handle } : Driver).queue handle' =
      if handle = handle' then .empty else d.queue handle' := by
  unfold queue
  rw [Entries.get?_erase]
  split <;> rfl

/-! ## Deeds of a run -/

/-- What an operation does to the frames of a handle, if it does. A handle that is handed out while
    it is open stays open. -/
def deed? (d : Driver) : Operation → Option Deed
  | .call (.open index) =>
    match d.handedOut? (.call (.open index)) with
    | some handle => if handle ∈ Entries.keys d.opened then none else some (.opened handle)
    | none => none
  | .call (.queue handle address size) =>
    if d.TakesEffect (.queue handle address size) then some (.queued handle ⟨address, size⟩)
    else none
  | .call (.wait handle timeout) =>
    if d.TakesEffect (.wait handle timeout) then some (.waited handle) else none
  | .call (.flush handle) =>
    if d.TakesEffect (.flush handle) then some (.flushed handle) else none
  | _ => none

/-- The deeds of a run, in order. -/
def deeds (d : Driver) : List Operation → List Deed
  | [] => []
  | op :: rest => (d.deed? op).toList ++ (d.operate op).deeds rest

/-- The queues hold what the deeds say. -/
structure Lends (d : Driver) (deeds : List Deed) : Prop where
  /-- No wait is served without a frame. -/
  waits_le : ∀ handle, servedWaits handle deeds ≤ (queuedFrames handle deeds).length
  queue_eq : ∀ handle ∈ Entries.keys d.opened,
    (d.queue handle).toList = remaining handle deeds

variable {ds : List Deed}

theorem lends_ofDevices (devices : List Device) : (ofDevices devices).Lends [] where
  waits_le := fun _ => Nat.le_refl _
  queue_eq := by simp [ofDevices]

/-- What opens no handle and changes no queue of an open one is no deed. -/
theorem Lends.of_same {d' : Driver} (h : d.Lends ds)
    (hopened : ∀ handle ∈ Entries.keys d'.opened, handle ∈ Entries.keys d.opened)
    (hqueue : ∀ handle ∈ Entries.keys d'.opened, d'.queue handle = d.queue handle) :
    d'.Lends ds where
  waits_le := h.waits_le
  queue_eq := by
    intro handle hopen
    rw [hqueue handle hopen]
    exact h.queue_eq handle (hopened handle hopen)

/-- A deed counts for its own handle, and the queues of the others stay. -/
theorem Lends.of_deed {d' : Driver} {deed : Deed} (h : d.Lends ds) (handle : Int32)
    (hopened : ∀ other ∈ Entries.keys d'.opened, other ≠ handle → other ∈ Entries.keys d.opened)
    (hqueue : ∀ other, other ≠ handle → d'.queue other = d.queue other)
    (hbegins : ∀ other, other ≠ handle → deed.begins other = false)
    (hframe : ∀ other, other ≠ handle → deed.frame? other = none)
    (hwait : ∀ other, other ≠ handle → deed.isWait other = false)
    (hle : servedWaits handle (ds ++ [deed]) ≤ (queuedFrames handle (ds ++ [deed])).length)
    (heq : (d'.queue handle).toList = remaining handle (ds ++ [deed])) :
    d'.Lends (ds ++ [deed]) where
  waits_le := by
    intro other
    by_cases hother : other = handle
    · rw [hother]
      exact hle
    · obtain ⟨hframes, hwaits⟩ := remaining_of_other ds (hbegins other hother)
        (hframe other hother) (hwait other hother)
      rw [hframes, hwaits]
      exact h.waits_le other
  queue_eq := by
    intro other hopen
    by_cases hother : other = handle
    · rw [hother]
      exact heq
    · obtain ⟨hframes, hwaits⟩ := remaining_of_other ds (hbegins other hother)
        (hframe other hother) (hwait other hother)
      rw [hqueue other hother, remaining, hframes, hwaits]
      exact h.queue_eq other (hopened other hopen hother)

/-! ### Opening, flushing, queueing and waiting -/

theorem lends_opened (hd : d.Coherent) (h : d.Lends ds) {d' : Driver} {handle : Int32} {i : Nat}
    (hclosed : handle ∉ Entries.keys d.opened) (hqueues : d'.queues = d.queues)
    (hopened : d'.opened = Entries.put d.opened handle i) :
    d'.Lends (ds ++ [.opened handle]) := by
  have hqueue (other : Int32) : d'.queue other = d.queue other := by
    rw [queue, queue, hqueues]
  have hother {other : Int32} (hne : other ≠ handle) : (handle == other) = false := by
    simpa using fun heq => hne heq.symm
  have hbegins : (Deed.opened handle).begins handle = true := by simp [Deed.begins]
  obtain ⟨hframes, hwaits⟩ := remaining_of_begins ds hbegins
  refine h.of_deed handle ?_ (fun other _ => hqueue other) (fun _ => hother)
    (fun _ _ => rfl) (fun _ _ => rfl) (by rw [hwaits]; exact Nat.zero_le _) ?_
  · intro other hopen hne
    rw [hopened, Entries.mem_keys_put] at hopen
    exact hopen.resolve_left hne
  -- a handle that is new has no frames left over
  · rw [hqueue, hd.queue_of_not_open hclosed, remaining, hframes, List.drop_nil]
    rfl

theorem lends_flushed (h : d.Lends ds) (handle : Int32) :
    ({ d with queues := Entries.erase d.queues handle } : Driver).Lends
      (ds ++ [.flushed handle]) := by
  have hother {other : Int32} (hne : other ≠ handle) : (handle == other) = false := by
    simpa using fun heq => hne heq.symm
  have hbegins : (Deed.flushed handle).begins handle = true := by simp [Deed.begins]
  obtain ⟨hframes, hwaits⟩ := remaining_of_begins ds hbegins
  refine h.of_deed handle (fun other hopen _ => hopen) ?_ (fun _ => hother)
    (fun _ _ => rfl) (fun _ _ => rfl) (by rw [hwaits]; exact Nat.zero_le _) ?_
  · intro other hne
    rw [queue_erase, if_neg fun heq => hne heq.symm]
  · rw [queue_erase, if_pos rfl, remaining, hframes, List.drop_nil]
    rfl

theorem lends_queued (h : d.Lends ds) {handle : Int32} (hopen : handle ∈ Entries.keys d.opened)
    (frame : Frame) :
    ({ d with
        queues := Entries.put d.queues handle ((d.queue handle).push frame) } : Driver).Lends
      (ds ++ [.queued handle frame]) := by
  have hframes : queuedFrames handle (ds ++ [.queued handle frame]) =
      queuedFrames handle ds ++ [frame] := by
    rw [queuedFrames_concat rfl]
    simp [Deed.frame?]
  have hwaits : servedWaits handle (ds ++ [.queued handle frame]) = servedWaits handle ds :=
    servedWaits_concat rfl
  have hle := h.waits_le handle
  refine h.of_deed handle (fun other hother _ => hother) ?_ (fun _ _ => rfl) ?_
    (fun _ _ => rfl) ?_ ?_
  · intro other hne
    have hput := queue_put d handle ((d.queue handle).push frame) d.zeroSizeWaits other
    rw [if_neg fun heq => hne heq.symm] at hput
    exact hput
  · intro other hne
    rw [Deed.frame?, if_neg fun heq => hne heq.symm]
  · rw [hframes, hwaits, List.length_append]
    omega
  -- the frame goes behind those that remain, because no more were given out than queued
  · have hput := queue_put d handle ((d.queue handle).push frame) d.zeroSizeWaits handle
    rw [if_pos rfl] at hput
    rw [remaining, hframes, hwaits, List.drop_append_of_le_length hle]
    show (queue _ handle).toList = _
    rw [hput, FrameQueue.toList_push, h.queue_eq handle hopen, remaining]

theorem lends_waited (h : d.Lends ds) {handle : Int32} (hopen : handle ∈ Entries.keys d.opened)
    {frame : Frame} {rest : FrameQueue} (hpop : (d.queue handle).pop? = some (frame, rest))
    (n : Nat) :
    ({ d with
        queues := Entries.put d.queues handle rest
        zeroSizeWaits := n } : Driver).Lends (ds ++ [.waited handle]) := by
  have hframes : queuedFrames handle (ds ++ [.waited handle]) = queuedFrames handle ds := by
    rw [queuedFrames_concat rfl]
    simp [Deed.frame?]
  have hwaits : servedWaits handle (ds ++ [.waited handle]) = servedWaits handle ds + 1 := by
    rw [servedWaits_concat rfl]
    simp [Deed.isWait]
  have hhead : (queuedFrames handle ds).drop (servedWaits handle ds) = frame :: rest.toList := by
    rw [← FrameQueue.toList_of_pop? hpop, h.queue_eq handle hopen, remaining]
  -- a frame was there to be given out
  have hlt : servedWaits handle ds < (queuedFrames handle ds).length := by
    have hlength := congrArg List.length hhead
    rw [List.length_drop, List.length_cons] at hlength
    omega
  refine h.of_deed handle (fun other hother _ => hother) ?_ (fun _ _ => rfl)
    (fun _ _ => rfl) ?_ ?_ ?_
  · intro other hne
    rw [queue_put, if_neg fun heq => hne heq.symm]
  · intro other hne
    simpa [Deed.isWait] using fun heq : handle = other => hne heq.symm
  · rw [hframes, hwaits]
    omega
  · rw [queue_put, if_pos rfl, remaining, hframes, hwaits, ← List.drop_drop, hhead]
    rfl

/-! ### One operation -/

/-- A call that is refused changes nothing that the deeds speak of. -/
theorem Lends.logged (h : d.Lends ds) (c : Call) : (d.logged c).Lends ds :=
  h.of_same (fun _ hopen => hopen) fun _ _ => rfl

theorem lends_open (hd : d.Coherent) (h : d.Lends ds) (index : Int32) :
    (d.operate (.call (.open index))).Lends
      (ds ++ (d.deed? (.call (.open index))).toList) := by
  rcases step_cases d (.open index) with ⟨code, -, hstep⟩ | ⟨e, he, hstep⟩
  · have hnone : d.deed? (.call (.open index)) = none := by simp [deed?, handedOut?, hstep]
    rw [hnone, operate, hstep, Option.toList_none, List.append_nil]
    exact h.logged _
  · cases he with
    | opened hfail hrange hlt hfree =>
      have hout : d.handedOut? (.call (.open index)) = some d.nextHandle := by
        simp [handedOut?, hstep, Driver.logged]
      rw [operate, hstep]
      by_cases hopen : d.nextHandle ∈ Entries.keys d.opened
      -- a handle that was open stays open with its frames
      · have hnone : d.deed? (.call (.open index)) = none := by simp [deed?, hout, hopen]
        rw [hnone, Option.toList_none, List.append_nil]
        refine h.of_same (fun other hother => ?_) fun _ _ => rfl
        rcases (Entries.mem_keys_put _).mp hother with rfl | hother
        · exact hopen
        · exact hother
      · have hsome : d.deed? (.call (.open index)) = some (.opened d.nextHandle) := by
          simp [deed?, hout, hopen]
        rw [hsome, Option.toList_some]
        exact lends_opened hd h hopen rfl rfl

/-- Calls that neither open a handle nor are about frames leave the queues of open handles alone. -/
theorem Lends.of_effects {c : Call} {e : Effect} (h : d.Lends ds) (he : d.Effects c e)
    (hopens : ∀ index, c ≠ .open index) (hframes : c.aboutFrames = false) : e.driver.Lends ds := by
  cases he with
  | opened => exact absurd rfl (hopens _)
  | queued | waited | flushed => cases hframes
  | @closed handle i hopen =>
    refine h.of_same (fun other hother => (Entries.mem_keys_erase.mp hother).1) ?_
    intro other hother
    have herase := queue_erase d handle other
    rw [if_neg fun heq => (Entries.mem_keys_erase.mp hother).2 heq.symm] at herase
    exact herase
  | _ => exact h.of_same (fun _ hopen => hopen) fun _ _ => rfl

theorem lends_operate (hd : d.Coherent) (h : d.Lends ds) (op : Operation) :
    (d.operate op).Lends (ds ++ (d.deed? op).toList) := by
  have hplain (c : Call) (hnone : d.deed? (.call c) = none) (hopens : ∀ index, c ≠ .open index)
      (hframes : c.aboutFrames = false) :
      (d.operate (.call c)).Lends (ds ++ (d.deed? (.call c)).toList) := by
    rw [hnone, Option.toList_none, List.append_nil, operate]
    rcases step_cases d c with ⟨code, -, hstep⟩ | ⟨e, he, hstep⟩
    · rw [hstep]
      exact h.logged c
    · rw [hstep]
      exact (h.logged c).of_effects he hopens hframes
  -- of the calls about frames, those that do not take effect are no deeds
  have hrefused (c : Call) (hc : ¬d.TakesEffect c) : (d.operate (.call c)).Lends ds := by
    rw [operate, step_of_not_takesEffect hc]
    exact h.logged c
  cases op with
  | script s =>
    have hnone : d.deed? (.script s) = none := rfl
    rw [hnone, Option.toList_none, List.append_nil]
    cases s <;> exact h.of_same (fun _ hopen => hopen) fun _ _ => rfl
  | call c =>
    cases c with
    | «open» index => exact lends_open hd h index
    | close handle => exact hplain _ rfl (fun _ => Call.noConfusion) rfl
    | feature handle key r => exact hplain _ rfl (fun _ => Call.noConfusion) rfl
    | queue handle address size =>
      by_cases heffect : d.TakesEffect (.queue handle address size)
      · rw [deed?, if_pos heffect, Option.toList_some, operate]
        obtain ⟨e, he, hstep⟩ := step_of_takesEffect (fun _ => Call.noConfusion) heffect
        rw [hstep]
        cases he with
        | queued hopen hsize haddress =>
          exact lends_queued (h.logged _) (mem_keys_of_opened? hopen) _
      · rw [deed?, if_neg heffect, Option.toList_none, List.append_nil]
        exact hrefused _ heffect
    | wait handle timeout =>
      by_cases heffect : d.TakesEffect (.wait handle timeout)
      · rw [deed?, if_pos heffect, Option.toList_some, operate]
        obtain ⟨e, he, hstep⟩ := step_of_takesEffect (fun _ => Call.noConfusion) heffect
        rw [hstep]
        cases he with
        | waited hopen hpop => exact lends_waited (h.logged _) (mem_keys_of_opened? hopen) hpop _
      · rw [deed?, if_neg heffect, Option.toList_none, List.append_nil]
        exact hrefused _ heffect
    | flush handle =>
      by_cases heffect : d.TakesEffect (.flush handle)
      · rw [deed?, if_pos heffect, Option.toList_some, operate]
        obtain ⟨e, he, hstep⟩ := step_of_takesEffect (fun _ => Call.noConfusion) heffect
        rw [hstep]
        cases he with
        | flushed hopen => exact lends_flushed (h.logged _) handle
      · rw [deed?, if_neg heffect, Option.toList_none, List.append_nil]
        exact hrefused _ heffect

/-! ### Runs -/

theorem lends_run (hd : d.Coherent) (h : d.Lends ds) (ops : List Operation) :
    (d.run ops).Lends (ds ++ d.deeds ops) := by
  induction ops generalizing d ds with
  | nil => simpa [deeds] using h
  | cons op rest ih =>
    have hrest := ih (coherent_operate hd op) (lends_operate hd h op)
    rwa [List.append_assoc] at hrest

/-- In every run, the queue of an open handle holds the frames that remain of those queued since it
    was opened or last flushed. -/
theorem queue_eq_remaining (devices : List Device) (ops : List Operation) {handle : Int32}
    (hopen : handle ∈ Entries.keys ((ofDevices devices).run ops).opened) :
    (((ofDevices devices).run ops).queue handle).toList =
      remaining handle ((ofDevices devices).deeds ops) := by
  have hrun := lends_run (coherent_ofDevices devices) (lends_ofDevices devices) ops
  rw [List.nil_append] at hrun
  exact hrun.queue_eq handle hopen

/-- A wait that takes effect gives out the oldest frame of its handle, without its size while frames
    are to be reported so, and lowers the number of those. -/
theorem wait_of_takesEffect {handle : Int32} {timeout : UInt32}
    (h : d.TakesEffect (.wait handle timeout)) :
    handle ∈ Entries.keys d.opened ∧ ∃ frame rest,
      (d.queue handle).toList = frame :: rest ∧
      (d.step (.wait handle timeout)).reply.output =
        some (.frame frame.address (if 0 < d.zeroSizeWaits then 0 else frame.size)) ∧
      (d.step (.wait handle timeout)).driver.zeroSizeWaits = d.zeroSizeWaits - 1 := by
  obtain ⟨e, he, hstep⟩ := step_of_takesEffect (fun _ => Call.noConfusion) h
  cases he with
  | @waited _ _ _ _ frame rest hopen hpop =>
    have hopened : handle ∈ Entries.keys d.opened := mem_keys_of_opened? hopen
    have hlist : (d.queue handle).toList = frame :: rest.toList := FrameQueue.toList_of_pop? hpop
    refine ⟨hopened, frame, rest.toList, hlist, ?_, ?_⟩
    · rw [hstep]
      rfl
    · rw [hstep]
      rfl

end Driver

end CameraControl
