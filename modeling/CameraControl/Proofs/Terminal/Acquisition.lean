import CameraControl.Proofs.Terminal.Borrowing

/-
  Acquiring frames and giving everything back.

  An acquisition lends buffers to the driver, which must not keep any of them when the command ends.
  `Acquires` lists the calls that an acquisition makes on the handle of its camera: either it ends
  before it was started, or it is stopped after the waits and the frames are taken back. `capture`
  is the part of it that decides on the outcome. `grab_gives_back` puts opening and closing around
  this.
-/

namespace CameraControl.Terminal

open Job CameraControl.Action World

variable {c c' : Console} {handle : Int32} {n : Nat} {l : Transcript}

/-! ## The parts of an acquisition -/

/-- What is done before the waits: the size of the frames is read, the buffers are queued, and the
    acquisition is started. -/
def prepare (cam : Camera) (count : Nat) : Job Unit := do
  let size ← act (cam.int .imageSizeBytes)
  if size < 0 then throw .negativeSize
  act (queueBuffers cam (UInt64.ofInt size.toInt) 4096 count)
  act (cam.command .acquisitionStart)

/-- What is done once the acquisition was started. -/
def collect (cam : Camera) (count : Nat) (timeout : Timeout) : Job (Except Fault Unit) := do
  let waits ← act (Action.attempt (awaitBuffers cam timeout count))
  let _ ← act (Action.attempt (cam.command .acquisitionStop))
  act cam.flush
  pure waits

/-- What decides on the outcome of an acquisition: opening the camera, the size of its frames, the
    queueing, the start and the waits, up to the first complaint. Nothing is given back. -/
def capture (index : DeviceIndex) (count : UInt64) (millis : UInt32) : Job Unit := do
  let cam ← act (Camera.openDevice index)
  prepare cam count.toNat
  act (awaitBuffers cam (timeoutOf millis) count.toNat)

theorem acquire_eq (cam : Camera) (count : Nat) (timeout : Timeout) :
    acquire cam count timeout = (prepare cam count >>= fun _ => collect cam count timeout) := by
  unfold acquire prepare collect
  simp only [bind_assoc]
  refine congrArg _ (funext fun size => ?_)
  split
  · rfl
  · simp only [bind_assoc]

/-- What an acquisition comes to: the outcome of the waits counts once everything was given back. -/
def settled : Except Complaint (Except Fault Unit) → Except Complaint Unit
  | .ok (.ok ()) => .ok ()
  | .ok (.error fault) => .error (.fault fault)
  | .error complaint => .error complaint

theorem grab_run (index : DeviceIndex) (count : UInt64) (millis : UInt32) (c : Console) :
    let work := withCamera index fun cam => acquire cam count.toNat (timeoutOf millis)
    (grab index count millis).run c = (settled (work.run c).1, (work.run c).2) := by
  intro work
  unfold grab
  rcases hwork : work.run c with ⟨outcome, c'⟩
  cases outcome with
  | error complaint => exact run_bind_of_error hwork
  | ok waits =>
    refine (run_bind_of_ok hwork).trans ?_
    cases waits <;> rfl

/-! ## Calls -/

/-- The call that starts an acquisition. -/
def starter (handle : Int32) : Call := .feature handle Feature.acquisitionStart.key .command

/-- The call that stops an acquisition. -/
def stopper (handle : Int32) : Call := .feature handle Feature.acquisitionStop.key .command

/-- Calls that come before the start of an acquisition. -/
structure Preparing (handle : Int32) (n : Nat) (l : Transcript) : Prop where
  keeps : ∀ p ∈ l, p.1.KeepsTo handle
  functions : ∀ p ∈ l, p.1.function = .getInt ∨ p.1.function = .queueBuffer
  queueings : l.functions.count .queueBuffer ≤ n

/-- Calls that come before the start of an acquisition that can be started. -/
structure Prepared (handle : Int32) (n : Nat) (l : Transcript) : Prop extends
    Preparing handle n l where
  complete : l.functions = .getInt :: List.replicate n .queueBuffer
  succeeds : l.Succeeds

/-- The calls of an acquisition on a handle with a number of buffers, and the outcome. -/
inductive Acquires (handle : Int32) (n : Nat) : Transcript → Except Complaint Unit → Prop where
  /-- It ends before the start, or by it. -/
  | unstarted {before last : Transcript} {complaint : Complaint}
      (hbefore : Preparing handle n before)
      (hlast : ∀ p ∈ last, p.1 = starter handle ∧ p.2.status ≠ Status.success) :
    Acquires handle n (before ++ last) (.error complaint)
  /-- It was started; it is stopped after the last wait, whatever comes of that, and then the frames
      are taken back. -/
  | started {before waits : Transcript} {start stop : Reply} {outcome : Except Complaint Unit}
      (hbefore : Prepared handle n before) (hstart : start.status = Status.success)
      (hwaits : ∀ p ∈ waits, Call.On handle .waitBuffer p.1) (hlength : waits.length ≤ n)
      (hcomplete : outcome = .ok () → waits.length = n ∧ waits.Succeeds) :
    Acquires handle n
      (before ++ (starter handle, start) :: waits ++
        [(stopper handle, stop), (.flush handle, ⟨Status.success, none⟩)]) outcome

/-! ## What the parts do -/

theorem queueBuffers_makes (cam : Camera) (size address : UInt64) (n : Nat) :
    (queueBuffers cam size address n).Makes (Call.On cam.handle .queueBuffer) n := by
  induction n generalizing address with
  | zero => exact .pure ()
  | succ n ih =>
    have hboth := (cam.queue_makes address size).bind fun _ => ih (address + size)
    rwa [Nat.add_comm] at hboth

theorem awaitBuffers_makes (cam : Camera) (hlock : cam.hostLock = none) (timeout : Timeout)
    (n : Nat) : (awaitBuffers cam timeout n).Makes (Call.On cam.handle .waitBuffer) n := by
  induction n with
  | zero => exact .pure ()
  | succ n ih =>
    have hboth := (cam.wait_makes hlock timeout).bind fun _ => ih
    rwa [Nat.add_comm] at hboth

theorem functions_of_on {f : Function} (hl : ∀ p ∈ l, Call.On handle f p.1) :
    l.functions = List.replicate l.length f := by
  rw [List.eq_replicate_iff]
  refine ⟨List.length_map _, fun g hg => ?_⟩
  obtain ⟨p, hp, rfl⟩ := List.mem_map.mp hg
  exact (hl p hp).2

/-- Reading the size of the frames and queueing buffers come before the start. -/
theorem preparing_append {sizes queueings : Transcript}
    (hsizes : ∀ p ∈ sizes, Call.On handle .getInt p.1)
    (hqueueings : ∀ p ∈ queueings, Call.On handle .queueBuffer p.1)
    (hlength : queueings.length ≤ n) : Preparing handle n (sizes ++ queueings) where
  keeps := fun p hp => (List.mem_append.mp hp).elim (fun h => (hsizes p h).1)
    fun h => (hqueueings p h).1
  functions := fun p hp => (List.mem_append.mp hp).imp (fun h => (hsizes p h).2)
    fun h => (hqueueings p h).2
  queueings := by
    rw [Transcript.functions_append, functions_of_on hsizes, functions_of_on hqueueings,
      List.count_append, List.count_replicate_self, List.count_replicate, if_neg (by decide)]
    omega

theorem prepared_append {sizes queueings : Transcript}
    (hsizes : ∀ p ∈ sizes, Call.On handle .getInt p.1)
    (hqueueings : ∀ p ∈ queueings, Call.On handle .queueBuffer p.1)
    (hread : sizes.length = 1 ∧ sizes.Succeeds)
    (hqueued : queueings.length = n ∧ queueings.Succeeds) :
    Prepared handle n (sizes ++ queueings) where
  toPreparing := preparing_append hsizes hqueueings (Nat.le_of_eq hqueued.1)
  complete := by
    rw [Transcript.functions_append, functions_of_on hsizes, functions_of_on hqueueings, hread.1,
      hqueued.1]
    rfl
  succeeds := hread.2.append hqueued.2

/-- The calls that are made up to the start of an acquisition, and the outcome. -/
inductive Prepares (handle : Int32) (n : Nat) : Transcript → Except Complaint Unit → Prop where
  | refused {before last : Transcript} {complaint : Complaint}
      (hbefore : Preparing handle n before)
      (hlast : ∀ p ∈ last, p.1 = starter handle ∧ p.2.status ≠ Status.success) :
    Prepares handle n (before ++ last) (.error complaint)
  | started {before : Transcript} {start : Reply} (hbefore : Prepared handle n before)
      (hstart : start.status = Status.success) :
    Prepares handle n (before ++ [(starter handle, start)]) (.ok ())

/-- What ends before the start makes calls that come before it. -/
theorem Prepares.early {complaint : Complaint} (h : Preparing handle n l) :
    Prepares handle n l (.error complaint) := by
  have hnone : Prepares handle n (l ++ []) (.error complaint) := .refused h (List.forall_mem_nil _)
  rwa [List.append_nil] at hnone

theorem prepare_prepares (cam : Camera) (n : Nat) (c : Console) :
    ∃ l w, ((prepare cam n).run c).2 = { c with world := w } ∧ c.world.Trail l w ∧
      Prepares cam.handle n l ((prepare cam n).run c).1 := by
  obtain ⟨sizes, hsizing, hsizes, -, hread⟩ := cam.int_makes .imageSizeBytes c.world
  rcases hint : (cam.int .imageSizeBytes).exec c.world with ⟨outcome, w₁⟩
  rw [hint] at hsizing hread
  have hbegun := preparing_append (n := n) hsizes (List.forall_mem_nil _) (Nat.zero_le n)
  rw [List.append_nil] at hbegun
  unfold prepare
  cases outcome with
  | error fault =>
    rw [run_bind_of_error (run_act_of_error hint)]
    exact ⟨sizes, w₁, rfl, hsizing, .early hbegun⟩
  | ok size =>
    rw [run_bind_of_ok (run_act_of_ok hint)]
    by_cases hsize : size < 0
    · simp only [if_pos hsize]
      exact ⟨sizes, w₁, rfl, hsizing, .early hbegun⟩
    simp only [if_neg hsize]
    -- as many buffers are queued as there are, up to the first that is refused
    obtain ⟨queueings, hqueueing, hqueueings, hlength, hqueued⟩ :=
      queueBuffers_makes cam (UInt64.ofInt size.toInt) 4096 n w₁
    rcases hqueue : (queueBuffers cam (UInt64.ofInt size.toInt) 4096 n).exec w₁ with ⟨outcome, w₂⟩
    rw [hqueue] at hqueueing hqueued
    have htrail := hsizing.trans hqueueing
    cases outcome with
    | error fault =>
      rw [run_bind_of_error (run_act_of_error (c := { c with world := w₁ }) hqueue)]
      exact ⟨_, w₂, rfl, htrail, .early (preparing_append hsizes hqueueings hlength)⟩
    | ok =>
      rw [run_bind_of_ok (run_act_of_ok (c := { c with world := w₁ }) hqueue)]
      have hstarting := htrail.trans (w₂.trail_take (starter cam.handle))
      rcases cam.command_cases .acquisitionStart w₂ with ⟨hstart, hexec⟩ | ⟨hstart, fault, hexec⟩
      · rw [run_act_of_ok (c := { c with world := w₂ }) hexec]
        exact ⟨_, _, rfl, hstarting,
          .started (prepared_append hsizes hqueueings (hread size rfl) (hqueued () rfl)) hstart⟩
      · rw [run_act_of_error (c := { c with world := w₂ }) hexec]
        exact ⟨_, _, rfl, hstarting, .refused (preparing_append hsizes hqueueings hlength)
          (List.forall_mem_singleton.mpr ⟨rfl, hstart⟩)⟩

/-- The waits, the stop and the flush of an acquisition, of which only the flush counts for its own
    outcome. -/
theorem collect_collects {d : Driver} {i : Nat} {cam : Camera} (hlock : cam.hostLock = none)
    (hhandle : cam.handle = d.nextHandle) (hfresh : d.Fresh)
    (hflush : ∀ o ∈ d.failures, o.function ≠ .flush) (n : Nat) (timeout : Timeout)
    (hlent : d.Lent i c.world.driver) :
    ∃ (waits : Transcript) (stop : Reply) (w : World), (collect cam n timeout).run c =
        (.ok ((awaitBuffers cam timeout n).exec c.world).1, { c with world := w }) ∧
      c.world.Trail (waits ++
        [(stopper cam.handle, stop), (.flush cam.handle, ⟨Status.success, none⟩)]) w ∧
      (∀ p ∈ waits, Call.On cam.handle .waitBuffer p.1) ∧ waits.length ≤ n ∧
      (((awaitBuffers cam timeout n).exec c.world).1 = .ok () →
        waits.length = n ∧ waits.Succeeds) := by
  obtain ⟨waits, hwaiting, hwaits, hlength, hok⟩ := awaitBuffers_makes cam hlock timeout n c.world
  rcases hawait : (awaitBuffers cam timeout n).exec c.world with ⟨outcome, w₁⟩
  rw [hawait] at hwaiting hok
  -- whatever comes of the stop, it is one call
  have hstop : ∃ outcome, (cam.command .acquisitionStop).exec w₁ =
      (outcome, w₁.take (stopper cam.handle)) := by
    rcases cam.command_cases .acquisitionStop w₁ with ⟨-, hexec⟩ | ⟨-, fault, hexec⟩
    · exact ⟨_, hexec⟩
    · exact ⟨_, hexec⟩
  obtain ⟨stopped, hstop⟩ := hstop
  have htrail := hwaiting.trans (w₁.trail_take (stopper cam.handle))
  have hkeeps : ∀ p ∈ waits ++ [(stopper cam.handle, (w₁.driver.step (stopper cam.handle)).reply)],
      p.1.KeepsTo d.nextHandle := by
    rw [← hhandle, List.forall_mem_append, List.forall_mem_singleton]
    exact ⟨fun p hp => (hwaits p hp).1, rfl⟩
  have hflushed := (htrail.serves.lent hkeeps hlent).step_flush hfresh hflush
  rw [← hhandle] at hflushed
  have hreply := congrArg Outcome.reply hflushed
  have hexec := cam.flush_exec _ (congrArg Reply.status hreply)
  have hall := htrail.trans (World.trail_take _ (.flush cam.handle))
  rw [hreply, List.append_assoc] at hall
  refine ⟨waits, _, _, ?_, hall, hwaits, hlength, fun h => hok () h⟩
  unfold collect
  rw [run_bind_of_ok (run_act_of_ok (exec_attempt _ _)), hawait,
    run_bind_of_ok (run_act_of_ok (c := { c with world := w₁ }) (exec_attempt _ _)), hstop,
    run_bind_of_ok (run_act_of_ok (c := { c with world := w₁.take (stopper cam.handle) }) hexec)]
  rfl

/-- An acquisition makes its calls, and its outcome is that of its first part and of the waits. -/
theorem acquire_acquires {d : Driver} {i : Nat} {cam : Camera} (hlock : cam.hostLock = none)
    (hhandle : cam.handle = d.nextHandle) (hfresh : d.Fresh)
    (hflush : ∀ o ∈ d.failures, o.function ≠ .flush) (n : Nat) (timeout : Timeout)
    (hlent : d.Lent i c.world.driver) :
    ∃ l w, ((acquire cam n timeout).run c).2 = { c with world := w } ∧ c.world.Trail l w ∧
      Acquires cam.handle n l (settled ((acquire cam n timeout).run c).1) ∧
      settled ((acquire cam n timeout).run c).1 =
        ((prepare cam n >>= fun _ => act (awaitBuffers cam timeout n)).run c).1 := by
  obtain ⟨l, w, hworld, htrail, hprepares⟩ := prepare_prepares cam n c
  rcases hrun : (prepare cam n).run c with ⟨outcome, c'⟩
  rw [hrun] at hworld hprepares
  dsimp only at hworld
  subst hworld
  rw [acquire_eq]
  cases hprepares with
  | refused hbefore hlast =>
    rw [run_bind_of_error hrun, run_bind_of_error hrun]
    exact ⟨_, w, rfl, htrail, .unstarted hbefore hlast, rfl⟩
  | @started before start hbefore hstart =>
    have hkeeps : ∀ p ∈ before ++ [(starter cam.handle, start)], p.1.KeepsTo d.nextHandle := by
      rw [← hhandle, List.forall_mem_append, List.forall_mem_singleton]
      exact ⟨hbefore.keeps, rfl⟩
    obtain ⟨waits, stop, w', hcollect, htrail', hwaits, hlength, hok⟩ :=
      collect_collects (c := { c with world := w }) hlock hhandle hfresh hflush n timeout
        (htrail.serves.lent hkeeps hlent)
    rw [run_bind_of_ok hrun, run_bind_of_ok hrun, hcollect, run_act]
    have hall := htrail.trans htrail'
    rw [List.append_assoc, List.singleton_append, ← List.cons_append, ← List.append_assoc] at hall
    have houtcome : settled (.ok ((awaitBuffers cam timeout n).exec w).1) =
        ((awaitBuffers cam timeout n).exec w).1.mapError .fault := by
      rcases ((awaitBuffers cam timeout n).exec w).1 with fault | ⟨⟩ <;> rfl
    have hcomplete (h : settled (.ok ((awaitBuffers cam timeout n).exec w).1) = .ok ()) :
        waits.length = n ∧ waits.Succeeds := by
      refine hok ?_
      rcases hawait : ((awaitBuffers cam timeout n).exec w).1 with fault | ⟨⟩
      · rw [hawait] at h
        cases h
      · rfl
    exact ⟨_, w', rfl, hall, .started hbefore hstart hwaits hlength hcomplete, houtcome⟩

/-! ## Acquiring frames -/

theorem Acquires.keepsTo {outcome : Except Complaint Unit} (h : Acquires handle n l outcome) :
    ∀ p ∈ l, p.1.KeepsTo handle := by
  cases h with
  | unstarted hbefore hlast =>
    refine List.forall_mem_append.mpr ⟨hbefore.keeps, fun p hp => ?_⟩
    rw [(hlast p hp).1]
    exact rfl
  | started hbefore hstart hwaits =>
    simp only [List.forall_mem_append, List.forall_mem_cons]
    exact ⟨⟨hbefore.keeps, rfl, fun p hp => (hwaits p hp).1⟩, rfl, rfl, List.forall_mem_nil _⟩

theorem functions_starters {last : Transcript}
    (hlast : ∀ p ∈ last, p.1 = starter handle ∧ p.2.status ≠ Status.success) {f : Function}
    (hf : f ≠ .command) : last.functions.count f = 0 := by
  refine List.count_eq_zero.mpr fun hmem => ?_
  obtain ⟨p, hp, rfl⟩ := List.mem_map.mp hmem
  exact hf (congrArg Call.function (hlast p hp).1)

theorem Preparing.count_waits (h : Preparing handle n l) :
    l.functions.count .waitBuffer = 0 := by
  refine List.count_eq_zero.mpr fun hmem => ?_
  obtain ⟨p, hp, hwait⟩ := List.mem_map.mp hmem
  rcases h.functions p hp with hp | hp
  · exact Function.noConfusion (hp.symm.trans hwait)
  · exact Function.noConfusion (hp.symm.trans hwait)

/-- No more buffers are queued and waited for than there are. -/
theorem Acquires.count_le {outcome : Except Complaint Unit} (h : Acquires handle n l outcome) :
    l.functions.count .queueBuffer ≤ n ∧ l.functions.count .waitBuffer ≤ n := by
  cases h with
  | unstarted hbefore hlast =>
    simp only [Transcript.functions_append, List.count_append, hbefore.count_waits,
      functions_starters hlast (f := .queueBuffer) (by decide),
      functions_starters hlast (f := .waitBuffer) (by decide)]
    exact ⟨hbefore.queueings, Nat.zero_le n⟩
  | @started before waits start stop _ hbefore hstart hwaits hlength =>
    have hstarter : Transcript.functions ((starter handle, start) :: waits) =
        .command :: List.replicate waits.length .waitBuffer :=
      congrArg (Function.command :: ·) (functions_of_on hwaits)
    have hlast : Transcript.functions [(stopper handle, stop),
        (.flush handle, ⟨Status.success, none⟩)] = [.command, .flush] := rfl
    simp only [Transcript.functions_append, List.count_append, hstarter, hlast,
      hbefore.count_waits]
    have hqueueings := hbefore.queueings
    have hdiffer : (Function.waitBuffer == .queueBuffer) = false := by decide
    simp [List.count_replicate, hdiffer]
    omega

/-- The calls of a whole acquisition with a device, and the outcome. -/
inductive Grabs (index : DeviceIndex) (handle : Int32) (n : Nat) :
    Transcript → Except Complaint Unit → Prop where
  | refused {code : Status} (hcode : code ≠ Status.success) :
    Grabs index handle n [(.open index, ⟨code, none⟩)] (.error (notOpened index code))
  | lent {l : Transcript} {outcome : Except Complaint Unit} (h : Acquires handle n l outcome) :
    Grabs index handle n ((.open index, ⟨Status.success, some (.word handle)⟩) :: l ++
      [(.close handle, ⟨Status.success, none⟩)]) outcome

theorem Grabs.count_le {index : DeviceIndex} {outcome : Except Complaint Unit}
    (h : Grabs index handle n l outcome) :
    l.functions.count .queueBuffer ≤ n ∧ l.functions.count .waitBuffer ≤ n := by
  cases h with
  | refused => exact ⟨Nat.zero_le n, Nat.zero_le n⟩
  | @lent l _ h =>
    have hfunctions : Transcript.functions ((.open index,
        ⟨Status.success, some (.word handle)⟩) :: l ++ [(.close handle, ⟨Status.success, none⟩)]) =
          .open :: l.functions ++ [.close] := by
      rw [Transcript.functions_append]
      rfl
    obtain ⟨hqueueings, hwaits⟩ := h.count_le
    rw [hfunctions]
    simp only [List.count_append, List.count_cons, List.count_nil]
    exact ⟨hqueueings, hwaits⟩

/-- The outcome of an acquisition is that of the part which gives nothing back, so it is the first
    complaint of the opening, the size of the frames, the queueing, the start and the waits. However
    it ends, it makes the calls of one acquisition and no others, and what is open, queued and
    subscribed is as before. Orders to fail may be about all functions but those that close a handle
    and take frames back. -/
theorem grab_gives_back {devices : List Device} {ops : List Operation}
    (hrun : c.world.driver = (Driver.ofDevices devices).run ops)
    (hfew : (Driver.ofDevices devices).Few ops) (hhonest : c.world.driver.Honest)
    (hclean : ∀ o ∈ c.world.driver.failures, o.function ≠ .close ∧ o.function ≠ .flush)
    (index : DeviceIndex) (count : UInt64) (millis : UInt32) :
    let outcome := ((grab index count millis).run c).1
    let c' := ((grab index count millis).run c).2
    let handle := c.world.driver.nextHandle
    outcome = ((capture index count millis).run c).1 ∧ c'.printed = c.printed ∧
      (∃ l, c.world.Trail l c'.world ∧ Grabs index handle count.toNat l outcome ∧
        l.functions.count .queueBuffer ≤ count.toNat ∧
        l.functions.count .waitBuffer ≤ count.toNat) ∧
      c'.world.driver.opened = c.world.driver.opened ∧
      c'.world.driver.queues = c.world.driver.queues ∧
      c'.world.driver.subscriptions = c.world.driver.subscriptions ∧
      handle ∉ Entries.keys c'.world.driver.opened ∧
      handle ∉ Entries.keys c'.world.driver.queues := by
  intro outcome c' handle
  have hfresh : c.world.driver.Fresh := hrun ▸ Driver.fresh_of_few hfew
  have hclose : ∀ o ∈ c.world.driver.failures, o.function ≠ .close := fun o ho => (hclean o ho).1
  have hhandle : (borrowed index c.world).handle = c.world.driver.nextHandle := rfl
  have hacquires (hlent : c.world.driver.Lent index.toInt.toNat (whileLent index c).world.driver) :=
    acquire_acquires rfl hhandle hfresh (fun o ho => (hclean o ho).2) count.toNat
      (timeoutOf millis) hlent
  have hborrows := withCamera_borrows hhonest hfresh hclose index
    (fun cam => acquire cam count.toNat (timeoutOf millis)) fun hlent => by
      obtain ⟨l, w, hworld, htrail, hcalls, -⟩ := hacquires hlent
      rw [hworld]
      exact htrail.serves.lent hcalls.keepsTo hlent
  have hkept : handle ∉ Entries.keys c.world.driver.opened ∧
      handle ∉ Entries.keys c.world.driver.queues := by
    refine ⟨hfresh.not_open, fun hmem => ?_⟩
    obtain ⟨p, hp, heq⟩ := List.mem_map.mp hmem
    exact hfresh.not_queued p hp heq
  -- what is to be shown of `grab` is shown of the work with the camera
  have hgrab := grab_run index count millis c
  have houtcome : outcome = _ := congrArg Prod.fst hgrab
  have hconsole : c' = _ := congrArg Prod.snd hgrab
  clear_value outcome c'
  subst houtcome hconsole
  rcases hwork : (withCamera index fun cam => acquire cam count.toNat (timeoutOf millis)).run c
    with ⟨work, c'⟩
  rw [hwork] at hborrows
  cases hborrows with
  | refused hcode hstep =>
    have hcapture : (capture index count millis).run c =
        (.error (notOpened index _), { c with world := c.world.take (.open index) }) :=
      run_bind_of_error (run_act_of_error (Camera.openDevice_refused hcode hstep))
    have htrail := c.world.trail_take (.open index)
    have hdriver := (take_of_step hstep).1
    have hgrabs : Grabs index handle count.toNat _ _ := .refused hcode
    rw [hstep] at htrail
    rw [hcapture]
    refine ⟨rfl, rfl, ⟨_, htrail, hgrabs, hgrabs.count_le⟩, ?_⟩
    dsimp only
    rw [hdriver]
    exact ⟨rfl, rfl, rfl, hkept⟩
  | @lent device _ c₁ hdevice hstep hbody hlent =>
    obtain ⟨l, w, hworld, htrail, hacquired, houtcome⟩ :=
      hacquires (driver_whileLent hstep ▸ Driver.lent_holding hfresh hdevice [.open])
    rw [hbody] at hworld hacquired houtcome
    dsimp only at hworld hacquired houtcome
    subst hworld
    have hcapture : ((capture index count millis).run c).1 = settled work := by
      rw [houtcome]
      exact congrArg Prod.fst (run_bind_of_ok (run_act_of_ok (Camera.openDevice_visit hstep)))
    obtain ⟨hopened, hqueues, hsubscriptions⟩ :=
      kept_givenBack hhandle hfresh hclose hlent
    -- sessions come and go between the calls
    have hclosing := trail_givenBack hhandle hfresh hclose hlent
    have hall := ((trail_whileLent hstep).trans htrail).trans hclosing
    have hgrabs : Grabs index handle count.toNat _ _ := .lent hacquired
    refine ⟨hcapture.symm, rfl, ⟨_, hall, hgrabs, hgrabs.count_le⟩, hopened, hqueues,
      hsubscriptions, ?_⟩
    rw [← hopened, ← hqueues] at hkept
    exact hkept

/-- One frame is reported without a size and the stop fails, while another device is open with a
    buffer in its queue. -/
theorem grab_gives_back_after_empty_frame :
    let devices := [Device.standard "A", Device.standard "B"]
    let ops : List Operation := [.call (.open 1), .call (.queue 100 64 8),
      .script (.failForFeature .command .acquisitionStop 5), .script (.zeroSizeWaits 1)]
    let c : Console := ⟨.ofDriver .direct ((Driver.ofDevices devices).run ops), ""⟩
    let c' := ((grab 0 3 0).run c).2
    ((grab 0 3 0).run c).1 = .error (.fault (.protocol (.emptyFrame 0))) ∧
      (∃ l, c.world.Trail l c'.world ∧ l.functions.count .queueBuffer ≤ 3 ∧
        l.functions.count .waitBuffer ≤ 3) ∧
      c'.world.driver.log.take 4 = [.close, .flush, .command, .waitBuffer] ∧
      c'.world.driver.opened = [(100, 1)] ∧
      c'.world.driver.queues = [(100, FrameQueue.empty.push ⟨64, 8⟩)] := by
  intro devices ops c c'
  have hc : c = ⟨.ofDriver .direct ((Driver.ofDevices devices).run ops), ""⟩ := rfl
  have hc' : c' = ((grab 0 3 0).run c).2 := rfl
  clear_value c' c
  have hrun : c.world.driver = (Driver.ofDevices devices).run ops := by rw [hc]; rfl
  have hhonest : c.world.driver.Honest := by
    rw [hrun]
    have hnone : ((Driver.ofDevices devices).run ops).openFailures = [] := by decide +kernel
    exact ⟨by decide +kernel, hnone ▸ List.forall_mem_nil _⟩
  have hclean : ∀ o ∈ c.world.driver.failures, o.function ≠ .close ∧ o.function ≠ .flush := by
    rw [hrun]
    decide +kernel
  obtain ⟨-, -, ⟨l, htrail, -, hqueued, hwaited⟩, hopened, hqueues, -⟩ :=
    grab_gives_back hrun (by decide +kernel) hhonest hclean 0 3 0
  rw [← hc'] at htrail hopened hqueues
  refine ⟨?_, ⟨l, htrail, hqueued, hwaited⟩, ?_, ?_, ?_⟩
  · rw [hc]
    decide +kernel
  · rw [hc', hc]
    decide +kernel
  · rw [hopened, hrun]
    decide +kernel
  · rw [hqueues, hrun]
    decide +kernel

end CameraControl.Terminal
