import CameraControl.Camera.Frames
import CameraControl.Proofs.Driver.Lending
import CameraControl.Proofs.World.Transcript

/-
  Trails of calls.

  An action that notifies nobody leaves the calls that it makes, one after another, and nothing
  else: `Trail` names them with their replies. What each of the calls keeps of the driver they all
  keep, `Serves.keeps`. `Makes` says of an action which calls it makes and how many at most, and
  that it makes just as many if it succeeds; it composes as actions do.
-/

namespace CameraControl

variable {d d' d'' : Driver} {l l' : Transcript}

/-! ## Transcripts -/

/-- A driver serves the calls of a transcript one after another, with the replies in it. -/
inductive Driver.Serves : Driver → Transcript → Driver → Prop where
  | nil (d : Driver) : Serves d [] d
  | cons {d d' : Driver} {l : Transcript} (c : Call) (h : Serves (d.step c).driver l d') :
    Serves d ((c, (d.step c).reply) :: l) d'

namespace Driver

theorem Serves.trans (h : d.Serves l d') (h' : d'.Serves l' d'') : d.Serves (l ++ l') d'' := by
  induction h with
  | nil => exact h'
  | cons c _ ih => exact .cons c (ih h')

/-- What every single call keeps, all of them keep. -/
theorem Serves.keeps {P : Driver → Prop} {permits : Call → Prop}
    (hP : ∀ d c, permits c → P d → P (d.step c).driver) (h : d.Serves l d')
    (hl : ∀ p ∈ l, permits p.1) (hd : P d) : P d' := by
  induction h with
  | nil => exact hd
  | cons c _ ih =>
    obtain ⟨hc, hrest⟩ := List.forall_mem_cons.mp hl
    exact ih hrest (hP _ c hc hd)

/-- A device that is lent stays so as long as the calls keep to its handle. -/
theorem Serves.lent {d₀ : Driver} {i : Nat} (h : d.Serves l d')
    (hl : ∀ p ∈ l, p.1.KeepsTo d₀.nextHandle) (hd : d₀.Lent i d) : d₀.Lent i d' :=
  h.keeps (fun _ _ hc hd => hd.step hc) hl hd

/-- Nobody hears of a write if nobody has subscribed. -/
theorem notices_write (h : d.subscriptions = []) (handle : Int32) (key : String) (v : Write) :
    (d.step (.feature handle key (.write v))).notices = [] := by
  rcases step_cases d (.feature handle key (.write v)) with ⟨code, -, hstep⟩ | ⟨e, he, hstep⟩
  · rw [hstep]
  · rw [hstep]
    cases he with
    | answered => rfl
    | wrote =>
      unfold fire fireAs subscribers noticesFor
      dsimp only [setDevice, logged]
      rw [h]
      split <;> rfl

end Driver

namespace World

variable {w w' w'' : World}

/-- The calls of a transcript were made between two worlds, one after another, and nobody was
    notified of anything. -/
structure Trail (w : World) (l : Transcript) (w' : World) : Prop where
  history : w'.history = l.happenings.reverse ++ w.history
  serves : w.driver.Serves l w'.driver

theorem Trail.refl (w : World) : w.Trail [] w := ⟨rfl, .nil _⟩

theorem Trail.trans (h : w.Trail l w') (h' : w'.Trail l' w'') : w.Trail (l ++ l') w'' where
  history := by
    rw [h'.history, h.history, Transcript.happenings_append, List.reverse_append,
      List.append_assoc]
  serves := h.serves.trans h'.serves

/-- A call of which nobody hears does what it does to the driver and nothing else. -/
theorem call_of_unheard {c : Call} (hdirect : w.backend = .direct)
    (h : (w.driver.step c).notices = []) : w.call c = ((w.driver.step c).reply, w.take c) := by
  have hpass : w.backend.pass? c = some c := by
    rw [hdirect]
    rfl
  rw [call_of_passed hpass, h]
  rfl

theorem trail_take (w : World) (c : Call) : w.Trail [(c, (w.driver.step c).reply)] (w.take c) :=
  ⟨rfl, .cons c (.nil _)⟩

end World

/-! ## Actions -/

namespace Action

open World

variable {α β : Type} {permits : Call → Prop} {m n : Nat}

/-- A call that must succeed, and of which nobody hears. -/
theorem exec_call_of_silent {c : Call} (hportable : c.Portable) (hsilent : c.notifies = false)
    (description : String) (w : World) :
    (Action.call c description).exec w =
      (if (w.driver.step c).reply.status = Status.success then .ok (w.driver.step c).reply
        else .error (.device description (w.driver.step c).reply.status), w.take c) := by
  rw [exec_call, call_of_silent hportable hsilent]

/-- An action makes permitted calls only, a number of them at most. If it succeeds, it has made just
    that number, and all of them have succeeded. -/
def Makes (permits : Call → Prop) (n : Nat) (a : Action α) : Prop :=
  ∀ w : World, ∃ l : Transcript, w.Trail l (a.exec w).2 ∧ (∀ p ∈ l, permits p.1) ∧ l.length ≤ n ∧
    ∀ x, (a.exec w).1 = .ok x → l.length = n ∧ l.Succeeds

namespace Makes

theorem pure (x : α) : Makes permits 0 (Pure.pure x : Action α) :=
  fun w => ⟨[], .refl w, List.forall_mem_nil _, Nat.le_refl 0, fun _ _ =>
    ⟨rfl, List.forall_mem_nil _⟩⟩

theorem throw (fault : Fault) (n : Nat) : Makes permits n (MonadExcept.throw fault : Action α) :=
  fun w => ⟨[], .refl w, List.forall_mem_nil _, Nat.zero_le n, fun _ h => by cases h⟩

theorem bind {a : Action α} {f : α → Action β} (ha : a.Makes permits n)
    (hf : ∀ x, (f x).Makes permits m) : (a >>= f).Makes permits (n + m) := by
  intro w
  obtain ⟨l, htrail, hl, hlength, hok⟩ := ha w
  rcases hexec : a.exec w with ⟨outcome, w'⟩
  rw [hexec] at htrail hok
  cases outcome with
  | error fault =>
    rw [exec_bind_of_error hexec]
    exact ⟨l, htrail, hl, Nat.le_add_right_of_le hlength, fun _ h => by cases h⟩
  | ok x =>
    obtain ⟨l', htrail', hl', hlength', hok'⟩ := hf x w'
    obtain ⟨heq, hsucceeds⟩ := hok x rfl
    rw [exec_bind_of_ok hexec]
    refine ⟨l ++ l', htrail.trans htrail', ?_, ?_, fun y hy => ?_⟩
    · exact fun p hp => (List.mem_append.mp hp).elim (hl p) (hl' p)
    · rw [List.length_append]
      omega
    · obtain ⟨heq', hsucceeds'⟩ := hok' y hy
      rw [List.length_append, heq, heq']
      exact ⟨rfl, hsucceeds.append hsucceeds'⟩

/-- What is computed from the result makes no calls. -/
theorem map {a : Action α} (ha : a.Makes permits n) (f : α → β) :
    Makes permits n (do return f (← a)) :=
  ha.bind fun x => .pure (f x)

/-- What is computed from the result may be a fault. -/
theorem judge {a : Action α} (ha : a.Makes permits n) {f : α → Action β}
    (hf : ∀ x, (∃ y, f x = Pure.pure y) ∨ ∃ fault, f x = MonadExcept.throw fault) :
    (a >>= f).Makes permits n := by
  refine ha.bind (m := 0) fun x => ?_
  rcases hf x with ⟨y, hy⟩ | ⟨fault, hfault⟩
  · rw [hy]
    exact .pure y
  · rw [hfault]
    exact .throw fault 0

theorem call {c : Call} (hc : permits c) (hportable : c.Portable) (hsilent : c.notifies = false)
    (description : String) : (Action.call c description).Makes permits 1 := by
  intro w
  rw [exec_call_of_silent hportable hsilent]
  refine ⟨_, w.trail_take c, List.forall_mem_singleton.mpr hc, Nat.le_refl 1, fun x hx => ?_⟩
  refine ⟨rfl, List.forall_mem_singleton.mpr ?_⟩
  by_contra hstatus
  rw [if_neg hstatus] at hx
  cases hx

end Makes

end Action

/-! ## Cameras -/

/-- A call is of one function and keeps to a handle. -/
def Call.On (handle : Int32) (f : Function) (c : Call) : Prop := c.KeepsTo handle ∧ c.function = f

namespace Camera

open CameraControl.Action World

variable (cam : Camera) {permits : Call → Prop}

/-- A request that hands over no text and of which nobody hears. -/
theorem request_makes (f : Feature) {r : Request} (hr : r.Portable)
    (hsilent : (Call.feature cam.handle f.key r).notifies = false)
    (hc : permits (.feature cam.handle f.key r)) (detail : String) :
    (cam.request f r detail).Makes permits 1 :=
  .call hc ⟨f.portable_key, hr⟩ hsilent _

/-- Running a command is one call. -/
theorem command_cases (f : Feature) (w : World) :
    let c := Call.feature cam.handle f.key .command
    ((w.driver.step c).reply.status = Status.success ∧
      (cam.command f).exec w = (.ok (), w.take c)) ∨
    ((w.driver.step c).reply.status ≠ Status.success ∧
      ∃ fault, (cam.command f).exec w = (.error fault, w.take c)) := by
  intro c
  have hcall := exec_call_of_silent (c := c) ⟨f.portable_key, trivial⟩ rfl
    (Request.command.function.symbol ++ "" ++ " for feature \"" ++ f.key ++ "\" failed.") w
  by_cases hstatus : (w.driver.step c).reply.status = Status.success
  · rw [if_pos hstatus] at hcall
    exact .inl ⟨hstatus, exec_bind_of_ok hcall⟩
  · rw [if_neg hstatus] at hcall
    exact .inr ⟨hstatus, _, exec_bind_of_error hcall⟩

/-- Taking back the frames that are queued is one call. -/
theorem flush_exec (w : World)
    (h : (w.driver.step (.flush cam.handle)).reply.status = Status.success) :
    cam.flush.exec w = (.ok (), w.take (.flush cam.handle)) := by
  have hcall := exec_call_of_silent (c := .flush cam.handle) trivial rfl "AT_Flush failed." w
  rw [if_pos h] at hcall
  exact exec_bind_of_ok hcall

theorem int_makes (f : Feature) : (cam.int f).Makes (Call.On cam.handle .getInt) 1 :=
  .map (cam.request_makes f (r := .read .int) trivial rfl ⟨rfl, rfl⟩ "") Reply.int

/-- A buffer that is too long is refused without a call. -/
theorem queue_makes (address length : UInt64) :
    (cam.queue address length).Makes (Call.On cam.handle .queueBuffer) 1 := by
  unfold queue
  split
  · exact .throw _ 1
  · exact .map (.call (c := .queue ..) ⟨rfl, rfl⟩ trivial rfl _) fun _ => ()

/-- A frame without a size is a fault although the call succeeds. -/
theorem wait_makes (hlock : cam.hostLock = none) (timeout : Timeout) :
    (cam.wait timeout).Makes (Call.On cam.handle .waitBuffer) 1 := by
  unfold wait withoutLock
  rw [hlock]
  refine .judge (.call (c := .wait ..) ⟨rfl, rfl⟩ trivial rfl _) fun reply => ?_
  dsimp only
  split
  · exact .inr ⟨_, rfl⟩
  · exact .inl ⟨_, rfl⟩

end Camera

end CameraControl
