import CameraControl.Proofs.Camera.Glancing
import CameraControl.Proofs.Camera.Prefix

/-
  What is noted of host locks.

  A host lock is given up and taken back around a wait, and nothing else that is done with a camera
  is noted of it. `lockings` lists what was noted. Notifications do not add to the list, whatever
  calls the subscribers nest in them: a nested wait is a call of the driver, which knows of no lock.
  `SparesLocks` is about the actions that add nothing; `wait_eq` says what a wait adds, and that it
  adds the same whether or not it succeeds.
-/

namespace CameraControl

/-- Whether an event is about a host lock. -/
def Event.isLocking : Event → Bool
  | released _ | reacquired _ => true
  | _ => false

namespace World

variable {w w' : World}

/-- What was done to host locks, the latest first. -/
def lockings (w : World) : List Event :=
  (w.history.filterMap Happening.event?).filter Event.isLocking

/-! ## Single happenings -/

theorem lockings_note {h : Happening} (hh : ∀ e, h.event? = some e → e.isLocking = false) :
    (w.note h).lockings = w.lockings := by
  unfold lockings note
  cases hevent : h.event? with
  | none => rw [List.filterMap_cons_none hevent]
  | some e =>
    rw [List.filterMap_cons_some hevent, List.filter_cons_of_neg]
    simp [hh e hevent]

theorem lockings_record (w : World) {e : Event} (he : e.isLocking = true) :
    (w.record e).lockings = e :: w.lockings := by
  show (e :: w.history.filterMap Happening.event?).filter Event.isLocking = e :: w.lockings
  exact List.filter_cons_of_pos he

/-- That a subscriber was asked to act, or that its own call has returned, is not about a lock. -/
theorem lockings_record_of_not (w : World) {e : Event} (he : e.isLocking = false) :
    (w.record e).lockings = w.lockings := by
  refine lockings_note fun e' h => ?_
  obtain rfl := Option.some.inj h
  exact he

theorem lockings_take (w : World) (c : Call) : (w.take c).lockings = w.lockings :=
  lockings_note (w := { w with driver := (w.driver.step c).driver }) fun _ h => by cases h

/-- Calls of which nothing comes are not about locks. -/
theorem Looked.lockings_eq (h : Looked w w') : w'.lockings = w.lockings := by
  obtain ⟨calls, rfl⟩ := h
  have hnone : (calls.map fun p => Happening.called p.1 p.2).filterMap Happening.event? = [] := by
    rw [List.filterMap_map]
    exact List.filterMap_eq_nil_iff.mpr fun _ _ => rfl
  unfold lockings
  rw [List.filterMap_append, hnone, List.nil_append]

/-! ## Notifications and calls -/

theorem lockings_foldl {f : World → Notice → World} (hf : ∀ w n, (f w n).lockings = w.lockings)
    (notices : List Notice) (w : World) : (notices.foldl f w).lockings = w.lockings := by
  induction notices generalizing w with
  | nil => rfl
  | cons n rest ih => rw [List.foldl_cons, ih, hf]

theorem lockings_dispatchWithin (depth token : Nat) (handle : Int32) (reported : String)
    (w : World) : (dispatchWithin depth token handle reported w).2.lockings = w.lockings := by
  induction depth using Nat.strongRecOn generalizing token handle reported w with
  | ind depth ih =>
    have hheard (t : Token) : (w.hear token t handle reported).lockings = w.lockings :=
      lockings_note fun _ h => by cases h
    unfold dispatchWithin
    split
    · rfl
    · next t ht =>
      dsimp only
      split
      · exact hheard t
      · exact hheard t
      · exact hheard t
      · have hinvoked :
            ((w.hear token t handle reported).invoke token t).lockings = w.lockings :=
          (lockings_record_of_not _ rfl).trans (hheard t)
        split
        · split
          · next depth' c hnested =>
            -- the subscriber's call and its return are noted, neither as a locking
            rw [lockings_record_of_not _ rfl,
              lockings_foldl fun w n => ih depth' (Nat.lt_succ_self _) _ _ _ w, lockings_take,
              hinvoked]
          · exact hinvoked
        · exact hinvoked

theorem lockings_dispatch (w : World) (token : Nat) (handle : Int32) (reported : String) :
    (w.dispatch token handle reported).2.lockings = w.lockings :=
  lockings_dispatchWithin _ token handle reported w

theorem lockings_deliverAll (w : World) (notices : List Notice) :
    (w.deliverAll notices).2.lockings = w.lockings := by
  induction notices generalizing w with
  | nil => rfl
  | cons n rest ih => exact (ih _).trans (lockings_dispatch w _ _ _)

theorem lockings_call (w : World) (c : Call) : (w.call c).2.lockings = w.lockings := by
  cases hpass : w.backend.pass? c with
  | none => rw [call_of_refused hpass]
  | some c' => rw [call_of_passed hpass, lockings_deliverAll, lockings_take]

/-- What is done to locks is not undone, so the events of a while in which nothing was noted of them
    are about other things. -/
theorem Turns.spares_locks (h : Turns w w') (hsame : w'.lockings = w.lockings) :
    ∀ e ∈ w'.eventsSince w, e.isLocking = false := by
  obtain ⟨new, hnew⟩ := h.history_grows
  have hnone : (new.filterMap Happening.event?).filter Event.isLocking = [] := by
    unfold lockings at hsame
    rw [hnew, List.filterMap_append, List.filter_append] at hsame
    exact List.append_left_eq_self.mp hsame
  intro e he
  rw [eventsSince_of_append hnew, List.filterMap_reverse, List.mem_reverse] at he
  simpa using List.filter_eq_nil_iff.mp hnone e he

end World

namespace Action

variable {α β : Type}

/-- Whatever comes of an action, it does nothing to a host lock. -/
def SparesLocks (a : Action α) : Prop := ∀ w : World, (a.exec w).2.lockings = w.lockings

namespace SparesLocks

theorem pure (x : α) : SparesLocks (Pure.pure x : Action α) := fun _ => rfl

theorem throw (fault : Fault) : SparesLocks (MonadExcept.throw fault : Action α) := fun _ => rfl

theorem bind {a : Action α} {f : α → Action β} (ha : a.SparesLocks)
    (hf : ∀ x, (f x).SparesLocks) : (a >>= f).SparesLocks := by
  intro w
  exact exec_bind_keeps (P := fun w' => w'.lockings = w.lockings) (ha w)
    fun x w' hfirst => (hf x w').trans hfirst

theorem tryCall (c : Call) : SparesLocks (Action.tryCall c) := fun w => w.lockings_call c

theorem call (c : Call) (description : String) : SparesLocks (Action.call c description) := by
  intro w
  rw [exec_call]
  exact w.lockings_call c

end SparesLocks

theorem Glances.sparesLocks {a : Action α} (ha : a.Glances) : a.SparesLocks :=
  fun w => (ha w).lockings_eq

end Action

namespace Camera

open CameraControl.Action (SparesLocks)

variable (cam : Camera)

/-! ## Writing and frames -/

/-- A text that would end early is refused before the call. -/
theorem write_sparesLocks (f : Feature) (v : Write) : (cam.write f v).SparesLocks := by
  by_cases hv : (Request.write v).Unbroken
  · rw [cam.write_of_unbroken f hv]
    exact .bind (.call _ _) fun _ => .pure ()
  · obtain ⟨s, -, -, hthrow⟩ := cam.write_of_broken f hv
    rw [hthrow]
    exact .throw _

theorem command_sparesLocks (f : Feature) : (cam.command f).SparesLocks :=
  .bind (.call _ _) fun _ => .pure ()

theorem setChoice_sparesLocks {f : Family} (c : Choice f) : (cam.setChoice c).SparesLocks :=
  cam.write_sparesLocks _ _

theorem writeAll_sparesLocks (l : List (Feature × Write)) : (cam.writeAll l).SparesLocks := by
  induction l with
  | nil => exact .pure ()
  | cons p rest ih => exact .bind (cam.write_sparesLocks p.1 p.2) fun _ => ih

theorem apply_sparesLocks (s : Settings) : (cam.apply s).SparesLocks :=
  cam.writeAll_sparesLocks _

theorem queue_sparesLocks (address length : UInt64) : (cam.queue address length).SparesLocks := by
  unfold queue
  split
  · exact .throw _
  · exact .bind (.call _ _) fun _ => .pure ()

theorem flush_sparesLocks : cam.flush.SparesLocks := .bind (.call _ _) fun _ => .pure ()

/-! ## Sessions and tokens -/

theorem lockings_afterOpening (index : Int32) (w : World) :
    (afterOpening index w).lockings = w.lockings :=
  w.lockings_call _

theorem drop_sparesLocks : cam.drop.SparesLocks := fun w => w.lockings_call _

theorem close_sparesLocks : cam.close.SparesLocks := by
  intro w
  rw [close_exec]
  exact cam.drop_sparesLocks w

theorem subscribe_sparesLocks (label : String) (f : Feature) (reactions : List Reaction)
    (nested : Option Call) : (cam.subscribe label f reactions nested).SparesLocks := by
  intro w
  have hcall := (cam.entered (cam.newToken label f reactions nested) w).lockings_call
    (cam.subscription f w)
  rcases cam.subscribe_exec label f reactions nested w with ⟨-, hexec⟩ | ⟨-, fault, hexec⟩
  · rw [hexec]
    exact hcall
  · rw [hexec]
    exact hcall

theorem unsubscribe_sparesLocks (token : Nat) : (cam.unsubscribe token).SparesLocks := by
  intro w
  rcases cam.unsubscribe_exec token w with
    ⟨hexec, -⟩ | ⟨t, fault, -, -, hexec⟩ | ⟨t, -, -, -, hexec⟩
  · rw [hexec]
  · rw [hexec]
  · rw [hexec]
    exact World.lockings_call (w.modifyLive cam.session (·.erase token)) _

/-! ## Enumeration -/

theorem modelName_sparesLocks (index : Int32) : (Enumeration.modelName index).SparesLocks := by
  intro w
  rcases modelName_exec index w with ⟨-, hexec⟩ | ⟨-, hexec⟩
  · have hread := ((opening index w).text_glances .cameraModel).sparesLocks (afterOpening index w)
    rw [hexec, visiting, drop_sparesLocks, hread, lockings_afterOpening]
  · rw [hexec]
    exact w.lockings_call _

theorem modelNames_sparesLocks (index n : Nat) :
    (Enumeration.modelNames index n).SparesLocks := by
  induction n generalizing index with
  | zero => exact .pure []
  | succ n ih => exact .bind (modelName_sparesLocks _) fun _ => .bind (ih _) fun _ => .pure _

theorem deviceNames_sparesLocks : Enumeration.deviceNames.SparesLocks := by
  refine .bind (.bind (.call _ _) fun reply => ?_) fun n => modelNames_sparesLocks 0 n
  dsimp only
  split
  · exact .throw _
  · split
    · exact .throw _
    · exact .pure _

/-! ## Waiting -/

/-- The world that a call leaves which is made with the host lock given up, if there is one. -/
def lending (cam : Camera) (c : Call) (w : World) : World :=
  match cam.hostLock with
  | none => w.take c
  | some lock => ((w.record (.released lock)).take c).record (.reacquired lock)

/-- A call of which nobody hears, with the lock given up: it is taken back whether or not the call
    succeeds. -/
theorem withoutLock_call {c : Call} (hportable : c.Portable) (hc : c.notifies = false)
    (description : String) (w : World) :
    (cam.withoutLock (Action.call c description)).exec w =
      (if (w.driver.step c).reply.status = Status.success then .ok (w.driver.step c).reply
        else .error (.device description (w.driver.step c).reply.status), cam.lending c w) := by
  -- the reply does not depend on what was noted before
  have hcall (w' : World) := Action.exec_call c description w'
  simp only [World.call_of_silent hportable hc] at hcall
  unfold withoutLock lending
  cases cam.hostLock with
  | none => exact hcall w
  | some lock =>
    have hlocked := hcall (w.record (.released lock))
    show (((Action.call c description).exec (w.record (.released lock))).1,
      ((Action.call c description).exec (w.record (.released lock))).2.record
        (.reacquired lock)) = _
    rw [hlocked]
    rfl

/-- What a wait comes to when the driver has replied. -/
def waited (timeout : Timeout) (r : Reply) : Except Fault UInt64 :=
  if r.status ≠ Status.success then
    .error (.device s!"AT_WaitBuffer with timeout {timeout.message} failed." r.status)
  else if r.frame.2 ≤ 0 then .error (.protocol (.emptyFrame r.frame.2))
  else .ok r.frame.1

/-- A wait is one call with the lock given up. What comes of it is decided by the reply alone, after
    the lock was taken back. -/
theorem wait_eq (timeout : Timeout) (w : World) :
    let c := Call.wait cam.handle timeout.asMillis
    (cam.wait timeout).exec w =
      (waited timeout (w.driver.step c).reply, cam.lending c w) := by
  intro c
  have hlocked := cam.withoutLock_call (c := c) trivial rfl
    s!"AT_WaitBuffer with timeout {timeout.message} failed." w
  unfold wait waited
  by_cases hstatus : (w.driver.step c).reply.status = Status.success
  · rw [if_pos hstatus] at hlocked
    rw [if_neg (not_not_intro hstatus), Action.exec_bind_of_ok hlocked]
    dsimp only
    split <;> rfl
  · rw [if_neg hstatus] at hlocked
    rw [if_pos hstatus, Action.exec_bind_of_error hlocked]

theorem wait_sparesLocks {cam : Camera} (hlock : cam.hostLock = none) (timeout : Timeout) :
    (cam.wait timeout).SparesLocks := by
  intro w
  rw [wait_eq, lending, hlock]
  exact w.lockings_take _

end Camera

end CameraControl
