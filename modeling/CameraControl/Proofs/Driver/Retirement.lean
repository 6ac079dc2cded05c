import CameraControl.Proofs.Driver.Frames
import CameraControl.Proofs.Driver.Locality

/-
  Handles that were closed.

  The counter of handles only ever goes up, so a handle below it that is not open is never handed
  out again: it is retired. `retired_run` says that it stays so, and `Retired.step` that all a call
  on it comes to is an answer that there is no such handle, unless an order says otherwise.
-/

namespace CameraControl.Driver

variable {d : Driver} {n : Nat} {handle : Int32}

/-! ## The counter -/

/-- The counter has handed out a number of handles, and the open ones are among them. -/
structure Numbered (d : Driver) (n : Nat) : Prop where
  counted : d.Counted n
  range : ∀ h ∈ Entries.keys d.opened, 100 ≤ h ∧ h < d.nextHandle

theorem numbered_ofDevices (devices : List Device) : (ofDevices devices).Numbered 0 where
  counted := counted_ofDevices devices
  range := by simp [ofDevices]

/-- An operation either hands out the next handle and opens it, or opens none. -/
theorem operate_handles (d : Driver) (op : Operation) :
    (∃ i, d.handedOut? op = some d.nextHandle ∧
      (d.operate op).nextHandle = d.nextHandle + 1 ∧
      (d.operate op).opened = Entries.put d.opened d.nextHandle i) ∨
    (d.handedOut? op = none ∧ (d.operate op).nextHandle = d.nextHandle ∧
      ∀ h ∈ Entries.keys (d.operate op).opened, h ∈ Entries.keys d.opened) := by
  cases op with
  | script act => exact .inr ⟨rfl, nextHandle_script d act, by cases act <;> exact fun _ h => h⟩
  | call c =>
    rcases step_cases d c with ⟨code, -, hstep⟩ | ⟨e, he, hstep⟩
    · have hout : d.handedOut? (.call c) = none := by
        cases c with
        | «open» index => simp [handedOut?, hstep]
        | _ => rfl
      rw [operate, hstep]
      exact .inr ⟨hout, rfl, fun _ h => h⟩
    · rw [operate, hstep]
      cases he with
      | opened hfail hrange hlt hfree =>
        refine .inl ⟨_, ?_, rfl, rfl⟩
        rw [handedOut?, hstep]
        rfl
      | closed => exact .inr ⟨rfl, rfl, fun h hh => (Entries.mem_keys_erase.mp hh).1⟩
      | _ => exact .inr ⟨rfl, rfl, fun _ h => h⟩

/-- A call to open a device is counted and does nothing else, or it gives the next handle. -/
theorem step_open_cases (d : Driver) (index : Int32) :
    d.step (.open index) =
      ⟨d.logged (.open index), ⟨(d.step (.open index)).reply.status, none⟩, []⟩ ∨
    ((d.step (.open index)).reply = ⟨Status.success, some (.word d.nextHandle)⟩ ∧
      (d.step (.open index)).driver.deviceIndex? d.nextHandle = some index.toInt.toNat) := by
  rcases step_cases d (.open index) with ⟨code, -, hstep⟩ | ⟨e, he, hstep⟩
  · rw [hstep]
    exact .inl rfl
  · rw [hstep]
    cases he with
    | opened =>
      refine .inr ⟨rfl, ?_⟩
      show Entries.get? (Entries.put _ d.nextHandle _) d.nextHandle = _
      rw [Entries.get?_put, if_pos rfl]

/-- As long as there is room for another handle, the counter goes up. -/
theorem Counted.lt_succ (hd : d.Counted n) (hroom : n + 1 < 2147483648 - 100) :
    d.nextHandle < d.nextHandle + 1 ∧ (d.nextHandle + 1).toInt = 100 + (n + 1 : Nat) := by
  unfold Counted at hd
  have hsucc := toInt_succ (h := d.nextHandle) (by omega)
  refine ⟨?_, by omega⟩
  rw [Int32.lt_iff_toInt_lt]
  omega

theorem numbered_operate (hd : d.Numbered n) (op : Operation)
    (hfew : n + (d.handedOut? op).toList.length < 2147483648 - 100) :
    (d.operate op).Numbered (n + (d.handedOut? op).toList.length) := by
  rcases operate_handles d op with ⟨i, hout, hnext, hopened⟩ | ⟨hout, hnext, hopened⟩
  · rw [hout] at hfew ⊢
    obtain ⟨hlt, hcount⟩ := hd.counted.lt_succ hfew
    refine ⟨?_, fun h hh => ?_⟩
    · unfold Counted
      rw [hnext]
      exact hcount
    rw [hopened] at hh
    rw [hnext]
    rcases (Entries.mem_keys_put i).mp hh with rfl | hh
    · have hfirst := hd.counted
      unfold Counted at hfirst
      refine ⟨?_, hlt⟩
      rw [Int32.le_iff_toInt_le]
      show 100 ≤ d.nextHandle.toInt
      omega
    · exact ⟨(hd.range h hh).1, Int32.lt_trans (hd.range h hh).2 hlt⟩
  · rw [hout, Option.toList_none, List.length_nil, Nat.add_zero]
    refine ⟨?_, fun h hh => hnext ▸ hd.range h (hopened h hh)⟩
    unfold Counted
    rw [hnext]
    exact hd.counted

/-- Every handle that a run hands out is below the counter, and not below what it was before. -/
theorem numbered_run (hd : d.Numbered n) (ops : List Operation)
    (hfew : n + (d.handedOut ops).length < 2147483648 - 100) :
    (d.run ops).Numbered (n + (d.handedOut ops).length) ∧
      d.nextHandle ≤ (d.run ops).nextHandle ∧
      ∀ h ∈ d.handedOut ops, h < (d.run ops).nextHandle := by
  induction ops generalizing d n with
  | nil => exact ⟨hd, Int32.le_refl _, List.forall_mem_nil _⟩
  | cons op rest ih =>
    rw [handedOut, List.length_append] at hfew
    obtain ⟨hrun, hle, hlt⟩ := ih (numbered_operate hd op (by omega)) (by omega)
    rw [handedOut, List.length_append, ← Nat.add_assoc]
    refine ⟨hrun, ?_⟩
    rcases operate_handles d op with ⟨i, hout, hnext, -⟩ | ⟨hout, hnext, -⟩
    · rw [hout] at hfew ⊢
      have hup := (hd.counted.lt_succ (by simp at hfew; omega)).1
      rw [hnext] at hle
      refine ⟨Int32.le_of_lt (Int32.lt_of_lt_of_le hup hle), fun h hh => ?_⟩
      rcases List.mem_append.mp hh with hh | hh
      · rw [Option.toList_some, List.mem_singleton] at hh
        exact hh ▸ Int32.lt_of_lt_of_le hup hle
      · exact hlt h hh
    · rw [hout, Option.toList_none, List.nil_append]
      exact ⟨hnext ▸ hle, hlt⟩

/-! ## Retired handles -/

/-- A handle of a device that is not open any more. -/
structure Retired (d : Driver) (handle : Int32) : Prop where
  ne_system : handle ≠ systemHandle
  lt_next : handle < d.nextHandle
  not_open : handle ∉ Entries.keys d.opened

/-- Closing a handle retires it. -/
theorem retired_of_closed (hd : d.Numbered n) (heffect : d.TakesEffect (.close handle)) :
    (d.operate (.call (.close handle))).Retired handle := by
  obtain ⟨e, he, hstep⟩ := step_of_takesEffect (fun _ => Call.noConfusion) heffect
  rw [operate, hstep]
  cases he with
  | closed hopen =>
    obtain ⟨hlow, hlt⟩ := hd.range handle (Entries.mem_keys_of_get? hopen)
    refine ⟨?_, hlt, fun hmem => (Entries.mem_keys_erase.mp hmem).2 rfl⟩
    rintro rfl
    exact absurd hlow (by decide)

theorem retired_operate (hd : d.Numbered n) (h : d.Retired handle) (op : Operation)
    (hfew : n + (d.handedOut? op).toList.length < 2147483648 - 100) :
    (d.operate op).Retired handle := by
  rcases operate_handles d op with ⟨i, hout, hnext, hopened⟩ | ⟨-, hnext, hopened⟩
  · rw [hout] at hfew
    refine ⟨h.ne_system, ?_, ?_⟩
    · rw [hnext]
      exact Int32.lt_trans h.lt_next (hd.counted.lt_succ hfew).1
    · rw [hopened, Entries.mem_keys_put]
      rintro (heq | hmem)
      -- the handle is below the one that is handed out
      · exact Int32.lt_irrefl (heq ▸ h.lt_next)
      · exact h.not_open hmem
  · exact ⟨h.ne_system, hnext ▸ h.lt_next, fun hmem => h.not_open (hopened handle hmem)⟩

/-- A retired handle stays retired. -/
theorem retired_run (hd : d.Numbered n) (h : d.Retired handle) (ops : List Operation)
    (hfew : n + (d.handedOut ops).length < 2147483648 - 100) : (d.run ops).Retired handle := by
  induction ops generalizing d n with
  | nil => exact h
  | cons op rest ih =>
    rw [handedOut, List.length_append] at hfew
    exact ih (numbered_operate hd op (by omega)) (retired_operate hd h op (by omega)) (by omega)

/-- What is closed in a run stays closed until its end. -/
theorem retired_of_run {devices : List Device} {ops later : List Operation}
    (heffect : ((ofDevices devices).run ops).TakesEffect (.close handle))
    (hfew : (ofDevices devices).Few (ops ++ .call (.close handle) :: later)) :
    ((ofDevices devices).run (ops ++ .call (.close handle) :: later)).Retired handle := by
  unfold Few at hfew
  rw [handedOut_append, handedOut, List.length_append, List.length_append] at hfew
  obtain ⟨hbefore, -⟩ := numbered_run (numbered_ofDevices devices) ops (by omega)
  rw [run_append, run_cons]
  exact retired_run (numbered_operate hbefore _ (by omega)) (retired_of_closed hbefore heffect)
    later (by omega)

/-! ## What is left of a retired handle -/

theorem Retired.deviceIndex? (h : d.Retired handle) : d.deviceIndex? handle = none :=
  Option.eq_none_iff_forall_ne_some.mpr fun _ hi => h.not_open (Entries.mem_keys_of_get? hi)

theorem Retired.opened? (h : d.Retired handle) :
    d.opened? handle = .error Status.invalidHandle := by
  rw [Driver.opened?, h.deviceIndex?]

theorem Retired.attempt (h : d.Retired handle) {c : Call} (hc : c.handle? = some handle) :
    d.attempt c = .error Status.invalidHandle := by
  have hserve (key : String) (r : Request) :
      d.serve handle key r = .error Status.invalidHandle := by
    rw [serve, h.opened?]
    rfl
  cases c with
  | «open» => cases hc
  | close =>
    cases hc
    rw [Driver.attempt, closeDevice, h.deviceIndex?]
  | feature other key r =>
    cases hc
    rw [Driver.attempt]
    unfold request
    -- counting the devices is for the handle of the system
    split
    · rw [if_neg h.ne_system]
      exact hserve key _
    · exact hserve key _
  | queue =>
    cases hc
    rw [Driver.attempt, queueFrame, h.opened?]
    rfl
  | wait =>
    cases hc
    rw [Driver.attempt, waitFrame, h.opened?]
    rfl
  | flush =>
    cases hc
    rw [Driver.attempt, flushFrames, h.opened?]
    rfl

/-- A call on a retired handle is counted, and answers with the code of the first order about it or,
    without one, that there is no such handle. -/
theorem Retired.step (h : d.Retired handle) {c : Call} (hc : c.handle? = some handle) :
    d.step c = ⟨d.logged c, ⟨(d.orderedFailure? c).getD Status.invalidHandle, none⟩, []⟩ := by
  have hattempt : (d.logged c).attempt c = .error Status.invalidHandle :=
    Retired.attempt (d := d.logged c) ⟨h.ne_system, h.lt_next, h.not_open⟩ hc
  cases hordered : d.orderedFailure? c with
  | some code => exact Driver.step_of_order hordered
  | none => exact Driver.step_of_failedAttempt hordered hattempt

/-- Changes on a retired handle reach nobody. -/
theorem Retired.fireAs (h : d.Retired handle) (hd : d.Coherent) (key : String)
    (reportedHandle : Int32) (reported : String) :
    d.fireAs handle key reportedHandle reported = [] := by
  have hnone : d.subscribers handle key = [] := by
    refine List.filter_eq_nil_iff.mpr fun s hs => ?_
    have hne : s.handle ≠ handle := fun heq => h.not_open (heq ▸ hd.subscription_open s hs)
    simp [hne]
  rw [Driver.fireAs, hnone, noticesFor]
  split <;> rfl

end CameraControl.Driver
