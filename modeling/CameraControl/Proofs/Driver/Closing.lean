import CameraControl.Proofs.Driver.Coherence

/-
  Which handles stay open.

  Calls other than those to open a device leave no new handle open, and as long as no order lets
  them fail, calls to close a handle leave that handle closed. `Narrows` says both of two states of
  the driver, so that it can be followed through many calls.
-/

namespace CameraControl

/-- An act of scripting that lets no call to close a handle fail. Orders that name a feature are not
    about such calls. -/
def Scripting.LetsClose : Scripting → Prop
  | fail f _ => f ≠ .close
  | _ => True

instance : DecidablePred Scripting.LetsClose
  | .fail f _ => inferInstanceAs (Decidable (f ≠ .close))
  | .deviceCount _ | .putKey _ _ _ | .putReadOnly _ _ _ | .remove _ _ | .failForFeature _ _ _
  | .failOpen _ _ | .clearFailures | .zeroSizeWaits _ => isTrue trivial

namespace Driver

variable {d d' d'' : Driver}

/-- No order lets a call to close a handle fail. -/
def LetsClose (d : Driver) : Prop := ∀ o ∈ d.failures, o.matches .close none = false

/-- No new handle is open, and no new order lets a call to close a handle fail. -/
structure Narrows (d d' : Driver) : Prop where
  letsClose : d.LetsClose → d'.LetsClose
  opened : ∀ handle ∈ Entries.keys d'.opened, handle ∈ Entries.keys d.opened

theorem Narrows.refl (d : Driver) : d.Narrows d := ⟨id, fun _ => id⟩

theorem Narrows.trans (h : d.Narrows d') (h' : d'.Narrows d'') : d.Narrows d'' :=
  ⟨fun hd => h'.letsClose (h.letsClose hd), fun _ hh => h.opened _ (h'.opened _ hh)⟩

/-! ## Calls -/

theorem failures_step (d : Driver) (c : Call) : (d.step c).driver.failures = d.failures := by
  rcases step_cases d c with ⟨code, -, hstep⟩ | ⟨e, he, hstep⟩
  · rw [hstep]
    rfl
  · rw [hstep]
    cases he <;> rfl

theorem letsClose_step (hd : d.LetsClose) (c : Call) : (d.step c).driver.LetsClose := by
  unfold LetsClose
  rwa [failures_step]

/-- Only a call to open a device leaves a new handle open. -/
theorem narrows_step (d : Driver) {c : Call} (hc : c.function ≠ .open) :
    d.Narrows (d.step c).driver := by
  refine ⟨fun hd => letsClose_step hd c, fun handle hh => ?_⟩
  rcases step_cases d c with ⟨code, -, hstep⟩ | ⟨e, he, hstep⟩
  · rw [hstep] at hh
    exact hh
  · rw [hstep] at hh
    cases he with
    | opened => exact absurd rfl hc
    | closed => exact (Entries.mem_keys_erase.mp hh).1
    | _ => exact hh

/-- The handle that a call to open a device gave is the only new one, and only if it succeeded. -/
theorem opened_step_open (d : Driver) (index : Int32) :
    ∀ handle ∈ Entries.keys (d.step (.open index)).driver.opened,
      handle ∈ Entries.keys d.opened ∨
        (d.step (.open index)).reply.status = Status.success ∧
          handle = (d.step (.open index)).reply.word noHandle := by
  intro handle hh
  rcases step_cases d (.open index) with ⟨code, -, hstep⟩ | ⟨e, he, hstep⟩
  · rw [hstep] at hh
    exact .inl hh
  · rw [hstep] at hh ⊢
    cases he with
    | opened =>
      rcases (Entries.mem_keys_put _).mp hh with heq | hold
      · exact .inr ⟨rfl, heq⟩
      · exact .inl hold

/-- A handle that may be closed is not open after it was. -/
theorem opened_step_close (hd : d.LetsClose) (handle : Int32) :
    ∀ other ∈ Entries.keys (d.step (.close handle)).driver.opened,
      other ∈ Entries.keys d.opened ∧ other ≠ handle := by
  intro other hother
  refine ⟨(d.narrows_step (c := .close handle) nofun).opened other hother, ?_⟩
  rintro rfl
  have hordered : d.orderedFailure? (.close other) = none := by
    rw [orderedFailure?, Option.map_eq_none_iff, List.find?_eq_none]
    intro o ho
    exact Bool.eq_false_iff.mp (hd o ho)
  rcases step_cases d (.close other) with ⟨code, hcode, hstep⟩ | ⟨e, he, hstep⟩
  -- without an order, the call fails only where the handle is not open
  · rcases hcode with hcode | hattempt
    · rw [hordered] at hcode
      cases hcode
    · rw [hstep] at hother
      obtain ⟨i, hi⟩ := Entries.get?_of_mem_keys hother
      have hindex : (d.logged (.close other)).deviceIndex? other = some i := hi
      rw [attempt, closeDevice, hindex] at hattempt
      cases hattempt
  · rw [hstep] at hother
    cases he with
    | closed => exact (Entries.mem_keys_erase.mp hother).2 rfl

/-! ## Scripting -/

theorem narrows_script (d : Driver) {act : Scripting} (hact : act.LetsClose) :
    d.Narrows (d.script act) := by
  refine ⟨fun hd => ?_, fun handle hh => ?_⟩
  · cases act with
    | fail f code =>
      intro o ho
      rcases List.mem_append.mp ho with ho | ho
      · exact hd o ho
      · obtain rfl := List.mem_singleton.mp ho
        have hf : f ≠ .close := hact
        simp [FailureOrder.matches, hf]
    | failForFeature f feature code =>
      intro o ho
      rcases List.mem_append.mp ho with ho | ho
      · exact hd o ho
      · obtain rfl := List.mem_singleton.mp ho
        simp [FailureOrder.matches]
    | clearFailures => exact fun o ho => absurd ho List.not_mem_nil
    | _ => exact hd
  · cases act <;> exact hh

end Driver

end CameraControl
