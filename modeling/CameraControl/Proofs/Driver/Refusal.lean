import CameraControl.Proofs.Driver.Effects
import CameraControl.Proofs.Entries

/-
  The codes of refused calls.

  An attempt that fails does so with a code of its own, never with that of success, unless opening a
  device is ordered to fail with just that code. In a driver without such orders, which is called
  honest here, success means that the call took effect.
-/

namespace CameraControl

/-- A computation does not fail with the code of success. -/
def Frank {α : Type} (x : Except Status α) : Prop := ∀ code, x = .error code → code ≠ Status.success

namespace Frank

variable {α β : Type}

theorem ok (a : α) : Frank (.ok a) := fun _ h => by cases h

theorem error {code : Status} (h : code ≠ Status.success) :
    Frank (.error code : Except Status α) := by
  rintro _ ⟨⟩
  exact h

theorem bind {x : Except Status α} {f : α → Except Status β} (hx : Frank x)
    (hf : ∀ a, Frank (f a)) : Frank (x >>= f) := by
  cases x with
  | error code =>
    rintro _ ⟨⟩
    exact hx code rfl
  | ok a => exact hf a

end Frank

/-! ## Devices -/

theorem Content.option_frank (c : Content) (i : Int32) : Frank (c.option i) := by
  unfold Content.option
  split
  · split
    · exact .ok _
    · exact .error (by decide)
  · exact .error (by decide)

theorem Content.write_frank (c : Content) (w : Write) : Frank (c.write w) := by
  unfold Content.write
  split
  · split
    · exact .error (by decide)
    · exact .ok _
  · split
    · exact .error (by decide)
    · exact .ok _
  · exact .ok _
  · split
    · exact .ok _
    · exact .error (by decide)
  · split
    · exact .error (by decide)
    · split
      · exact .ok _
      · exact .error (by decide)
  · split
    · exact .error (by decide)
    · exact .ok _
  · exact .error (by decide)

namespace Device

theorem contentOr_frank (d : Device) (key : String) : Frank (d.contentOr key) := by
  unfold contentOr
  split
  · exact .ok _
  · exact .error (by decide)

theorem write_frank (d : Device) (key : String) (w : Write) : Frank (d.write key w) := by
  unfold write
  split
  · exact .error (by decide)
  · split
    · exact .error (by decide)
    · next content _ =>
      -- the code is that of the content
      have hwrite := content.write_frank w
      cases h : content.write w with
      | error code => exact .error (hwrite code h)
      | ok c => exact .ok _

theorem command_frank (d : Device) (key : String) : Frank (d.command key) := by
  unfold command
  split
  · split
    · exact .ok _
    · split
      · exact .ok _
      · exact .ok _
  · exact .error (by decide)

end Device

/-! ## The driver -/

namespace Driver

/-- No order to fail has the code of success. -/
structure Honest (d : Driver) : Prop where
  failures : ∀ o ∈ d.failures, o.code ≠ Status.success
  openFailures : ∀ p ∈ d.openFailures, p.2 ≠ Status.success

theorem opened?_frank (d : Driver) (handle : Int32) : Frank (d.opened? handle) := by
  unfold opened?
  split
  · exact .error (by decide)
  · split
    · exact .ok _
    · exact .error (by decide)

theorem serve_frank (d : Driver) (handle : Int32) (key : String) (r : Request) :
    Frank (d.serve handle key r) := by
  refine .bind (d.opened?_frank handle) fun p => ?_
  cases r with
  | ask c => exact .ok _
  | read reading =>
    refine .bind (p.2.contentOr_frank key) fun c => ?_
    split
    · exact .ok _
    · exact .error (by decide)
  | isIndexAvailable | isIndexImplemented | enumText =>
    exact .bind (p.2.contentOr_frank key) fun c => .bind (c.option_frank _) fun _ => .ok _
  | text buffer =>
    refine .bind (p.2.contentOr_frank key) fun c => ?_
    split
    · exact .ok _
    · exact .error (by decide)
  | write w => exact .bind (p.2.write_frank key w) fun _ => .ok _
  | command => exact .bind (p.2.command_frank key) fun _ => .ok _
  | subscribe token => exact .bind (p.2.contentOr_frank key) fun _ => .ok _
  | unsubscribe token =>
    show Frank (d.unsubscribe handle key token)
    unfold unsubscribe
    dsimp only
    split
    · exact .ok _
    · exact .error (by decide)

theorem request_frank (d : Driver) (handle : Int32) (key : String) (r : Request) :
    Frank (d.request handle key r) := by
  unfold request
  split
  · split
    · unfold deviceCount
      split
      · exact .ok _
      · exact .error (by decide)
    · exact d.serve_frank handle key _
  · exact d.serve_frank handle key _

theorem openDevice_frank {d : Driver} (hd : d.Honest) (index : Int32) :
    Frank (d.openDevice index) := by
  unfold openDevice
  split
  -- an order to fail may name any code but that of success
  · next code hcode => exact .error (hd.openFailures _ (Entries.mem_of_get? hcode))
  · split
    · split
      · exact .error (by decide)
      · exact .ok _
    · exact .error (by decide)

/-- An attempt that opens nothing never fails with the code of success. -/
theorem attempt_frank_of_ne_open (d : Driver) {c : Call} (hc : ∀ index, c ≠ .open index) :
    Frank (d.attempt c) := by
  cases c with
  | «open» index => exact absurd rfl (hc index)
  | close handle =>
    show Frank (d.closeDevice handle)
    unfold closeDevice
    split
    · exact .error (by decide)
    · exact .ok _
  | feature handle key r => exact d.request_frank handle key r
  | queue handle address size =>
    refine .bind (d.opened?_frank handle) fun _ => ?_
    split
    · exact .error (by decide)
    · exact .ok _
  | wait handle timeout =>
    refine .bind (d.opened?_frank handle) fun _ => ?_
    split
    · exact .error (by decide)
    · exact .ok _
  | flush handle => exact .bind (d.opened?_frank handle) fun _ => .ok _

/-- In an honest driver, no attempt fails with the code of success. -/
theorem attempt_frank {d : Driver} (hd : d.Honest) (c : Call) : Frank (d.attempt c) := by
  cases c with
  | «open» index => exact openDevice_frank hd index
  | _ => exact d.attempt_frank_of_ne_open fun _ => Call.noConfusion

theorem honest_logged {d : Driver} (hd : d.Honest) (c : Call) : (d.logged c).Honest :=
  ⟨hd.failures, hd.openFailures⟩

/-- In an honest driver, a call succeeds exactly if it takes effect. -/
theorem step_honest {d : Driver} (hd : d.Honest) (c : Call) :
    (∃ code, code ≠ Status.success ∧ d.step c = ⟨d.logged c, ⟨code, none⟩, []⟩) ∨
    (∃ e, (d.logged c).Effects c e ∧
      d.step c = ⟨e.driver, ⟨Status.success, e.output⟩, e.notices⟩) := by
  rcases step_cases d c with ⟨code, hcode, hstep⟩ | heffect
  · refine .inl ⟨code, ?_, hstep⟩
    rcases hcode with hordered | hattempt
    -- refused by an order, or by the attempt itself
    · obtain ⟨o, ho, rfl⟩ := Option.map_eq_some_iff.mp hordered
      exact hd.failures o (List.mem_of_find?_eq_some ho)
    · exact attempt_frank (honest_logged hd c) c code hattempt
  · exact .inr heffect

/-- Calls give no orders. -/
theorem honest_step {d : Driver} (hd : d.Honest) (c : Call) : (d.step c).driver.Honest := by
  rcases step_cases d c with ⟨code, -, hstep⟩ | ⟨e, he, hstep⟩
  · rw [hstep]
    exact honest_logged hd c
  · rw [hstep]
    cases he with
    | _ => exact ⟨hd.failures, hd.openFailures⟩

end Driver

/-- An act of scripting that orders no failure with the code of success. -/
def Scripting.Honest : Scripting → Prop
  | fail _ code | failForFeature _ _ code | failOpen _ code => code ≠ Status.success
  | _ => True

theorem Driver.honest_script {d : Driver} (hd : d.Honest) {act : Scripting} (hact : act.Honest) :
    (d.script act).Honest := by
  -- both kinds of orders go to the end of one list
  have hadd {new : FailureOrder} (hnew : new.code ≠ Status.success) :
      ∀ o ∈ d.failures ++ [new], o.code ≠ Status.success := by
    intro o ho
    rcases List.mem_append.mp ho with ho | ho
    · exact hd.failures o ho
    · rw [List.mem_singleton.mp ho]
      exact hnew
  cases act with
  | fail f code => exact ⟨hadd hact, hd.openFailures⟩
  | failForFeature f feature code => exact ⟨hadd hact, hd.openFailures⟩
  | failOpen index code =>
    refine ⟨hd.failures, fun p hp => ?_⟩
    rcases Entries.mem_put hp with rfl | hp
    · exact hact
    · exact hd.openFailures p hp
  | clearFailures => exact ⟨by simp [script, clearFailures], by simp [script, clearFailures]⟩
  | _ => exact ⟨hd.failures, hd.openFailures⟩

end CameraControl
