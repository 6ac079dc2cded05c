import CameraControl.Proofs.World.Nesting

/-
  Worlds in which subscribers make no calls.

  A world is quiet if no subscriber has a call of its own left to make. Then a notification does not
  reach the driver again: `dispatch_eq` says what it comes to without any nesting, and the driver
  after a call is the one that the call itself has left, `driver_call`.
-/

namespace CameraControl.World

variable {w w' : World}

/-- No subscriber has a call of its own to make. -/
def Quiet (w : World) : Prop := w.pendingCalls = 0

instance (w : World) : Decidable w.Quiet := inferInstanceAs (Decidable (_ = _))

theorem Quiet.willCall_eq_false (hw : w.Quiet) {token : Nat} {t : Token}
    (ht : w.tokens[token]? = some t) : t.willCall = false := by
  have hnone := List.countP_eq_zero.mp hw t (List.mem_of_getElem? ht)
  simpa using hnone

/-- Quiet worlds stay quiet, because nothing but a new token has a new call to make. -/
theorem Changes.quiet {permits : Call → Prop} (h : Changes permits w w') (hw : w.Quiet) :
    w'.Quiet := by
  have hle := h.pendingCalls_le
  unfold Quiet at hw ⊢
  omega

/-! ## Notifications -/

/-- What a notification comes to in a quiet world. -/
theorem dispatch_eq (hw : w.Quiet) {token : Nat} {t : Token} (ht : w.tokens[token]? = some t)
    (handle : Int32) (reported : String) :
    w.dispatch token handle reported =
      let heard := w.hear token t handle reported
      match w.admission token t handle reported with
      | .mismatch breach => (.refused breach, heard)
      | .stale => (.answered true, heard)
      | .precall => (.answered true, heard.absorb token)
      | .invoke => ((t.reaction t.invocations).verdict, heard.invoke token t) := by
  unfold dispatch dispatchWithin
  rw [ht]
  dsimp only
  cases w.admission token t handle reported with
  | invoke => simp [hw.willCall_eq_false ht]
  | _ => rfl

/-- A notification for a token that there is not. -/
theorem dispatch_of_none {token : Nat} (ht : w.tokens[token]? = none) (handle : Int32)
    (reported : String) : w.dispatch token handle reported = (.answered true, w) := by
  unfold dispatch dispatchWithin
  rw [ht]

theorem driver_dispatch (hw : w.Quiet) (token : Nat) (handle : Int32) (reported : String) :
    (w.dispatch token handle reported).2.driver = w.driver := by
  cases ht : w.tokens[token]? with
  | none => rw [dispatch_of_none ht]
  | some t =>
    rw [dispatch_eq hw ht]
    dsimp only
    split <;> rfl

theorem quiet_dispatch (hw : w.Quiet) (token : Nat) (handle : Int32) (reported : String) :
    (w.dispatch token handle reported).2.Quiet := by
  have hchanges : Changes (fun _ => True) w (w.dispatch token handle reported).2 :=
    dispatch_changes token handle reported fun _ _ _ _ => trivial
  exact hchanges.quiet hw

theorem driver_deliverAll (hw : w.Quiet) (notices : List Notice) :
    (w.deliverAll notices).2.driver = w.driver := by
  induction notices generalizing w with
  | nil => rfl
  | cons n rest ih =>
    have hfirst : (w.deliver n).2.driver = w.driver := driver_dispatch hw _ _ _
    have hquiet : (w.deliver n).2.Quiet := quiet_dispatch hw _ _ _
    exact (ih hquiet).trans hfirst

/-! ## Calls -/

theorem quiet_call (hw : w.Quiet) (c : Call) : (w.call c).2.Quiet :=
  (call_changes_any w c).quiet hw

/-- The driver after a call is the one that the call itself has left. -/
theorem driver_call (hw : w.Quiet) {c c' : Call} (hpass : w.backend.pass? c = some c') :
    (w.call c).1 = (w.driver.step c').reply ∧ (w.call c).2.driver = (w.driver.step c').driver := by
  rw [call_of_passed hpass]
  have htaken : (w.take c').Quiet := hw
  exact ⟨rfl, driver_deliverAll htaken _⟩

end CameraControl.World
