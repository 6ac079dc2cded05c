import CameraControl.Proofs.World.Change

/-
  How deeply notifications are nested.

  `dispatchWithin` is given a depth, so that it ends, and `dispatch` gives it the number of tokens
  whose subscribers still have a call to make. That is always enough: a call that a subscriber makes
  uses up one of them, and nothing else changes their number for the worse. Beyond it the depth
  makes no difference, so that a subscriber's own call is a call like any other.
-/

namespace CameraControl

/-- How many elements have a property after one of them was changed. -/
theorem countP_modify {α : Type} {p : α → Bool} {f : α → α} {l : List α} {i : Nat} {x : α}
    (hx : l[i]? = some x) :
    (l.modify i f).countP p + (if p x then 1 else 0) =
      l.countP p + if p (f x) then 1 else 0 := by
  induction l generalizing i with
  | nil => simp at hx
  | cons y rest ih =>
    cases i with
    | zero =>
      obtain rfl : y = x := by simpa using hx
      rw [List.modify_zero_cons, List.countP_cons, List.countP_cons]
      omega
    | succ i =>
      have hrest := ih (i := i) (by simpa using hx)
      rw [List.modify_succ_cons, List.countP_cons, List.countP_cons]
      omega

namespace World

variable {permits : Call → Prop} {w w' : World}

/-! ## Calls that subscribers still have to make -/

/-- An invocation uses up the call that the subscriber has to make. -/
theorem pendingCalls_invoke {token : Nat} {t : Token} (ht : w.tokens[token]? = some t) :
    (w.invoke token t).pendingCalls + (if t.willCall then 1 else 0) = w.pendingCalls := by
  have hcount := countP_modify (p := Token.willCall)
    (f := fun t => { t with invocations := t.invocations + 1 }) ht
  have hdone : Token.willCall { t with invocations := t.invocations + 1 } = false := by
    simp [Token.willCall]
  rw [hdone] at hcount
  exact hcount

/-- No elementary change gives a subscriber a new call to make. -/
theorem Change.pendingCalls_le (h : Change permits w w') : w'.pendingCalls ≤ w.pendingCalls := by
  cases h with
  | hear => exact Nat.le_refl _
  | @absorb token t handle reported ht =>
    have hcount := countP_modify (p := Token.willCall)
      (f := fun t => { t with precalled := true }) ht
    exact Nat.le_of_eq (Nat.add_right_cancel hcount)
  | @invoke token t handle reported ht =>
    have hused := pendingCalls_invoke (w := w.hear token t handle reported) ht
    exact Nat.le_trans (Nat.le_add_right _ _) (Nat.le_of_eq hused)
  | take => exact Nat.le_refl _
  | record => exact Nat.le_refl _

theorem Changes.pendingCalls_le (h : Changes permits w w') :
    w'.pendingCalls ≤ w.pendingCalls := by
  induction h with
  | refl => exact Nat.le_refl _
  | tail _ h ih => exact Nat.le_trans h.pendingCalls_le ih

theorem dispatchWithin_pendingCalls_le (depth token : Nat) (handle : Int32) (reported : String)
    (w : World) :
    (dispatchWithin depth token handle reported w).2.pendingCalls ≤ w.pendingCalls := by
  have hchanges : Changes (fun _ => True) w (dispatchWithin depth token handle reported w).2 :=
    dispatchWithin_changes depth token handle reported fun _ _ _ _ => trivial
  exact hchanges.pendingCalls_le

/-! ## The depth makes no difference -/

/-- Two ways to deliver notices agree if they agree where few calls are pending, and neither makes
    them more. -/
theorem foldl_eq_of_pendingCalls_le {f g : World → Notice → World} {k : Nat}
    (hle : ∀ w n, (f w n).pendingCalls ≤ w.pendingCalls)
    (hfg : ∀ w n, w.pendingCalls ≤ k → f w n = g w n) (notices : List Notice)
    (hw : w.pendingCalls ≤ k) : notices.foldl f w = notices.foldl g w := by
  induction notices generalizing w with
  | nil => rfl
  | cons n rest ih =>
    rw [List.foldl_cons, List.foldl_cons, ← hfg w n hw]
    exact ih (Nat.le_trans (hle w n) hw)

/-- Any two depths that the pending calls do not exceed give the same. -/
theorem dispatchWithin_eq {m n : Nat} (token : Nat) (handle : Int32) (reported : String)
    (hm : w.pendingCalls ≤ m) (hn : w.pendingCalls ≤ n) :
    dispatchWithin m token handle reported w = dispatchWithin n token handle reported w := by
  induction m using Nat.strongRecOn generalizing n token handle reported w with
  | ind m ih =>
    unfold dispatchWithin
    cases ht : w.tokens[token]? with
    | none => rfl
    | some t =>
      cases hadm : w.admission token t handle reported with
      | mismatch breach => simp only [hadm]
      | stale => simp only [hadm]
      | precall => simp only [hadm]
      | invoke =>
        cases hwill : t.willCall with
        | false => simp only [hadm, hwill, Bool.false_eq_true, if_false]
        | true =>
          -- the call of this subscriber is one of those pending, so neither depth is used up
          have hused := pendingCalls_invoke (w := w.hear token t handle reported) ht
          have hsame : (w.hear token t handle reported).pendingCalls = w.pendingCalls := rfl
          rw [hwill, if_pos rfl, hsame] at hused
          obtain ⟨m, rfl⟩ : ∃ m', m = m' + 1 := ⟨m - 1, by omega⟩
          obtain ⟨n, rfl⟩ : ∃ n', n = n' + 1 := ⟨n - 1, by omega⟩
          cases hnested : t.nested with
          | none => simp only [hadm, hwill, if_true, hnested]
          | some c =>
            have hfold := foldl_eq_of_pendingCalls_le
              (w := ((w.hear token t handle reported).invoke token t).take c)
              (f := fun w n =>
                (dispatchWithin m n.token n.handle (Text.Wide.scan (some n.reported)) w).2)
              (g := fun w k =>
                (dispatchWithin n k.token k.handle (Text.Wide.scan (some k.reported)) w).2)
              (k := min m n)
              (fun w _ => dispatchWithin_pendingCalls_le _ _ _ _ w)
              (fun w k hw => by rw [ih m (Nat.lt_succ_self m) (n := n) _ _ _ (by omega) (by omega)])
              (((w.hear token t handle reported).invoke token t).driver.step c).notices
              (by
                show ((w.hear token t handle reported).invoke token t).pendingCalls ≤ _
                omega)
            simp only [hadm, hwill, if_true, hnested, hfold]

/-- A depth that the pending calls do not exceed gives what `dispatch` gives. -/
theorem dispatchWithin_eq_dispatch {m : Nat} (token : Nat) (handle : Int32) (reported : String)
    (hm : w.pendingCalls ≤ m) :
    dispatchWithin m token handle reported w = w.dispatch token handle reported :=
  dispatchWithin_eq token handle reported hm (Nat.le_refl _)

/-- Delivering notices within a depth that is great enough is delivering them. -/
theorem foldl_dispatchWithin {m : Nat} (notices : List Notice) (hm : w.pendingCalls ≤ m) :
    notices.foldl (fun w n =>
      (dispatchWithin m n.token n.handle (Text.Wide.scan (some n.reported)) w).2) w =
      (w.deliverAll notices).2 := by
  induction notices generalizing w with
  | nil => rfl
  | cons n rest ih =>
    have hle := dispatchWithin_pendingCalls_le m n.token n.handle
      (Text.Wide.scan (some n.reported)) w
    rw [List.foldl_cons, ih (Nat.le_trans hle hm), dispatchWithin_eq_dispatch _ _ _ hm]
    rfl

/-- A subscriber's own call is a call of the driver like any other: its notices are delivered as
    those of a direct call are, before it returns. -/
theorem dispatch_nested {token : Nat} {t : Token} {c : Call} {handle : Int32} {reported : String}
    (ht : w.tokens[token]? = some t) (hadm : w.admission token t handle reported = .invoke)
    (hwill : t.willCall = true) (hc : t.nested = some c) :
    let invoked := (w.hear token t handle reported).invoke token t
    w.dispatch token handle reported =
      ((t.reaction t.invocations).verdict,
        ((invoked.take c).deliverAll (invoked.driver.step c).notices).2.record
          (.nested t.label c (invoked.driver.step c).reply)) := by
  intro invoked
  have hused := pendingCalls_invoke (w := w.hear token t handle reported) ht
  have hsame : (w.hear token t handle reported).pendingCalls = w.pendingCalls := rfl
  rw [hwill, if_pos rfl, hsame] at hused
  rw [dispatch, ← hused]
  unfold dispatchWithin
  simp only [ht, hadm, hwill, if_true, hc]
  have hdelivered := foldl_dispatchWithin (w := invoked.take c)
    (invoked.driver.step c).notices (Nat.le_refl invoked.pendingCalls)
  rw [hdelivered]

end World

end CameraControl
