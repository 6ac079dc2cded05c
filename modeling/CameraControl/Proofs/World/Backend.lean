import CameraControl.Proofs.Library.Forwarding
import CameraControl.World

/-
  Worlds that differ in the backend only.

  The backend decides which calls get to the driver and in which form, and nothing else. A portable
  call arrives unchanged by every backend, so making it has the same reply in two worlds that differ
  in the backend only, and leads to two such worlds again.
-/

namespace CameraControl.World

/-- The world with its calls going another way. -/
def via (w : World) (b : Backend) : World := { w with backend := b }

variable (w : World) (b : Backend)

/-! ## Looking at the world and changing it -/

@[simp] theorem via_driver : (w.via b).driver = w.driver := rfl

@[simp] theorem via_tokens : (w.via b).tokens = w.tokens := rfl

@[simp] theorem via_isLive (session token : Nat) :
    (w.via b).isLive session token = w.isLive session token := rfl

@[simp] theorem via_record (e : Event) : (w.via b).record e = (w.record e).via b := rfl

@[simp] theorem via_take (c : Call) : (w.via b).take c = (w.take c).via b := rfl

/-! ## Notifications and calls -/

/-- Delivering notices one after another does not depend on the backend if delivering each one does
    not. -/
theorem foldl_via {f : World → Notice → World} (hf : ∀ w n, f (w.via b) n = (f w n).via b)
    (notices : List Notice) : notices.foldl f (w.via b) = (notices.foldl f w).via b := by
  induction notices generalizing w with
  | nil => rfl
  | cons n rest ih => rw [List.foldl_cons, List.foldl_cons, hf, ih]

/-- What comes of a notification, and of all that subscribers nest in it, does not depend on the
    backend: subscribers call the driver directly. -/
theorem dispatchWithin_via (depth token : Nat) (handle : Int32) (reported : String) :
    dispatchWithin depth token handle reported (w.via b) =
      ((dispatchWithin depth token handle reported w).1,
        (dispatchWithin depth token handle reported w).2.via b) := by
  induction depth using Nat.strongRecOn generalizing token handle reported w with
  | ind depth ih =>
    unfold dispatchWithin
    have hadm (t : Token) : (w.via b).admission token t handle reported =
        w.admission token t handle reported := rfl
    rw [via_tokens]
    cases ht : w.tokens[token]? with
    | none => rfl
    | some t =>
      simp only [hadm]
      cases w.admission token t handle reported with
      | mismatch breach => rfl
      | stale => rfl
      | precall => rfl
      | invoke =>
        have hinvoke : ((w.via b).hear token t handle reported).invoke token t =
            ((w.hear token t handle reported).invoke token t).via b := rfl
        simp only [hinvoke]
        split
        · cases depth with
          | zero => rfl
          | succ depth =>
            cases t.nested with
            | none => rfl
            | some c =>
              -- what the subscriber's own call causes is delivered one level further in
              have hfold := foldl_via
                (f := fun w n =>
                  (dispatchWithin depth n.token n.handle (Text.Wide.scan (some n.reported)) w).2)
                (((w.hear token t handle reported).invoke token t).take c) b
                (fun w n => by rw [ih depth (Nat.lt_succ_self depth)])
                (((w.hear token t handle reported).invoke token t).driver.step c).notices
              simp only [via_driver, via_take, hfold, via_record]
        · rfl

theorem dispatch_via (token : Nat) (handle : Int32) (reported : String) :
    (w.via b).dispatch token handle reported =
      ((w.dispatch token handle reported).1, (w.dispatch token handle reported).2.via b) :=
  dispatchWithin_via w b _ token handle reported

theorem deliver_via (n : Notice) :
    (w.via b).deliver n = ((w.deliver n).1, (w.deliver n).2.via b) := by
  unfold deliver
  rw [dispatch_via]

theorem deliverAll_via (notices : List Notice) :
    (w.via b).deliverAll notices = ((w.deliverAll notices).1, (w.deliverAll notices).2.via b) := by
  induction notices generalizing w with
  | nil => rfl
  | cons n rest ih =>
    simp only [deliverAll, deliver_via, ih]

/-- A portable call does the same by every backend. -/
theorem call_via {c : Call} (hc : c.Portable) :
    (w.via b).call c = ((w.call c).1, (w.call c).2.via b) := by
  unfold call
  -- the call arrives as it is, whichever of the two backends it takes
  rw [Backend.pass?_eq (w.via b).backend hc, Backend.pass?_eq w.backend hc]
  simp only [via_driver, via_take, deliverAll_via]

end CameraControl.World
