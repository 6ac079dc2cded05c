import CameraControl.Camera.Overlay
import CameraControl.Proofs.Camera.Uses
import CameraControl.Proofs.Driver.Content
import CameraControl.Proofs.World.Turn

/-
  Actions that change nothing but the log.

  Reading from a camera makes requests that read, one or several, and may end in a fault between
  any two of them. Whatever comes of it, the calls that were made are in the log of the driver and
  in the history, and nothing else has changed, `Glances`: no token, no session, no device, and no
  subscriber was asked to act.
-/

namespace CameraControl

namespace World

variable {w w' w'' : World}

/-- Between two worlds some calls were made, the latest first, and nothing came of them. -/
def Looked (w w' : World) : Prop :=
  ∃ calls : List (Call × Reply), w' =
    { w with
      driver := { w.driver with log := calls.map (fun p => p.1.function) ++ w.driver.log }
      history := calls.map (fun p => .called p.1 p.2) ++ w.history }

theorem Looked.refl (w : World) : Looked w w := ⟨[], rfl⟩

theorem Looked.trans (h : Looked w w') (h' : Looked w' w'') : Looked w w'' := by
  obtain ⟨calls, rfl⟩ := h
  obtain ⟨calls', rfl⟩ := h'
  refine ⟨calls' ++ calls, ?_⟩
  simp only [List.map_append, List.append_assoc]

/-- Calls of which nothing comes ask nobody to act. -/
theorem Looked.eventsSince_eq (h : Looked w w') : w'.eventsSince w = [] := by
  obtain ⟨calls, rfl⟩ := h
  have hnone : ∀ h ∈ calls.map fun p => Happening.called p.1 p.2, h.event? = none := by
    intro h hmem
    obtain ⟨p, -, rfl⟩ := List.mem_map.mp hmem
    rfl
  rw [eventsSince_of_append (w := w) rfl, List.filterMap_eq_nil_iff]
  exact fun h hmem => hnone h (List.mem_reverse.mp hmem)

/-- A request that reads, whether it succeeds or fails. -/
theorem looked_reading (w : World) (handle : Int32) (f : Feature) {r : Request}
    (hr : r.isReading = true) (hportable : r.Portable) :
    Looked w (w.call (.feature handle f.key r)).2 := by
  rw [w.call_reading handle f r hr hportable]
  refine ⟨[(.feature handle f.key r, (w.driver.step (.feature handle f.key r)).reply)], ?_⟩
  rw [take, w.driver.step_reading handle f.key hr]
  rfl

end World

namespace Action

variable {α β : Type}

/-- Whatever comes of an action, it makes calls of which nothing comes. -/
def Glances (a : Action α) : Prop := ∀ w : World, w.Looked (a.exec w).2

namespace Glances

theorem pure (x : α) : Glances (Pure.pure x : Action α) := World.Looked.refl

theorem throw (fault : Fault) : Glances (MonadExcept.throw fault : Action α) := World.Looked.refl

theorem bind {a : Action α} {f : α → Action β} (ha : a.Glances) (hf : ∀ x, (f x).Glances) :
    (a >>= f).Glances :=
  fun w => exec_bind_keeps (ha w) fun x w' hfirst => hfirst.trans (hf x w')

theorem mapM {f : α → Action β} (hf : ∀ x, (f x).Glances) (l : List α) : (l.mapM f).Glances := by
  induction l with
  | nil => exact .pure []
  | cons x rest ih =>
    rw [List.mapM_cons]
    exact .bind (hf x) fun y => .bind ih fun ys => .pure (y :: ys)

theorem ite {a a' : Action α} (ha : a.Glances) (ha' : a'.Glances) (b : Bool) :
    Glances (if b = true then a else a') := by
  cases b with
  | true => exact ha
  | false => exact ha'

end Glances

end Action

namespace Camera

open CameraControl.Action (Glances)

variable (cam : Camera)

/-! ## Features -/

theorem request_glances (f : Feature) (r : Request) (hr : r.isReading = true)
    (hportable : r.Portable) (detail : String) : (cam.request f r detail).Glances := by
  intro w
  rw [request, Action.exec_call]
  exact w.looked_reading cam.handle f hr hportable

theorem can_glances (f : Feature) (c : Capability) : (cam.can f c).Glances :=
  .bind (cam.request_glances f (.ask c) rfl trivial "") fun _ => .pure _

theorem read_glances (f : Feature) (r : Reading) : (cam.read f r).Glances :=
  cam.request_glances f (.read r) rfl trivial ""

theorem readInt_glances (f : Feature) (r : Reading) : (cam.readInt f r).Glances :=
  .bind (cam.read_glances f r) fun _ => .pure _

theorem readFloat_glances (f : Feature) (r : Reading) : (cam.readFloat f r).Glances :=
  .bind (cam.read_glances f r) fun _ => .pure _

theorem readWord_glances (f : Feature) (r : Reading) : (cam.readWord f r).Glances :=
  .bind (cam.read_glances f r) fun _ => .pure _

theorem bool_glances (f : Feature) : (cam.bool f).Glances :=
  .bind (cam.read_glances f _) fun _ => .pure _

theorem intRange_glances (f : Feature) : (cam.intRange f).Glances :=
  .bind (cam.readInt_glances f _) fun _ => .bind (cam.readInt_glances f _) fun _ => .pure _

theorem floatRange_glances (f : Feature) : (cam.floatRange f).Glances :=
  .bind (cam.readFloat_glances f _) fun _ => .bind (cam.readFloat_glances f _) fun _ => .pure _

theorem isIndexAvailable_glances (f : Feature) (i : Int32) : (cam.isIndexAvailable f i).Glances :=
  .bind (cam.request_glances f (.isIndexAvailable i) rfl trivial _) fun _ => .pure _

theorem isIndexImplemented_glances (f : Feature) (i : Int32) :
    (cam.isIndexImplemented f i).Glances :=
  .bind (cam.request_glances f (.isIndexImplemented i) rfl trivial _) fun _ => .pure _

theorem enumTextAt_glances (f : Feature) (i : Int32) : (cam.enumTextAt f i).Glances :=
  .bind (cam.request_glances f (.enumText i textBuffer) rfl textBuffer_fits _) fun _ => .pure _

theorem enumText_glances (f : Feature) : (cam.enumText f).Glances :=
  .bind (cam.readWord_glances f _) fun i => cam.enumTextAt_glances f i

/-- The options are read one after another; the first that fails ends the reading. -/
theorem enumTexts_glances (f : Feature) : (cam.enumTexts f).Glances :=
  .bind (cam.readWord_glances f _) fun _ => .mapM (fun _ => cam.enumTextAt_glances f _) _

theorem text_glances (f : Feature) : (cam.text f).Glances :=
  .bind (cam.request_glances f (.text textBuffer) rfl textBuffer_fits _) fun _ => .pure _

theorem choice_glances (f : Family) : (cam.choice f).Glances := by
  refine .bind (cam.readWord_glances _ _) fun i => ?_
  split
  · exact .pure _
  · exact .throw _

/-! ## Settings -/

theorem has_glances (f : Feature) : (cam.has f).Glances :=
  .bind (cam.can_glances f _) fun there => .ite (cam.can_glances f _) (.pure _) there

theorem readIf_glances {α : Type} (f : Feature) {a : Action α} (ha : a.Glances) :
    (cam.readIf f a).Glances :=
  .bind (cam.has_glances f) fun there => .ite (.bind ha fun _ => .pure _) (.pure _) there

theorem choiceIf_glances (f : Family) : (cam.choiceIf f).Glances :=
  cam.readIf_glances _ (cam.choice_glances f)

theorem aoi_glances : cam.aoi.Glances :=
  .bind (cam.readInt_glances _ _) fun _ => .bind (cam.readInt_glances _ _) fun _ =>
    .bind (cam.readInt_glances _ _) fun _ => .bind (cam.readInt_glances _ _) fun _ => .pure _

theorem settings_glances : cam.settings.Glances := by
  have hint f := cam.readIf_glances f (cam.readInt_glances f .int)
  have hfloat f := cam.readIf_glances f (cam.readFloat_glances f .float)
  have hbool f := cam.readIf_glances f (cam.bool_glances f)
  exact .bind (cam.readIf_glances _ cam.aoi_glances) fun _ =>
    .bind (hfloat _) fun _ => .bind (hfloat _) fun _ => .bind (hint _) fun _ =>
    .bind (hint _) fun _ => .bind (cam.choiceIf_glances _) fun _ =>
    .bind (cam.choiceIf_glances _) fun _ => .bind (cam.choiceIf_glances _) fun _ =>
    .bind (cam.choiceIf_glances _) fun _ => .bind (cam.choiceIf_glances _) fun _ =>
    .bind (cam.choiceIf_glances _) fun _ => .bind (cam.choiceIf_glances _) fun _ =>
    .bind (cam.choiceIf_glances _) fun _ => .bind (hbool _) fun _ => .bind (hbool _) fun _ =>
    .bind (hbool _) fun _ => .bind (hbool _) fun _ => .pure _

end Camera

end CameraControl
