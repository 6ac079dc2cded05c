import CameraControl.Proofs.Driver.Soundness
import CameraControl.Proofs.World.Turn

/-
  The history of a world as a run of its driver.

  The calls and the acts of scripting in a history are the operations that the driver went through,
  the calls that subscribers nested in one another among them: `Turns.replays` says that running
  these again gives the same driver. What holds of all runs of the driver thereby holds of it.
-/

namespace CameraControl

/-- The operation of the driver that a happening is, if it is one. -/
def Happening.operation? : Happening → Option Operation
  | called c _ => some (.call c)
  | scripted s => some (.script s)
  | _ => none

namespace World

/-- The operations that the driver went through, in order. -/
def operations (w : World) : List Operation := (w.history.filterMap Happening.operation?).reverse

/-- The driver is what the operations made of an earlier one. -/
def Replays (d : Driver) (w : World) : Prop := w.driver = d.run w.operations

variable {d : Driver} {w w' : World}

theorem replays_ofDriver (backend : Backend) (d : Driver) : (ofDriver backend d).Replays d := rfl

theorem operations_note (w : World) (h : Happening) :
    (w.note h).operations = w.operations ++ h.operation?.toList := by
  cases hop : h.operation? with
  | none => simp [operations, note, hop]
  | some op => simp [operations, note, hop]

theorem replays_take (h : w.Replays d) (c : Call) : (w.take c).Replays d := by
  have hops : (w.take c).operations = w.operations ++ [.call c] := operations_note _ _
  rw [Replays, hops, Driver.run_append, ← h]
  rfl

theorem replays_script (h : w.Replays d) (s : Scripting) : (w.script s).Replays d := by
  have hops : (w.script s).operations = w.operations ++ [.script s] := operations_note _ _
  rw [Replays, hops, Driver.run_append, ← h]
  rfl

theorem Turn.replays (hturn : Turn w w') (h : w.Replays d) : w'.Replays d := by
  cases hturn with
  | change hchange =>
    cases hchange with
    | take => exact replays_take h _
    | record he => exact h
    | _ => exact h
  | script s => exact replays_script h s
  | _ => exact h

theorem Turns.replays (hturns : Turns w w') (h : w.Replays d) : w'.Replays d := by
  induction hturns with
  | refl => exact h
  | tail _ hturn ih => exact hturn.replays ih

/-- Operations come on top of the earlier ones. -/
theorem Turns.operations_grow (hturns : Turns w w') :
    ∃ later, w'.operations = w.operations ++ later := by
  obtain ⟨new, hnew⟩ := hturns.history_grows
  exact ⟨(new.filterMap Happening.operation?).reverse, by simp [operations, hnew]⟩

end World

end CameraControl
