import CameraControl.Proofs.Driver.Run
import CameraControl.Proofs.Script.Move

/-
  Properties of the driver that last.

  Notifications, cameras and scripts do nothing to the driver but call and script it, so a property
  that calls keep holds after whatever they do: `Lasting.changes` says so of notifications and
  calls, `Lasting.uses` of actions on a camera, `Lasting.runSteps` of scripts.
-/

namespace CameraControl.Driver.Lasting

open World

variable {permits : Call → Prop} {allows : Scripting → Prop} {P : Driver → Prop} {w w' : World}

section

variable (hP : Lasting allows P)

include hP

/-! ## The world -/

theorem changes (h : Changes permits w w') (hw : P w.driver) : P w'.driver := by
  induction h with
  | refl => exact hw
  | tail _ h ih =>
    cases h with
    | take => exact hP.step ih _
    | _ => exact ih

theorem call (hw : P w.driver) (c : Call) : P (w.call c).2.driver :=
  hP.changes (call_changes_any w c) hw

/-! ## Cameras -/

theorem uses {α : Type} {a : Action α} (ha : a.Uses permits) (hw : P w.driver) :
    P (a.exec w).2.driver := by
  have hchanges : Changes (fun _ => True) w (a.exec w).2 :=
    ha.changes (fun _ _ _ _ => trivial) fun _ _ _ _ => trivial
  exact hP.changes hchanges hw

theorem afterOpening (hw : P w.driver) (index : Int32) : P (Camera.afterOpening index w).driver :=
  hP.call hw _

theorem drop (hw : P w.driver) (cam : Camera) : P (cam.drop.exec w).2.driver := hP.call hw _

theorem subscribe (hw : P w.driver) (cam : Camera) (label : String) (f : Feature)
    (reactions : List Reaction) (nested : Option Call) :
    P ((cam.subscribe label f reactions nested).exec w).2.driver := by
  have hcall : P ((cam.entered (cam.newToken label f reactions nested) w).call
      (cam.subscription f w)).2.driver := by
    apply hP.call
    exact hw
  rcases cam.subscribe_exec label f reactions nested w with ⟨-, hexec⟩ | ⟨-, fault, hexec⟩
  · rw [hexec]
    exact hcall
  · rw [hexec]
    exact hcall

theorem unsubscribe (hw : P w.driver) (cam : Camera) (token : Nat) :
    P ((cam.unsubscribe token).exec w).2.driver := by
  rcases cam.unsubscribe_exec token w with
    ⟨hexec, -⟩ | ⟨t, fault, -, -, hexec⟩ | ⟨t, -, -, -, hexec⟩
  · rwa [hexec]
  · rwa [hexec]
  · rw [hexec]
    apply hP.call
    exact hw

/-! ## Scripts -/

variable {s s' : Script.State}

theorem move (h : Script.Move permits allows s s') (hs : P s.world.driver) :
    P s'.world.driver := by
  cases h with
  | changes h => exact hP.changes h hs
  | scripted hact => exact hP.script hs hact
  | named => exact hs
  | relocked => exact hs
  | opened => exact hP.afterOpening hs _
  | reopened => exact hP.drop (hP.afterOpening hs _) _
  | released => exact hP.drop hs _
  | subscribed => exact hP.subscribe hs _ _ _ _ _
  | unsubscribed => exact hP.unsubscribe hs _ _
  | visited hstatus hread => exact hP.drop (hP.changes hread (hP.afterOpening hs _)) _

theorem moves (h : Script.Moves permits allows s s') (hs : P s.world.driver) :
    P s'.world.driver := by
  induction h with
  | refl => exact hs
  | tail _ h ih => exact hP.move h ih

/-- Whatever a script does within what is allowed, the property holds afterwards. -/
theorem runSteps {steps : List Script.Step}
    (hsteps : ∀ step ∈ steps, step.Within (fun _ => True) allows) (hs : P s.world.driver) :
    P (Script.runSteps s steps).2.world.driver :=
  hP.moves (Script.runSteps_moves Script.regime_any hsteps fun _ _ _ _ => trivial) hs

end

end CameraControl.Driver.Lasting
