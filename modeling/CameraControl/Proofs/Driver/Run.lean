import CameraControl.Proofs.Driver.Effects

/-
  Runs of the driver.

  A run is a list of operations: calls of the driver and acts of scripting, in the order in which
  the driver gets them. A notification is no operation of its own, because it changes nothing in
  the driver; the calls that its receiver makes come after the call that caused it, and are further
  operations of the run.
-/

namespace CameraControl

/-- Something that is done to the driver. -/
inductive Operation where
  | call (c : Call)
  | script (s : Scripting)
  deriving DecidableEq

namespace Driver

/-- The driver after an operation. -/
def operate (d : Driver) : Operation → Driver
  | .call c => (d.step c).driver
  | .script s => d.script s

/-- The driver after a run. -/
def run (d : Driver) (ops : List Operation) : Driver := ops.foldl operate d

/-- The handle that an operation hands out, if it is a call that opens a device. -/
def handedOut? (d : Driver) : Operation → Option Int32
  | .call (.open index) =>
    match (d.step (.open index)).reply.output with
    | some (.word handle) => some handle
    | _ => none
  | _ => none

/-- The handles that a run hands out, in order. -/
def handedOut (d : Driver) : List Operation → List Int32
  | [] => []
  | op :: rest => (d.handedOut? op).toList ++ (d.operate op).handedOut rest

@[simp] theorem run_nil (d : Driver) : d.run [] = d := rfl

@[simp] theorem run_cons (d : Driver) (op : Operation) (ops : List Operation) :
    d.run (op :: ops) = (d.operate op).run ops := rfl

theorem run_append (d : Driver) (ops ops' : List Operation) :
    d.run (ops ++ ops') = (d.run ops).run ops' := by
  simp [run]

theorem handedOut_append (d : Driver) (ops ops' : List Operation) :
    d.handedOut (ops ++ ops') = d.handedOut ops ++ (d.run ops).handedOut ops' := by
  induction ops generalizing d with
  | nil => rfl
  | cons op rest ih => simp [handedOut, ih]

/-- A property of the driver that every call keeps, and every act of scripting that is allowed. -/
structure Lasting (allows : Scripting → Prop) (P : Driver → Prop) : Prop where
  step : ∀ {d : Driver}, P d → ∀ c, P (d.step c).driver
  script : ∀ {d : Driver} {act : Scripting}, P d → allows act → P (d.script act)

/-- What lasts holds after every run. -/
theorem Lasting.run {allows : Scripting → Prop} {P : Driver → Prop} (hP : Lasting allows P)
    {d : Driver} (hd : P d) {ops : List Operation} (hops : ∀ act, .script act ∈ ops → allows act) :
    P (d.run ops) := by
  induction ops generalizing d with
  | nil => exact hd
  | cons op rest ih =>
    have hrest : ∀ act, .script act ∈ rest → allows act :=
      fun act hact => hops act (List.mem_cons_of_mem _ hact)
    cases op with
    | call c => exact ih (hP.step hd c) hrest
    | script act => exact ih (hP.script hd (hops act List.mem_cons_self)) hrest

/-- An operation that is not a call to open a device hands out nothing. -/
theorem handedOut?_of_ne_open {d : Driver} {c : Call} (h : ∀ index, c ≠ .open index) :
    d.handedOut? (.call c) = none := by
  cases c with
  | «open» index => exact absurd rfl (h index)
  | _ => rfl

end Driver

end CameraControl
