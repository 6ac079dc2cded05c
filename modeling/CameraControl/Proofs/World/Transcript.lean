import CameraControl.Proofs.Driver.Refusal
import CameraControl.Proofs.World.Closing

/-
  Transcripts.

  A transcript is what was called in the course of an action, with the replies. `Course` says of two
  worlds which calls lie between them, when these only open devices, read from them and close them:
  the driver is then the same but for the counter of its handles, its log, and the handles that are
  left open because closing them failed. Courses follow one another as transcripts do.
-/

namespace CameraControl

/-- The index of the device that a call is to open. -/
def Call.openIndex? : Call → Option Int32
  | .open index => some index
  | _ => none

/-- Calls with the replies to them, in order. -/
abbrev Transcript := List (Call × Reply)

namespace Transcript

/-- What has happened, as a history has it. -/
def happenings (l : Transcript) : List Happening := l.map fun p => .called p.1 p.2

/-- The functions that were called. -/
def functions (l : Transcript) : List Function := l.map fun p => p.1.function

/-- The indices of the devices that were to be opened. -/
def indices (l : Transcript) : List Int32 := l.filterMap fun p => p.1.openIndex?

/-- How many calls to open a device succeeded. -/
def openings (l : Transcript) : Nat := l.happenings.countP Happening.isOpening

/-- Every call succeeded. -/
def Succeeds (l : Transcript) : Prop := ∀ p ∈ l, p.2.status = Status.success

/-- The first call that failed did so with a code. -/
def FailsFirst (l : Transcript) (code : Status) : Prop :=
  code ≠ Status.success ∧ ∃ (before : Transcript) (c : Call) (after : Transcript),
    l = before ++ (c, ⟨code, none⟩) :: after ∧ before.Succeeds

variable {l l' : Transcript} {code : Status}

theorem functions_append (l l' : Transcript) : (l ++ l').functions = l.functions ++ l'.functions :=
  List.map_append

theorem indices_append (l l' : Transcript) : (l ++ l').indices = l.indices ++ l'.indices :=
  List.filterMap_append

theorem happenings_append (l l' : Transcript) :
    (l ++ l').happenings = l.happenings ++ l'.happenings :=
  List.map_append

theorem openings_append (l l' : Transcript) : (l ++ l').openings = l.openings + l'.openings := by
  unfold openings
  rw [happenings_append, List.countP_append]

theorem Succeeds.append (h : l.Succeeds) (h' : l'.Succeeds) : (l ++ l').Succeeds := by
  intro p hp
  rcases List.mem_append.mp hp with hp | hp
  · exact h p hp
  · exact h' p hp

theorem Succeeds.failsFirst (h : l.Succeeds) (h' : l'.FailsFirst code) :
    (l ++ l').FailsFirst code := by
  obtain ⟨hcode, before, c, after, rfl, hbefore⟩ := h'
  exact ⟨hcode, l ++ before, c, after, (List.append_assoc ..).symm, h.append hbefore⟩

end Transcript

namespace World

/-- The calls of a transcript lie between two worlds. Handles that were opened are closed once, and
    one at most is left open, where closing it failed; nothing else of the driver differs but the
    counter of the handles and the log. -/
structure Course (w w' : World) (l : Transcript) (left : List (Int32 × Nat)) : Prop where
  history : w'.history = l.happenings.reverse ++ w.history
  driver : w'.driver =
    { w.driver with
      nextHandle := w'.driver.nextHandle
      opened := w.driver.opened ++ left
      log := l.functions.reverse ++ w.driver.log }
  balance : l.functions.count .close = l.openings
  closings :
    (left = [] ∧ ∀ handle r, (Call.close handle, r) ∈ l → r.status = Status.success) ∨
      ∃ handle i r, left = [(handle, i)] ∧ (Call.close handle, r) ∈ l ∧ r.status ≠ Status.success

variable {w w' w'' : World} {l l' : Transcript} {left : List (Int32 × Nat)}

/-- What a call that is told by its outcome leaves. -/
theorem take_of_step {c : Call} {d : Driver} {r : Reply} {notices : List Notice}
    (h : w.driver.step c = ⟨d, r, notices⟩) :
    (w.take c).driver = d ∧ (w.take c).history = .called c r :: w.history := by
  refine ⟨congrArg Outcome.driver h, ?_⟩
  show Happening.called c (w.driver.step c).reply :: w.history = _
  rw [h]

/-- Nothing was called. -/
theorem Course.refl (w : World) : Course w w [] [] where
  history := rfl
  driver := by
    rw [List.append_nil]
    rfl
  balance := rfl
  closings := .inl ⟨rfl, fun _ _ h => absurd h List.not_mem_nil⟩

theorem Course.trans (h : Course w w' l []) (h' : Course w' w'' l' left) :
    Course w w'' (l ++ l') left where
  history := by
    rw [h'.history, h.history, Transcript.happenings_append, List.reverse_append,
      List.append_assoc]
  driver := by
    rw [h'.driver, h.driver, Transcript.functions_append, List.reverse_append, List.append_nil,
      List.append_assoc]
  balance := by
    rw [Transcript.functions_append, List.count_append, Transcript.openings_append, h.balance,
      h'.balance]
  closings := by
    -- whatever was closed first is closed
    have hfirst : ∀ handle r, (Call.close handle, r) ∈ l → r.status = Status.success := by
      rcases h.closings with ⟨-, hall⟩ | ⟨handle, i, r, hnil, -⟩
      · exact hall
      · cases hnil
    rcases h'.closings with ⟨hleft, hlast⟩ | ⟨handle, i, r, hleft, hmem, hstatus⟩
    · refine .inl ⟨hleft, fun handle r hmem => ?_⟩
      rcases List.mem_append.mp hmem with hmem | hmem
      · exact hfirst handle r hmem
      · exact hlast handle r hmem
    · exact .inr ⟨handle, i, r, hleft, List.mem_append_right l hmem, hstatus⟩

/-- The devices, what is subscribed, what is queued and what is ordered are as before. -/
theorem Course.kept (h : Course w w' l left) :
    w'.driver.devices = w.driver.devices ∧ w'.driver.subscriptions = w.driver.subscriptions ∧
      w'.driver.queues = w.driver.queues ∧ w'.driver.opened = w.driver.opened ++ left ∧
      w'.driver.failures = w.driver.failures ∧
      w'.driver.openFailures = w.driver.openFailures := by
  rw [h.driver]
  exact ⟨rfl, rfl, rfl, rfl, rfl, rfl⟩

theorem Course.callCount (h : Course w w' l left) (f : Function) :
    w'.driver.callCount f = w.driver.callCount f + l.functions.count f := by
  rw [h.driver, Driver.callCount, Driver.callCount, List.count_append, List.count_reverse,
    Nat.add_comm]

/-- Orders to fail stay as they are. -/
theorem Course.honest (h : Course w w' l left) (hw : w.driver.Honest) : w'.driver.Honest := by
  rw [h.driver]
  exact ⟨hw.failures, hw.openFailures⟩

end World

end CameraControl
