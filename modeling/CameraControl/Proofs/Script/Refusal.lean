import CameraControl.Proofs.Camera.Refusal
import CameraControl.Proofs.Driver.Procedure
import CameraControl.Proofs.Script.Parts

/-
  Steps that fail because the driver refused a call.

  `soleCall?` gives the call of the steps that make one call. Such a step ends in a fault of the
  device only if the driver refused this call, so it has left the driver as it was.
-/

namespace CameraControl.Script

/-- The call that a step with a camera makes, if it makes no more than one. -/
def CameraStep.soleCall? (s : State) (cam : Camera) : CameraStep → Option Call
  | close => some (.close cam.handle)
  | can f c => some (.feature cam.handle f.key (.ask c))
  | read f r => some (.feature cam.handle f.key (.read r))
  | write f w => some (.feature cam.handle f.key (.write w))
  | enumTextAt f i => some (.feature cam.handle f.key (.enumText i Camera.textBuffer))
  | isIndexAvailable f i => some (.feature cam.handle f.key (.isIndexAvailable i))
  | isIndexImplemented f i => some (.feature cam.handle f.key (.isIndexImplemented i))
  | command f => some (.feature cam.handle f.key .command)
  | text f => some (.feature cam.handle f.key (.text Camera.textBuffer))
  | choice f => some (.feature cam.handle f.feature.key (.read .enumIndex))
  | setChoice f c => some (.feature cam.handle f.feature.key (.write (.enumIndex c.index)))
  | subscribe _ f _ _ => some (cam.subscription f s.world)
  | unsubscribe label => do
    let id ← Entries.get? s.tokens label
    let t ← s.world.tokens[id]?
    some (.feature cam.handle t.feature.key (.unsubscribe id))
  | queue address length => some (.queue cam.handle address (Int32.ofNat length.toNat))
  | wait timeout => some (.wait cam.handle timeout.asMillis)
  | flush => some (.flush cam.handle)
  | _ => none

/-! ## Where faults come from -/

/-- A fault of a step that does something and answers with something of its outcome. -/
theorem run_act_error {α β : Type} {a : Action α} {f : α → Run β} {s : State} {fault : Fault}
    (hf : ∀ x s, ((f x).run s).1 ≠ .error (.fault fault))
    (h : ((Run.act a >>= f).run s).1 = .error (.fault fault)) :
    (a.exec s.world).1 = .error fault ∧
      ((Run.act a >>= f).run s).2.world = (a.exec s.world).2 := by
  rw [run_bind, Run.run_act] at h ⊢
  rcases hexec : a.exec s.world with ⟨outcome, w⟩
  rw [hexec] at h
  cases outcome with
  | ok x => exact absurd h (hf x { s with world := w })
  | error e =>
    cases h
    exact ⟨rfl, rfl⟩

/-- A step that is a single action with a sole call. -/
theorem refused_of_sole {α : Type} {a : Action α} {c : Call} {answer : α → Answer} {s : State}
    {description : String} {code : Status} (ha : a.Sole c)
    (h : ((do return answer (← Run.act a) : Run Answer).run s).1 =
      .error (.fault (.device description code))) :
    World.Refused c code s.world ((do return answer (← Run.act a) : Run Answer).run s).2.world ∧
      World.Still s.world ((do return answer (← Run.act a) : Run Answer).run s).2.world := by
  obtain ⟨hexec, hworld⟩ := run_act_error (fun _ _ h => by cases h) h
  rw [hworld]
  exact ha _ _ _ hexec

/-- What a subscription does after its action: the token gets a name, and is the answer. -/
def answerToken (label : String) (id : Nat) : Run Answer := do
  modify fun s => { s with tokens := Entries.put s.tokens label id }
  return .subscribed (← Run.tokenAt id)

theorem answerToken_keeps (label : String) (id : Nat) (s : State) :
    ((answerToken label id).run s).2.world = s.world := by
  have hrun : (answerToken label id).run s = (do return .subscribed (← Run.tokenAt id)
      : Run Answer).run { s with tokens := Entries.put s.tokens label id } := rfl
  rw [hrun, run_bind_snd fun _ _ => rfl, Run.tokenAt_keeps]

theorem answerToken_ne_fault (label : String) {fault : Fault} (id : Nat) (s : State) :
    ((answerToken label id).run s).1 ≠ .error (.fault fault) := by
  have hrun : (answerToken label id).run s = (do return .subscribed (← Run.tokenAt id)
      : Run Answer).run { s with tokens := Entries.put s.tokens label id } := rfl
  rw [hrun, run_bind, Run.run_tokenAt]
  cases s.world.tokens[id]? <;> exact fun h => by cases h

/-- A step of one call that ends in a fault of the device does nothing but have the call counted. -/
theorem refused_of_soleCall {s : State} {cam : Camera} {step : CameraStep} {c : Call}
    {description : String} {code : Status} (name : String) (hc : step.soleCall? s cam = some c)
    (h : ((runCamera name cam step).run s).1 = .error (.fault (.device description code))) :
    World.Refused c code s.world ((runCamera name cam step).run s).2.world ∧
      (step.Plain → World.Still s.world ((runCamera name cam step).run s).2.world) := by
  have hplain {α : Type} {a : Action α} (answer : α → Answer) (ha : a.Sole c)
      (hstep : runCamera name cam step = (do return answer (← Run.act a))) :
      World.Refused c code s.world ((runCamera name cam step).run s).2.world ∧
        (step.Plain → World.Still s.world ((runCamera name cam step).run s).2.world) := by
    rw [hstep] at h ⊢
    obtain ⟨hrefused, hstill⟩ := refused_of_sole ha h
    exact ⟨hrefused, fun _ => hstill⟩
  cases step with
  | close =>
    cases hc
    -- the name of the camera is taken away first
    have hrun : (runCamera name cam .close).run s =
        (do Run.act cam.close; return .nothing : Run Answer).run
          { s with cameras := Entries.erase s.cameras name } := rfl
    rw [hrun] at h ⊢
    obtain ⟨hexec, hworld⟩ := run_act_error (fun _ _ h => by cases h) h
    rw [hworld]
    exact ⟨cam.close_refused hexec, False.elim⟩
  | can f cap =>
    cases hc
    exact hplain _ (cam.reading_sole f (r := .ask cap) trivial _ Reply.flag) rfl
  | read f r =>
    cases hc
    exact hplain _ (cam.request_sole f (r := .read r) trivial _) rfl
  | write f w =>
    cases hc
    exact hplain (fun _ => .nothing) (cam.write_sole f w) rfl
  | enumTextAt f i =>
    cases hc
    exact hplain _ (cam.reading_sole f (r := .enumText i _) trivial _ Camera.bufferText) rfl
  | isIndexAvailable f i =>
    cases hc
    exact hplain _ (cam.reading_sole f (r := .isIndexAvailable i) trivial _ Reply.flag) rfl
  | isIndexImplemented f i =>
    cases hc
    exact hplain _ (cam.reading_sole f (r := .isIndexImplemented i) trivial _ Reply.flag) rfl
  | command f =>
    cases hc
    exact hplain (fun _ => .nothing)
      (cam.reading_sole f (r := .command) trivial _ fun _ => ()) rfl
  | text f =>
    cases hc
    exact hplain _ (cam.reading_sole f (r := .text _) trivial _ Camera.bufferText) rfl
  | choice f =>
    cases hc
    exact hplain _ (cam.choice_sole f) rfl
  | setChoice f choice =>
    cases hc
    exact hplain (fun _ => .nothing) (cam.write_sole f.feature _) rfl
  | subscribe label f reactions nested =>
    cases hc
    have hrun : (runCamera name cam (.subscribe label f reactions nested)).run s =
        (Run.act (cam.subscribe label f reactions nested) >>= answerToken label).run s := rfl
    rw [hrun] at h ⊢
    obtain ⟨hexec, hworld⟩ := run_act_error (answerToken_ne_fault label) h
    rw [hworld]
    exact ⟨cam.subscribe_refused hexec, False.elim⟩
  | unsubscribe label =>
    obtain ⟨id, hid, hc⟩ := Option.bind_eq_some_iff.mp hc
    obtain ⟨t, ht, hc⟩ := Option.bind_eq_some_iff.mp hc
    cases hc
    have hrun : (runCamera name cam (.unsubscribe label)).run s =
        (do Run.act (cam.unsubscribe id); return .nothing : Run Answer).run s := by
      rw [runCamera, run_bind, Run.run_token, hid]
    rw [hrun] at h ⊢
    obtain ⟨hexec, hworld⟩ := run_act_error (fun _ _ h => by cases h) h
    obtain ⟨t', ht', hrefused⟩ := cam.unsubscribe_refused hexec
    obtain rfl : t = t' := Option.some.inj (ht.symm.trans ht')
    rw [hworld]
    exact ⟨hrefused, False.elim⟩
  | queue address length =>
    cases hc
    exact hplain (fun _ => .nothing) (cam.queue_sole address length) rfl
  | wait timeout =>
    cases hc
    exact hplain (fun address => .number address.toNat) (cam.wait_sole timeout) rfl
  | flush =>
    cases hc
    exact hplain (fun _ => .nothing) cam.flush_sole rfl
  | info | drop | intRange | floatRange | enumText | enumTexts | apply | settings | hostLock =>
    cases hc

/-! ## Calls and steps that fail -/

/-- A call that fails changes nothing. In every reachable state of the driver the functions, run
    statement by statement, come to what a step of the driver says; and if a call ends with a status
    other than success, the driver is the same but for the count of the function, the caller's
    variable is the same, and nobody is notified. So a step of a script that makes one call, and
    ends in a fault of the device, has changed nothing in the driver either; the code of the fault
    is the status of the call, and unless the step deals with a session or a token, these are the
    same as well. -/
theorem failed_calls_change_nothing (devices : List Device) :
    (∀ (ops : List Operation) (c : Call) (cell : Option Output),
      let d := (Driver.ofDevices devices).run ops
      let ended := Procedure.ended c ⟨d, cell, []⟩
      (ended.1 = (d.step c).reply.status ∧
        ended.2 = ⟨(d.step c).driver, (d.step c).reply.output <|> cell, (d.step c).notices⟩) ∧
      (ended.1 ≠ Status.success →
        ended.2 = ⟨{ d with log := c.function :: d.log }, cell, []⟩ ∧
        ∀ f, ended.2.driver.callCount f = d.callCount f + if c.function = f then 1 else 0)) ∧
    ∀ (s : State) (name : String) (cam : Camera) (step : CameraStep) (c : Call)
      (description : String) (code : Status), step.soleCall? s cam = some c →
      let ended := (runCamera name cam step).run s
      ended.1 = .error (.fault (.device description code)) →
        World.Refused c code s.world ended.2.world ∧
        (step.Plain → World.Still s.world ended.2.world) := by
  refine ⟨fun ops c cell => ?_, fun s name cam step c description code hc =>
    refused_of_soleCall name hc⟩
  intro d ended
  have hended : ended = ((d.step c).reply.status,
      ⟨(d.step c).driver, (d.step c).reply.output <|> cell, [] ++ (d.step c).notices⟩) :=
    Procedure.ended_eq c (Driver.coherent_of_run devices ops) (Driver.placed_of_run devices ops)
  rw [hended, List.nil_append]
  refine ⟨⟨rfl, rfl⟩, fun hfailed => ⟨?_, fun f => d.callCount_step c f⟩⟩
  rw [Driver.step_of_failed hfailed]
  rfl

/-- A write to a feature that callers may only read, and a command that is none, through a camera
    whose calls go by way of the library. -/
theorem failed_calls_change_nothing_read_only :
    let devices := [Device.bare "A"]
    let d := (Driver.ofDevices devices).run [.call (.open 0)]
    let c : Call := .feature 100 "Camera Model" (.write (.text "B"))
    let s := (runSteps (start .library devices) [.openCamera "a" 0]).2
    let cam : Camera := ⟨0, 0, 100, none⟩
    let step : CameraStep := .command .cameraModel
    let after := ((runCamera "a" cam step).run s).2
    (Procedure.ended c ⟨d, some (.word 7), []⟩).2 =
        ⟨{ d with log := .setString :: d.log }, some (.word 7), []⟩ ∧
      s.cameras = [("a", cam)] ∧
      World.Refused (.feature 100 Feature.cameraModel.key .command) Status.notImplemented
        s.world after.world ∧
      World.Still s.world after.world := by
  intro devices d c s cam step after
  obtain ⟨hdriver, hscript⟩ := failed_calls_change_nothing devices
  have hfailed : (Procedure.ended c ⟨d, some (.word 7), []⟩).1 ≠ Status.success := by
    decide +kernel
  have hfault : ((runCamera "a" cam step).run s).1 = .error (.fault (.device
      (Function.command.symbol ++ "" ++ " for feature \"" ++ Feature.cameraModel.key ++
        "\" failed.") Status.notImplemented)) := rfl
  obtain ⟨hrefused, hstill⟩ := hscript s "a" cam step _ _ _ rfl hfault
  exact ⟨((hdriver [.call (.open 0)] c (some (.word 7))).2 hfailed).1, by decide +kernel, hrefused,
    hstill trivial⟩

end CameraControl.Script
