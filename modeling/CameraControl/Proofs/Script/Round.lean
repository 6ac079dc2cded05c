import CameraControl.Proofs.Camera.Prefix
import CameraControl.Proofs.Script.Registration
import CameraControl.Proofs.World.Round

/-
  Setters and their subscribers in all runs.

  After any orderly script, a write to a feature of an open camera is announced to the tokens that
  are live there and fully subscribed, in order and once each, with the new value in place. Writes
  that fail, and commands, are announced to nobody.
-/

namespace CameraControl

namespace Camera

/-- A setter either refuses a text that ends early, before any call, or it makes its call. -/
theorem write_cases (cam : Camera) (f : Feature) (v : Write) (w : World) :
    (∃ s, writtenText? v = some s ∧ Text.Wide.hasNul s = true ∧
      (cam.write f v).exec w = (.error (.interiorNul s), w)) ∨
    ((cam.write f v).exec w).2 = (w.call (cam.setter (f, v))).2 ∧
      (((cam.write f v).exec w).1 = .ok () ↔
        (w.call (cam.setter (f, v))).1.status = Status.success) := by
  by_cases hv : (Request.write v).Unbroken
  · refine .inr ?_
    rw [write_exec cam (p := (f, v)) hv]
    by_cases hstatus : (w.call (cam.setter (f, v))).1.status = Status.success
    · rw [if_pos hstatus]
      exact ⟨rfl, iff_of_true rfl hstatus⟩
    · rw [if_neg hstatus]
      exact ⟨rfl, iff_of_false (fun h => by cases h) hstatus⟩
  · obtain ⟨s, htext, hnul, hthrow⟩ := cam.write_of_broken f hv
    refine .inl ⟨s, htext, hnul, ?_⟩
    rw [hthrow]
    rfl

/-- A command makes its call, whatever comes of it. -/
theorem command_exec (cam : Camera) (f : Feature) (w : World) :
    ((cam.command f).exec w).2 = (w.call (.feature cam.handle f.key .command)).2 := by
  have hcall := congrArg Prod.snd (Action.exec_call (.feature cam.handle f.key .command)
    (Request.command.function.symbol ++ "" ++ " for feature \"" ++ f.key ++ "\" failed.") w)
  exact (Action.exec_bind_snd (fun _ _ => rfl) w).trans hcall

end Camera

namespace World

variable {w : World} {handle : Int32} {key : String}

/-- Nobody hears of a write that fails. -/
theorem call_failed_unheard {c : Call} (h : (w.call c).1.status ≠ Status.success) :
    (w.call c).2.tokens = w.tokens ∧ (w.call c).2.eventsSince w = [] := by
  refine call_unheard fun c' hpass => ?_
  rw [call_of_passed hpass] at h
  rw [Driver.step_of_failed h]

/-- Nobody hears of a command. -/
theorem call_command_unheard (w : World) (handle : Int32) (key : String) :
    (w.call (.feature handle key .command)).2.tokens = w.tokens ∧
      (w.call (.feature handle key .command)).2.eventsSince w = [] := by
  refine call_unheard fun c' hpass => Driver.notices_eq_nil _ ?_
  -- a command arrives as a command, whatever becomes of its key
  rcases Backend.pass?_cases hpass with rfl | ⟨_, _, key', _, r', hc, rfl, hr⟩
  · rfl
  · obtain rfl : r' = .command := by
      cases hc
      exact (Option.some.inj hr).symm
    rfl

end World

namespace Script

/-- After every orderly script that opens few handles, and for every open camera: a write that
    succeeds, by whatever spelling of the key, and with subscribers that make no calls of their
    own, has the reply of the driver alone, leaves the value as it arrived, and is announced to
    its audience and nobody else. Writes that fail and commands are announced to nobody. The setters
    of a camera make these calls. -/
theorem setters_notify (backend : Backend) (devices : List Device)
    (hbuilt : ∀ device ∈ devices, device.Built) (steps : List Step)
    (hsteps : ∀ step ∈ steps, step.Within Call.Orderly Scripting.Honest)
    (hfew : (Driver.ofDevices devices).Few
      (runSteps (start backend devices) steps).2.world.operations) :
    let s := (runSteps (start backend devices) steps).2
    let w := s.world
    ∀ name cam, Entries.get? s.cameras name = some cam →
      (∀ key v reply w', w.call (.feature cam.handle key (.write v)) = (reply, w') →
        (reply.status = Status.success → key.length ≤ Text.Wide.scanLimit →
          (∀ i ∈ w.audience cam.session key, ∀ t, w.tokens[i]? = some t → t.willCall = false) →
          ∃ v', (w.backend = .direct ∨ v.Portable → v' = v) ∧
            reply = (w.driver.step (.feature cam.handle key (.write v'))).reply ∧
            w.Announced w' cam.session cam.handle key v') ∧
        (reply.status ≠ Status.success → w'.tokens = w.tokens ∧ w'.eventsSince w = [])) ∧
      (∀ key w', (w.call (.feature cam.handle key .command)).2 = w' →
        w'.tokens = w.tokens ∧ w'.eventsSince w = []) ∧
      (∀ f v, (∃ text, Camera.writtenText? v = some text ∧ Text.Wide.hasNul text = true ∧
          (cam.write f v).exec w = (.error (.interiorNul text), w)) ∨
        ((cam.write f v).exec w).2 = (w.call (.feature cam.handle f.key (.write v))).2 ∧
          (((cam.write f v).exec w).1 = .ok () ↔
            (w.call (.feature cam.handle f.key (.write v))).1.status = Status.success)) ∧
      ∀ f, ((cam.command f).exec w).2 = (w.call (.feature cam.handle f.key .command)).2 := by
  intro s w name cam hcam
  have hkept : Kept devices s := runSteps_kept hbuilt backend hsteps
  obtain ⟨haligned, hnamed⟩ := hkept.aligned hfew
  have hturns := runSteps_turns (start backend devices) steps
  have hrostered : w.Rostered :=
    hturns.rostered (World.rostered_ofDriver backend (Driver.ofDevices devices))
  have hhomed : w.Homed :=
    hturns.homed (World.homed_ofDriver backend (Driver.ofDevices devices))
  refine ⟨?_, ?_, fun f v => cam.write_cases f v w, fun f => cam.command_exec f w⟩
  · intro key v reply w' hcall
    obtain rfl : (w.call (.feature cam.handle key (.write v))).1 = reply :=
      congrArg Prod.fst hcall
    obtain rfl : (w.call (.feature cam.handle key (.write v))).2 = w' := congrArg Prod.snd hcall
    refine ⟨fun hstatus hkey hidle => ?_, World.call_failed_unheard⟩
    cases hpass : w.backend.pass? (.feature cam.handle key (.write v)) with
    | none =>
      rw [World.call_of_refused hpass] at hstatus
      have hrefused : Status.notImplemented ≠ Status.success := by decide
      exact absurd hstatus hrefused
    | some c' =>
      obtain ⟨v', rfl, hsame⟩ := Backend.pass?_write hkey hpass
      refine ⟨v', hsame, ?_, ?_⟩
      · exact congrArg Prod.fst (World.call_of_passed hpass)
      · exact World.call_announced haligned hrostered hhomed hkept.honest
          (hnamed.session_of hcam) hkey hpass hidle hstatus
  · rintro key _ rfl
    exact World.call_command_unheard w cam.handle key

/-- A subscriber that rejects whatever it hears, and another one to another feature: the first is
    invoked once when its feature is switched on, and the feature stays on. -/
theorem setters_notify_rejecting :
    let device := ((Device.bare "A").put .overlap (.bool false)).put .metadataEnable (.bool false)
    let steps := [Step.openCamera "c" 0, .camera "c" (.subscribe "t" .overlap [.reject] none),
      .camera "c" (.subscribe "u" .metadataEnable [] none)]
    let w := (runSteps (start .direct [device]) steps).2.world
    let w' := (w.call (.feature 100 "Over lap" (.write (.bool 1)))).2
    (∀ d ∈ [device], d.Built) ∧
      (∀ step ∈ steps, step.Within Call.Orderly Scripting.Honest) ∧
      (Driver.ofDevices [device]).Few w.operations ∧
      w'.eventsSince w = [.invoked "t" .overlap] ∧
      w'.driver.contentAt? 100 "Over lap" = some (.bool true) := by
  intro device steps w w'
  have hbuilt : ∀ d ∈ [device], d.Built := by
    intro d h
    obtain rfl := List.mem_singleton.mp h
    exact .putKey _ _ (.putKey _ _ (.bare "A"))
  have hsteps : ∀ step ∈ steps, step.Within Call.Orderly Scripting.Honest := by
    intro step h
    simp only [steps, List.mem_cons, List.not_mem_nil, or_false] at h
    have hnone {act : Scripting} (h : (none : Option Scripting) = some act) : act.Honest := by
      cases h
    rcases h with rfl | rfl | rfl
    · exact ⟨by simp [Step.ownCalls], fun act => hnone⟩
    · exact ⟨by simp [Step.ownCalls], fun act => hnone⟩
    · exact ⟨by simp [Step.ownCalls], fun act => hnone⟩
  have hfew : (Driver.ofDevices [device]).Few w.operations := by decide +kernel
  have hquiet : w.Quiet := by decide +kernel
  have hcam : Entries.get? (runSteps (start .direct [device]) steps).2.cameras "c" =
      some ⟨0, 0, 100, none⟩ := by decide +kernel
  have hcall := (setters_notify .direct [device] hbuilt steps hsteps hfew "c" _ hcam).1 "Over lap"
    (.bool 1) _ _ (Prod.eta (w.call (.feature 100 "Over lap" (.write (.bool 1))))).symm
  obtain ⟨v, hv, -, hannounced⟩ := hcall.1 (by decide +kernel) (by decide)
    fun i _ t ht => hquiet.willCall_eq_false ht
  refine ⟨hbuilt, hsteps, hfew, ?_, ?_⟩
  · rw [hannounced.events]
    decide +kernel
  · have hsame : v = .bool 1 := hv (.inl (by decide +kernel))
    subst hsame
    obtain ⟨before, after, -, -, htakes, -, hafter⟩ := hannounced.stored
    cases htakes
    exact hafter

end Script

end CameraControl
