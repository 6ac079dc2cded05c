import CameraControl.Proofs.Script.Move
import CameraControl.Proofs.World.Accounting

/-
  Notifications in all runs.

  In every run, the events that the steps report are those of the history, the invocations among
  them are those of the account of its notifications, and a token that was given back, or whose
  camera was closed, is reached by nothing any more.
-/

namespace CameraControl

namespace Script

/-- The events that steps report are those that happened. -/
theorem runSteps_events (s : State) (steps : List Step) :
    (runSteps s steps).1.flatMap StepResult.events =
      (runSteps s steps).2.world.eventsSince s.world := by
  induction steps generalizing s with
  | nil => simp [runSteps, World.eventsSince]
  | cons step rest ih =>
    -- the history has grown by the first step, and then by the others
    have hfirst := runStep_turns s step
    have hrest := runSteps_turns ((runStep step).run s).2 rest
    rw [show (runSteps s (step :: rest)).2 = (runSteps ((runStep step).run s).2 rest).2 from rfl,
      World.eventsSince_trans hfirst hrest, ← ih]
    rfl

/-! ## The ends of tokens -/

variable {s : State} {name : String} {cam : Camera}

/-- Nothing is live in the session of a camera that was closed or given up. -/
theorem isLive_of_ended (hcam : Entries.get? s.cameras name = some cam) {step : CameraStep}
    (hstep : step = .close ∨ step = .drop) (i : Nat) :
    ((runStep (.camera name step)).run s).2.world.isLive cam.session i = false := by
  have hworld : ((runStep (.camera name step)).run s).2.world = (cam.drop.exec s.world).2 := by
    rw [run_camera_step hcam, run_ending hstep]
  rw [hworld, Camera.drop_exec, World.isLive_eq, World.live?_endSession, if_pos rfl]
  rfl

/-- A token is not live in its session after it was given back. -/
theorem isLive_of_unsubscribed (hs : s.world.Rostered)
    (hcam : Entries.get? s.cameras name = some cam) {label : String} {i : Nat} {t : Token}
    (hi : Entries.get? s.tokens label = some i) (ht : s.world.tokens[i]? = some t)
    (hsession : t.session = cam.session) :
    ((runStep (.camera name (.unsubscribe label))).run s).2.world.isLive cam.session i = false := by
  have hworld : ((runStep (.camera name (.unsubscribe label))).run s).2.world =
      ((cam.unsubscribe i).exec s.world).2 := by
    rw [run_camera_step hcam, run_unsubscribe hi]
  rw [hworld]
  -- the token is issued and of this session, so it was not live before or it leaves now
  rcases cam.unsubscribe_exec i s.world with
    ⟨-, hnone⟩ | ⟨t', fault, ht', hbad, hexec⟩ | ⟨t', -, -, -, hexec⟩
  · rw [ht] at hnone
    cases hnone
  · obtain rfl : t = t' := Option.some.inj (ht.symm.trans ht')
    rw [hexec]
    exact hbad.resolve_left fun hne => hne hsession
  · rw [hexec, World.isLive_congr (World.call_frame _ _).2.1]
    exact World.isLive_leave hs cam.session i

/-! ## All runs -/

/-- In every run, the first notification that reaches a token while it is live is absorbed, every
    later one invokes its subscriber once, and nothing else does. A token that is not live any
    more, which it is not after it was given back or its camera was closed or given up, stays as it
    is for good. -/
theorem notifications_accounted (backend : Backend) (devices : List Device) (steps : List Step) :
    let results := (runSteps (start backend devices) steps).1
    let s := (runSteps (start backend devices) steps).2
    s.world.Accounted ∧
    results.flatMap StepResult.events =
      s.world.history.reverse.filterMap Happening.event? ∧
    (∀ i t, s.world.tokens[i]? = some t → s.world.isLive t.session i = false → ∀ later,
      let s' := (runSteps s later).2
      s'.world.tokens[i]? = some t ∧ ∃ new, s'.world.history = new ++ s.world.history ∧
        ∀ d, .delivered d ∈ new → d.token = i → d.live = false) ∧
    (∀ name cam, Entries.get? s.cameras name = some cam →
      (∀ step, step = .close ∨ step = .drop → ∀ i,
        ((runStep (.camera name step)).run s).2.world.isLive cam.session i = false) ∧
      (∀ label i t, Entries.get? s.tokens label = some i → s.world.tokens[i]? = some t →
        t.session = cam.session →
        ((runStep (.camera name (.unsubscribe label))).run s).2.world.isLive cam.session i =
          false)) := by
  intro results s
  have hturns := runSteps_turns (start backend devices) steps
  have haccounted : s.world.Accounted :=
    hturns.accounted (World.accounted_ofDriver backend (Driver.ofDevices devices))
  have hrostered : s.world.Rostered :=
    hturns.rostered (World.rostered_ofDriver backend (Driver.ofDevices devices))
  refine ⟨haccounted, ?_, fun i t ht hdead later => ?_, fun name cam hcam => ⟨?_, ?_⟩⟩
  -- nothing had happened at the start
  · have hhistory : s.world.history =
        s.world.history ++ (start backend devices).world.history := (List.append_nil _).symm
    rw [runSteps_events]
    exact World.eventsSince_of_append hhistory
  · obtain ⟨ht', -, hnew⟩ := (runSteps_turns s later).dead ht hdead
    exact ⟨ht', hnew⟩
  · intro step hstep i
    exact isLive_of_ended hcam hstep i
  · intro label i t hi ht hsession
    exact isLive_of_unsubscribed hrostered hcam hi ht hsession

end Script

end CameraControl
