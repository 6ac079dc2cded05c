import CameraControl.Proofs.Script.Move
import CameraControl.Proofs.World.Enrolment

/-
  Subscriptions and their tokens in all runs.

  A script that leaves subscribing to its cameras keeps every subscription with a token of its own.
-/

namespace CameraControl

theorem Script.regime_subscribesNobody : Script.Regime Call.SubscribesNobody where
  request handle f r hr := by
    cases r with
    | subscribe => exact hr.elim
    | _ => trivial
  queue _ _ _ := trivial
  wait _ _ := trivial
  flush _ := trivial
  opens _ := trivial
  writes _ _ _ := trivial
  pass hc h := Call.subscribesNobody_of_pass? hc h

namespace Script

variable {allows : Scripting → Prop} {s s' : State}

/-! ## Scripts -/

theorem Move.enrolled (h : Move Call.SubscribesNobody allows s s')
    (hnests : s.world.Nests Call.SubscribesNobody) (hs : s.world.Enrolled) :
    s'.world.Enrolled := by
  cases h with
  | changes h => exact h.enrolled hs
  | scripted => exact World.enrolled_script hs _
  | named => exact hs
  | relocked => exact hs
  | opened => exact World.enrolled_afterOpening hs hnests _
  | reopened =>
    exact World.enrolled_drop (World.enrolled_afterOpening hs hnests _)
      (nests_afterOpening hnests _) _
  | released => exact World.enrolled_drop hs hnests _
  | subscribed hcam hnested => exact World.enrolled_subscribe hs hnests _ _ _ _ hnested
  | unsubscribed => exact World.enrolled_unsubscribe hs hnests _ _
  | visited hstatus hread =>
    exact World.enrolled_drop (hread.enrolled (World.enrolled_afterOpening hs hnests _))
      (hread.nests (nests_afterOpening hnests _)) _

theorem Moves.enrolled (h : Moves Call.SubscribesNobody allows s s')
    (hnests : s.world.Nests Call.SubscribesNobody) (hs : s.world.Enrolled) :
    s'.world.Enrolled := by
  induction h with
  | refl => exact hs
  | tail hfirst h ih => exact h.enrolled (Moves.nests hfirst hnests) ih

/-- A whole script that leaves subscribing to its cameras keeps it. -/
theorem runSteps_enrolled (backend : Backend) (devices : List Device) {steps : List Step}
    (hsteps : ∀ step ∈ steps, step.Within Call.SubscribesNobody fun _ => True) :
    (runSteps (start backend devices) steps).2.world.Enrolled := by
  have hstart : (start backend devices).world.Nests Call.SubscribesNobody :=
    nests_start backend devices
  refine (runSteps_moves regime_subscribesNobody hsteps hstart).enrolled hstart ⟨?_, ?_⟩
  · exact List.nodup_nil
  · exact fun x hx => absurd hx List.not_mem_nil

end Script

end CameraControl
