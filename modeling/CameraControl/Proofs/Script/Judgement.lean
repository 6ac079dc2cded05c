import CameraControl.Proofs.Script.Enrolment
import CameraControl.Proofs.World.Judgement

/-
  The statuses of all notifications.

  A script may have the subscribers to a feature notified, with any handle and name reported to
  them, or dispatch a notification to a single token. Both come to the same judgement, as long as no
  subscriber has a call of its own to make; only that a name comes from the driver as a wide text,
  which is read to a limit.
-/

namespace CameraControl

namespace Script

variable {s : State}

/-- What a script gets for a notification that it dispatched. -/
def verdictOutcome : Verdict → Except Failure Answer
  | .answered success => .ok (.bool success)
  | .refused breach => .error (.fault (.protocol breach))
  | .panicked => .error .panicked

theorem verdictOutcome_inj (v v' : Verdict) : verdictOutcome v = verdictOutcome v' ↔ v = v' := by
  constructor
  · intro h
    cases v <;> cases v' <;> cases h <;> rfl
  · exact congrArg verdictOutcome

theorem run_verdictAnswer (v : Verdict) (s : State) :
    (verdictAnswer v).run s = (verdictOutcome v, s) := by
  cases v <;> rfl

/-- Having subscribers notified is delivering the notices for them. -/
theorem run_fireAs (handle : Int32) (key : String) (asHandle : Int32) (asKey : String) (s : State) :
    (runStep (.fireAs (.number handle) key (.number asHandle) asKey)).run s =
      (.ok (.statuses (s.world.deliverAll (s.world.driver.fireAs handle key asHandle asKey)).1),
        { s with
          world := (s.world.deliverAll (s.world.driver.fireAs handle key asHandle asKey)).2 }) :=
  rfl

theorem run_dispatch {name : String} {i : Nat} (hi : Entries.get? s.tokens name = some i)
    (handle : Int32) (key : String) :
    (runStep (.dispatch name (.number handle) key)).run s =
      (verdictOutcome (s.world.dispatch i handle key).1,
        { s with world := (s.world.dispatch i handle key).2 }) := by
  have hrun : (runStep (.dispatch name (.number handle) key)).run s =
      (verdictAnswer (s.world.dispatch i handle key).1).run
        { s with world := (s.world.dispatch i handle key).2 } := by
    unfold runStep
    rw [run_bind, Run.run_token, hi]
    rfl
  rw [hrun, run_verdictAnswer]

/-- The notices for the subscribers to a feature: none for a name that would end early. -/
theorem fireAs_eq (d : Driver) (handle : Int32) (key : String) (asHandle : Int32) (asKey : String) :
    d.fireAs handle key asHandle asKey =
      if Text.Wide.hasNul asKey = true then []
      else (d.subscribers handle key).map fun x =>
        ⟨x.token, asHandle, Text.Wide.encode asKey ++ [0]⟩ := by
  unfold Driver.fireAs Driver.noticesFor Text.Wide.ofText
  cases Text.Wide.hasNul asKey <;> rfl

/-- Subscriptions keep the keys of features without blanks, so those to a feature are those whose
    key is its name up to blanks. -/
theorem subscribers_eq {w : World} (hw : w.Enrolled) (handle : Int32) (key : String) :
    w.driver.subscribers handle key =
      w.driver.subscriptions.filter fun x => x.handle == handle && keysMatch x.key key := by
  refine List.filter_congr fun x hx => ?_
  obtain ⟨t, -, -, hkey⟩ := hw.subscription_token x hx
  congr 1
  rw [Bool.eq_iff_iff, beq_iff_eq, keysMatch_iff_squeeze, hkey, Text.squeeze_squeeze]

/-! ## All runs -/

/-- At any point of any script that leaves subscribing to its cameras, while no subscriber has a
    call of its own to make: having the subscribers to a feature on a handle notified invokes nobody
    if the reported name would end early; otherwise there is one status for each of their
    subscriptions, in order, that of the judgement of its token in the state from before, on the
    reported handle and the name up to the limit; and the subscribers are invoked that the
    judgements tell. Dispatching to a token comes to its judgement on the whole name: a fault
    exactly if the notification does not fit the subscription, failure exactly if the subscriber is
    invoked and reports that, a breakdown exactly if it is invoked and breaks down. -/
theorem notifications_judged (backend : Backend) (devices : List Device) (steps : List Step)
    (hsteps : ∀ step ∈ steps, step.Within Call.SubscribesNobody fun _ => True) :
    let s := (runSteps (start backend devices) steps).2
    let w := s.world
    w.Quiet →
    (∀ handle key asHandle asKey, Text.Wide.hasNul asKey = true →
      (runStep (.fireAs (.number handle) key (.number asHandle) asKey)).run s =
        (.ok (.statuses []), s)) ∧
    (∀ handle key asHandle asKey, Text.Wide.hasNul asKey = false →
      ∃ (outcomes : List (Verdict × Option Event)) (w' : World),
        (runStep (.fireAs (.number handle) key (.number asHandle) asKey)).run s =
          (.ok (.statuses (outcomes.map fun o => o.1.status)), { s with world := w' }) ∧
        List.Forall₂ (fun x o => ∃ t, w.tokens[x.token]? = some t ∧ x.handle = t.handle ∧
            x.key = Text.squeeze t.feature.key ∧
            w.Judges x.token t asHandle (String.ofList (asKey.toList.take Text.Wide.scanLimit))
              o.1 o.2)
          (w.driver.subscriptions.filter fun x => x.handle == handle && keysMatch x.key key)
          outcomes ∧
        w'.eventsSince w = outcomes.filterMap Prod.snd) ∧
    (∀ name i t handle key, Entries.get? s.tokens name = some i → w.tokens[i]? = some t →
      ∃ v e w', (runStep (.dispatch name (.number handle) key)).run s =
          (verdictOutcome v, { s with world := w' }) ∧
        w.Judges i t handle key v e ∧ w'.eventsSince w = e.toList ∧
        ((∃ breach, verdictOutcome v = .error (.fault (.protocol breach))) ↔
          ¬t.Fits handle key) ∧
        (verdictOutcome v = .ok (.bool false) ↔
          w.Admits i t handle key ∧ t.reaction t.invocations = .reject) ∧
        (verdictOutcome v = .error .panicked ↔
          w.Admits i t handle key ∧ t.reaction t.invocations = .panic)) := by
  intro s w hquiet
  have henrolled : w.Enrolled := runSteps_enrolled backend devices hsteps
  refine ⟨fun handle key asHandle asKey hnul => ?_, fun handle key asHandle asKey hnul => ?_,
    fun name i t handle key hi ht => ?_⟩
  · rw [run_fireAs, fireAs_eq, if_pos hnul]
    rfl
  · rw [run_fireAs, fireAs_eq, if_neg (by rw [hnul]; exact Bool.false_ne_true)]
    rw [subscribers_eq henrolled]
    have hnodup : ((w.driver.subscriptions.filter fun x =>
        x.handle == handle && keysMatch x.key key).map Subscription.token).Nodup :=
      henrolled.tokens_nodup.sublist (List.filter_sublist.map _)
    have hmem {x : Subscription} (hx : x ∈ w.driver.subscriptions.filter fun x =>
        x.handle == handle && keysMatch x.key key) :=
      henrolled.subscription_token x (List.mem_filter.mp hx).1
    obtain ⟨outcomes, hjudges, hstatuses, hevents⟩ :=
      World.deliverAll_judges asHandle (Text.Wide.encode asKey ++ [0]) hquiet hnodup
        (rfl : w.sessions = w.sessions) fun x hx => ⟨rfl, (hmem hx).imp fun _ h => h.1⟩
    refine ⟨outcomes, _, by rw [← hstatuses], ?_, hevents⟩
    rw [Text.Wide.scan_encode hnul] at hjudges
    -- the token of a subscription is on its handle and to its feature
    refine ((List.forall₂_and_left _ _).mpr ⟨fun x hx => hmem hx, hjudges⟩).imp ?_
    rintro x o ⟨⟨t, ht, hfits⟩, t', ht', hjudge⟩
    obtain rfl : t = t' := Option.some.inj (ht.symm.trans ht')
    exact ⟨t, ht, hfits.1, hfits.2, hjudge⟩
  · obtain ⟨e, hjudge, hevents⟩ := World.dispatch_judges hquiet ht handle key
    refine ⟨_, e, _, run_dispatch hi handle key, hjudge, hevents, ?_, ?_, ?_⟩
    · rw [← hjudge.refused_iff]
      exact exists_congr fun breach => verdictOutcome_inj _ (.refused breach)
    · rw [← hjudge.rejected_iff]
      exact verdictOutcome_inj _ (.answered false)
    · rw [← hjudge.panicked_iff]
      exact verdictOutcome_inj _ .panicked

/-- Four subscriptions to the exposure time: one that accepts, one that rejects, one that breaks
    down, and one whose token was given back while the driver failed to take it back. All four get a
    status, and three subscribers are invoked; with the handle of another device nobody is. -/
theorem notifications_judged_failing :
    let device := (Device.bare "A").put .exposureTime (.float (.zero false) (.zero false) (.ofInt 1))
    let subscribe (label : String) (reaction : Reaction) : Step :=
      .camera "c" (.subscribe label .exposureTime [reaction] none)
    let steps := [Step.openCamera "c" 0, subscribe "a" .accept, subscribe "b" .reject,
      subscribe "p" .panic, subscribe "x" .accept,
      .fail "AT_UnregisterFeatureCallback" Status.invalidHandle none,
      .camera "c" (.unsubscribe "x")]
    let s := (runSteps (start .direct [device]) steps).2
    (∀ step ∈ steps, step.Within Call.SubscribesNobody fun _ => True) ∧ s.world.Quiet ∧
      (runStep (.fireAs (.number 100) "ExposureTime" (.number 100) "Exposure\x00Time")).run s =
        (.ok (.statuses []), s) ∧
      (∃ w', (runStep (.fireAs (.number 100) "Exposure Time" (.number 100) "ExposureTime")).run s =
          (.ok (.statuses [Status.success, Status.callbackFailed, Status.callbackFailed,
            Status.success]), { s with world := w' }) ∧
        w'.eventsSince s.world = [.invoked "a" .exposureTime, .invoked "b" .exposureTime,
          .invoked "p" .exposureTime]) ∧
      (∃ w', (runStep (.fireAs (.number 100) "Exposure Time" (.number 7) "ExposureTime")).run s =
          (.ok (.statuses (List.replicate 4 Status.callbackMismatch)), { s with world := w' }) ∧
        w'.eventsSince s.world = []) ∧
      ∃ w', (runStep (.dispatch "b" (.number 100) "Exposure Time")).run s =
        (.ok (.bool false), { s with world := w' }) := by
  intro device subscribe steps s
  have hsteps : ∀ step ∈ steps, step.Within Call.SubscribesNobody fun _ => True := by decide
  have hall := notifications_judged .direct [device] steps hsteps
  have hs : s = (runSteps (start .direct [device]) steps).2 := rfl
  rw [← hs] at hall
  clear_value s
  have hquiet : s.world.Quiet := by rw [hs]; decide +kernel
  obtain ⟨hended, -, hdispatched⟩ := hall hquiet
  have hfire (asHandle : Int32) (statuses : List Status) (events : List Event)
      (hcomputed : (s.world.deliverAll
          (s.world.driver.fireAs 100 "Exposure Time" asHandle "ExposureTime")).1 = statuses ∧
        (s.world.deliverAll (s.world.driver.fireAs 100 "Exposure Time" asHandle
          "ExposureTime")).2.eventsSince s.world = events) :
      ∃ w', (runStep (.fireAs (.number 100) "Exposure Time" (.number asHandle)
          "ExposureTime")).run s = (.ok (.statuses statuses), { s with world := w' }) ∧
        w'.eventsSince s.world = events := by
    refine ⟨_, ?_, hcomputed.2⟩
    rw [run_fireAs, hcomputed.1]
  obtain ⟨t, ht, hadmits, hreaction⟩ : ∃ t, s.world.tokens[1]? = some t ∧
      s.world.Admits 1 t 100 "Exposure Time" ∧ t.reaction t.invocations = .reject := by
    refine ⟨⟨"b", 0, 100, .exposureTime, [.reject], none, true, 0⟩, ?_, ⟨⟨?_, rfl⟩, ?_, rfl⟩, rfl⟩
    · rw [hs]; decide +kernel
    · decide +kernel
    · rw [hs]; decide +kernel
  obtain ⟨v, e, w', hrun, -, -, -, hrejected, -⟩ :=
    hdispatched "b" 1 t 100 "Exposure Time" (by rw [hs]; decide +kernel) ht
  refine ⟨hsteps, hquiet, hended _ _ _ _ (by decide +kernel), hfire _ _ _ ?_, hfire _ _ _ ?_, w',
    ?_⟩
  · rw [hs]; decide +kernel
  · rw [hs]; decide +kernel
  · rw [hrun, hrejected.mpr ⟨hadmits, hreaction⟩]

end Script

end CameraControl
