import CameraControl.Proofs.World.Round

/-
  What notifications come to.

  A notification is judged by its token alone: whether it fits the subscription, whether the token
  is live, whether the notification of the subscription itself has come, and what the subscriber
  does. `Judges` lists the outcomes in the order in which these are checked, each with what the
  user's own code is asked to do. In a quiet world, notices for different tokens are judged in the
  world from before any of them was delivered, `deliverAll_judges`, whatever the other subscribers
  do.
-/

namespace CameraControl

/-- A notification is about the feature of a subscription, up to blanks, and from its device. -/
def Token.Fits (t : Token) (handle : Int32) (reported : String) : Prop :=
  keysMatch reported t.feature.key = true ∧ handle = t.handle

namespace World

variable {w w' w₀ : World} {i : Nat} {t : Token} {handle : Int32} {reported : String} {v : Verdict}
  {e : Option Event}

/-- A notification to a token gets as far as the subscriber: it fits, the token is live, and the
    first notification has come before. -/
structure Admits (w : World) (i : Nat) (t : Token) (handle : Int32) (reported : String) : Prop where
  fits : t.Fits handle reported
  live : w.isLive t.session i = true
  later : t.precalled = true

/-- What a notification to a token comes to, and what the user's own code is asked to do. -/
inductive Judges (w : World) (i : Nat) (t : Token) (handle : Int32) (reported : String) :
    Verdict → Option Event → Prop where
  | otherFeature (h : keysMatch reported t.feature.key = false) :
    Judges w i t handle reported (.refused (.otherFeature t.feature reported)) none
  | otherHandle (hkey : keysMatch reported t.feature.key = true) (h : handle ≠ t.handle) :
    Judges w i t handle reported (.refused (.otherHandle t.feature t.handle handle)) none
  /-- The token was given back, or its camera is gone. -/
  | stale (hfits : t.Fits handle reported) (h : w.isLive t.session i = false) :
    Judges w i t handle reported (.answered true) none
  | absorbed (hfits : t.Fits handle reported) (hlive : w.isLive t.session i = true)
      (h : t.precalled = false) : Judges w i t handle reported (.answered true) none
  | accepted (hadmits : w.Admits i t handle reported)
      (h : t.reaction t.invocations = .accept) :
    Judges w i t handle reported (.answered true) (some (.invoked t.label t.feature))
  | rejected (hadmits : w.Admits i t handle reported)
      (h : t.reaction t.invocations = .reject) :
    Judges w i t handle reported (.answered false) (some (.invoked t.label t.feature))
  | panicked (hadmits : w.Admits i t handle reported)
      (h : t.reaction t.invocations = .panic) :
    Judges w i t handle reported .panicked (some (.invoked t.label t.feature))

namespace Judges

/-- A subscriber that is invoked decides the outcome. -/
theorem of_admits (h : w.Admits i t handle reported) :
    w.Judges i t handle reported (t.reaction t.invocations).verdict
      (some (.invoked t.label t.feature)) := by
  cases hreaction : t.reaction t.invocations with
  | accept => exact .accepted h hreaction
  | reject => exact .rejected h hreaction
  | panic => exact .panicked h hreaction

/-- Of the world, only the sessions count. -/
theorem congr (h : w.Judges i t handle reported v e) (hsessions : w'.sessions = w.sessions) :
    w'.Judges i t handle reported v e := by
  have hlive : w'.isLive t.session i = w.isLive t.session i := isLive_congr hsessions _ _
  have hadmits (h : w.Admits i t handle reported) : w'.Admits i t handle reported :=
    ⟨h.fits, hlive.trans h.live, h.later⟩
  cases h with
  | otherFeature h => exact .otherFeature h
  | otherHandle hkey h => exact .otherHandle hkey h
  | stale hfits h => exact .stale hfits (hlive.trans h)
  | absorbed hfits hl h => exact .absorbed hfits (hlive.trans hl) h
  | accepted ha h => exact .accepted (hadmits ha) h
  | rejected ha h => exact .rejected (hadmits ha) h
  | panicked ha h => exact .panicked (hadmits ha) h

/-! ### Each outcome and its case -/

theorem refused_iff (h : w.Judges i t handle reported v e) :
    (∃ breach, v = .refused breach) ↔ ¬t.Fits handle reported := by
  cases h with
  | otherFeature h =>
    refine iff_of_true ⟨_, rfl⟩ fun hfits => ?_
    exact Bool.false_ne_true (h.symm.trans hfits.1)
  | otherHandle hkey h => exact iff_of_true ⟨_, rfl⟩ fun hfits => h hfits.2
  | stale hfits | absorbed hfits =>
    exact iff_of_false (fun ⟨_, h⟩ => nomatch h) (not_not_intro hfits)
  | accepted hadmits | rejected hadmits | panicked hadmits =>
    exact iff_of_false (fun ⟨_, h⟩ => nomatch h) (not_not_intro hadmits.fits)

/-- Somebody is invoked exactly if the notification gets as far as that. -/
theorem event_iff (h : w.Judges i t handle reported v e) :
    e = some (.invoked t.label t.feature) ↔ w.Admits i t handle reported := by
  cases h with
  | otherFeature h =>
    refine iff_of_false nofun fun hadmits => ?_
    exact Bool.false_ne_true (h.symm.trans hadmits.fits.1)
  | otherHandle hkey h => exact iff_of_false nofun fun hadmits => h hadmits.fits.2
  | stale hfits h =>
    exact iff_of_false nofun fun hadmits => Bool.false_ne_true (h.symm.trans hadmits.live)
  | absorbed hfits hlive h =>
    exact iff_of_false nofun fun hadmits => Bool.false_ne_true (h.symm.trans hadmits.later)
  | accepted hadmits | rejected hadmits | panicked hadmits => exact iff_of_true rfl hadmits

/-- A verdict of a subscriber is that of its reaction. -/
theorem verdict_of_admits (h : w.Judges i t handle reported v e)
    (hadmits : w.Admits i t handle reported) : v = (t.reaction t.invocations).verdict := by
  have hevent := h.event_iff.mpr hadmits
  cases h with
  | accepted _ h | rejected _ h | panicked _ h => rw [h]; rfl
  | _ => cases hevent

theorem rejected_iff (h : w.Judges i t handle reported v e) :
    v = .answered false ↔ w.Admits i t handle reported ∧ t.reaction t.invocations = .reject := by
  constructor
  · rintro rfl
    cases h with
    | rejected hadmits h => exact ⟨hadmits, h⟩
  · rintro ⟨hadmits, hreaction⟩
    rw [h.verdict_of_admits hadmits, hreaction]
    rfl

theorem panicked_iff (h : w.Judges i t handle reported v e) :
    v = .panicked ↔ w.Admits i t handle reported ∧ t.reaction t.invocations = .panic := by
  constructor
  · rintro rfl
    cases h with
    | panicked hadmits h => exact ⟨hadmits, h⟩
  · rintro ⟨hadmits, hreaction⟩
    rw [h.verdict_of_admits hadmits, hreaction]
    rfl

end Judges

/-! ## Notifications -/

/-- In a quiet world, a notification to a token is judged so. -/
theorem dispatch_judges (hw : w.Quiet) (ht : w.tokens[i]? = some t) (handle : Int32)
    (reported : String) :
    ∃ e, w.Judges i t handle reported (w.dispatch i handle reported).1 e ∧
      (w.dispatch i handle reported).2.eventsSince w = e.toList := by
  have hheard : (w.hear i t handle reported).eventsSince w = [] := by
    have hhistory : (w.hear i t handle reported).history =
        [.delivered (w.delivery i t handle reported)] ++ w.history := rfl
    exact eventsSince_of_append hhistory
  rw [dispatch_eq hw ht]
  cases hkey : keysMatch reported t.feature.key with
  | false =>
    have hadm : w.admission i t handle reported =
        .mismatch (.otherFeature t.feature reported) := by simp [admission, hkey]
    rw [hadm]
    exact ⟨none, .otherFeature hkey, hheard⟩
  | true =>
    by_cases hhandle : handle = t.handle
    · have hfits : t.Fits handle reported := ⟨hkey, hhandle⟩
      -- from here on, whether the token is live and what came before decides
      cases hlive : w.isLive t.session i with
      | false =>
        have hadm : w.admission i t handle reported = .stale := by
          simp [admission, hkey, hhandle, hlive]
        rw [hadm]
        exact ⟨none, .stale hfits hlive, hheard⟩
      | true =>
        cases hpre : t.precalled with
        | false =>
          have hadm : w.admission i t handle reported = .precall := by
            simp [admission, hkey, hhandle, hlive, hpre]
          rw [hadm]
          exact ⟨none, .absorbed hfits hlive hpre, hheard⟩
        | true =>
          have hadm : w.admission i t handle reported = .invoke := by
            simp [admission, hkey, hhandle, hlive, hpre]
          rw [hadm]
          have hhistory : ((w.hear i t handle reported).invoke i t).history =
              [.event (.invoked t.label t.feature),
                .delivered (w.delivery i t handle reported)] ++ w.history := rfl
          exact ⟨_, .of_admits ⟨hfits, hlive, hpre⟩, eventsSince_of_append hhistory⟩
    · have hadm : w.admission i t handle reported =
          .mismatch (.otherHandle t.feature t.handle handle) := by simp [admission, hkey, hhandle]
      rw [hadm]
      exact ⟨none, .otherHandle hkey hhandle, hheard⟩

/-- What happens on one notice comes before what happens on the others. -/
theorem eventsSince_deliverAll (w : World) (n : Notice) (rest : List Notice) :
    (w.deliverAll (n :: rest)).2.eventsSince w =
      (w.deliver n).2.eventsSince w ++
        ((w.deliver n).2.deliverAll rest).2.eventsSince (w.deliver n).2 := by
  have hfirst : Changes (fun _ => True) w (w.deliver n).2 :=
    dispatch_changes _ _ _ fun _ _ _ _ => trivial
  have hlater : Changes (fun _ => True) (w.deliver n).2 ((w.deliver n).2.deliverAll rest).2 :=
    deliverAll_changes rest fun _ _ _ _ => trivial
  exact eventsSince_trans hfirst.turns hlater.turns

/-- Notices for the tokens of different subscriptions are each judged as if they were the only one:
    there is one outcome for each, in order. The world may already have heard of others, as long as
    these tokens and the sessions are still as they were. -/
theorem deliverAll_judges (handle : Int32) (units : List Int32) {l : List Subscription}
    (hquiet : w.Quiet) (hnodup : (l.map Subscription.token).Nodup)
    (hsessions : w.sessions = w₀.sessions)
    (htokens : ∀ x ∈ l, w.tokens[x.token]? = w₀.tokens[x.token]? ∧
      ∃ t, w₀.tokens[x.token]? = some t) :
    ∃ outcomes : List (Verdict × Option Event),
      List.Forall₂ (fun x o => ∃ t, w₀.tokens[x.token]? = some t ∧
        w₀.Judges x.token t handle (Text.Wide.scan (some units)) o.1 o.2) l outcomes ∧
      (w.deliverAll (l.map fun x => ⟨x.token, handle, units⟩)).1 =
        outcomes.map (fun o => o.1.status) ∧
      (w.deliverAll (l.map fun x => ⟨x.token, handle, units⟩)).2.eventsSince w =
        outcomes.filterMap Prod.snd := by
  induction l generalizing w with
  | nil => exact ⟨[], .nil, rfl, eventsSince_of_append (List.nil_append _).symm⟩
  | cons x rest ih =>
    obtain ⟨hnew, hnodup⟩ := List.nodup_cons.mp hnodup
    obtain ⟨⟨hsame, t, ht⟩, htokens⟩ := List.forall_mem_cons.mp htokens
    have htoken := hsame.trans ht
    have hne {y : Subscription} (hy : y ∈ rest) : y.token ≠ x.token :=
      fun h => hnew (h ▸ List.mem_map_of_mem hy)
    obtain ⟨e, hjudges, hevents⟩ :=
      dispatch_judges hquiet htoken handle (Text.Wide.scan (some units))
    -- the first notice changes its own token only
    obtain ⟨-, hsessions', hother, -⟩ := deliver_round (n := ⟨x.token, handle, units⟩) htoken
      fun _ => hquiet.willCall_eq_false htoken
    obtain ⟨outcomes, hrest, hstatuses, hevents'⟩ :=
      ih (w := (w.deliver ⟨x.token, handle, units⟩).2) (quiet_dispatch hquiet _ _ _) hnodup
        (hsessions'.trans hsessions)
        fun y hy => ⟨(hother _ (hne hy)).trans (htokens y hy).1, (htokens y hy).2⟩
    refine ⟨(_, e) :: outcomes, .cons ⟨t, ht, hjudges.congr hsessions.symm⟩ hrest, ?_, ?_⟩
    · exact congrArg (_ :: ·) hstatuses
    · have hfirst : (w.deliver ⟨x.token, handle, units⟩).2.eventsSince w = e.toList := hevents
      rw [List.map_cons, eventsSince_deliverAll, hfirst, hevents']
      cases e <;> rfl

end World

end CameraControl
