import CameraControl.Proofs.Driver.Content
import CameraControl.Proofs.World.Accounting
import CameraControl.Proofs.World.Quiet
import CameraControl.Proofs.World.Registration

/-
  Rounds of notifications.

  A call that notifies subscribers delivers its notices one after another. If none of the
  subscribers that are thereby invoked makes a call of its own, the driver stays as the call has
  left it, and each notice does something to its own token only. `Round` says which subscribers are
  invoked in what order; `round_deliverAll` reads them off the notices before any is delivered.

  Where live tokens and subscriptions are in step, the notices of a change of a feature make a round
  of its audience, `fire_round`: the tokens that are live in the session and were subscribed in
  full. `call_announced` says what a write that succeeds comes to thereby.
-/

namespace CameraControl.World

variable {d : Driver} {w w' : World} {l : List Nat} {i : Nat} {t : Token}

/-- A round of notifications, in which the subscribers behind the tokens at some places are invoked,
    one for each notification that gets as far. The driver stays as it is all the while. -/
inductive Round (d : Driver) : World → List Nat → World → Prop where
  | done {w : World} (hd : w.driver = d) : Round d w [] w
  /-- A notification goes no further than its token. -/
  | heard {w w' : World} {i : Nat} {t : Token} {handle : Int32} {reported : String} {l : List Nat}
      (ht : w.tokens[i]? = some t)
      (hfar : (w.delivery i t handle reported).reaches t = false)
      (hrest : Round d (w.hear i t handle reported) l w') : Round d w l w'
  /-- A notification belongs to the subscription itself. -/
  | absorbed {w w' : World} {i : Nat} {t : Token} {handle : Int32} {reported : String}
      {l : List Nat} (ht : w.tokens[i]? = some t)
      (hreach : (w.delivery i t handle reported).reaches t = true) (hfirst : t.precalled = false)
      (hrest : Round d ((w.hear i t handle reported).absorb i) l w') : Round d w l w'
  | invoked {w w' : World} {i : Nat} {t : Token} {handle : Int32} {reported : String}
      {l : List Nat} (hd : w.driver = d) (ht : w.tokens[i]? = some t)
      (hreach : (w.delivery i t handle reported).reaches t = true) (hlater : t.precalled = true)
      (hrest : Round d ((w.hear i t handle reported).invoke i t) l w') : Round d w (i :: l) w'

/-- What the user's own code is asked to do when the subscriber behind a token is invoked. -/
def invocation? (w : World) (i : Nat) : Option Event :=
  w.tokens[i]?.map fun t => .invoked t.label t.feature

/-! ## What a round comes to -/

theorem invocation?_of_identity (h : w'.tokens.map Token.identity = w.tokens.map Token.identity) :
    w'.invocation? = w.invocation? := by
  funext i
  -- label and feature are part of the identity
  have hidentity (w : World) : w.invocation? i =
      (w.tokens.map Token.identity)[i]?.map fun t => .invoked t.label t.feature := by
    rw [List.getElem?_map, Option.map_map]
    rfl
  rw [hidentity, h, hidentity]

theorem Round.driver_eq (h : Round d w l w') : w.driver = d ∧ w'.driver = d := by
  induction h with
  | done hd => exact ⟨hd, hd⟩
  | heard _ _ _ ih => exact ih
  | absorbed _ _ _ _ ih => exact ih
  | invoked _ _ _ _ _ ih => exact ih

/-- The invocations of a round, and no others, come on top of the history. -/
theorem Round.history (h : Round d w l w') : ∃ new, w'.history = new ++ w.history ∧
    new.reverse.filterMap Happening.event? = l.filterMap w.invocation? := by
  induction h with
  | done => exact ⟨[], rfl, rfl⟩
  | @heard w w' i t handle reported l ht hfar hrest ih =>
    obtain ⟨new, hnew, hevents⟩ := ih
    refine ⟨new ++ [.delivered (w.delivery i t handle reported)], ?_, ?_⟩
    · rw [hnew, List.append_assoc]
      rfl
    · rw [List.reverse_append]
      exact hevents
  | @absorbed w w' i t handle reported l ht hreach hfirst hrest ih =>
    obtain ⟨new, hnew, hevents⟩ := ih
    have hsame : ((w.hear i t handle reported).absorb i).invocation? = w.invocation? :=
      invocation?_of_identity (map_identity_modify _ _ fun _ => rfl)
    refine ⟨new ++ [.delivered (w.delivery i t handle reported)], ?_, ?_⟩
    · rw [hnew, List.append_assoc]
      rfl
    · rw [List.reverse_append, ← hsame]
      exact hevents
  | @invoked w w' i t handle reported l hd ht hreach hlater hrest ih =>
    obtain ⟨new, hnew, hevents⟩ := ih
    have hsame : ((w.hear i t handle reported).invoke i t).invocation? = w.invocation? :=
      invocation?_of_identity (map_identity_modify _ _ fun _ => rfl)
    have hfirst : w.invocation? i = some (.invoked t.label t.feature) := by
      rw [invocation?, ht, Option.map_some]
    refine ⟨new ++ [.event (.invoked t.label t.feature),
      .delivered (w.delivery i t handle reported)], ?_, ?_⟩
    · rw [hnew, List.append_assoc]
      rfl
    · rw [List.reverse_append, List.filterMap_cons_some hfirst, ← hsame, ← hevents]
      rfl

/-- A subscriber is invoked as often as its token has a place in the round. -/
theorem Round.invocations (h : Round d w l w') (ht : w.tokens[i]? = some t) :
    ∃ t', w'.tokens[i]? = some t' ∧ t'.identity = t.identity ∧
      t'.invocations = t.invocations + l.count i := by
  induction h generalizing t with
  | done => exact ⟨t, ht, rfl, rfl⟩
  | heard _ _ _ ih => exact ih ht
  | @absorbed w w' j u handle reported l hu hreach hfirst hrest ih =>
    have hmodified : ((w.hear j u handle reported).absorb j).tokens[i]? =
        if i = j then some { u with precalled := true } else w.tokens[i]? :=
      getElem?_modify_eq hu i
    by_cases hij : i = j
    · subst hij
      obtain rfl : t = u := Option.some.inj (ht.symm.trans hu)
      rw [if_pos rfl] at hmodified
      have hrest := ih hmodified
      exact hrest
    · rw [if_neg hij, ht] at hmodified
      exact ih hmodified
  | @invoked w w' j u handle reported l hd hu hreach hlater hrest ih =>
    have hmodified : ((w.hear j u handle reported).invoke j u).tokens[i]? =
        if i = j then some { u with invocations := u.invocations + 1 } else w.tokens[i]? :=
      getElem?_modify_eq hu i
    by_cases hij : i = j
    · subst hij
      obtain rfl : t = u := Option.some.inj (ht.symm.trans hu)
      rw [if_pos rfl] at hmodified
      obtain ⟨t', ht', hidentity, hcount⟩ := ih hmodified
      refine ⟨t', ht', hidentity, ?_⟩
      rw [hcount, List.count_cons_self]
      show t.invocations + 1 + l.count i = _
      omega
    · rw [if_neg hij, ht] at hmodified
      obtain ⟨t', ht', hidentity, hcount⟩ := ih hmodified
      refine ⟨t', ht', hidentity, ?_⟩
      rw [hcount, List.count_cons_of_ne (Ne.symm hij)]

/-! ## Notices -/

/-- Whether a notice, delivered now, gets as far as the subscriber. -/
def rings (w : World) (n : Notice) : Bool :=
  w.tokens[n.token]?.any fun t =>
    (w.delivery n.token t n.handle (Text.Wide.scan (some n.reported))).reaches t && t.precalled

theorem rings_of_token {n : Notice} (ht : w.tokens[n.token]? = some t) :
    w.rings n =
      ((w.delivery n.token t n.handle (Text.Wide.scan (some n.reported))).reaches t &&
        t.precalled) := by
  rw [rings, ht, Option.any_some]

/-- How far a notice gets depends on its token and on the sessions. -/
theorem rings_congr {n : Notice} (hsessions : w'.sessions = w.sessions)
    (htoken : w'.tokens[n.token]? = w.tokens[n.token]?) : w'.rings n = w.rings n := by
  have hdelivery (t : Token) (reported : String) :
      w'.delivery n.token t n.handle reported = w.delivery n.token t n.handle reported := by
    rw [delivery, isLive_congr hsessions, delivery]
  unfold rings
  rw [htoken]
  simp only [hdelivery]

/-- Delivering a notice changes no other token. If its subscriber is not invoked, or has no call to
    make, it comes to the first notification of a round. -/
theorem deliver_round {n : Notice} (ht : w.tokens[n.token]? = some t)
    (hidle : w.rings n = true → t.willCall = false) :
    (w.deliver n).2.driver = w.driver ∧ (w.deliver n).2.sessions = w.sessions ∧
      (∀ j, j ≠ n.token → (w.deliver n).2.tokens[j]? = w.tokens[j]?) ∧
      ∀ l w', Round w.driver (w.deliver n).2 l w' →
        Round w.driver w (if w.rings n = true then n.token :: l else l) w' := by
  have hother (f : Token → Token) (j : Nat) (hj : j ≠ n.token) :
      (w.tokens.modify n.token f)[j]? = w.tokens[j]? := List.getElem?_modify_ne _ _ (Ne.symm hj)
  have hrings := rings_of_token ht
  have hdeliver : (w.deliver n).2 =
      (w.dispatch n.token n.handle (Text.Wide.scan (some n.reported))).2 := rfl
  unfold dispatch dispatchWithin at hdeliver
  rw [ht] at hdeliver
  generalize Text.Wide.scan (some n.reported) = reported at hrings hdeliver
  rcases admission_cases w n.token t n.handle reported with
    ⟨hfar, hadm⟩ | ⟨hreach, hfirst, hadm⟩ | ⟨hreach, hlater, hadm⟩
  · have hworld : (w.deliver n).2 = w.hear n.token t n.handle reported := by
      rcases hadm with ⟨breach, hadm⟩ | hadm
      · simpa only [hadm] using hdeliver
      · simpa only [hadm] using hdeliver
    rw [hfar, Bool.false_and] at hrings
    rw [hworld]
    refine ⟨rfl, rfl, fun j _ => rfl, fun l w' hrest => ?_⟩
    rw [if_neg (by rw [hrings]; exact Bool.false_ne_true)]
    exact .heard ht hfar hrest
  · have hworld : (w.deliver n).2 = (w.hear n.token t n.handle reported).absorb n.token := by
      simpa only [hadm] using hdeliver
    rw [hfirst, Bool.and_false] at hrings
    rw [hworld]
    refine ⟨rfl, rfl, hother _, fun l w' hrest => ?_⟩
    rw [if_neg (by rw [hrings]; exact Bool.false_ne_true)]
    exact .absorbed ht hreach hfirst hrest
  · rw [hreach, hlater, Bool.and_true] at hrings
    have hworld : (w.deliver n).2 = (w.hear n.token t n.handle reported).invoke n.token t := by
      simpa [hadm, hidle hrings] using hdeliver
    rw [hworld]
    refine ⟨rfl, rfl, hother _, fun l w' hrest => ?_⟩
    rw [if_pos hrings]
    exact .invoked rfl ht hreach hlater hrest

/-- Notices for different tokens are a round of those that get as far as the subscriber. -/
theorem round_deliverAll {notices : List Notice} (hnodup : (notices.map Notice.token).Nodup)
    (hidle : ∀ n ∈ notices, ∃ t, w.tokens[n.token]? = some t ∧
      (w.rings n = true → t.willCall = false)) :
    Round w.driver w ((notices.filter w.rings).map Notice.token) (w.deliverAll notices).2 := by
  induction notices generalizing w with
  | nil => exact .done rfl
  | cons n rest ih =>
    obtain ⟨hnew, hnodup⟩ := List.nodup_cons.mp hnodup
    obtain ⟨⟨t, ht, hwill⟩, hidle⟩ := List.forall_mem_cons.mp hidle
    obtain ⟨hdriver, hsessions, hother, hround⟩ := deliver_round ht hwill
    -- the other notices are for other tokens, so they get as far as they would have before
    have hne {m : Notice} (hm : m ∈ rest) : m.token ≠ n.token :=
      fun h => hnew (h ▸ List.mem_map_of_mem hm)
    have hrings {m : Notice} (hm : m ∈ rest) : (w.deliver n).2.rings m = w.rings m :=
      rings_congr hsessions (hother _ (hne hm))
    have hrest := ih (w := (w.deliver n).2) hnodup fun m hm => by
      rw [hother _ (hne hm), hrings hm]
      exact hidle m hm
    rw [List.filter_congr fun m hm => hrings hm, hdriver] at hrest
    have hall := hround _ _ hrest
    rw [List.filter_cons, apply_ite (List.map Notice.token)]
    exact hall

/-- A call of which nobody hears invokes nobody. -/
theorem call_unheard {c : Call}
    (h : ∀ c', w.backend.pass? c = some c' → (w.driver.step c').notices = []) :
    (w.call c).2.tokens = w.tokens ∧ (w.call c).2.eventsSince w = [] := by
  cases hpass : w.backend.pass? c with
  | none =>
    rw [call_of_refused hpass]
    exact ⟨rfl, eventsSince_of_append (List.nil_append _).symm⟩
  | some c' =>
    rw [call_of_passed hpass, h c' hpass]
    have hhistory : (w.take c').history = [.called c' (w.driver.step c').reply] ++ w.history := rfl
    exact ⟨rfl, eventsSince_of_append hhistory⟩

/-! ## Audiences -/

/-- The tokens that are live in a session and fully subscribed to a feature, in the order of their
    subscriptions. -/
def audience (w : World) (session : Nat) (key : String) : List Nat :=
  ((w.live? session).getD []).filter fun i =>
    w.tokens[i]?.any fun t => keysMatch key t.feature.key && t.precalled

theorem beq_squeeze (a b : String) : (Text.squeeze a == Text.squeeze b) = keysMatch b a := by
  rw [Bool.eq_iff_iff, beq_iff_eq, keysMatch_iff_squeeze]
  exact eq_comm

variable {session : Nat} {handle : Int32} {key : String}

/-- A token with a subscription is live exactly if the driver holds it for its handle. -/
theorem isLive_iff_held (hw : w.Aligned) (hhomed : w.Homed) (hmem : (session, handle) ∈ w.roster)
    {s : Subscription} (hs : s ∈ w.driver.subscriptions) (hhandle : s.handle = handle)
    (ht : w.tokens[s.token]? = some t) :
    w.isLive t.session s.token = true ↔ s.token ∈ w.heldTokens handle := by
  constructor
  · intro h
    obtain ⟨x, hx, -, hlisted⟩ := exists_session_of_isLive h
    rw [hw.live_eq x hx, mem_heldTokens] at hlisted
    exact mem_heldTokens.mpr ⟨⟨s, hs, hhandle, rfl⟩, hlisted.2⟩
  · intro h
    obtain ⟨x, hx, heq⟩ := List.mem_map.mp hmem
    have hid : x.id = session := congrArg Prod.fst heq
    have hxhandle : x.handle = handle := congrArg Prod.snd heq
    -- the session that lists the token is the one that it was issued for
    have hlisted : s.token ∈ x.live := by rwa [hw.live_eq x hx, hxhandle]
    obtain ⟨t', ht', hsession⟩ := hhomed x hx s.token hlisted
    obtain rfl : t = t' := Option.some.inj (ht.symm.trans ht')
    rw [isLive_eq, hsession, hid, hw.live?_eq hmem]
    simpa using h

/-- The notices of a change of a feature that get as far as the subscriber are those for the
    audience. -/
theorem filter_rings_eq_audience (hw : w.Aligned) (hhomed : w.Homed)
    (hmem : (session, handle) ∈ w.roster) {units : List Int32}
    (hunits : ∀ s ∈ w.driver.subscribers handle key, Text.Wide.scan (some units) = key) :
    (((w.driver.subscribers handle key).map fun s => (⟨s.token, handle, units⟩ : Notice)).filter
      w.rings).map Notice.token = w.audience session key := by
  -- both sides choose among the subscriptions of the driver
  have hall : w.audience session key = ((w.driver.subscriptions.filter fun s =>
      (w.tokens[s.token]?.any fun t => keysMatch key t.feature.key && t.precalled) &&
        !w.history.any (Happening.failsToUnsubscribe s.token) && s.handle == handle).map
          Subscription.token) := by
    rw [audience, hw.live?_eq hmem, Option.getD_some, heldTokens, List.filter_map,
      List.filter_map, List.filter_filter, List.filter_filter]
    rfl
  rw [hall, List.filter_map, List.map_map]
  show ((w.driver.subscribers handle key).filter fun s =>
    w.rings ⟨s.token, handle, units⟩).map Subscription.token = _
  rw [Driver.subscribers, List.filter_filter]
  refine congrArg (List.map Subscription.token) (List.filter_congr fun s hs => ?_)
  obtain ⟨t, ht, hthandle, hkey⟩ := hw.subscription_token s hs
  have hspelled : (s.key == Text.squeeze key) = keysMatch key t.feature.key := by
    rw [hkey, beq_squeeze]
  rw [ht, Option.any_some, hspelled]
  by_cases hown : s.handle = handle ∧ keysMatch key t.feature.key = true
  · obtain ⟨hhandle, hmatch⟩ := hown
    have hscan := hunits s (List.mem_filter.mpr ⟨hs, by simp [hhandle, hspelled, hmatch]⟩)
    have hheld : w.isLive t.session s.token =
        !w.history.any (Happening.failsToUnsubscribe s.token) := by
      rw [Bool.eq_iff_iff, isLive_iff_held hw hhomed hmem hs hhandle ht, mem_heldTokens,
        Bool.not_eq_true']
      exact and_iff_right ⟨s, hs, hhandle, rfl⟩
    rw [rings_of_token ht, Delivery.reaches, delivery, hscan, hheld, hmatch, hhandle,
      ← hthandle, hhandle]
    simp [Bool.and_comm]
  · -- a subscription on another handle, or to another feature, is in neither list
    rcases not_and_or.mp hown with hhandle | hmatch
    · have hfalse : (s.handle == handle) = false := beq_eq_false_iff_ne.mpr hhandle
      rw [hfalse, Bool.false_and, Bool.and_false, Bool.and_false]
    · simp [hmatch]

/-! ## Writes -/

/-- Blanks do not end a text, so texts that agree but for blanks end early together. -/
theorem hasNul_of_solids {a b : String} (h : Text.solids a = Text.solids b)
    (ha : Text.Wide.hasNul a = true) : Text.Wide.hasNul b = true := by
  have hsolid : Char.ofNat 0 ∈ Text.solids a :=
    List.mem_filter.mpr ⟨(Text.Wide.hasNul_iff a).mp ha, by decide⟩
  rw [h] at hsolid
  exact (Text.Wide.hasNul_iff b).mpr (List.mem_filter.mp hsolid).1

/-- A change of a feature is reported to the subscribers by its name. -/
theorem fire_eq (hw : w.Settled) (handle : Int32) (hkey : key.length ≤ Text.Wide.scanLimit) :
    ∃ units, (∀ s ∈ w.driver.subscribers handle key, Text.Wide.scan (some units) = key) ∧
      w.driver.fire handle key =
        (w.driver.subscribers handle key).map fun s => ⟨s.token, handle, units⟩ := by
  cases hnul : Text.Wide.hasNul key with
  | false =>
    refine ⟨Text.Wide.encode key ++ [0], fun _ _ => Text.Wide.scan_ofText hnul hkey, ?_⟩
    show Driver.noticesFor _ handle key = _
    rw [Driver.noticesFor, Text.Wide.ofText_eq hnul]
  | true =>
    -- no registered feature has such a name, so there is nobody to report to
    have hnone : w.driver.subscribers handle key = [] := by
      refine List.eq_nil_iff_forall_not_mem.mpr fun s hs => ?_
      obtain ⟨hs, hmatch⟩ := List.mem_filter.mp hs
      obtain ⟨t, -, -, hspelled⟩ := hw.subscription_token s hs
      have hsame : s.key = Text.squeeze key := eq_of_beq (Bool.and_eq_true_iff.mp hmatch).2
      have hsolids := (Text.squeeze_eq_squeeze_iff _ _).mp (hsame.symm.trans hspelled)
      have hfeature := hasNul_of_solids hsolids hnul
      exact Bool.false_ne_true (t.feature.portable_key.1.symm.trans hfeature)
    refine ⟨[], ?_, ?_⟩
    · rw [hnone]
      exact fun _ h => absurd h List.not_mem_nil
    · show Driver.noticesFor _ handle key = _
      rw [hnone, Driver.noticesFor, Text.Wide.ofText, hnul]
      rfl

/-- A write to a feature took effect and was announced, as a session of its device sees it. -/
structure Announced (w w' : World) (session : Nat) (handle : Int32) (key : String) (v : Write) :
    Prop where
  /-- The value is there before anybody is notified, and it is still there afterwards. -/
  stored : ∃ before after, w.driver.contentAt? handle key = some before ∧
    before.write v = .ok after ∧ before.Takes v after ∧
    (w.take (.feature handle key (.write v))).driver.contentAt? handle key = some after ∧
    w'.driver.contentAt? handle key = some after
  /-- The audience is invoked in the order of its subscriptions, in the driver that the call has
      left. -/
  round : Round (w.take (.feature handle key (.write v))).driver
    (w.take (.feature handle key (.write v))) (w.audience session key) w'
  /-- The audience are the live tokens of the session for the feature that are fully subscribed. -/
  audience_iff : ∀ i, i ∈ w.audience session key ↔ ∃ t, w.tokens[i]? = some t ∧
    t.session = session ∧ t.handle = handle ∧ w.isLive session i = true ∧
    keysMatch key t.feature.key = true ∧ t.precalled = true
  /-- Everybody in the audience is invoked once, and nobody else is. -/
  invocations : ∀ i t, w.tokens[i]? = some t → ∃ t', w'.tokens[i]? = some t' ∧
    t'.identity = t.identity ∧
    t'.invocations = t.invocations + if i ∈ w.audience session key then 1 else 0
  events : w'.eventsSince w = (w.audience session key).filterMap w.invocation?

theorem mem_audience (hw : w.Settled) (hhomed : w.Homed) (hmem : (session, handle) ∈ w.roster) :
    i ∈ w.audience session key ↔ ∃ t, w.tokens[i]? = some t ∧ t.session = session ∧
      t.handle = handle ∧ w.isLive session i = true ∧ keysMatch key t.feature.key = true ∧
      t.precalled = true := by
  have hlisted : w.isLive session i = true ↔ i ∈ (w.live? session).getD [] := by
    rw [isLive_eq, List.contains_iff_mem]
  rw [audience, List.mem_filter, ← hlisted]
  constructor
  · rintro ⟨hlive, hfits⟩
    obtain ⟨x, hx, hid, hix⟩ := exists_session_of_isLive hlive
    obtain ⟨t, ht, hsession⟩ := hhomed x hx i hix
    have hown := hsession.trans hid
    have hhandle := (hw.token_session t (List.mem_of_getElem? ht)).2 _ hmem hown.symm
    rw [ht, Option.any_some, Bool.and_eq_true] at hfits
    exact ⟨t, ht, hown, hhandle.symm, hlive, hfits⟩
  · rintro ⟨t, ht, -, -, hlive, hfits⟩
    rw [ht, Option.any_some, Bool.and_eq_true]
    exact ⟨hlive, hfits⟩

theorem nodup_audience (hrostered : w.Rostered) : (w.audience session key).Nodup := by
  refine List.Nodup.filter _ ?_
  rw [live?]
  cases hfind : w.sessions.find? fun s => s.id == session with
  | none => exact List.nodup_nil
  | some x => exact (hrostered x (List.mem_of_find?_eq_some hfind)).1

/-- After a call, the notices of a change are a round of the audience, if no subscriber in it has a
    call to make. -/
theorem fire_round (hw : w.Aligned) (hhomed : w.Homed) (hmem : (session, handle) ∈ w.roster)
    (hkey : key.length ≤ Text.Wide.scanLimit)
    (hidle : ∀ i ∈ w.audience session key, ∀ t, w.tokens[i]? = some t → t.willCall = false)
    (c : Call) :
    Round (w.take c).driver (w.take c) (w.audience session key)
      ((w.take c).deliverAll (w.driver.fire handle key)).2 := by
  obtain ⟨units, hunits, hfire⟩ := fire_eq hw.toSettled handle hkey
  have haudience := filter_rings_eq_audience hw hhomed hmem hunits
  rw [hfire, ← haudience]
  refine round_deliverAll (w := w.take c) ?_ fun n hn => ?_
  · rw [List.map_map]
    exact hw.tokens_nodup.sublist (List.filter_sublist.map _)
  · obtain ⟨s, hs, rfl⟩ := List.mem_map.mp hn
    obtain ⟨t, ht, -, -⟩ := hw.subscription_token s (List.mem_filter.mp hs).1
    refine ⟨t, ht, fun hrings => hidle s.token ?_ t ht⟩
    -- whoever is invoked is in the audience
    rw [← haudience]
    exact List.mem_map_of_mem (List.mem_filter.mpr ⟨hn, hrings⟩)

/-- A write that succeeds is announced to its audience, if no subscriber in it has a call to
    make. -/
theorem call_announced (hw : w.Aligned) (hrostered : w.Rostered) (hhomed : w.Homed)
    (hd : w.driver.Honest) (hmem : (session, handle) ∈ w.roster)
    (hkey : key.length ≤ Text.Wide.scanLimit) {c : Call} {v : Write}
    (hpass : w.backend.pass? c = some (.feature handle key (.write v)))
    (hidle : ∀ i ∈ w.audience session key, ∀ t, w.tokens[i]? = some t → t.willCall = false)
    (hstatus : (w.call c).1.status = Status.success) :
    Announced w (w.call c).2 session handle key v := by
  rw [call_of_passed hpass] at hstatus ⊢
  obtain ⟨⟨before, after, hbefore, hwrite, hafter⟩, hnotices⟩ :=
    Driver.write_of_success hd hstatus
  have hstored := (hafter key).trans (if_pos rfl)
  have hround := fire_round hw hhomed hmem hkey hidle (.feature handle key (.write v))
  rw [hnotices]
  refine
    { stored := ⟨before, after, hbefore, hwrite, Content.takes_of_write hwrite, hstored, ?_⟩
      round := hround
      audience_iff := fun i => mem_audience hw.toSettled hhomed hmem
      invocations := fun i t ht => ?_
      events := ?_ }
  · rw [hround.driver_eq.2]
    exact hstored
  · obtain ⟨t', ht', hidentity, hcount⟩ := hround.invocations ht
    rw [(nodup_audience hrostered).count] at hcount
    exact ⟨t', ht', hidentity, hcount⟩
  · obtain ⟨new, hnew, hevents⟩ := hround.history
    have hhistory := hnew.trans (List.append_cons new
      (.called (.feature handle key (.write v)) (w.driver.step _).reply) w.history)
    rw [eventsSince_of_append hhistory, List.reverse_append]
    exact hevents

end CameraControl.World
