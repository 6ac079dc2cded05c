import CameraControl.Proofs.Driver.Refusal
import CameraControl.Proofs.World.Enrolment
import CameraControl.Proofs.World.Liveness
import CameraControl.Proofs.World.Replay

/-
  Live tokens and the subscriptions of the driver.

  A session lists the tokens that are live in it, and the driver lists the subscriptions on its
  handle; the two lists are kept by different hands. `Aligned` says how they hang together: the
  live tokens are those of the subscriptions without the ones that the driver failed to take back,
  and a subscription outside all sessions is left over from a handle that it failed to close.

  `Settled` is the part of this that does not speak of the live lists; `Frame` lists what a change
  of the world has to leave alone to keep it.
-/

namespace CameraControl

/-- A call that has no part in sessions and tokens; only cameras may make the other ones. -/
def Call.Orderly : Call → Prop
  | close _ | feature _ _ (.subscribe _) | feature _ _ (.unsubscribe _) => False
  | _ => True

/-- Whether a happening is a failed call to take back the subscription of a token. -/
def Happening.failsToUnsubscribe (token : Nat) : Happening → Bool
  | called (.feature _ _ (.unsubscribe i)) r => i == token && r.status != Status.success
  | _ => false

namespace World

/-- The tokens that the driver holds for a handle, in the order of their subscriptions, without
    those that it failed to take back. -/
def heldTokens (w : World) (handle : Int32) : List Nat :=
  ((w.driver.subscriptions.filter fun s => s.handle == handle).map Subscription.token).filter
    fun i => !w.history.any (Happening.failsToUnsubscribe i)

/-- The driver failed to close a handle. -/
def CloseFailed (w : World) (handle : Int32) : Prop :=
  ∃ r, .called (.close handle) r ∈ w.history ∧ r.status ≠ Status.success

/-- The sessions with their handles. -/
def roster (w : World) : List (Nat × Int32) := w.sessions.map fun x => (x.id, x.handle)

/-- How sessions, tokens and subscriptions refer to one another. -/
structure Settled (w : World) : Prop where
  ids_nodup : (w.roster.map Prod.fst).Nodup
  id_lt : ∀ p ∈ w.roster, p.1 < w.nextSession
  handles_nodup : (w.roster.map Prod.snd).Nodup
  session_open : ∀ p ∈ w.roster, p.2 ∈ Entries.keys w.driver.opened
  token_session : ∀ t ∈ w.tokens, t.session < w.nextSession ∧
    ∀ p ∈ w.roster, p.1 = t.session → p.2 = t.handle
  tokens_nodup : (w.driver.subscriptions.map Subscription.token).Nodup
  subscription_token : ∀ s ∈ w.driver.subscriptions, ∃ t, w.tokens[s.token]? = some t ∧
    s.handle = t.handle ∧ s.key = Text.squeeze t.feature.key
  /-- A subscription outside all sessions is left over. -/
  subscription_origin : ∀ s ∈ w.driver.subscriptions,
    s.handle ∈ w.roster.map Prod.snd ∨ w.CloseFailed s.handle
  /-- A closed handle is not handed out again. -/
  closed_gone : ∀ handle r, .called (.close handle) r ∈ w.history → r.status = Status.success →
    handle ∉ Entries.keys w.driver.opened ∧ handle < w.driver.nextHandle
  unsubscribed_lt : ∀ handle key i r,
    .called (.feature handle key (.unsubscribe i)) r ∈ w.history → i < w.tokens.length

/-- Live tokens and subscriptions are in step. -/
structure Aligned (w : World) : Prop extends Settled w where
  live_eq : ∀ x ∈ w.sessions, x.live = w.heldTokens x.handle

variable {w w' : World}

/-! ## Frames -/

/-- What a change leaves alone that neither begins a session nor makes a subscription. -/
structure Frame (w w' : World) : Prop where
  roster : w'.roster.Sublist w.roster
  nextSession : w'.nextSession = w.nextSession
  subscriptions : w'.driver.subscriptions.Sublist w.driver.subscriptions
  tokens_old : ∀ {i : Nat} {t : Token}, w.tokens[i]? = some t →
    ∃ t', w'.tokens[i]? = some t' ∧ t'.identity = t.identity
  tokens_new : ∀ t' ∈ w'.tokens, (∃ t ∈ w.tokens, t.identity = t'.identity) ∨
    t'.session < w.nextSession ∧ ∀ p ∈ w.roster, p.1 = t'.session → p.2 = t'.handle
  history : ∀ h ∈ w.history, h ∈ w'.history
  session_open : ∀ p ∈ w'.roster, p.2 ∈ Entries.keys w.driver.opened →
    p.2 ∈ Entries.keys w'.driver.opened
  subscription_origin : ∀ s ∈ w'.driver.subscriptions, s.handle ∈ w.roster.map Prod.snd →
    s.handle ∈ w'.roster.map Prod.snd ∨ w'.CloseFailed s.handle
  gone : ∀ handle, handle ∉ Entries.keys w.driver.opened → handle < w.driver.nextHandle →
    handle ∉ Entries.keys w'.driver.opened ∧ handle < w'.driver.nextHandle
  closed : ∀ handle r, .called (.close handle) r ∈ w'.history → r.status = Status.success →
    .called (.close handle) r ∈ w.history ∨
      handle ∉ Entries.keys w'.driver.opened ∧ handle < w'.driver.nextHandle
  unsubscribed : ∀ handle key i r,
    .called (.feature handle key (.unsubscribe i)) r ∈ w'.history →
      .called (.feature handle key (.unsubscribe i)) r ∈ w.history ∨ i < w'.tokens.length

theorem Settled.enrolled (hw : w.Settled) : w.Enrolled :=
  ⟨hw.tokens_nodup, hw.subscription_token⟩

theorem Settled.of_frame (hw : w.Settled) (h : Frame w w') : w'.Settled where
  ids_nodup := hw.ids_nodup.sublist (h.roster.map _)
  id_lt := by
    intro p hp
    rw [h.nextSession]
    exact hw.id_lt p (h.roster.subset hp)
  handles_nodup := hw.handles_nodup.sublist (h.roster.map _)
  session_open := fun p hp => h.session_open p hp (hw.session_open p (h.roster.subset hp))
  token_session := by
    intro t' ht'
    rw [h.nextSession]
    rcases h.tokens_new t' ht' with ⟨t, ht, hidentity⟩ | ⟨hlt, hhandle⟩
    -- the token was there before, with the same session and handle
    · have hsession : t.session = t'.session := (congrArg Token.session hidentity :)
      have hhandle : t.handle = t'.handle := (congrArg Token.handle hidentity :)
      obtain ⟨hlt, hroster⟩ := hw.token_session t ht
      rw [← hsession, ← hhandle]
      exact ⟨hlt, fun p hp => hroster p (h.roster.subset hp)⟩
    · exact ⟨hlt, fun p hp => hhandle p (h.roster.subset hp)⟩
  tokens_nodup := (hw.enrolled.of_sublist h.subscriptions h.tokens_old).tokens_nodup
  subscription_token := (hw.enrolled.of_sublist h.subscriptions h.tokens_old).subscription_token
  subscription_origin := by
    intro s hs
    rcases hw.subscription_origin s (h.subscriptions.subset hs) with hmem | ⟨r, hr, hfailed⟩
    · exact h.subscription_origin s hs hmem
    · exact .inr ⟨r, h.history _ hr, hfailed⟩
  closed_gone := by
    intro handle r hr hstatus
    rcases h.closed handle r hr hstatus with hr | hgone
    · obtain ⟨hclosed, hlt⟩ := hw.closed_gone handle r hr hstatus
      exact h.gone handle hclosed hlt
    · exact hgone
  unsubscribed_lt := by
    intro handle key i r hr
    rcases h.unsubscribed handle key i r hr with hr | hlt
    -- the token that was named then is still there
    · obtain ⟨t', ht', -⟩ := h.tokens_old
        (List.getElem?_eq_getElem (hw.unsubscribed_lt handle key i r hr))
      exact (List.getElem?_eq_some_iff.mp ht').1
    · exact hlt

/-- What a change leaves alone that opens and closes nothing and adds one happening to the
    history. -/
theorem Frame.of_happening {h : Happening} (hroster : w'.roster = w.roster)
    (hsession : w'.nextSession = w.nextSession) (htokens : w'.tokens = w.tokens)
    (hhistory : w'.history = h :: w.history)
    (hsubscriptions : w'.driver.subscriptions.Sublist w.driver.subscriptions)
    (hopened : w'.driver.opened = w.driver.opened)
    (hnext : w'.driver.nextHandle = w.driver.nextHandle)
    (hclose : ∀ handle r, h ≠ .called (.close handle) r)
    (hunsubscribe : ∀ handle key i r, h = .called (.feature handle key (.unsubscribe i)) r →
      i < w.tokens.length) : Frame w w' where
  roster := hroster ▸ List.Sublist.refl _
  nextSession := hsession
  subscriptions := hsubscriptions
  tokens_old := fun {_ t} ht => ⟨t, htokens ▸ ht, rfl⟩
  tokens_new := fun t ht => .inl ⟨t, htokens ▸ ht, rfl⟩
  history := fun _ hmem => hhistory ▸ List.mem_cons_of_mem _ hmem
  session_open := fun _ _ hp => hopened ▸ hp
  subscription_origin := fun _ _ hs => .inl (hroster.symm ▸ hs)
  gone := by
    intro handle hclosed hlt
    rw [hopened, hnext]
    exact ⟨hclosed, hlt⟩
  closed := by
    intro handle r hr _
    rw [hhistory] at hr
    rcases List.mem_cons.mp hr with heq | hr
    · exact absurd heq.symm (hclose handle r)
    · exact .inl hr
  unsubscribed := by
    intro handle key i r hr
    rw [hhistory] at hr
    rcases List.mem_cons.mp hr with heq | hr
    · exact .inr (htokens ▸ hunsubscribe handle key i r heq.symm)
    · exact .inl hr

/-! ## Few handles -/

/-- What few handles give at a moment and a later one: the driver is sound, and its counter has not
    run over. -/
structure Grown (w w' : World) : Prop where
  sound : w.driver.Sound
  next_le : w.driver.nextHandle.toInt ≤ w'.driver.nextHandle.toInt

theorem few_of_turns {devices : List Device} (hturns : Turns w w')
    (hfew : (Driver.ofDevices devices).Few w'.operations) :
    (Driver.ofDevices devices).Few w.operations := by
  obtain ⟨later, hlater⟩ := hturns.operations_grow
  exact .of_append (hlater ▸ hfew)

theorem grown_of_few {devices : List Device} (hbuilt : ∀ device ∈ devices, device.Built)
    (hturns : Turns w w') (hw : w.Replays (Driver.ofDevices devices))
    (hfew : (Driver.ofDevices devices).Few w'.operations) : Grown w w' := by
  obtain ⟨later, hlater⟩ := hturns.operations_grow
  -- the counter stands at the number of handles handed out, and that number only grows
  have hfew' := few_of_turns hturns hfew
  obtain ⟨hsound, hcounted⟩ := Driver.sound_of_few hbuilt hfew'
  obtain ⟨-, hcounted'⟩ := Driver.sound_of_few hbuilt hfew
  rw [← hw, Driver.Counted] at hcounted
  rw [← hturns.replays hw, Driver.Counted, hlater, Driver.handedOut_append,
    List.length_append] at hcounted'
  refine ⟨hw ▸ hsound, ?_⟩
  rw [hcounted, hcounted']
  omega

theorem Grown.lt_next {handle : Int32} (hg : Grown w w') (h : handle < w.driver.nextHandle) :
    handle < w'.driver.nextHandle := by
  rw [Int32.lt_iff_toInt_lt] at h ⊢
  have := hg.next_le
  omega

/-! ## Orderly changes -/

/-- An orderly call leaves the subscriptions alone and closes nothing. -/
theorem subscriptions_of_orderly {c : Call} (hc : c.Orderly) (d : Driver) :
    (d.step c).driver.subscriptions = d.subscriptions ∧
      ∀ handle ∈ Entries.keys d.opened, handle ∈ Entries.keys (d.step c).driver.opened := by
  rcases Driver.step_cases d c with ⟨code, -, hstep⟩ | ⟨e, he, hstep⟩
  · rw [hstep]
    exact ⟨rfl, fun _ h => h⟩
  · rw [hstep]
    cases he with
    | opened => exact ⟨rfl, fun _ h => (Entries.mem_keys_put _).mpr (.inr h)⟩
    | closed => exact hc.elim
    | subscribed => exact hc.elim
    | unsubscribed => exact hc.elim
    | _ => exact ⟨rfl, fun _ h => h⟩

/-- A call opens at most the handle that is next. -/
theorem opened_of_step {c : Call} {d : Driver} {handle : Int32}
    (h : handle ∈ Entries.keys (d.step c).driver.opened) :
    handle ∈ Entries.keys d.opened ∨ handle = d.nextHandle := by
  rcases Driver.step_cases d c with ⟨code, -, hstep⟩ | ⟨e, he, hstep⟩
  · rw [hstep] at h
    exact .inl h
  · rw [hstep] at h
    cases he with
    | opened => exact ((Entries.mem_keys_put _).mp h).symm
    | closed => exact .inl (Entries.mem_keys_erase.mp h).1
    | _ => exact .inl h

/-- What two worlds with the same subscriptions and the same failed calls hold is the same. -/
theorem heldTokens_congr (hsubscriptions : w'.driver.subscriptions = w.driver.subscriptions)
    (hfails : ∀ i, w'.history.any (Happening.failsToUnsubscribe i) =
      w.history.any (Happening.failsToUnsubscribe i)) (handle : Int32) :
    w'.heldTokens handle = w.heldTokens handle := by
  simp only [heldTokens, hsubscriptions, hfails]

theorem tokens_new_of_map (h : w'.tokens.map Token.identity = w.tokens.map Token.identity)
    {t' : Token} (ht' : t' ∈ w'.tokens) : ∃ t ∈ w.tokens, t.identity = t'.identity := by
  have hmem : t'.identity ∈ w.tokens.map Token.identity := h ▸ List.mem_map_of_mem ht'
  simpa using hmem

/-- What an orderly change adds to the history. -/
theorem Change.orderly_history (h : Change Call.Orderly w w') :
    ∃ new, w'.history = new ++ w.history ∧ ∀ c r, .called c r ∈ new → c.Orderly := by
  cases h with
  | hear => exact ⟨[_], rfl, by simp⟩
  | absorb => exact ⟨[_], rfl, by simp⟩
  | invoke => exact ⟨[_, _], rfl, by simp⟩
  | take hc =>
    refine ⟨[_], rfl, fun c r hr => ?_⟩
    simp only [List.mem_singleton, Happening.called.injEq] at hr
    exact hr.1 ▸ hc
  | record => exact ⟨[_], rfl, by simp⟩

/-- What an orderly change does to the driver. -/
theorem Change.orderly_driver (h : Change Call.Orderly w w') :
    w'.driver.subscriptions = w.driver.subscriptions ∧
      (∀ handle ∈ Entries.keys w.driver.opened, handle ∈ Entries.keys w'.driver.opened) ∧
      ∀ handle ∈ Entries.keys w'.driver.opened,
        handle ∈ Entries.keys w.driver.opened ∨ handle = w.driver.nextHandle := by
  cases h with
  | @take c hc =>
    obtain ⟨hsubscriptions, hopened⟩ := subscriptions_of_orderly hc w.driver
    exact ⟨hsubscriptions, hopened, fun _ h => opened_of_step h⟩
  | _ => exact ⟨rfl, fun _ h => h, fun _ h => .inl h⟩

/-- Orderly changes keep live tokens and subscriptions in step. -/
theorem Change.aligned (h : Change Call.Orderly w w') (hg : Grown w w') (hw : w.Aligned) :
    w'.Aligned := by
  obtain ⟨htokens, hsessions, hnext, -⟩ := h.frame
  obtain ⟨new, hnew, horderly⟩ := h.orderly_history
  obtain ⟨hsubscriptions, hopened, hopened'⟩ := h.orderly_driver
  have hroster : w'.roster = w.roster := by rw [roster, hsessions, roster]
  -- an orderly call takes back no subscription, so none is failed to be taken back
  have hfails (i : Nat) : w'.history.any (Happening.failsToUnsubscribe i) =
      w.history.any (Happening.failsToUnsubscribe i) := by
    have hnone : new.any (Happening.failsToUnsubscribe i) = false := by
      rw [List.any_eq_false]
      intro h hh
      unfold Happening.failsToUnsubscribe
      split
      · exact absurd (horderly _ _ hh) id
      · simp
    rw [hnew, List.any_append, hnone, Bool.false_or]
  have hframe : Frame w w' :=
    { roster := hroster ▸ List.Sublist.refl _
      nextSession := hnext
      subscriptions := hsubscriptions ▸ List.Sublist.refl _
      tokens_old := tokens_old_of_map htokens
      tokens_new := fun t' ht' => .inl (tokens_new_of_map htokens ht')
      history := fun h hh => hnew ▸ List.mem_append_right _ hh
      session_open := fun p _ hp => hopened _ hp
      subscription_origin := fun s _ hs => .inl (hroster.symm ▸ hs)
      gone := by
        intro handle hclosed hlt
        refine ⟨fun hmem => ?_, hg.lt_next hlt⟩
        -- the only handle that can be new is the next one, and the closed one was handed out before
        rcases hopened' handle hmem with hmem | rfl
        · exact hclosed hmem
        · exact Int32.lt_irrefl hlt
      closed := by
        intro handle r hr _
        rcases List.mem_append.mp (hnew ▸ hr) with hr | hr
        · exact absurd (horderly _ _ hr) id
        · exact .inl hr
      unsubscribed := by
        intro handle key i r hr
        rcases List.mem_append.mp (hnew ▸ hr) with hr | hr
        · exact absurd (horderly _ _ hr) id
        · exact .inl hr }
  refine { hw.toSettled.of_frame hframe with live_eq := fun x hx => ?_ }
  rw [heldTokens_congr hsubscriptions hfails]
  exact hw.live_eq x (hsessions ▸ hx)

/-! ## Sessions -/

/-- A session begins on a handle that is open and that nobody has used. -/
theorem Aligned.beginSession {handle : Int32} (hw : w.Aligned)
    (hopen : handle ∈ Entries.keys w.driver.opened) (hroster : handle ∉ w.roster.map Prod.snd)
    (hfree : ∀ s ∈ w.driver.subscriptions, s.handle ≠ handle) :
    (w.beginSession handle).Aligned := by
  have hnew : (w.beginSession handle).roster = w.roster ++ [(w.nextSession, handle)] := by
    simp [World.roster, World.beginSession]
  -- the number of the session is new
  have hid : w.nextSession ∉ w.roster.map Prod.fst := by
    intro h
    obtain ⟨p, hp, heq⟩ := List.mem_map.mp h
    exact absurd (hw.id_lt p hp) (by omega)
  refine
    { ids_nodup := ?_
      id_lt := fun p hp => ?_
      handles_nodup := ?_
      session_open := fun p hp => ?_
      token_session := fun t ht => ?_
      tokens_nodup := hw.tokens_nodup
      subscription_token := hw.subscription_token
      subscription_origin := fun s hs => ?_
      closed_gone := hw.closed_gone
      unsubscribed_lt := hw.unsubscribed_lt
      live_eq := fun x hx => ?_ }
  · rw [hnew, List.map_append]
    simpa [List.concat_eq_append] using hw.ids_nodup.concat hid
  · show p.1 < w.nextSession + 1
    rcases List.mem_append.mp (hnew ▸ hp) with hp | hp
    · exact Nat.lt_succ_of_lt (hw.id_lt p hp)
    · obtain rfl := List.mem_singleton.mp hp
      exact Nat.lt_succ_self _
  · rw [hnew, List.map_append]
    simpa [List.concat_eq_append] using hw.handles_nodup.concat hroster
  · rcases List.mem_append.mp (hnew ▸ hp) with hp | hp
    · exact hw.session_open p hp
    · obtain rfl := List.mem_singleton.mp hp
      exact hopen
  · obtain ⟨hlt, hhandle⟩ := hw.token_session t ht
    refine ⟨Nat.lt_succ_of_lt hlt, fun p hp hsession => ?_⟩
    rcases List.mem_append.mp (hnew ▸ hp) with hp | hp
    · exact hhandle p hp hsession
    · obtain rfl := List.mem_singleton.mp hp
      exact absurd hsession (Nat.ne_of_gt hlt)
  · rcases hw.subscription_origin s hs with hs | hs
    · rw [hnew, List.map_append]
      exact .inl (List.mem_append_left _ hs)
    · exact .inr hs
  · rcases List.mem_append.mp hx with hx | hx
    · exact hw.live_eq x hx
    · obtain rfl := List.mem_singleton.mp hx
      -- the new session lists no token, and the driver has no subscription on its handle
      have hnone : w.driver.subscriptions.filter (fun s => s.handle == handle) = [] := by
        simpa [List.filter_eq_nil_iff] using hfree
      show [] = w.heldTokens handle
      rw [heldTokens, hnone]
      rfl

/-- In an honest driver, opening that succeeds hands out the next handle. -/
theorem call_open_of_success {index : Int32} (hd : w.driver.Honest)
    (hstatus : (w.call (.open index)).1.status = Status.success) :
    (w.call (.open index)).2 = w.take (.open index) ∧
      (w.call (.open index)).1.word noHandle = w.driver.nextHandle ∧
      w.driver.nextHandle ∈ Entries.keys (w.take (.open index)).driver.opened := by
  have hcall := call_eq (c := .open index) trivial w
  rw [hcall] at hstatus ⊢
  rcases Driver.step_honest hd (.open index) with ⟨code, hcode, hstep⟩ | ⟨e, he, hstep⟩
  · rw [hstep] at hstatus
    exact absurd hstatus hcode
  -- opening notifies nobody, so there is nothing to deliver
  · cases he
    refine ⟨by rw [hstep]; rfl, by rw [hstep]; rfl, ?_⟩
    show _ ∈ Entries.keys (w.driver.step (.open index)).driver.opened
    rw [hstep]
    exact (Entries.mem_keys_put _).mpr (.inl rfl)

theorem aligned_afterOpening {index : Int32} (hd : w.driver.Honest)
    (hg : Grown w (w.take (.open index))) (hw : w.Aligned)
    (hstatus : (w.call (.open index)).1.status = Status.success) :
    (Camera.afterOpening index w).Aligned := by
  obtain ⟨hworld, hhandle, hopen⟩ := call_open_of_success hd hstatus
  have htake : Change Call.Orderly w (w.take (.open index)) := .take trivial
  have haligned := htake.aligned hg hw
  have hafter : Camera.afterOpening index w =
      (w.take (.open index)).beginSession w.driver.nextHandle := by
    rw [Camera.afterOpening, hworld, Camera.opening, hhandle]
  rw [hafter]
  refine haligned.beginSession hopen (fun hmem => ?_) fun s hs heq => ?_
  -- all handles in use are open, and the next one is not
  · obtain ⟨p, hp, heq⟩ := List.mem_map.mp hmem
    exact hg.sound.nextHandle_not_mem (heq ▸ hw.session_open p hp)
  · rw [htake.orderly_driver.1] at hs
    exact hg.sound.nextHandle_not_mem (heq ▸ hg.sound.subscription_open s hs)

/-- Two entries of the roster with one session are one. -/
theorem Settled.eq_of_id {p q : Nat × Int32} (hw : w.Settled) (hp : p ∈ w.roster)
    (hq : q ∈ w.roster) (h : p.1 = q.1) : p = q :=
  List.inj_on_of_nodup_map hw.ids_nodup hp hq h

theorem Settled.eq_of_handle {p q : Nat × Int32} (hw : w.Settled) (hp : p ∈ w.roster)
    (hq : q ∈ w.roster) (h : p.2 = q.2) : p = q :=
  List.inj_on_of_nodup_map hw.handles_nodup hp hq h

theorem roster_endSession (w : World) (session : Nat) :
    (w.endSession session).roster = w.roster.filter fun p => p.1 != session := by
  simp only [roster, World.endSession, List.filter_map]
  rfl

theorem mem_roster {x : Session} (hx : x ∈ w.sessions) : (x.id, x.handle) ∈ w.roster :=
  List.mem_map_of_mem hx

/-- The live tokens of a session are those that the driver holds for its handle. -/
theorem Aligned.live?_eq {session : Nat} {handle : Int32} (hw : w.Aligned)
    (hmem : (session, handle) ∈ w.roster) : w.live? session = some (w.heldTokens handle) := by
  obtain ⟨y, hy, heq⟩ := List.mem_map.mp hmem
  have hid : y.id = session := congrArg Prod.fst heq
  unfold live?
  cases hfind : w.sessions.find? fun x => x.id == session with
  | none => exact absurd hid (by simpa using List.find?_eq_none.mp hfind y hy)
  | some x =>
    have hx := List.mem_of_find?_eq_some hfind
    have hxid : x.id = session := by simpa using List.find?_some hfind
    have hsame := hw.eq_of_id (mem_roster hx) hmem hxid
    have hhandle : x.handle = handle := congrArg Prod.snd hsame
    rw [Option.map_some, hw.live_eq x hx, hhandle]

/-- What a call to close a handle does: it concerns that handle only, and if it succeeds, the handle
    and its subscriptions are gone. -/
structure Closing (d : Driver) (handle : Int32) (o : Outcome) : Prop where
  notices : o.notices = []
  nextHandle : o.driver.nextHandle = d.nextHandle
  subscriptions : o.driver.subscriptions.Sublist d.subscriptions
  subscriptions_other : ∀ h, h ≠ handle →
    o.driver.subscriptions.filter (fun s => s.handle == h) =
      d.subscriptions.filter fun s => s.handle == h
  opened : ∀ h ∈ Entries.keys o.driver.opened, h ∈ Entries.keys d.opened
  opened_other : ∀ h ∈ Entries.keys d.opened, h ≠ handle → h ∈ Entries.keys o.driver.opened
  gone : o.reply.status = Status.success →
    handle ∉ Entries.keys o.driver.opened ∧ handle < d.nextHandle ∧
      ∀ s ∈ o.driver.subscriptions, s.handle ≠ handle

theorem closing_step {d : Driver} (hd : d.Honest) (hsound : d.Sound) (handle : Int32) :
    Closing d handle (d.step (.close handle)) := by
  rcases Driver.step_honest hd (.close handle) with ⟨code, hcode, hstep⟩ | ⟨e, he, hstep⟩
  · rw [hstep]
    exact ⟨rfl, rfl, List.Sublist.refl _, fun _ _ => rfl, fun _ h => h, fun _ h _ => h,
      fun h => absurd h hcode⟩
  · rw [hstep]
    cases he with
    | @closed _ i hopen =>
      refine ⟨rfl, rfl, List.filter_sublist, fun h hne => ?_, fun h hh => ?_, fun h hh hne => ?_,
        fun _ => ⟨fun hh => ?_, ?_, fun s hs => ?_⟩⟩
      · show List.filter _ (List.filter _ _) = _
        rw [List.filter_filter]
        refine List.filter_congr fun s _ => ?_
        by_cases hs : s.handle = h <;> simp [hs, hne]
      · exact (Entries.mem_keys_erase.mp hh).1
      · exact Entries.mem_keys_erase.mpr ⟨hh, hne⟩
      · exact (Entries.mem_keys_erase.mp hh).2 rfl
      · exact (hsound.handle_range _ (Entries.mem_of_get? hopen)).2
      · simpa using (List.mem_filter.mp hs).2

/-- Giving up a camera keeps live tokens and subscriptions in step, whether its handle is closed or
    left over. -/
theorem aligned_drop {cam : Camera} (hd : w.driver.Honest) (hsound : w.driver.Sound)
    (hw : w.Aligned) (hcam : (cam.session, cam.handle) ∈ w.roster) :
    (cam.drop.exec w).2.Aligned := by
  have hclosing := closing_step hd hsound cam.handle
  have hworld : (cam.drop.exec w).2 = (w.take (.close cam.handle)).endSession cam.session := by
    rw [Camera.drop_exec, call_eq (c := .close cam.handle) trivial, hclosing.notices]
    rfl
  rw [hworld]
  generalize hw' : (w.take (.close cam.handle)).endSession cam.session = w'
  have hhistory : w'.history =
      .called (.close cam.handle) (w.driver.step (.close cam.handle)).reply :: w.history := by
    rw [← hw']
    rfl
  have hdriver : w'.driver = (w.driver.step (.close cam.handle)).driver := by
    rw [← hw']
    rfl
  have hroster : w'.roster = w.roster.filter fun p => p.1 != cam.session := by
    rw [← hw', roster_endSession]
    rfl
  have hmem {p : Nat × Int32} : p ∈ w'.roster ↔ p ∈ w.roster ∧ p.1 ≠ cam.session := by
    rw [hroster, List.mem_filter, bne_iff_ne]
  -- the other sessions have other handles
  have hother {p : Nat × Int32} (hp : p ∈ w.roster) :
      p.1 ≠ cam.session ↔ p.2 ≠ cam.handle :=
    not_congr ⟨fun h => congrArg Prod.snd (hw.eq_of_id hp hcam h),
      fun h => congrArg Prod.fst (hw.eq_of_handle hp hcam h)⟩
  have hframe : Frame w w' :=
    { roster := hroster ▸ List.filter_sublist
      nextSession := by rw [← hw']; rfl
      subscriptions := hdriver ▸ hclosing.subscriptions
      tokens_old := fun {i t} ht => ⟨t, by rw [← hw']; exact ht, rfl⟩
      tokens_new := fun t ht => .inl ⟨t, by rw [← hw'] at ht; exact ht, rfl⟩
      history := fun h hh => hhistory ▸ List.mem_cons_of_mem _ hh
      session_open := by
        intro p hp hopen
        obtain ⟨hp, hne⟩ := hmem.mp hp
        rw [hdriver]
        exact hclosing.opened_other _ hopen ((hother hp).mp hne)
      subscription_origin := by
        intro s hs hold
        obtain ⟨p, hp, heq⟩ := List.mem_map.mp hold
        by_cases hhandle : s.handle = cam.handle
        · -- a subscription on the handle is left over, because it was not closed
          refine .inr ⟨(w.driver.step (.close cam.handle)).reply, ?_, fun hstatus => ?_⟩
          · rw [hhistory, hhandle]
            exact List.mem_cons_self
          · exact (hclosing.gone hstatus).2.2 s (hdriver ▸ hs) hhandle
        · have hne : p.1 ≠ cam.session := (hother hp).mpr (heq ▸ hhandle)
          exact .inl (List.mem_map.mpr ⟨p, hmem.mpr ⟨hp, hne⟩, heq⟩)
      gone := by
        intro h hclosed hlt
        rw [hdriver, hclosing.nextHandle]
        exact ⟨fun hh => hclosed (hclosing.opened h hh), hlt⟩
      closed := by
        intro h r hr hstatus
        rw [hhistory] at hr
        rcases List.mem_cons.mp hr with heq | hr
        · simp only [Happening.called.injEq, Call.close.injEq] at heq
          obtain ⟨rfl, rfl⟩ := heq
          obtain ⟨hclosed, hlt, -⟩ := hclosing.gone hstatus
          rw [hdriver, hclosing.nextHandle]
          exact .inr ⟨hclosed, hlt⟩
        · exact .inl hr
      unsubscribed := by
        intro h key i r hr
        rw [hhistory] at hr
        rcases List.mem_cons.mp hr with heq | hr
        · simp at heq
        · exact .inl hr }
  refine { hw.toSettled.of_frame hframe with live_eq := fun x hx => ?_ }
  obtain ⟨hx, hne⟩ : x ∈ w.sessions ∧ x.id ≠ cam.session := by
    rw [← hw'] at hx
    exact ⟨(List.mem_filter.mp hx).1, by simpa using (List.mem_filter.mp hx).2⟩
  have hhandle : x.handle ≠ cam.handle := (hother (mem_roster hx)).mp hne
  rw [hw.live_eq x hx, heldTokens, heldTokens, hdriver, hclosing.subscriptions_other _ hhandle,
    hhistory]
  rfl

/-! ## Giving tokens back -/

theorem roster_modifyLive (w : World) (session : Nat) (f : List Nat → List Nat) :
    (w.modifyLive session f).roster = w.roster := by
  simp only [roster, modifyLive, List.map_map]
  refine List.map_congr_left fun x _ => ?_
  by_cases h : x.id = session <;> simp [h]

theorem mem_heldTokens {handle : Int32} {i : Nat} :
    i ∈ w.heldTokens handle ↔
      (∃ s ∈ w.driver.subscriptions, s.handle = handle ∧ s.token = i) ∧
        w.history.any (Happening.failsToUnsubscribe i) = false := by
  simp only [heldTokens, List.mem_filter, List.mem_map, beq_iff_eq, Bool.not_eq_true']
  constructor
  · rintro ⟨⟨s, ⟨hs, hhandle⟩, htoken⟩, hfails⟩
    exact ⟨⟨s, hs, hhandle, htoken⟩, hfails⟩
  · rintro ⟨⟨s, hs, hhandle, htoken⟩, hfails⟩
    exact ⟨⟨s, ⟨hs, hhandle⟩, htoken⟩, hfails⟩

/-- Two subscriptions of one token are one. -/
theorem Settled.eq_of_token {s s' : Subscription} (hw : w.Settled)
    (hs : s ∈ w.driver.subscriptions) (hs' : s' ∈ w.driver.subscriptions)
    (h : s.token = s'.token) : s = s' :=
  List.inj_on_of_nodup_map hw.tokens_nodup hs hs' h

/-- A token is live in a session if the session lists it. -/
theorem exists_session_of_isLive {session i : Nat} (h : w.isLive session i = true) :
    ∃ x ∈ w.sessions, x.id = session ∧ i ∈ x.live := by
  unfold isLive live? at h
  cases hfind : w.sessions.find? fun x => x.id == session with
  | none => simp [hfind] at h
  | some x =>
    refine ⟨x, List.mem_of_find?_eq_some hfind, by simpa using List.find?_some hfind, ?_⟩
    simpa [hfind] using h

/-- What a call to take back the only subscription of a token does. -/
structure TakingBack (d : Driver) (i : Nat) (o : Outcome) : Prop where
  notices : o.notices = []
  opened : o.driver.opened = d.opened
  nextHandle : o.driver.nextHandle = d.nextHandle
  subscriptions : o.driver.subscriptions =
    if o.reply.status = Status.success then d.subscriptions.filter fun s => s.token != i
    else d.subscriptions

theorem takingBack_step {d : Driver} (hd : d.Honest)
    (hnodup : (d.subscriptions.map Subscription.token).Nodup) (handle : Int32) (key : String)
    (i : Nat) : TakingBack d i (d.step (.feature handle key (.unsubscribe i))) := by
  rcases Driver.step_honest hd (.feature handle key (.unsubscribe i)) with
    ⟨code, hcode, hstep⟩ | ⟨e, he, hstep⟩
  · rw [hstep]
    exact ⟨rfl, rfl, rfl, (if_neg hcode).symm⟩
  · rw [hstep]
    cases he with
    | answered hread => cases hread
    | unsubscribed hopen hmem =>
      refine ⟨rfl, rfl, rfl, ?_⟩
      rw [if_pos rfl]
      show d.subscriptions.erase _ = _
      -- the token has one subscription only, so taking back that one takes back all of them
      rw [(List.Nodup.of_map _ hnodup).erase_eq_filter]
      refine List.filter_congr fun s hs => ?_
      rw [Bool.eq_iff_iff, bne_iff_ne, bne_iff_ne, not_iff_not]
      exact ⟨fun h => congrArg Subscription.token h,
        fun h => List.inj_on_of_nodup_map hnodup hs hmem h⟩

/-- After the call, the token is not held any more: either its subscription is gone, or the call
    failed. -/
theorem heldTokens_takeBack {i : Nat} (hd : w.driver.Honest)
    (hnodup : (w.driver.subscriptions.map Subscription.token).Nodup) (handle : Int32) (key : String)
    (handle' : Int32) :
    (w.take (.feature handle key (.unsubscribe i))).heldTokens handle' =
      (w.heldTokens handle').filter (· != i) := by
  have hback := takingBack_step hd hnodup handle key i
  have hsubscriptions := hback.subscriptions
  have hfails (j : Nat) :
      (w.take (.feature handle key (.unsubscribe i))).history.any (Happening.failsToUnsubscribe j) =
        ((i == j && (w.driver.step (.feature handle key (.unsubscribe i))).reply.status !=
          Status.success) || w.history.any (Happening.failsToUnsubscribe j)) := rfl
  have hdriver : (w.take (.feature handle key (.unsubscribe i))).driver =
      (w.driver.step (.feature handle key (.unsubscribe i))).driver := rfl
  simp only [heldTokens, hfails, hdriver, hsubscriptions]
  -- the subscription is gone if the call succeeded; otherwise the history has the failed call
  by_cases hstatus : (w.driver.step (.feature handle key (.unsubscribe i))).reply.status =
      Status.success
  · simp [hstatus, List.filter_map, List.filter_filter, Bool.and_comm, Bool.and_assoc]
  · simp only [hstatus, if_false, List.filter_filter]
    refine List.filter_congr fun j _ => ?_
    by_cases hj : j = i
    · simp [hj, hstatus]
    · have hij : (i == j) = false := beq_false_of_ne (Ne.symm hj)
      have hji : (j != i) = true := bne_iff_ne.mpr hj
      simp [hij, hji]

/-- The call of an unsubscription, made when the token has left its session, keeps live tokens and
    subscriptions in step. -/
theorem aligned_takeBack {cam : Camera} {i : Nat} {t : Token} (hd : w.driver.Honest)
    (hw : w.Aligned) (ht : w.tokens[i]? = some t) (hlive : w.isLive cam.session i = true) :
    ((w.modifyLive cam.session (·.erase i)).call
      (.feature cam.handle t.feature.key (.unsubscribe i))).2.Aligned := by
  have hback := takingBack_step hd hw.tokens_nodup cam.handle t.feature.key i
  have hworld : ((w.modifyLive cam.session (·.erase i)).call
      (.feature cam.handle t.feature.key (.unsubscribe i))).2 =
      (w.take (.feature cam.handle t.feature.key (.unsubscribe i))).modifyLive cam.session
        (·.erase i) := by
    rw [call_eq (c := .feature cam.handle t.feature.key (.unsubscribe i))
      ⟨t.feature.portable_key, trivial⟩]
    show (World.deliverAll _ (w.driver.step _).notices).2 = _
    rw [hback.notices]
    rfl
  rw [hworld]
  generalize hw' : (w.take (.feature cam.handle t.feature.key (.unsubscribe i))).modifyLive
    cam.session (·.erase i) = w'
  have hdriver : w'.driver =
      (w.driver.step (.feature cam.handle t.feature.key (.unsubscribe i))).driver := by
    rw [← hw']
    rfl
  have hheld (handle : Int32) : w'.heldTokens handle = (w.heldTokens handle).filter (· != i) := by
    rw [← hw']
    exact heldTokens_takeBack hd hw.tokens_nodup cam.handle t.feature.key handle
  have hframe : Frame w w' := by
    refine .of_happening ?_ (by rw [← hw']; rfl) (by rw [← hw']; rfl) (by rw [← hw']; rfl) ?_
      (hdriver ▸ hback.opened) (hdriver ▸ hback.nextHandle) (by simp) fun _ _ j _ heq => ?_
    · rw [← hw', roster_modifyLive]
      rfl
    · rw [hdriver, hback.subscriptions]
      split
      · exact List.filter_sublist
      · exact List.Sublist.refl _
    · simp only [Happening.called.injEq, Call.feature.injEq, Request.unsubscribe.injEq] at heq
      rw [← heq.1.2.2]
      exact (List.getElem?_eq_some_iff.mp ht).1
  refine { hw.toSettled.of_frame hframe with live_eq := fun x' hx' => ?_ }
  rw [← hw'] at hx'
  obtain ⟨x, hx, rfl⟩ := List.mem_map.mp hx'
  have hx : x ∈ w.sessions := hx
  have hlist := hw.live_eq x hx
  by_cases hid : x.id = cam.session
  · -- the session of the token loses it
    rw [if_pos hid]
    show x.live.erase i = w'.heldTokens x.handle
    have hnodup : (w.heldTokens x.handle).Nodup :=
      ((hw.tokens_nodup.sublist (List.filter_sublist.map _)).sublist List.filter_sublist)
    rw [hlist, hheld, hnodup.erase_eq_filter]
  · -- another session does not have it
    rw [if_neg hid, hheld, hlist]
    refine (List.filter_eq_self.mpr fun j hj => ?_).symm
    rw [bne_iff_ne]
    rintro rfl
    obtain ⟨y, hy, hyid, hjy⟩ := exists_session_of_isLive hlive
    rw [hw.live_eq y hy] at hjy
    obtain ⟨⟨s, hs, hshandle, hstoken⟩, -⟩ := mem_heldTokens.mp hj
    obtain ⟨⟨s', hs', hshandle', hstoken'⟩, -⟩ := mem_heldTokens.mp hjy
    obtain rfl := hw.eq_of_token hs hs' (hstoken.trans hstoken'.symm)
    have heq := hw.eq_of_handle (mem_roster hx) (mem_roster hy) (hshandle.symm.trans hshandle')
    exact hid ((congrArg Prod.fst heq).trans hyid)

/-! ## Subscribing -/

section Subscribing

variable {cam : Camera} {t : Token} {f : Feature}

theorem roster_entered (cam : Camera) (t : Token) (w : World) :
    (cam.entered t w).roster = w.roster := by
  rw [Camera.entered, roster_modifyLive]
  rfl

/-- A new token of a camera fits its session. -/
theorem settled_entered (hw : w.Settled) (hcam : (cam.session, cam.handle) ∈ w.roster)
    (hsession : t.session = cam.session) (hhandle : t.handle = cam.handle) :
    (cam.entered t w).Settled := by
  have hroster := roster_entered cam t w
  refine hw.of_frame
    { roster := hroster ▸ List.Sublist.refl _
      nextSession := rfl
      subscriptions := List.Sublist.refl _
      tokens_old := fun {i u} hu => ⟨u, ?_, rfl⟩
      tokens_new := fun u hu => ?_
      history := fun _ h => h
      session_open := fun _ _ h => h
      subscription_origin := fun _ _ hs => .inl (hroster.symm ▸ hs)
      gone := fun _ hclosed hlt => ⟨hclosed, hlt⟩
      closed := fun _ _ hr _ => .inl hr
      unsubscribed := fun _ _ _ _ hr => .inl hr }
  · have hi : i < w.tokens.length := (List.getElem?_eq_some_iff.mp hu).1
    show (w.tokens ++ [t])[i]? = some u
    rw [List.getElem?_append_left hi, hu]
  · rcases List.mem_append.mp hu with hu | hu
    · exact .inl ⟨u, hu, rfl⟩
    · obtain rfl := List.mem_singleton.mp hu
      rw [hsession, hhandle]
      -- the session of the camera has its one handle
      refine .inr ⟨hw.id_lt _ hcam, fun p hp hid => ?_⟩
      exact congrArg Prod.snd (hw.eq_of_id hp hcam hid)

/-- The tokens that the driver holds were issued. -/
theorem Settled.lt_of_held (hw : w.Settled) {handle : Int32} {i : Nat}
    (hi : i ∈ w.heldTokens handle) : i < w.tokens.length := by
  obtain ⟨⟨s, hs, -, rfl⟩, -⟩ := mem_heldTokens.mp hi
  obtain ⟨t, ht, -⟩ := hw.subscription_token s hs
  exact (List.getElem?_eq_some_iff.mp ht).1

/-- Nothing has failed yet for the token that is issued next. -/
theorem Settled.not_failed_next (hw : w.Settled) :
    w.history.any (Happening.failsToUnsubscribe w.tokens.length) = false := by
  rw [List.any_eq_false]
  intro h hh
  unfold Happening.failsToUnsubscribe
  split
  · next handle key i r =>
    have hlt := hw.unsubscribed_lt handle key i r hh
    simp [Nat.ne_of_lt hlt]
  · simp

/-- A token that enters a session and leaves it again leaves no trace there. -/
theorem sessions_rollBack (hw : w.Aligned) (session : Nat) :
    ((w.modifyLive session (· ++ [w.tokens.length])).modifyLive session
      (·.erase w.tokens.length)).sessions = w.sessions := by
  simp only [modifyLive, List.map_map]
  refine (List.map_congr_left (g := id) fun x hx => ?_).trans (List.map_id _)
  have hnew : w.tokens.length ∉ x.live := by
    rw [hw.live_eq x hx]
    exact fun h => Nat.lt_irrefl _ (hw.lt_of_held h)
  obtain ⟨id, handle, live⟩ := x
  by_cases hid : id = session
  · simp [hid, List.erase_append_right _ hnew]
  · simp [hid]

/-- A subscription that the driver refused is rolled back. -/
theorem aligned_rollBack {code : Status} (hw : w.Aligned)
    (hcam : (cam.session, cam.handle) ∈ w.roster) (hsession : t.session = cam.session)
    (hhandle : t.handle = cam.handle)
    (hstep : w.driver.step (cam.subscription f w) =
      ⟨w.driver.logged (cam.subscription f w), ⟨code, none⟩, []⟩) :
    (((cam.entered t w).take (cam.subscription f w)).modifyLive cam.session
      (·.erase w.tokens.length)).Aligned := by
  have hsettled := settled_entered hw.toSettled hcam hsession hhandle
  generalize hw' : ((cam.entered t w).take (cam.subscription f w)).modifyLive cam.session
    (·.erase w.tokens.length) = w'
  have hdriver : w'.driver = w.driver.logged (cam.subscription f w) := by
    rw [← hw']
    show (w.driver.step (cam.subscription f w)).driver = _
    rw [hstep]
  have hhistory : w'.history = .called (cam.subscription f w)
      (w.driver.step (cam.subscription f w)).reply :: w.history := by
    rw [← hw']
    rfl
  have hsessions : w'.sessions = w.sessions := by
    rw [← hw']
    exact sessions_rollBack hw cam.session
  have hframe : Frame (cam.entered t w) w' := by
    refine .of_happening ?_ (by rw [← hw']; rfl) (by rw [← hw']; rfl) hhistory
      (hdriver ▸ List.Sublist.refl _) (hdriver ▸ rfl) (hdriver ▸ rfl)
      (by simp [Camera.subscription]) (by simp [Camera.subscription])
    rw [← hw', roster_modifyLive]
    rfl
  refine { hsettled.of_frame hframe with live_eq := fun x hx => ?_ }
  have hheld : w'.heldTokens x.handle = w.heldTokens x.handle :=
    heldTokens_congr (hdriver ▸ rfl) (fun i => by rw [hhistory]; rfl) _
  rw [hheld]
  exact hw.live_eq x (hsessions ▸ hx)

/-- A subscription that the driver accepted refers to the new token. -/
theorem settled_subscribed (hw : w.Settled) (hcam : (cam.session, cam.handle) ∈ w.roster)
    (hsession : t.session = cam.session) (hhandle : t.handle = cam.handle)
    (hfeature : t.feature = f)
    (hdriver : ((cam.entered t w).take (cam.subscription f w)).driver =
      { w.driver.logged (cam.subscription f w) with
        subscriptions :=
          w.driver.subscriptions ++ [⟨cam.handle, Text.squeeze f.key, w.tokens.length⟩] }) :
    ((cam.entered t w).take (cam.subscription f w)).Settled := by
  have hsettled := settled_entered hw hcam hsession hhandle
  have henrolled := enrolled_entered hw.enrolled hhandle hfeature
  have hhistory : ((cam.entered t w).take (cam.subscription f w)).history =
      .called (cam.subscription f w) (w.driver.step (cam.subscription f w)).reply :: w.history :=
    rfl
  refine
    { ids_nodup := hsettled.ids_nodup
      id_lt := hsettled.id_lt
      handles_nodup := hsettled.handles_nodup
      session_open := fun p hp => by rw [hdriver]; exact hsettled.session_open p hp
      token_session := hsettled.token_session
      tokens_nodup := henrolled.tokens_nodup
      subscription_token := henrolled.subscription_token
      subscription_origin := fun s hs => ?_
      closed_gone := fun h r hr hstatus => ?_
      unsubscribed_lt := fun h key j r hr => ?_ }
  · show s.handle ∈ (cam.entered t w).roster.map Prod.snd ∨ _
    rw [roster_entered]
    rw [hdriver] at hs
    rcases List.mem_append.mp hs with hs | hs
    · rcases hw.subscription_origin s hs with hmem | ⟨r, hr, hfailed⟩
      · exact .inl hmem
      · exact .inr ⟨r, hhistory ▸ List.mem_cons_of_mem _ hr, hfailed⟩
    · obtain rfl := List.mem_singleton.mp hs
      exact .inl (List.mem_map.mpr ⟨_, hcam, rfl⟩)
  · rw [hdriver]
    rw [hhistory] at hr
    rcases List.mem_cons.mp hr with heq | hr
    · simp [Camera.subscription] at heq
    · exact hw.closed_gone h r hr hstatus
  · show j < (w.tokens ++ [t]).length
    rw [List.length_append]
    rw [hhistory] at hr
    rcases List.mem_cons.mp hr with heq | hr
    · simp [Camera.subscription] at heq
    · exact Nat.lt_of_lt_of_le (hw.unsubscribed_lt h key j r hr) (Nat.le_add_right _ _)

/-- A subscription that the driver accepted: the token is live and held. -/
theorem aligned_subscribed {e : Effect} (hw : w.Aligned)
    (hcam : (cam.session, cam.handle) ∈ w.roster) (hsession : t.session = cam.session)
    (hhandle : t.handle = cam.handle) (hfeature : t.feature = f)
    (he : (w.driver.logged (cam.subscription f w)).Effects (cam.subscription f w) e)
    (hstep : w.driver.step (cam.subscription f w) =
      ⟨e.driver, ⟨Status.success, e.output⟩, e.notices⟩) :
    ((cam.entered t w).take (cam.subscription f w)).Aligned := by
  have hdriver := subscribed_driver (t := t) he hstep
  refine { settled_subscribed hw.toSettled hcam hsession hhandle hfeature hdriver with
    live_eq := fun x' hx' => ?_ }
  obtain ⟨x, hx, rfl⟩ := List.mem_map.mp hx'
  have hx : x ∈ w.sessions := hx
  have hfails (i : Nat) : ((cam.entered t w).take (cam.subscription f w)).history.any
      (Happening.failsToUnsubscribe i) = w.history.any (Happening.failsToUnsubscribe i) := rfl
  have hheld (handle : Int32) :
      ((cam.entered t w).take (cam.subscription f w)).heldTokens handle =
        w.heldTokens handle ++ if cam.handle = handle then [w.tokens.length] else [] := by
    simp only [heldTokens, hdriver, hfails, List.filter_append, List.map_append]
    congr 1
    by_cases h : cam.handle = handle
    · simp [h, hw.not_failed_next]
    · simp [h]
  by_cases hid : x.id = cam.session
  · -- the session of the camera gets the token at its end
    have hsame : x.handle = cam.handle :=
      congrArg Prod.snd (hw.eq_of_id (mem_roster hx) hcam hid)
    rw [if_pos hid, hheld, if_pos hsame.symm, ← hw.live_eq x hx]
  · -- another session has another handle
    have hother : x.handle ≠ cam.handle := fun h =>
      hid (congrArg Prod.fst (hw.eq_of_handle (mem_roster hx) hcam h))
    rw [if_neg hid, hheld, if_neg hother.symm, List.append_nil]
    exact hw.live_eq x hx

end Subscribing

/-! ## Scripting -/

/-- Acts of scripting keep handles and subscriptions as they are. -/
theorem script_frame (d : Driver) (act : Scripting) :
    (d.script act).opened = d.opened ∧ (d.script act).nextHandle = d.nextHandle ∧
      (d.script act).subscriptions = d.subscriptions := by
  cases act <;> exact ⟨rfl, rfl, rfl⟩

theorem aligned_script (hw : w.Aligned) (act : Scripting) : (w.script act).Aligned := by
  obtain ⟨hopened, hnext, hsubscriptions⟩ := script_frame w.driver act
  have hframe : Frame w (w.script act) :=
    .of_happening rfl rfl rfl rfl (hsubscriptions ▸ List.Sublist.refl _) hopened hnext (by simp)
      (by simp)
  refine { hw.toSettled.of_frame hframe with live_eq := fun x hx => ?_ }
  have hheld : (w.script act).heldTokens x.handle = w.heldTokens x.handle := by
    apply heldTokens_congr
    · exact hsubscriptions
    · exact fun _ => rfl
  rw [hheld]
  exact hw.live_eq x hx

end World

end CameraControl
