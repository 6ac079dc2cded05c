import CameraControl.Proofs.World.Liveness

/-
  What notifications do to subscribers.

  The history tells which notifications came to tokens and which of them were live then. `account`
  says what these notifications make of the subscribers: the first one that reaches a token is
  absorbed, and every later one that does invokes the subscriber at once. `Accounted` says that
  the history has the invocations of this account and no others, and that the tokens have counted
  along. Every turn keeps it.
-/

namespace CameraControl

/-- The notification that a happening is, if it is one. -/
def Happening.delivery? : Happening → Option Delivery
  | delivered d => some d
  | _ => none

/-- Whether a happening is a notification or the invocation of a subscriber. -/
def Happening.isNotification : Happening → Bool
  | delivered _ => true
  | event (.invoked _ _) => true
  | _ => false

/-- How many of some notifications reached the token at a place. -/
def Token.reachedBy (t : Token) (i : Nat) (deliveries : List Delivery) : Nat :=
  deliveries.countP fun d => d.token == i && d.reaches t

/-- The invocation that a notification causes after earlier ones, if it does. -/
def Delivery.invocation? (d : Delivery) (tokens : List Token) (earlier : List Delivery) :
    Option Happening :=
  match tokens[d.token]? with
  | some t =>
    if d.reaches t = true ∧ 0 < t.reachedBy d.token earlier then
      some (.event (.invoked t.label t.feature))
    else none
  | none => none

namespace World

/-- Notifications together with the invocations that they cause, the latest first. -/
def account (tokens : List Token) : List Delivery → List Happening
  | [] => []
  | d :: earlier =>
    (d.invocation? tokens earlier).toList ++ .delivered d :: account tokens earlier

/-- The notifications that came to tokens, the latest first. -/
def deliveries (w : World) : List Delivery := w.history.filterMap Happening.delivery?

/-- The history has the invocations that its notifications cause and no others, and the tokens have
    counted what reached them. -/
structure Accounted (w : World) : Prop where
  token_lt : ∀ d ∈ w.deliveries, d.token < w.tokens.length
  history_eq : w.history.filter Happening.isNotification = account w.tokens w.deliveries
  precalled_iff : ∀ {i : Nat} {t : Token}, w.tokens[i]? = some t →
    (t.precalled = true ↔ 0 < t.reachedBy i w.deliveries)
  /-- The first notification that reaches a token is no invocation. -/
  invocations_eq : ∀ {i : Nat} {t : Token}, w.tokens[i]? = some t →
    t.invocations = t.reachedBy i w.deliveries - 1

variable {w w' : World}

theorem accounted_ofDriver (backend : Backend) (d : Driver) : (ofDriver backend d).Accounted where
  token_lt := by simp [deliveries, ofDriver]
  history_eq := rfl
  precalled_iff := by simp [ofDriver]
  invocations_eq := by simp [ofDriver]

/-! ## Accounts and the identity of tokens -/

theorem reachedBy_congr {t t' : Token} (h : t'.identity = t.identity) (i : Nat)
    (ds : List Delivery) : t'.reachedBy i ds = t.reachedBy i ds := by
  show t'.identity.reachedBy i ds = t.identity.reachedBy i ds
  rw [h]

theorem invocation?_congr {tokens tokens' : List Token} {d : Delivery}
    (h : tokens'[d.token]?.map Token.identity = tokens[d.token]?.map Token.identity)
    (earlier : List Delivery) : d.invocation? tokens' earlier = d.invocation? tokens earlier := by
  unfold Delivery.invocation?
  cases ht : tokens[d.token]? with
  | none =>
    rw [ht, Option.map_none, Option.map_eq_none_iff] at h
    rw [h]
  | some t =>
    rw [ht, Option.map_some, Option.map_eq_some_iff] at h
    obtain ⟨t', ht', hidentity⟩ := h
    rw [ht']
    -- neither side looks at what the token has counted
    show (if d.reaches t'.identity = true ∧ 0 < t'.identity.reachedBy d.token earlier then
      some (Happening.event (.invoked t'.identity.label t'.identity.feature)) else none) = _
    rw [hidentity]
    rfl

theorem invocation?_eq {d : Delivery} {tokens : List Token} {t : Token}
    (ht : tokens[d.token]? = some t) (earlier : List Delivery) :
    d.invocation? tokens earlier =
      if d.reaches t = true ∧ 0 < t.reachedBy d.token earlier then
        some (.event (.invoked t.label t.feature))
      else none := by
  unfold Delivery.invocation?
  rw [ht]

/-- An account depends only on who the tokens are, not on what they have counted. -/
theorem account_congr {tokens tokens' : List Token} {ds : List Delivery}
    (h : ∀ d ∈ ds, tokens'[d.token]?.map Token.identity = tokens[d.token]?.map Token.identity) :
    account tokens' ds = account tokens ds := by
  induction ds with
  | nil => rfl
  | cons d earlier ih =>
    have hrest := ih fun e he => h e (List.mem_cons_of_mem _ he)
    simp only [account, invocation?_congr (h d List.mem_cons_self), hrest]

theorem reachedBy_cons (t : Token) (i : Nat) (d : Delivery) (ds : List Delivery) :
    t.reachedBy i (d :: ds) =
      t.reachedBy i ds + if d.token = i ∧ d.reaches t = true then 1 else 0 := by
  simp [Token.reachedBy, List.countP_cons]

theorem reachedBy_eq_zero {t : Token} {i : Nat} {ds : List Delivery}
    (h : ∀ d ∈ ds, d.token ≠ i) : t.reachedBy i ds = 0 := by
  rw [Token.reachedBy, List.countP_eq_zero]
  intro d hd
  simp [h d hd]

/-! ## Turns -/

/-- What is no notification does not count, and new tokens start at nothing. -/
theorem Accounted.of_quiet (hw : w.Accounted) (new : List Happening)
    (hhistory : w'.history = new ++ w.history)
    (hquiet : ∀ h ∈ new, h.isNotification = false)
    (hold : ∀ {i : Nat} {t : Token}, w.tokens[i]? = some t → w'.tokens[i]? = some t)
    (hnew : ∀ {i : Nat} {t : Token}, w'.tokens[i]? = some t →
      w.tokens[i]? = some t ∨
        w.tokens.length ≤ i ∧ t.precalled = false ∧ t.invocations = 0) : w'.Accounted := by
  -- the notifications are those from before
  have hdeliveries : w'.deliveries = w.deliveries := by
    have hnone : new.filterMap Happening.delivery? = [] := by
      rw [List.filterMap_eq_nil_iff]
      intro h hh
      have := hquiet h hh
      cases h <;> simp_all [Happening.delivery?, Happening.isNotification]
    simp [deliveries, hhistory, hnone]
  have hfilter : new.filter Happening.isNotification = [] := by
    simpa [List.filter_eq_nil_iff] using hquiet
  -- no notification came to a place before there was a token
  have hzero {i : Nat} (t : Token) (hi : w.tokens.length ≤ i) :
      t.reachedBy i w.deliveries = 0 :=
    reachedBy_eq_zero fun d hd heq => absurd (hw.token_lt d hd) (by omega)
  refine ⟨?_, ?_, fun {i t} ht => ?_, fun {i t} ht => ?_⟩
  · intro d hd
    rw [hdeliveries] at hd
    obtain ⟨t, ht⟩ : ∃ t, w.tokens[d.token]? = some t :=
      ⟨_, List.getElem?_eq_getElem (hw.token_lt d hd)⟩
    exact (List.getElem?_eq_some_iff.mp (hold ht)).1
  -- the account looks up issued tokens only, and these are as they were
  · rw [hhistory, List.filter_append, hfilter, List.nil_append, hw.history_eq, hdeliveries]
    refine (account_congr fun d hd => ?_).symm
    obtain ⟨t, ht⟩ : ∃ t, w.tokens[d.token]? = some t :=
      ⟨_, List.getElem?_eq_getElem (hw.token_lt d hd)⟩
    rw [hold ht, ht]
  · rw [hdeliveries]
    rcases hnew ht with ht | ⟨hi, hfirst, -⟩
    · exact hw.precalled_iff ht
    · simp [hzero t hi, hfirst]
  · rw [hdeliveries]
    rcases hnew ht with ht | ⟨hi, -, hidle⟩
    · exact hw.invocations_eq ht
    · simp [hzero t hi, hidle]

/-- A notification on top of the history, with the invocation that it causes, changes its token and
    no other. -/
theorem Accounted.of_delivery {d : Delivery} {t : Token} (hw : w.Accounted) (t' : Token)
    (ht : w.tokens[d.token]? = some t) (hidentity : t'.identity = t.identity)
    (hhistory : w'.history =
      (d.invocation? w.tokens w.deliveries).toList ++ .delivered d :: w.history)
    (htokens : ∀ i, w'.tokens[i]? = if i = d.token then some t' else w.tokens[i]?)
    (hprecalled : t'.precalled = (t.precalled || d.reaches t))
    (hcount : t'.invocations = t.reachedBy d.token (d :: w.deliveries) - 1) :
    w'.Accounted := by
  -- an invocation is no notification, but it belongs to the account
  have hinvocation : (d.invocation? w.tokens w.deliveries).toList.filterMap Happening.delivery? = []
      ∧ (d.invocation? w.tokens w.deliveries).toList.filter Happening.isNotification =
        (d.invocation? w.tokens w.deliveries).toList := by
    rw [invocation?_eq ht]
    split <;> exact ⟨rfl, rfl⟩
  have hdeliveries : w'.deliveries = d :: w.deliveries := by
    show w'.history.filterMap Happening.delivery? = _
    rw [hhistory, List.filterMap_append, hinvocation.1]
    rfl
  have hmap (i : Nat) :
      w'.tokens[i]?.map Token.identity = w.tokens[i]?.map Token.identity := by
    rw [htokens i]
    split
    · next h => simp [h, ht, hidentity]
    · rfl
  -- no token is lost
  have hlt {i : Nat} (hi : i < w.tokens.length) : i < w'.tokens.length := by
    have hsome : w'.tokens[i]?.map Token.identity ≠ none := by
      rw [hmap i, List.getElem?_eq_getElem hi]
      simp
    by_contra hge
    exact hsome (by rw [List.getElem?_eq_none (Nat.not_lt.mp hge), Option.map_none])
  refine ⟨?_, ?_, fun {i u} hu => ?_, fun {i u} hu => ?_⟩
  · intro e he
    rw [hdeliveries] at he
    rcases List.mem_cons.mp he with rfl | he
    · exact hlt (List.getElem?_eq_some_iff.mp ht).1
    · exact hlt (hw.token_lt e he)
  -- the account of the whole is the new notification with what it causes, and the old account
  · have haccount : account w'.tokens (d :: w.deliveries) = account w.tokens (d :: w.deliveries) :=
      account_congr fun e _ => hmap e.token
    rw [hhistory, hdeliveries, haccount, List.filter_append, hinvocation.2,
      List.filter_cons_of_pos rfl, hw.history_eq]
    rfl
  · rw [hdeliveries]
    rw [htokens i] at hu
    split at hu
    -- the flag of the token itself: it was set before, or this notification sets it
    · next hi =>
      obtain rfl := Option.some.inj hu
      have hpre := hw.precalled_iff ht
      rw [hprecalled, reachedBy_congr hidentity, reachedBy_cons, hi]
      cases hreach : d.reaches t <;> simp [hpre]
    · next hi =>
      have hother : ¬(d.token = i ∧ d.reaches u = true) := fun h => hi h.1.symm
      rw [reachedBy_cons, if_neg hother]
      exact hw.precalled_iff hu
  · rw [hdeliveries]
    rw [htokens i] at hu
    split at hu
    · next hi =>
      obtain rfl := Option.some.inj hu
      rw [hcount, reachedBy_congr hidentity, hi]
    · next hi =>
      have hother : ¬(d.token = i ∧ d.reaches u = true) := fun h => hi h.1.symm
      rw [reachedBy_cons, if_neg hother]
      exact hw.invocations_eq hu

/-- The token at a place after it was modified. -/
theorem getElem?_modify_eq {tokens : List Token} {token : Nat} {t : Token} {f : Token → Token}
    (ht : tokens[token]? = some t) (i : Nat) :
    (tokens.modify token f)[i]? = if i = token then some (f t) else tokens[i]? := by
  rw [List.getElem?_modify]
  by_cases h : i = token
  · simp [h, ht]
  · have hne : token ≠ i := fun e => h e.symm
    simp [h, hne]

theorem Change.accounted {permits : Call → Prop} (h : Change permits w w') (hw : w.Accounted) :
    w'.Accounted := by
  cases h with
  | @hear token t handle reported ht hfar =>
    have hnone := invocation?_eq (d := w.delivery token t handle reported) ht w.deliveries
    -- what does not reach its token invokes nobody and is not counted
    rw [if_neg fun h => Bool.false_ne_true (hfar.symm.trans h.1)] at hnone
    refine hw.of_delivery (d := w.delivery token t handle reported) t ht rfl ?_ (fun i => ?_) ?_ ?_
    · rw [hnone]
      rfl
    · split
      · next h => rw [h]; exact ht
      · rfl
    · simp [hfar]
    · rw [reachedBy_cons, if_neg fun h => Bool.false_ne_true (hfar.symm.trans h.2)]
      exact hw.invocations_eq ht
  | @absorb token t handle reported ht hreach hfirst =>
    -- nothing reached the token before, so the count stays at no invocations
    have hzero : ¬0 < t.reachedBy token w.deliveries := fun h =>
      Bool.false_ne_true (hfirst.symm.trans ((hw.precalled_iff ht).mpr h))
    have hnone := invocation?_eq (d := w.delivery token t handle reported) ht w.deliveries
    rw [if_neg fun h => hzero h.2] at hnone
    refine hw.of_delivery (d := w.delivery token t handle reported)
      { t with precalled := true } ht rfl ?_ (getElem?_modify_eq ht) ?_ ?_
    · rw [hnone]
      rfl
    · simp [hreach]
    · rw [reachedBy_cons, if_pos ⟨rfl, hreach⟩]
      have hcount := hw.invocations_eq ht
      have htoken : (w.delivery token t handle reported).token = token := rfl
      simp only [htoken]
      omega
  | @invoke token t handle reported ht hreach hlater =>
    -- an earlier notification was absorbed, so this one is for the subscriber
    have hpos : 0 < t.reachedBy token w.deliveries := (hw.precalled_iff ht).mp hlater
    have hsome := invocation?_eq (d := w.delivery token t handle reported) ht w.deliveries
    rw [if_pos ⟨hreach, hpos⟩] at hsome
    refine hw.of_delivery (d := w.delivery token t handle reported)
      { t with invocations := t.invocations + 1 } ht rfl ?_ (getElem?_modify_eq ht) ?_ ?_
    · rw [hsome]
      rfl
    · simp [hlater]
    · rw [reachedBy_cons, if_pos ⟨rfl, hreach⟩]
      have hcount := hw.invocations_eq ht
      have htoken : (w.delivery token t handle reported).token = token := rfl
      simp only [htoken]
      omega
  | take hc =>
    exact hw.of_quiet [_] rfl (by simp [Happening.isNotification]) (fun h => h)
      fun h => .inl h
  | @record e he =>
    refine hw.of_quiet [.event e] rfl ?_ (fun h => h) fun h => .inl h
    intro h hh
    obtain rfl := List.mem_singleton.mp hh
    cases e with
    | invoked label f => exact absurd rfl (he label f)
    | _ => rfl

theorem Turn.accounted (h : Turn w w') (hw : w.Accounted) : w'.Accounted := by
  cases h with
  | change h => exact h.accounted hw
  | @enter t hfirst hidle =>
    refine hw.of_quiet [] rfl (by simp) (fun {i u} hu => ?_) (fun {i u} hu => ?_)
    · have hi : i < w.tokens.length := (List.getElem?_eq_some_iff.mp hu).1
      rwa [modifyLive, issue, List.getElem?_append_left hi]
    -- a token is an old one, or the new one with nothing counted
    · rw [modifyLive, issue] at hu
      rcases Nat.lt_or_ge i w.tokens.length with hi | hi
      · rw [List.getElem?_append_left hi] at hu
        exact .inl hu
      · rw [List.getElem?_append_right hi] at hu
        obtain rfl := List.mem_singleton.mp (List.mem_of_getElem? hu)
        exact .inr ⟨hi, hfirst, hidle⟩
  | script s =>
    exact hw.of_quiet [.scripted s] rfl (by simp [Happening.isNotification]) (fun h => h)
      fun h => .inl h
  | _ => exact hw.of_quiet [] rfl (by simp) (fun h => h) fun h => .inl h

theorem Turns.accounted (h : Turns w w') (hw : w.Accounted) : w'.Accounted := by
  induction h with
  | refl => exact hw
  | tail _ h ih => exact h.accounted ih

end World

end CameraControl
