import CameraControl.Proofs.World.Turn
import Mathlib.Data.List.Nodup

/-
  Which tokens are live.

  A token enters its session once and for all: `Turns.dead` says that a token which is not live any
  more never is again, that nothing that comes to it then counts, and that it stays as it is.
-/

namespace CameraControl.World

variable {w w' : World}

/-! ## Views of the sessions -/

theorem isLive_eq (w : World) (session token : Nat) :
    w.isLive session token = ((w.live? session).getD []).contains token := by
  unfold isLive
  cases w.live? session <;> rfl

theorem live?_congr (h : w'.sessions = w.sessions) (session : Nat) :
    w'.live? session = w.live? session := by
  simp [live?, h]

theorem isLive_congr (h : w'.sessions = w.sessions) (session token : Nat) :
    w'.isLive session token = w.isLive session token := by
  simp [isLive_eq, live?_congr h]

theorem live?_modifyLive (w : World) (session : Nat) (f : List Nat → List Nat) (session' : Nat) :
    (w.modifyLive session f).live? session' =
      if session' = session then (w.live? session').map f else w.live? session' := by
  -- a session is found by its number, which the change leaves alone
  have hid : ((fun s : Session => s.id == session') ∘ fun s =>
      if s.id = session then { s with live := f s.live } else s) = fun s => s.id == session' := by
    funext s
    by_cases hs : s.id = session <;> simp [hs]
  simp only [live?, modifyLive, List.find?_map, hid]
  cases hfind : w.sessions.find? fun s => s.id == session' with
  | none => simp
  | some s =>
    have hs : s.id = session' := by simpa using List.find?_some hfind
    by_cases h : session' = session <;> simp [hs, h]

theorem live?_beginSession (w : World) (handle : Int32) (session : Nat) :
    (w.beginSession handle).live? session =
      (w.live? session).or (if w.nextSession = session then some [] else none) := by
  simp only [live?, beginSession, List.find?_append]
  cases w.sessions.find? fun s => s.id == session with
  | some s => rfl
  | none =>
    by_cases h : w.nextSession = session <;> simp [h]

theorem live?_endSession (w : World) (session session' : Nat) :
    (w.endSession session).live? session' =
      if session' = session then none else w.live? session' := by
  simp only [live?, endSession, List.find?_filter]
  -- the session that ends is filtered out; any other is found as before
  by_cases h : session' = session
  · rw [if_pos h, Option.map_eq_none_iff, List.find?_eq_none]
    intro s _ hs
    simp only [decide_eq_true_eq, bne_iff_ne, beq_iff_eq] at hs
    exact hs.1 (hs.2.trans h)
  · rw [if_neg h]
    congr 2
    funext s
    by_cases hs : s.id = session' <;> simp [hs, h]

/-! ## Rosters -/

/-- The tokens that are live in a session are there once each, and they were issued. -/
def Rostered (w : World) : Prop :=
  ∀ session ∈ w.sessions, session.live.Nodup ∧ ∀ i ∈ session.live, i < w.tokens.length

theorem rostered_ofDriver (backend : Backend) (d : Driver) : (ofDriver backend d).Rostered :=
  fun _ h => absurd h List.not_mem_nil

theorem Turn.tokens_length (h : Turn w w') : w.tokens.length ≤ w'.tokens.length := by
  cases h with
  | change h =>
    have hlength : w'.tokens.length = w.tokens.length := by
      simpa using congrArg List.length h.frame.1
    exact Nat.le_of_eq hlength.symm
  | enter => simp [issue, modifyLive]
  | _ => exact Nat.le_refl _

theorem Turn.rostered (h : Turn w w') (hw : w.Rostered) : w'.Rostered := by
  have hlength := h.tokens_length
  cases h with
  | change h =>
    intro x hx
    rw [h.frame.2.1] at hx
    exact ⟨(hw x hx).1, fun i hi => Nat.lt_of_lt_of_le ((hw x hx).2 i hi) hlength⟩
  | enter =>
    intro x hx
    obtain ⟨y, hy, rfl⟩ := List.mem_map.mp hx
    obtain ⟨hnodup, hlt⟩ := hw y hy
    -- the place of a new token is one that no session can list yet
    have hnew : w.tokens.length ∉ y.live := fun h => Nat.lt_irrefl _ (hlt _ h)
    split
    · constructor
      · simpa [List.concat_eq_append] using hnodup.concat hnew
      · intro i hi
        simp only [modifyLive, issue, List.length_append, List.length_singleton]
        rcases List.mem_append.mp hi with hi | hi
        · exact Nat.lt_succ_of_lt (hlt i hi)
        · exact Nat.lt_succ_of_le (Nat.le_of_eq (List.mem_singleton.mp hi))
    · exact ⟨hnodup, fun i hi => Nat.lt_of_lt_of_le (hlt i hi) hlength⟩
  | leave session token =>
    intro x hx
    obtain ⟨y, hy, rfl⟩ := List.mem_map.mp hx
    obtain ⟨hnodup, hlt⟩ := hw y hy
    split
    · exact ⟨hnodup.erase token, fun i hi => hlt i (List.mem_of_mem_erase hi)⟩
    · exact ⟨hnodup, hlt⟩
  | beginSession handle =>
    intro x hx
    rcases List.mem_append.mp hx with hx | hx
    · exact hw x hx
    · obtain rfl := List.mem_singleton.mp hx
      exact ⟨List.nodup_nil, fun _ h => absurd h List.not_mem_nil⟩
  | endSession session => exact fun x hx => hw x (List.mem_filter.mp hx).1
  | script s => exact hw

theorem Turns.rostered (h : Turns w w') (hw : w.Rostered) : w'.Rostered := by
  induction h with
  | refl => exact hw
  | tail _ h ih => exact h.rostered ih

/-- The tokens that are live in a session were issued for it. -/
def Homed (w : World) : Prop :=
  ∀ x ∈ w.sessions, ∀ i ∈ x.live, ∃ t, w.tokens[i]? = some t ∧ t.session = x.id

theorem homed_ofDriver (backend : Backend) (d : Driver) : (ofDriver backend d).Homed :=
  fun _ h => absurd h List.not_mem_nil

theorem Turn.homed (h : Turn w w') (hw : w.Homed) : w'.Homed := by
  -- a token keeps the session that it was issued for
  have hold {session i : Nat} (hi : ∃ t, w.tokens[i]? = some t ∧ t.session = session) :
      ∃ t, w'.tokens[i]? = some t ∧ t.session = session := by
    obtain ⟨t, ht, hsession⟩ := hi
    obtain ⟨t', ht', hidentity⟩ := h.identity ht
    have hsame : t'.session = t.session := (congrArg Token.session hidentity :)
    exact ⟨t', ht', hsame.trans hsession⟩
  cases h with
  | change h =>
    intro x hx i hi
    rw [h.frame.2.1] at hx
    exact hold (hw x hx i hi)
  | @enter t =>
    intro x hx i hi
    obtain ⟨y, hy, rfl⟩ := List.mem_map.mp hx
    by_cases hid : y.id = t.session
    · rw [if_pos hid] at hi ⊢
      rcases List.mem_append.mp hi with hi | hi
      · exact hold (hw y hy i hi)
      -- the new token stands behind all others
      · obtain rfl := List.mem_singleton.mp hi
        refine ⟨t, ?_, hid.symm⟩
        show (w.tokens ++ [t])[w.tokens.length]? = some t
        exact List.getElem?_concat_length
    · rw [if_neg hid] at hi ⊢
      exact hold (hw y hy i hi)
  | leave session token =>
    intro x hx i hi
    obtain ⟨y, hy, rfl⟩ := List.mem_map.mp hx
    by_cases hid : y.id = session
    · rw [if_pos hid] at hi ⊢
      exact hold (hw y hy i (List.mem_of_mem_erase hi))
    · rw [if_neg hid] at hi ⊢
      exact hold (hw y hy i hi)
  | beginSession handle =>
    intro x hx i hi
    rcases List.mem_append.mp hx with hx | hx
    · exact hw x hx i hi
    · obtain rfl := List.mem_singleton.mp hx
      exact absurd hi List.not_mem_nil
  | endSession session => exact fun x hx => hw x (List.mem_filter.mp hx).1
  | script s => exact hw

theorem Turns.homed (h : Turns w w') (hw : w.Homed) : w'.Homed := by
  induction h with
  | refl => exact hw
  | tail _ h ih => exact h.homed ih

/-- A token that leaves its session is not live there any more, because it was there once. -/
theorem isLive_leave (hw : w.Rostered) (session token : Nat) :
    (w.modifyLive session (·.erase token)).isLive session token = false := by
  rw [isLive_eq, live?_modifyLive, if_pos rfl, live?]
  cases hfind : w.sessions.find? fun s => s.id == session with
  | none => rfl
  | some x =>
    -- erasing takes out one occurrence, and there is only one
    have hnodup := (hw x (List.mem_of_find?_eq_some hfind)).1
    simpa using hnodup.not_mem_erase

/-! ## Tokens that are not live any more -/

/-- What is not live, but was issued, does not become live by a turn. -/
theorem Turn.isLive_false {session i : Nat} (h : Turn w w') (hi : i < w.tokens.length)
    (hdead : w.isLive session i = false) : w'.isLive session i = false := by
  cases h with
  | change h => rwa [isLive_congr h.frame.2.1]
  | @enter t =>
    -- what enters is the token after the last one, not one that was issued before
    have hne : i ≠ w.tokens.length := Nat.ne_of_lt hi
    rw [isLive_eq, live?_modifyLive]
    rw [isLive_eq] at hdead
    show (Option.getD (if session = t.session then (w.live? session).map (· ++ [w.tokens.length])
      else w.live? session) []).contains i = false
    split
    · cases hlive : w.live? session with
      | none => rfl
      | some live => simpa [hlive, hne] using hdead
    · exact hdead
  | leave session' token =>
    rw [isLive_eq, live?_modifyLive]
    rw [isLive_eq] at hdead
    split
    · cases hlive : w.live? session with
      | none => rfl
      | some live =>
        simp only [hlive, Option.map_some, Option.getD_some, List.contains_eq_mem,
          decide_eq_false_iff_not] at hdead ⊢
        exact fun h => hdead (List.mem_of_mem_erase h)
    · exact hdead
  | beginSession handle =>
    rw [isLive_eq, live?_beginSession]
    rw [isLive_eq] at hdead
    -- a session that begins lists nothing
    cases hlive : w.live? session with
    | none =>
      rw [Option.none_or]
      split <;> rfl
    | some live => simpa [hlive] using hdead
  | endSession session' =>
    rw [isLive_eq, live?_endSession]
    rw [isLive_eq] at hdead
    split
    · rfl
    · exact hdead
  | script s => exact hdead

/-- What reaches a token comes while it is live. -/
theorem isLive_of_reaches {token : Nat} {t : Token} {handle : Int32} {reported : String}
    (h : (w.delivery token t handle reported).reaches t = true) :
    w.isLive t.session token = true := by
  unfold Delivery.reaches at h
  exact (Bool.and_eq_true_iff.mp h).2

/-- Nothing that comes to a token which is not live counts, and the token stays as it is. -/
theorem Change.dead {permits : Call → Prop} {i : Nat} {t : Token} (h : Change permits w w')
    (ht : w.tokens[i]? = some t) (hdead : w.isLive t.session i = false) :
    w'.tokens[i]? = some t ∧ ∃ new, w'.history = new ++ w.history ∧
      ∀ d, .delivered d ∈ new → d.token = i → d.live = false := by
  -- a notification that gets through is for another token
  have hother {token : Nat} {t' : Token} {handle : Int32} {reported : String}
      (ht' : w.tokens[token]? = some t')
      (hreach : (w.delivery token t' handle reported).reaches t' = true) : token ≠ i := by
    rintro rfl
    obtain rfl : t = t' := Option.some.inj (ht.symm.trans ht')
    exact absurd (isLive_of_reaches hreach) (by simp [hdead])
  cases h with
  | @hear token t' handle reported ht' hfar =>
    refine ⟨ht, [.delivered (w.delivery token t' handle reported)], rfl, fun d hd htoken => ?_⟩
    simp only [List.mem_singleton, Happening.delivered.injEq] at hd
    subst hd
    -- the notification is for this very token, so it was noted as not live
    have hsame : token = i := htoken
    subst hsame
    obtain rfl : t = t' := Option.some.inj (ht.symm.trans ht')
    exact hdead
  | @absorb token t' handle reported ht' hreach hfirst =>
    have hne := hother ht' hreach
    refine ⟨?_, [.delivered (w.delivery token t' handle reported)], rfl, fun d hd htoken => ?_⟩
    · show (w.tokens.modify token _)[i]? = some t
      simpa [List.getElem?_modify, hne] using ht
    · simp only [List.mem_singleton, Happening.delivered.injEq] at hd
      subst hd
      exact absurd htoken hne
  | @invoke token t' handle reported ht' hreach hlater =>
    have hne := hother ht' hreach
    refine ⟨?_, [.event (.invoked t'.label t'.feature),
      .delivered (w.delivery token t' handle reported)], rfl, fun d hd htoken => ?_⟩
    · show (w.tokens.modify token _)[i]? = some t
      simpa [List.getElem?_modify, hne] using ht
    · simp only [List.mem_cons, reduceCtorEq, List.not_mem_nil, or_false, false_or,
        Happening.delivered.injEq] at hd
      subst hd
      exact absurd htoken hne
  | @take c hc => exact ⟨ht, [_], rfl, fun d hd => by simp at hd⟩
  | @record e he => exact ⟨ht, [_], rfl, fun d hd => by simp at hd⟩

theorem Turn.dead {i : Nat} {t : Token} (h : Turn w w') (ht : w.tokens[i]? = some t)
    (hdead : w.isLive t.session i = false) :
    w'.tokens[i]? = some t ∧ ∃ new, w'.history = new ++ w.history ∧
      ∀ d, .delivered d ∈ new → d.token = i → d.live = false := by
  cases h with
  | change h => exact h.dead ht hdead
  | enter =>
    -- the new token stands behind all others
    have hi : i < w.tokens.length := (List.getElem?_eq_some_iff.mp ht).1
    exact ⟨by rwa [modifyLive, issue, List.getElem?_append_left hi], [], rfl, by simp⟩
  | script s => exact ⟨ht, [.scripted s], rfl, by simp⟩
  | _ => exact ⟨ht, [], rfl, by simp⟩

/-- A token that is not live any more never is again, and never changes again. -/
theorem Turns.dead {i : Nat} {t : Token} (h : Turns w w') (ht : w.tokens[i]? = some t)
    (hdead : w.isLive t.session i = false) :
    w'.tokens[i]? = some t ∧ w'.isLive t.session i = false ∧
      ∃ new, w'.history = new ++ w.history ∧
        ∀ d, .delivered d ∈ new → d.token = i → d.live = false := by
  induction h with
  | refl => exact ⟨ht, hdead, [], rfl, by simp⟩
  | tail _ h ih =>
    obtain ⟨ht', hdead', new, hnew, hlive⟩ := ih
    obtain ⟨ht'', new', hnew', hlive'⟩ := h.dead ht' hdead'
    -- the histories of the two parts of the run are put together
    have hi := (List.getElem?_eq_some_iff.mp ht').1
    refine ⟨ht'', h.isLive_false hi hdead', new' ++ new, ?_, fun d hd htoken => ?_⟩
    · rw [hnew', hnew, List.append_assoc]
    · rcases List.mem_append.mp hd with hd | hd
      · exact hlive' d hd htoken
      · exact hlive d hd htoken

/-- A notification to a token that is not live changes nothing. -/
theorem dispatch_of_not_live {i : Nat} {t : Token} (ht : w.tokens[i]? = some t)
    (hdead : w.isLive t.session i = false) (handle : Int32) (reported : String) :
    (w.dispatch i handle reported).2 = w.note (.delivered ⟨i, handle, reported, false⟩) := by
  have hheard : w.hear i t handle reported = w.note (.delivered ⟨i, handle, reported, false⟩) := by
    rw [hear, delivery, hdead]
  have hfar : (w.delivery i t handle reported).reaches t = false := by
    simp [Delivery.reaches, delivery, hdead]
  unfold dispatch dispatchWithin
  rw [ht]
  rcases admission_cases w i t handle reported with
    ⟨-, ⟨breach, hadm⟩ | hadm⟩ | ⟨hreach, -⟩ | ⟨hreach, -⟩
  · simp only [hadm, hheard]
  · simp only [hadm, hheard]
  · exact absurd hreach (by simp [hfar])
  · exact absurd hreach (by simp [hfar])

end CameraControl.World
