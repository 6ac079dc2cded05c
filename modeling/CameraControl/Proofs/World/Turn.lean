import CameraControl.Proofs.World.Change

/-
  Turns of the world.

  Beyond notifications and calls, a world changes where tokens and sessions come and go and where
  the driver is scripted. `Turn` adds these to the elementary changes. Whatever a script does comes
  down to turns; they only ever add tokens, and they only ever add to the history.
-/

namespace CameraControl

namespace World

/-- The elementary things that can happen to a world. -/
inductive Turn : World → World → Prop where
  | change {w w' : World} (h : Change (fun _ => True) w w') : Turn w w'
  /-- A new token enters a session. -/
  | enter {w : World} {t : Token} (hfirst : t.precalled = false) (hidle : t.invocations = 0) :
      Turn w ((w.issue t).modifyLive t.session (· ++ [w.tokens.length]))
  /-- A token leaves its session. -/
  | leave {w : World} (session token : Nat) : Turn w (w.modifyLive session (·.erase token))
  | beginSession {w : World} (handle : Int32) : Turn w (w.beginSession handle)
  | endSession {w : World} (session : Nat) : Turn w (w.endSession session)
  | script {w : World} (s : Scripting) : Turn w (w.script s)

/-- Any number of turns. -/
abbrev Turns : World → World → Prop := Relation.ReflTransGen Turn

variable {permits : Call → Prop} {w w' : World}

theorem Changes.turns (h : Changes permits w w') : Turns w w' :=
  Relation.ReflTransGen.mono (fun _ _ h => .change h) _ _ (h.mono fun _ _ => trivial)

theorem call_turns (w : World) (c : Call) : Turns w (w.call c).2 := (call_changes_any w c).turns

/-! ## What has happened in between -/

/-- What has happened since an earlier moment, in order. -/
def happeningsSince (w earlier : World) : List Happening :=
  (w.history.take (w.history.length - earlier.history.length)).reverse

theorem happeningsSince_eq {new : List Happening} (h : w'.history = new ++ w.history) :
    w'.happeningsSince w = new.reverse := by
  have hlength : w'.history.length - w.history.length = new.length := by
    rw [h, List.length_append]
    omega
  rw [happeningsSince, hlength, h, List.take_left]

/-! ## What turns leave alone -/

/-- The token at a place stays the same one. -/
theorem Turn.identity {i : Nat} {t : Token} (h : Turn w w') (ht : w.tokens[i]? = some t) :
    ∃ t', w'.tokens[i]? = some t' ∧ t'.identity = t.identity := by
  cases h with
  | change h =>
    -- the identities are the same list, so they agree at every place
    have hmap := congrArg (·[i]?) h.frame.1
    simp only [List.getElem?_map, ht, Option.map_some, Option.map_eq_some_iff] at hmap
    exact hmap
  | enter =>
    have hi : i < w.tokens.length := (List.getElem?_eq_some_iff.mp ht).1
    exact ⟨t, by rwa [modifyLive, issue, List.getElem?_append_left hi], rfl⟩
  | _ => exact ⟨t, ht, rfl⟩

theorem Turns.identity {i : Nat} {t : Token} (h : Turns w w') (ht : w.tokens[i]? = some t) :
    ∃ t', w'.tokens[i]? = some t' ∧ t'.identity = t.identity := by
  induction h with
  | refl => exact ⟨t, ht, rfl⟩
  | tail _ h ih =>
    obtain ⟨t', ht', heq⟩ := ih
    obtain ⟨t'', ht'', heq'⟩ := h.identity ht'
    exact ⟨t'', ht'', heq'.trans heq⟩

/-- What happens comes on top of the history. -/
theorem Change.history_grows (h : Change permits w w') : ∃ new, w'.history = new ++ w.history := by
  cases h with
  | hear => exact ⟨[_], rfl⟩
  | absorb => exact ⟨[_], rfl⟩
  | invoke => exact ⟨[_, _], rfl⟩
  | take => exact ⟨[_], rfl⟩
  | record => exact ⟨[_], rfl⟩

theorem Turn.history_grows (h : Turn w w') : ∃ new, w'.history = new ++ w.history := by
  cases h with
  | change h => exact h.history_grows
  | script s => exact ⟨[.scripted s], rfl⟩
  | _ => exact ⟨[], rfl⟩

theorem Turns.history_grows (h : Turns w w') : ∃ new, w'.history = new ++ w.history := by
  induction h with
  | refl => exact ⟨[], rfl⟩
  | tail _ h ih =>
    obtain ⟨new, hnew⟩ := ih
    obtain ⟨new', hnew'⟩ := h.history_grows
    exact ⟨new' ++ new, by rw [hnew', hnew, List.append_assoc]⟩

theorem eventsSince_of_append {new : List Happening} (h : w'.history = new ++ w.history) :
    w'.eventsSince w = new.reverse.filterMap Happening.event? := by
  simp [eventsSince, h]

/-- The events of a while are those of its two parts. -/
theorem eventsSince_trans {w'' : World} (h : Turns w w') (h' : Turns w' w'') :
    w''.eventsSince w = w'.eventsSince w ++ w''.eventsSince w' := by
  obtain ⟨new, hnew⟩ := h.history_grows
  obtain ⟨new', hnew'⟩ := h'.history_grows
  have hboth : w''.history = (new' ++ new) ++ w.history := by rw [hnew', hnew, List.append_assoc]
  rw [eventsSince_of_append hnew, eventsSince_of_append hnew', eventsSince_of_append hboth]
  simp

/-- What has happened of a kind is what had happened before and what has happened since. -/
theorem Turns.countP_history (h : Turns w w') (p : Happening → Bool) :
    w'.history.countP p = w.history.countP p + (w'.happeningsSince w).countP p := by
  obtain ⟨new, hnew⟩ := h.history_grows
  rw [happeningsSince_eq hnew, hnew, List.countP_append, List.countP_reverse, Nat.add_comm]

end World

end CameraControl
