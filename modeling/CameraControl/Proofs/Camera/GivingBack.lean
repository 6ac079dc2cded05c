import CameraControl.Proofs.Camera.Sessions
import CameraControl.Proofs.Driver.Frames
import CameraControl.Proofs.World.Liveness

/-
  Giving tokens back.

  Whether a camera takes a token back is decided by what the token is: one of another session is
  foreign, one that is not live is stale, and in both cases nothing happens at all. Any other token
  leaves its session before the driver is told, and stays away whatever the driver replies;
  `GaveBack` says what the world is like then. From that moment on, `unsubscribe_of_dead`, no camera
  takes the token back again.
-/

namespace CameraControl

namespace Driver

variable {d : Driver} {handle : Int32} {key : String} {token : Nat}

/-- A call to take a subscription back that takes effect ends that subscription and no other. -/
theorem step_unsubscribe (h : d.TakesEffect (.feature handle key (.unsubscribe token))) :
    ⟨handle, Text.squeeze key, token⟩ ∈ d.subscriptions ∧
      (d.step (.feature handle key (.unsubscribe token))).driver =
        { d.logged (.feature handle key (.unsubscribe token)) with
          subscriptions := d.subscriptions.erase ⟨handle, Text.squeeze key, token⟩ } := by
  obtain ⟨e, he, hstep⟩ := step_of_takesEffect (fun _ h => by cases h) h
  rw [hstep]
  cases he with
  | answered hread => cases hread
  | unsubscribed hopen hmem => exact ⟨hmem, rfl⟩

end Driver

namespace Camera

open CameraControl.Action World

variable {cam : Camera} {i : Nat} {t : Token} {w : World}

/-- The call that gives a token back to the driver. -/
def giving (cam : Camera) (t : Token) (i : Nat) : Call :=
  .feature cam.handle t.feature.key (.unsubscribe i)

/-- The fault that tells that the driver did not take a token back. -/
def notGiven (t : Token) (code : Status) : Fault :=
  .device
    (Function.unregisterFeatureCallback.symbol ++
      " for feature \"" ++ t.feature.key ++ "\" failed.")
    code

/-- The fault that tells a camera from what a token is that it cannot be given back. -/
def unknown (cam : Camera) (t : Token) : Fault :=
  .protocol (if t.session = cam.session then .staleToken t.feature else .foreignToken t.feature)

/-- Between two worlds a camera gave a token back. Its call was made and nothing else happened; the
    token has left its session, whatever the driver replied, and no other token has. If the call
    took effect, the driver lost the subscription of the token, otherwise it lost none. -/
structure GaveBack (cam : Camera) (t : Token) (i : Nat) (w w' : World) : Prop where
  history : w'.history =
    .called (cam.giving t i) (w.driver.step (cam.giving t i)).reply :: w.history
  gone : w'.isLive cam.session i = false
  others : ∀ session, w'.live? session =
    if session = cam.session then (w.live? session).map (·.erase i) else w.live? session
  lost : w.driver.TakesEffect (cam.giving t i) →
    ⟨cam.handle, Text.squeeze t.feature.key, i⟩ ∈ w.driver.subscriptions ∧
      w'.driver =
        { w.driver.logged (cam.giving t i) with
          subscriptions :=
            w.driver.subscriptions.erase ⟨cam.handle, Text.squeeze t.feature.key, i⟩ }
  kept : ¬w.driver.TakesEffect (cam.giving t i) → w'.driver = w.driver.logged (cam.giving t i)
  tokens : w'.tokens = w.tokens
  nextSession : w'.nextSession = w.nextSession
  backend : w'.backend = w.backend

/-! ## What giving back comes to -/

/-- A token of another camera is refused, live or not. -/
theorem unsubscribe_of_foreign (ht : w.tokens[i]? = some t) (hsession : t.session ≠ cam.session) :
    (cam.unsubscribe i).exec w = (.error (.protocol (.foreignToken t.feature)), w) := by
  have heq := cam.unsubscribe_eq i w
  simp only [ht] at heq
  rw [heq, if_pos hsession]
  rfl

/-- A token of the camera that is not live any more is refused. -/
theorem unsubscribe_of_stale (ht : w.tokens[i]? = some t) (hsession : t.session = cam.session)
    (hdead : w.isLive cam.session i = false) :
    (cam.unsubscribe i).exec w = (.error (.protocol (.staleToken t.feature)), w) := by
  have heq := cam.unsubscribe_eq i w
  simp only [ht] at heq
  rw [heq, if_neg (not_not_intro hsession), hdead]
  rfl

/-- A token that is not live is refused by every camera, and nothing changes. -/
theorem unsubscribe_of_dead (cam : Camera) (ht : w.tokens[i]? = some t)
    (hdead : w.isLive t.session i = false) :
    (cam.unsubscribe i).exec w = (.error (cam.unknown t), w) := by
  by_cases hsession : t.session = cam.session
  · rw [unsubscribe_of_stale ht hsession (hsession ▸ hdead), unknown, if_pos hsession]
  · rw [unsubscribe_of_foreign ht hsession, unknown, if_neg hsession]

/-- The world after a live token left its session and the driver was told. -/
theorem gaveBack (hw : w.Rostered) (cam : Camera) (t : Token) (i : Nat) :
    GaveBack cam t i w ((w.modifyLive cam.session (·.erase i)).take (cam.giving t i)) where
  history := rfl
  gone := isLive_leave hw cam.session i
  others := live?_modifyLive w cam.session (·.erase i)
  lost h := Driver.step_unsubscribe h
  kept h := Driver.step_of_not_takesEffect h
  tokens := rfl
  nextSession := rfl
  backend := rfl

/-- A live token of the camera leaves, and the outcome is that of the call. -/
theorem unsubscribe_of_live (hw : w.Rostered) (ht : w.tokens[i]? = some t)
    (hsession : t.session = cam.session) (hlive : w.isLive cam.session i = true) :
    ∃ w', (cam.unsubscribe i).exec w =
        (if (w.driver.step (cam.giving t i)).reply.status = Status.success then .ok ()
          else .error (notGiven t (w.driver.step (cam.giving t i)).reply.status), w') ∧
      GaveBack cam t i w w' := by
  refine ⟨_, ?_, gaveBack hw cam t i⟩
  have heq := cam.unsubscribe_eq i w
  simp only [ht] at heq
  rw [if_neg (not_not_intro hsession), hlive] at heq
  -- what is left after the token has left its session: the call, and what it comes to
  have hleave : (cam.unsubscribe i).exec w =
      (cam.request t.feature (.unsubscribe i) "" >>= fun _ => pure ()).exec
        (w.modifyLive cam.session (·.erase i)) := heq
  have hcall : (cam.request t.feature (.unsubscribe i) "").exec
      (w.modifyLive cam.session (·.erase i)) =
        (if (w.driver.step (cam.giving t i)).reply.status = Status.success then
            .ok (w.driver.step (cam.giving t i)).reply
          else .error (notGiven t (w.driver.step (cam.giving t i)).reply.status),
          (w.modifyLive cam.session (·.erase i)).take (cam.giving t i)) := by
    have hportable : (cam.giving t i).Portable := ⟨t.feature.portable_key, trivial⟩
    rw [request, String.append_empty]
    show (Action.call (cam.giving t i) _).exec _ = _
    rw [exec_call, call_of_silent hportable rfl]
    rfl
  rw [hleave]
  by_cases hstatus : (w.driver.step (cam.giving t i)).reply.status = Status.success
  · rw [if_pos hstatus] at hcall ⊢
    exact exec_bind_of_ok hcall
  · rw [if_neg hstatus] at hcall ⊢
    exact exec_bind_of_error hcall

/-! ## Tokens of subscriptions -/

/-- A subscription that succeeds gives a new token, which is one of the camera for the feature. -/
theorem token_of_subscribe {label : String} {f : Feature} {reactions : List Reaction}
    {nested : Option Call} {w' : World}
    (h : (cam.subscribe label f reactions nested).exec w = (.ok i, w')) :
    w.tokens[i]? = none ∧ ∃ t, w'.tokens[i]? = some t ∧
      t.identity = cam.newToken label f reactions nested := by
  have hentered : (cam.entered (cam.newToken label f reactions nested) w).tokens[w.tokens.length]? =
      some (cam.newToken label f reactions nested) := List.getElem?_concat_length
  rcases cam.subscribe_exec label f reactions nested w with ⟨-, hexec⟩ | ⟨-, fault, hexec⟩
  · rw [hexec] at h
    cases h
    refine ⟨List.getElem?_eq_none (Nat.le_refl _), ?_⟩
    obtain ⟨t, ht, hidentity⟩ := (call_turns _ (cam.subscription f w)).identity hentered
    exact ⟨t, ht, hidentity⟩
  · rw [hexec] at h
    cases h

end Camera

end CameraControl
