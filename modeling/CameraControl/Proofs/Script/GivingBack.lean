import CameraControl.Proofs.Camera.GivingBack
import CameraControl.Proofs.Script.Registration

/-
  Giving tokens back in all runs.

  A camera is told from all others by its session, because sessions are counted and every opening
  takes the next number: `Numbered` says so of a script's cameras and of the cameras that issued its
  tokens, open or not. With it, what giving a token back comes to is decided by which camera issued
  the token and whether the token is live, at any point of any script.
-/

namespace CameraControl

namespace World

variable {w w' : World}

/-- The sessions that tokens were issued for have begun. -/
def Numbered (w : World) : Prop := ∀ t ∈ w.tokens, t.session < w.nextSession

/-- Tokens stay the same ones, and sessions only ever begin. -/
theorem Numbered.of_identities (hw : w.Numbered)
    (htokens : w'.tokens.map Token.identity = w.tokens.map Token.identity)
    (hnext : w.nextSession ≤ w'.nextSession) : w'.Numbered := by
  intro t ht
  have hmem : t.identity ∈ w.tokens.map Token.identity := htokens ▸ List.mem_map_of_mem ht
  obtain ⟨t', ht', heq⟩ := List.mem_map.mp hmem
  have hsame : t'.session = t.session := (congrArg Token.session heq :)
  exact hsame ▸ Nat.lt_of_lt_of_le (hw t' ht') hnext

theorem Changes.numbered {permits : Call → Prop} (h : Changes permits w w') (hw : w.Numbered) :
    w'.Numbered :=
  hw.of_identities h.frame.1 (Nat.le_of_eq h.frame.2.2.1.symm)

theorem numbered_call (hw : w.Numbered) (c : Call) : (w.call c).2.Numbered :=
  (call_changes_any w c).numbered hw

theorem nextSession_call (w : World) (c : Call) : (w.call c).2.nextSession = w.nextSession :=
  (w.call_frame c).2.2.1

/-! ## Cameras -/

/-- Opening a device takes the next number for the session. -/
theorem nextSession_afterOpening (index : Int32) (w : World) :
    (Camera.afterOpening index w).nextSession = w.nextSession + 1 :=
  congrArg (· + 1) (w.nextSession_call (.open index))

theorem numbered_afterOpening (hw : w.Numbered) (index : Int32) :
    (Camera.afterOpening index w).Numbered :=
  (numbered_call hw (.open index)).of_identities rfl (Nat.le_succ _)

theorem nextSession_drop (cam : Camera) (w : World) :
    (cam.drop.exec w).2.nextSession = w.nextSession :=
  w.nextSession_call _

theorem numbered_drop (hw : w.Numbered) (cam : Camera) : (cam.drop.exec w).2.Numbered :=
  numbered_call hw _

theorem nextSession_subscribe (cam : Camera) (label : String) (f : Feature)
    (reactions : List Reaction) (nested : Option Call) (w : World) :
    ((cam.subscribe label f reactions nested).exec w).2.nextSession = w.nextSession := by
  have hcall := nextSession_call (cam.entered (cam.newToken label f reactions nested) w)
    (cam.subscription f w)
  rcases cam.subscribe_exec label f reactions nested w with ⟨-, hexec⟩ | ⟨-, fault, hexec⟩
  · rw [hexec]
    exact hcall
  · rw [hexec]
    exact hcall

/-- The new token is issued for a session that has begun. -/
theorem numbered_subscribe (hw : w.Numbered) {cam : Camera} (hcam : cam.session < w.nextSession)
    (label : String) (f : Feature) (reactions : List Reaction) (nested : Option Call) :
    ((cam.subscribe label f reactions nested).exec w).2.Numbered := by
  have hentered : (cam.entered (cam.newToken label f reactions nested) w).Numbered := by
    intro t ht
    rcases List.mem_append.mp ht with ht | ht
    · exact hw t ht
    · obtain rfl := List.mem_singleton.mp ht
      exact hcam
  have hcall := numbered_call hentered (cam.subscription f w)
  rcases cam.subscribe_exec label f reactions nested w with ⟨-, hexec⟩ | ⟨-, fault, hexec⟩
  · rw [hexec]
    exact hcall
  · rw [hexec]
    exact hcall

theorem nextSession_unsubscribe (cam : Camera) (token : Nat) (w : World) :
    ((cam.unsubscribe token).exec w).2.nextSession = w.nextSession := by
  rcases cam.unsubscribe_exec token w with
    ⟨hexec, -⟩ | ⟨t, fault, -, -, hexec⟩ | ⟨t, -, -, -, hexec⟩
  · rw [hexec]
  · rw [hexec]
  · rw [hexec]
    exact nextSession_call (w.modifyLive cam.session (·.erase token)) _

theorem numbered_unsubscribe (hw : w.Numbered) (cam : Camera) (token : Nat) :
    ((cam.unsubscribe token).exec w).2.Numbered := by
  rcases cam.unsubscribe_exec token w with
    ⟨hexec, -⟩ | ⟨t, fault, -, -, hexec⟩ | ⟨t, -, -, -, hexec⟩
  · rwa [hexec]
  · rwa [hexec]
  · rw [hexec]
    exact numbered_call (w := w.modifyLive cam.session (·.erase token)) hw _

end World

namespace Script

/-! ## Sessions tell cameras apart -/

/-- The sessions of a script's cameras have begun, and no two of its cameras share one. -/
structure Numbered (s : State) : Prop where
  tokens : s.world.Numbered
  camera_lt : ∀ {name : String} {cam : Camera}, Entries.get? s.cameras name = some cam →
    cam.session < s.world.nextSession
  name_unique : ∀ {name name' : String} {cam cam' : Camera},
    Entries.get? s.cameras name = some cam → Entries.get? s.cameras name' = some cam' →
      cam.session = cam'.session → name = name'

variable {s s' : State} {w : World} {name : String} {cam : Camera}

theorem Numbered.of_world (hs : Numbered s) (htokens : w.Numbered)
    (hnext : s.world.nextSession ≤ w.nextSession) : Numbered { s with world := w } where
  tokens := htokens
  camera_lt hcam := Nat.lt_of_lt_of_le (hs.camera_lt hcam) hnext
  name_unique := hs.name_unique

/-- A name passes to a camera whose session no other camera has. -/
theorem Numbered.of_put (hs : Numbered s) (htokens : w.Numbered)
    (hnext : s.world.nextSession ≤ w.nextSession) (hlt : cam.session < w.nextSession)
    (hfresh : ∀ {name' : String} {cam' : Camera}, Entries.get? s.cameras name' = some cam' →
      cam'.session = cam.session → name' = name) :
    Numbered { s with world := w, cameras := Entries.put s.cameras name cam } where
  tokens := htokens
  camera_lt {name₁ cam₁} h := by
    rw [Entries.get?_put] at h
    split at h
    · obtain rfl := Option.some.inj h
      exact hlt
    · exact Nat.lt_of_lt_of_le (hs.camera_lt h) hnext
  name_unique {name₁ name₂ cam₁ cam₂} h₁ h₂ hid := by
    rw [Entries.get?_put] at h₁ h₂
    split at h₁ <;> split at h₂
    · next e₁ e₂ => exact e₁.symm.trans e₂
    · next e₁ _ =>
      obtain rfl := Option.some.inj h₁
      exact e₁.symm.trans (hfresh h₂ hid.symm).symm
    · next _ e₂ =>
      obtain rfl := Option.some.inj h₂
      exact (hfresh h₁ hid).trans e₂
    · exact hs.name_unique h₁ h₂ hid

/-- A newly opened camera takes the name. -/
theorem Numbered.of_opened (hs : Numbered s) {index : Int32} (htokens : w.Numbered)
    (hnext : w.nextSession = s.world.nextSession + 1) :
    Numbered
      { s with
        world := w
        cameras := Entries.put s.cameras name (Camera.opening index s.world) } := by
  have hsession := World.session_opening index s.world
  refine hs.of_put htokens (by omega) (by omega) fun h hid => ?_
  have hlt := hs.camera_lt h
  omega

theorem Numbered.of_erase (hs : Numbered s) (htokens : w.Numbered)
    (hnext : s.world.nextSession ≤ w.nextSession) (name : String) :
    Numbered { s with world := w, cameras := Entries.erase s.cameras name } := by
  have hold {name₁ : String} {cam₁ : Camera}
      (h : Entries.get? (Entries.erase s.cameras name) name₁ = some cam₁) :
      Entries.get? s.cameras name₁ = some cam₁ := by
    rw [Entries.get?_erase] at h
    split at h
    · cases h
    · exact h
  exact ⟨htokens, fun h => Nat.lt_of_lt_of_le (hs.camera_lt (hold h)) hnext,
    fun h₁ h₂ => hs.name_unique (hold h₁) (hold h₂)⟩

theorem Move.numbered {permits : Call → Prop} {allows : Scripting → Prop}
    (h : Move permits allows s s') (hs : Numbered s) : Numbered s' := by
  cases h with
  | changes h => exact hs.of_world (h.numbered hs.tokens) (Nat.le_of_eq h.frame.2.2.1.symm)
  | scripted => exact hs.of_world hs.tokens (Nat.le_refl _)
  | named => exact ⟨hs.tokens, hs.camera_lt, hs.name_unique⟩
  | relocked lock hcam =>
    -- the camera is the same but for its lock
    have hlt := hs.camera_lt hcam
    exact hs.of_put hs.tokens (Nat.le_refl _) hlt fun h hid => hs.name_unique h hcam hid
  | opened =>
    exact hs.of_opened (World.numbered_afterOpening hs.tokens _)
      (World.nextSession_afterOpening _ _)
  | reopened =>
    refine hs.of_opened (World.numbered_drop (World.numbered_afterOpening hs.tokens _) _) ?_
    rw [World.nextSession_drop, World.nextSession_afterOpening]
  | released =>
    exact hs.of_erase (World.numbered_drop hs.tokens _)
      (Nat.le_of_eq (World.nextSession_drop _ _).symm) _
  | subscribed hcam =>
    exact hs.of_world (World.numbered_subscribe hs.tokens (hs.camera_lt hcam) _ _ _ _)
      (Nat.le_of_eq (World.nextSession_subscribe _ _ _ _ _ _).symm)
  | unsubscribed =>
    exact hs.of_world (World.numbered_unsubscribe hs.tokens _ _)
      (Nat.le_of_eq (World.nextSession_unsubscribe _ _ _).symm)
  | visited hstatus hread =>
    refine hs.of_world
      (World.numbered_drop (hread.numbered (World.numbered_afterOpening hs.tokens _)) _) ?_
    rw [World.nextSession_drop, hread.frame.2.2.1, World.nextSession_afterOpening]
    exact Nat.le_succ _

theorem Moves.numbered {permits : Call → Prop} {allows : Scripting → Prop}
    (h : Moves permits allows s s') (hs : Numbered s) : Numbered s' := by
  induction h with
  | refl => exact hs
  | tail _ h ih => exact h.numbered ih

theorem numbered_start (backend : Backend) (devices : List Device) :
    Numbered (start backend devices) where
  tokens _ h := absurd h List.not_mem_nil
  camera_lt h := by cases h
  name_unique h := by cases h

theorem runSteps_numbered (hs : Numbered s) (steps : List Step) :
    Numbered (runSteps s steps).2 := by
  have hmoves : Moves (fun _ => True) (fun _ => True) s (runSteps s steps).2 :=
    runSteps_moves regime_any (fun step _ => step.within_any) fun _ _ _ _ => trivial
  exact hmoves.numbered hs

/-! ## All runs -/

/-- At any point of any script: a token that a camera's subscription gives is a new one, and it is
    that camera's for good; a camera that is opened has a session of its own, which no other camera
    and no earlier token has, and no two cameras of the script share one. A camera refuses a token
    of another camera, and one of its own that is not live, and then nothing changes. Any other
    token it gives back, with the outcome of the one call, and from then on every camera refuses the
    token, whatever the script does in between. -/
theorem unregistration_by_identity (backend : Backend) (devices : List Device)
    (steps : List Step) :
    let s := (runSteps (start backend devices) steps).2
    let w := s.world
    (∀ (cam : Camera) label f reactions nested i w',
      (cam.subscribe label f reactions nested).exec w = (.ok i, w') →
        w.tokens[i]? = none ∧ ∀ names later, ∃ t,
          (runSteps { s with world := w', tokens := names } later).2.world.tokens[i]? = some t ∧
            t.identity = cam.newToken label f reactions nested) ∧
    (∀ index cam w', (Camera.openDevice index).exec w = (.ok cam, w') →
      (∀ t ∈ w.tokens, t.session ≠ cam.session) ∧
        ∀ name other, Entries.get? s.cameras name = some other → other.session ≠ cam.session) ∧
    (∀ name name' cam cam', Entries.get? s.cameras name = some cam →
      Entries.get? s.cameras name' = some cam' → cam.session = cam'.session → name = name') ∧
    ∀ (cam : Camera) i t, w.tokens[i]? = some t →
      (t.session ≠ cam.session →
        (cam.unsubscribe i).exec w = (.error (.protocol (.foreignToken t.feature)), w)) ∧
      (t.session = cam.session → w.isLive cam.session i = false →
        (cam.unsubscribe i).exec w = (.error (.protocol (.staleToken t.feature)), w)) ∧
      (t.session = cam.session → w.isLive cam.session i = true →
        ∃ w', (cam.unsubscribe i).exec w =
            (if (w.driver.step (cam.giving t i)).reply.status = Status.success then .ok ()
              else .error (Camera.notGiven t (w.driver.step (cam.giving t i)).reply.status), w') ∧
          Camera.GaveBack cam t i w w' ∧
          ∀ later (other : Camera),
            let after := (runSteps { s with world := w' } later).2.world
            (other.unsubscribe i).exec after = (.error (other.unknown t), after)) := by
  intro s w
  have hturns : World.Turns (start backend devices).world w :=
    runSteps_turns (start backend devices) steps
  have hrostered : w.Rostered := hturns.rostered (World.rostered_ofDriver backend _)
  have hnumbered : Numbered s := runSteps_numbered (numbered_start backend devices) steps
  refine ⟨?_, ?_, fun name name' cam cam' => hnumbered.name_unique, ?_⟩
  · intro cam label f reactions nested i w' hexec
    obtain ⟨hnew, t, ht, hidentity⟩ := Camera.token_of_subscribe hexec
    refine ⟨hnew, fun names later => ?_⟩
    obtain ⟨t', ht', hsame⟩ :=
      (runSteps_turns { s with world := w', tokens := names } later).identity ht
    exact ⟨t', ht', hsame.trans hidentity⟩
  · intro index cam w' hexec
    rcases Camera.openDevice_exec index w with ⟨-, hopen⟩ | ⟨-, fault, hopen⟩
    · rw [hopen] at hexec
      cases hexec
      rw [World.session_opening]
      exact ⟨fun t ht => Nat.ne_of_lt (hnumbered.tokens t ht),
        fun name other hother => Nat.ne_of_lt (hnumbered.camera_lt hother)⟩
    · rw [hopen] at hexec
      cases hexec
  · intro cam i t ht
    refine ⟨Camera.unsubscribe_of_foreign ht, Camera.unsubscribe_of_stale ht, ?_⟩
    intro hsession hlive
    obtain ⟨w', hexec, hgave⟩ := Camera.unsubscribe_of_live hrostered ht hsession hlive
    refine ⟨w', hexec, hgave, fun later other => ?_⟩
    -- what has left its session once is never live again
    have hgone : w'.isLive t.session i = false := hsession ▸ hgave.gone
    obtain ⟨ht', hdead, -⟩ := (runSteps_turns { s with world := w' } later).dead
      (hgave.tokens ▸ ht) hgone
    exact other.unsubscribe_of_dead ht' hdead

/-- Of two tokens for one feature the first is given back, and its call is ordered to fail: the
    driver keeps both subscriptions, but the token is gone and the other one stays. A camera of
    another device refuses the token as foreign before, and every camera refuses it afterwards. -/
theorem unregistration_by_identity_twice :
    let device := (Device.bare "A").put .aoiWidth (.int 4 1 8)
    let devices := [device, device]
    let steps := [Step.openCamera "c" 0, .camera "c" (.subscribe "t" .aoiWidth [.accept] none),
      .camera "c" (.subscribe "u" .aoiWidth [.accept] none), .openCamera "d" 1,
      .fail "AT_UnregisterFeatureCallback" Status.timedOut none]
    let s := (runSteps (start .direct devices) steps).2
    let c : Camera := ⟨0, 0, 100, none⟩
    let d : Camera := ⟨1, 1, 101, none⟩
    Entries.get? s.cameras "c" = some c ∧ Entries.get? s.cameras "d" = some d ∧
      (d.unsubscribe 0).exec s.world = (.error (.protocol (.foreignToken .aoiWidth)), s.world) ∧
      ∃ t w', s.world.tokens[0]? = some t ∧
        (c.unsubscribe 0).exec s.world = (.error (Camera.notGiven t Status.timedOut), w') ∧
        w'.live? 0 = some [1] ∧ w'.driver.subscriptions.length = 2 ∧
        ∀ later (other : Camera),
          let after := (runSteps { s with world := w' } later).2.world
          (other.unsubscribe 0).exec after = (.error (other.unknown t), after) := by
  intro device devices steps s c d
  have hs : s = (runSteps (start .direct devices) steps).2 := rfl
  clear_value s
  have hcameras : Entries.get? s.cameras "c" = some c ∧ Entries.get? s.cameras "d" = some d := by
    rw [hs]
    decide +kernel
  let t : Token := ⟨"t", 0, 100, .aoiWidth, [.accept], none, true, 0⟩
  have ht : s.world.tokens[0]? = some t := by rw [hs]; decide +kernel
  have hlive : s.world.live? 0 = some [0, 1] := by rw [hs]; decide +kernel
  have hordered : (s.world.driver.step (c.giving t 0)).reply.status = Status.timedOut := by
    rw [hs]
    decide +kernel
  have hsubscriptions : s.world.driver.subscriptions.length = 2 := by rw [hs]; decide +kernel
  have hall := unregistration_by_identity .direct devices steps
  rw [← hs] at hall
  obtain ⟨-, -, -, hgiving⟩ := hall
  obtain ⟨hforeign, -, -⟩ := hgiving d 0 t ht
  obtain ⟨-, -, hgive⟩ := hgiving c 0 t ht
  obtain ⟨w', hexec, hgave, hlater⟩ := hgive rfl (by rw [World.isLive_eq]; simp [c, hlive])
  rw [hordered, if_neg (by decide)] at hexec
  refine ⟨hcameras.1, hcameras.2, hforeign (by decide), t, w', ht, hexec, ?_, ?_, hlater⟩
  · rw [hgave.others, if_pos rfl, hlive]
    rfl
  · rw [hgave.kept fun h => absurd (hordered.symm.trans h.2) (by decide)]
    exact hsubscriptions

end Script

end CameraControl
