import CameraControl.Proofs.Script.Lasting
import CameraControl.Proofs.World.Registration

/-
  Live tokens and subscriptions in all runs.

  A script that leaves sessions and tokens to its cameras keeps the live tokens of every camera in
  step with the driver's subscriptions. Between two moves, the sessions of the world are those of
  the cameras that have names, which `Named` says; with it, `Aligned` carries over from the world
  to the cameras.
-/

namespace CameraControl

/-! ## Orderly scripts -/

/-- An orderly call arrives as an orderly one. -/
theorem Call.orderly_of_pass? {b : Backend} {c c' : Call} (hc : c.Orderly)
    (h : b.pass? c = some c') : c'.Orderly := by
  rcases Backend.pass?_cases h with rfl | ⟨_, _, _, _, r, rfl, rfl, hr⟩
  · exact hc
  · rcases Library.passRequest?_cases hr with
      rfl | ⟨_, _, rfl, rfl, -⟩ | ⟨_, _, _, rfl, rfl⟩ | ⟨_, _, rfl, rfl⟩
    · cases r <;> exact hc
    · trivial
    · trivial
    · trivial

theorem Script.regime_orderly : Script.Regime Call.Orderly where
  request handle f r hr := by
    cases r with
    | subscribe => exact hr.elim
    | unsubscribe => exact hr.elim
    | _ => trivial
  queue _ _ _ := trivial
  wait _ _ := trivial
  flush _ := trivial
  opens _ := trivial
  writes _ _ _ := trivial
  pass hc h := Call.orderly_of_pass? hc h

/-- An honest driver stays so, as long as orders are. -/
theorem Driver.honest_lasting : Driver.Lasting Scripting.Honest Driver.Honest where
  step := fun hd c => Driver.honest_step hd c
  script := fun hd hact => Driver.honest_script hd hact

namespace World

variable {w w' : World}

theorem Changes.roster {permits : Call → Prop} (h : Changes permits w w') :
    w'.roster = w.roster := by
  rw [World.roster, h.frame.2.1, World.roster]

theorem roster_call (w : World) (c : Call) : (w.call c).2.roster = w.roster :=
  (call_changes_any w c).roster

theorem roster_drop (cam : Camera) (w : World) :
    (cam.drop.exec w).2.roster = w.roster.filter fun p => p.1 != cam.session := by
  rw [Camera.drop_exec, roster_endSession, roster_call]

theorem roster_afterOpening (index : Int32) (w : World) :
    (Camera.afterOpening index w).roster =
      w.roster ++ [((Camera.opening index w).session, (Camera.opening index w).handle)] := by
  have hsessions := (call_frame w (.open index)).2.1
  simp [Camera.afterOpening, Camera.opening, World.beginSession, World.roster, hsessions]

theorem session_opening (index : Int32) (w : World) :
    (Camera.opening index w).session = w.nextSession :=
  (call_frame w (.open index)).2.2.1

theorem roster_subscribe (cam : Camera) (label : String) (f : Feature) (reactions : List Reaction)
    (nested : Option Call) (w : World) :
    ((cam.subscribe label f reactions nested).exec w).2.roster = w.roster := by
  rcases cam.subscribe_exec label f reactions nested w with ⟨-, hexec⟩ | ⟨-, fault, hexec⟩
  · rw [hexec, roster_call, roster_entered]
  · rw [hexec, roster_modifyLive, roster_call, roster_entered]

theorem roster_unsubscribe (cam : Camera) (token : Nat) (w : World) :
    ((cam.unsubscribe token).exec w).2.roster = w.roster := by
  rcases cam.unsubscribe_exec token w with
    ⟨hexec, -⟩ | ⟨t, fault, -, -, hexec⟩ | ⟨t, -, -, -, hexec⟩
  · rw [hexec]
  · rw [hexec]
  · rw [hexec, roster_call, roster_modifyLive]

end World

/-- Orderly changes keep live tokens and subscriptions in step while handles are few. -/
theorem World.Changes.aligned {devices : List Device} (hbuilt : ∀ device ∈ devices, device.Built)
    {w w' : World} (h : World.Changes Call.Orderly w w')
    (hreplays : w.Replays (Driver.ofDevices devices))
    (hfew : (Driver.ofDevices devices).Few w'.operations) (hw : w.Aligned) : w'.Aligned := by
  induction h with
  | refl => exact hw
  | @tail mid last hmid hlast ih =>
    have hturns : World.Turns mid last := World.Changes.turns (.single hlast)
    -- the bound on the handles is passed down to every moment before the last
    have hgrown := World.grown_of_few hbuilt hturns
      ((World.Changes.turns hmid).replays hreplays) hfew
    exact hlast.aligned hgrown (ih (World.few_of_turns hturns hfew))

namespace Script

/-! ## Sessions and names -/

/-- The sessions of the world are those of the cameras that have names. -/
structure Named (s : State) : Prop where
  session_of : ∀ {name : String} {cam : Camera}, Entries.get? s.cameras name = some cam →
    (cam.session, cam.handle) ∈ s.world.roster
  camera_of : ∀ p ∈ s.world.roster, ∃ name cam, Entries.get? s.cameras name = some cam ∧
    cam.session = p.1
  name_unique : ∀ {name name' : String} {cam cam' : Camera},
    Entries.get? s.cameras name = some cam → Entries.get? s.cameras name' = some cam' →
      cam.session = cam'.session → name = name'

variable {s : State} {w : World} {name : String} {cam : Camera}

theorem Named.of_roster (hs : Named s) (h : w.roster = s.world.roster) :
    Named { s with world := w } where
  session_of hcam := h ▸ hs.session_of hcam
  camera_of p hp := hs.camera_of p (h ▸ hp)
  name_unique := hs.name_unique

/-- A name may pass to another camera of the same session. -/
theorem Named.of_same_session {cam' : Camera} (hs : Named s)
    (hcam : Entries.get? s.cameras name = some cam) (hsession : cam'.session = cam.session)
    (hhandle : cam'.handle = cam.handle) :
    Named { s with cameras := Entries.put s.cameras name cam' } where
  session_of {name₁ cam₁} h := by
    rw [Entries.get?_put] at h
    split at h
    · obtain rfl := Option.some.inj h
      rw [hsession, hhandle]
      exact hs.session_of hcam
    · exact hs.session_of h
  camera_of p hp := by
    obtain ⟨name₁, cam₁, h, hid⟩ := hs.camera_of p hp
    -- the name itself now stands for the other camera
    by_cases hname : name = name₁
    · subst hname
      obtain rfl := Option.some.inj (hcam.symm.trans h)
      exact ⟨name, cam', by rw [Entries.get?_put, if_pos rfl], hsession.trans hid⟩
    · exact ⟨name₁, cam₁, by rw [Entries.get?_put, if_neg hname, h], hid⟩
  name_unique {name₁ name₂ cam₁ cam₂} h₁ h₂ hid := by
    rw [Entries.get?_put] at h₁ h₂
    split at h₁ <;> split at h₂
    · next e₁ e₂ => exact e₁.symm.trans e₂
    · next e₁ _ =>
      obtain rfl := Option.some.inj h₁
      exact e₁.symm.trans (hs.name_unique hcam h₂ (hsession.symm.trans hid))
    · next _ e₂ =>
      obtain rfl := Option.some.inj h₂
      exact (hs.name_unique h₁ hcam (hid.trans hsession)).trans e₂
    · exact hs.name_unique h₁ h₂ hid

/-- The name of a camera is gone with its session. -/
theorem Named.of_released (hs : Named s)
    (hcam : Entries.get? s.cameras name = some cam)
    (hroster : w.roster = s.world.roster.filter fun p => p.1 != cam.session) :
    Named { s with world := w, cameras := Entries.erase s.cameras name } where
  session_of {name₁ cam₁} h := by
    rw [Entries.get?_erase] at h
    split at h
    · cases h
    -- another name has another session
    · next hne =>
      show _ ∈ w.roster
      rw [hroster, List.mem_filter, bne_iff_ne]
      exact ⟨hs.session_of h, fun hid => hne (hs.name_unique h hcam hid).symm⟩
  camera_of p hp := by
    have hp : p ∈ w.roster := hp
    rw [hroster, List.mem_filter, bne_iff_ne] at hp
    obtain ⟨name₁, cam₁, h, hid⟩ := hs.camera_of p hp.1
    have hne : name ≠ name₁ := by
      rintro rfl
      obtain rfl := Option.some.inj (hcam.symm.trans h)
      exact hp.2 hid.symm
    exact ⟨name₁, cam₁, by rw [Entries.get?_erase, if_neg hne, h], hid⟩
  name_unique {name₁ name₂ cam₁ cam₂} h₁ h₂ hid := by
    rw [Entries.get?_erase] at h₁ h₂
    split at h₁
    · cases h₁
    · split at h₂
      · cases h₂
      · exact hs.name_unique h₁ h₂ hid

/-- A new camera takes a name, from which the camera that had it before is released. -/
theorem Named.of_opened (hs : Named s) (hw : s.world.Settled) {index : Int32}
    (hroster : ∀ p, p ∈ w.roster ↔
      p = ((Camera.opening index s.world).session, (Camera.opening index s.world).handle) ∨
        p ∈ s.world.roster ∧
          ∀ old, Entries.get? s.cameras name = some old → p.1 ≠ old.session) :
    Named
      { s with
        world := w
        cameras := Entries.put s.cameras name (Camera.opening index s.world) } where
  session_of {name₁ cam₁} h := by
    show _ ∈ w.roster
    rw [hroster]
    rw [Entries.get?_put] at h
    split at h
    · obtain rfl := Option.some.inj h
      exact .inl rfl
    · next hne =>
      refine .inr ⟨hs.session_of h, fun old hold hid => hne ?_⟩
      exact (hs.name_unique h hold hid).symm
  camera_of p hp := by
    rcases (hroster p).mp hp with rfl | ⟨hp, hold⟩
    · exact ⟨name, _, by rw [Entries.get?_put, if_pos rfl], rfl⟩
    · obtain ⟨name₁, cam₁, h, hid⟩ := hs.camera_of p hp
      have hne : name ≠ name₁ := by
        rintro rfl
        exact hold cam₁ h hid.symm
      exact ⟨name₁, cam₁, by rw [Entries.get?_put, if_neg hne, h], hid⟩
  name_unique {name₁ name₂ cam₁ cam₂} h₁ h₂ hid := by
    -- the new session has no camera yet
    have hfresh {name' : String} {cam' : Camera} (h : Entries.get? s.cameras name' = some cam') :
        cam'.session ≠ (Camera.opening index s.world).session := by
      rw [World.session_opening]
      exact Nat.ne_of_lt (hw.id_lt _ (hs.session_of h))
    rw [Entries.get?_put] at h₁ h₂
    split at h₁ <;> split at h₂
    · next e₁ e₂ => exact e₁.symm.trans e₂
    · obtain rfl := Option.some.inj h₁
      exact absurd hid.symm (hfresh h₂)
    · obtain rfl := Option.some.inj h₂
      exact absurd hid (hfresh h₁)
    · exact hs.name_unique h₁ h₂ hid

/-! ## Moves -/

/-- What an orderly script keeps from its start. -/
structure Kept (devices : List Device) (s : State) : Prop where
  nests : s.world.Nests Call.Orderly
  honest : s.world.driver.Honest
  replays : s.world.Replays (Driver.ofDevices devices)
  aligned : (Driver.ofDevices devices).Few s.world.operations → s.world.Aligned ∧ Named s

variable {devices : List Device} {s' : State}

/-- What few handles give at one moment. -/
theorem sound_of_kept (hbuilt : ∀ device ∈ devices, device.Built)
    (hreplays : w.Replays (Driver.ofDevices devices))
    (hfew : (Driver.ofDevices devices).Few w.operations) : w.driver.Sound :=
  (World.grown_of_few hbuilt .refl hreplays hfew).sound

theorem aligned_open (hbuilt : ∀ device ∈ devices, device.Built) {index : Int32}
    (hd : w.driver.Honest) (hreplays : w.Replays (Driver.ofDevices devices))
    (hfew : (Driver.ofDevices devices).Few (Camera.afterOpening index w).operations)
    (hstatus : (w.call (.open index)).1.status = Status.success) (hw : w.Aligned) :
    (Camera.afterOpening index w).Aligned := by
  have hbegin : World.Turns (w.take (.open index)) (Camera.afterOpening index w) := by
    rw [Camera.afterOpening, (World.call_open_of_success hd hstatus).1]
    exact .single (.beginSession _)
  have htake : World.Turns w (w.take (.open index)) := .single (.change (.take trivial))
  have hgrown := World.grown_of_few hbuilt htake hreplays (World.few_of_turns hbegin hfew)
  exact World.aligned_afterOpening hd hgrown hw hstatus

theorem aligned_subscribe (hbuilt : ∀ device ∈ devices, device.Built) {label : String}
    {f : Feature} {reactions : List Reaction} {nested : Option Call}
    (hnested : ∀ c ∈ nested, c.Orderly) (hnests : w.Nests Call.Orderly) (hd : w.driver.Honest)
    (hreplays : w.Replays (Driver.ofDevices devices))
    (hfew : (Driver.ofDevices devices).Few
      ((cam.subscribe label f reactions nested).exec w).2.operations)
    (hcam : (cam.session, cam.handle) ∈ w.roster) (hw : w.Aligned) :
    ((cam.subscribe label f reactions nested).exec w).2.Aligned := by
  have hcall := World.call_eq (c := cam.subscription f w) ⟨f.portable_key, trivial⟩
    (cam.entered (cam.newToken label f reactions nested) w)
  have hdriver : (cam.entered (cam.newToken label f reactions nested) w).driver = w.driver := rfl
  rw [hdriver] at hcall
  rcases Driver.step_honest hd (cam.subscription f w) with
    ⟨code, hcode, hstep⟩ | ⟨e, he, hstep⟩
  · -- refused: the token leaves again
    rw [hstep] at hcall
    rcases cam.subscribe_exec label f reactions nested w with ⟨hstatus, -⟩ | ⟨-, fault, hexec⟩
    · rw [hcall] at hstatus
      exact absurd hstatus hcode
    · rw [hexec, hcall]
      exact World.aligned_rollBack hw hcam rfl rfl hstep
  · -- accepted: what it notifies of comes after
    have haccepted := World.aligned_subscribed (t := cam.newToken label f reactions nested)
      hw hcam rfl rfl rfl he hstep
    rw [hstep] at hcall
    rcases cam.subscribe_exec label f reactions nested w with ⟨-, hexec⟩ | ⟨hstatus, -⟩
    · rw [hexec, hcall] at hfew ⊢
      have hentered : ((cam.entered (cam.newToken label f reactions nested) w).take
          (cam.subscription f w)).Nests Call.Orderly := by
        intro t ht c hc
        rcases List.mem_append.mp ht with ht | ht
        · exact hnests t ht c hc
        · obtain rfl := List.mem_singleton.mp ht
          exact hnested c hc
      have hturns : World.Turns w ((cam.entered (cam.newToken label f reactions nested) w).take
          (cam.subscription f w)) :=
        (Relation.ReflTransGen.single (cam.entered_turn label f reactions nested w)).tail
          (.change (.take trivial))
      exact World.Changes.aligned hbuilt (World.deliverAll_changes e.notices hentered)
        (hturns.replays hreplays) hfew haccepted
    · rw [hcall] at hstatus
      exact absurd rfl hstatus

theorem aligned_unsubscribe {token : Nat} (hd : w.driver.Honest) (hw : w.Aligned) :
    ((cam.unsubscribe token).exec w).2.Aligned := by
  rcases cam.unsubscribe_exec token w with
    ⟨hexec, -⟩ | ⟨t, fault, -, -, hexec⟩ | ⟨t, ht, -, hlive, hexec⟩
  · rw [hexec]
    exact hw
  · rw [hexec]
    exact hw
  · rw [hexec]
    exact World.aligned_takeBack hd hw ht hlive

/-! ### Alignment -/

/-- The session of an opened camera is new. -/
theorem session_fresh (hw : w.Settled) {p : Nat × Int32} (hp : p ∈ w.roster) (index : Int32) :
    p.1 ≠ (Camera.opening index w).session := by
  rw [World.session_opening]
  exact Nat.ne_of_lt (hw.id_lt p hp)

/-- Giving up a camera of a world that an orderly script reached. -/
theorem aligned_release (hbuilt : ∀ device ∈ devices, device.Built) (hd : w.driver.Honest)
    (hreplays : w.Replays (Driver.ofDevices devices))
    (hfew : (Driver.ofDevices devices).Few (cam.drop.exec w).2.operations)
    (hcam : (cam.session, cam.handle) ∈ w.roster) (hw : w.Aligned) :
    (cam.drop.exec w).2.Aligned := by
  have hsound := sound_of_kept hbuilt hreplays (World.few_of_turns (cam.drop_turns w) hfew)
  exact World.aligned_drop hd hsound hw hcam

theorem Move.aligned (hbuilt : ∀ device ∈ devices, device.Built)
    (h : Move Call.Orderly Scripting.Honest s s') (hs : Kept devices s)
    (hfew : (Driver.ofDevices devices).Few s'.world.operations) :
    s'.world.Aligned ∧ Named s' := by
  obtain ⟨haligned, hnamed⟩ := hs.aligned (World.few_of_turns h.turns hfew)
  cases h with
  | changes h =>
    exact ⟨World.Changes.aligned hbuilt h hs.replays hfew haligned, hnamed.of_roster h.roster⟩
  | scripted => exact ⟨World.aligned_script haligned _, hnamed.of_roster rfl⟩
  | named tokens => exact ⟨haligned, hnamed.1, hnamed.2, hnamed.3⟩
  | relocked lock hcam => exact ⟨haligned, hnamed.of_same_session hcam rfl rfl⟩
  | @opened name index hstatus hfree =>
    refine ⟨aligned_open hbuilt hs.honest hs.replays hfew hstatus haligned, ?_⟩
    refine hnamed.of_opened haligned.toSettled fun p => ?_
    rw [World.roster_afterOpening, List.mem_append, List.mem_singleton, or_comm]
    simp [hfree]
  | @reopened name index old hstatus hold =>
    have hfew' := World.few_of_turns (old.drop_turns _) hfew
    have hopened := aligned_open hbuilt hs.honest hs.replays hfew' hstatus haligned
    have hcam : (old.session, old.handle) ∈ (Camera.afterOpening index s.world).roster := by
      rw [World.roster_afterOpening]
      exact List.mem_append_left _ (hnamed.session_of hold)
    have hne := session_fresh haligned.toSettled (hnamed.session_of hold) index
    refine ⟨aligned_release hbuilt (Driver.honest_lasting.afterOpening hs.honest index)
      ((Camera.afterOpening_turns index s.world).replays hs.replays) hfew hcam hopened, ?_⟩
    refine hnamed.of_opened haligned.toSettled fun p => ?_
    rw [World.roster_drop, List.mem_filter, World.roster_afterOpening, List.mem_append,
      List.mem_singleton, bne_iff_ne]
    -- the sessions are the new one and the old ones without that of the camera given up
    constructor
    · rintro ⟨hp | rfl, hid⟩
      · refine .inr ⟨hp, fun old' hold' => ?_⟩
        obtain rfl := Option.some.inj (hold.symm.trans hold')
        exact hid
      · exact .inl rfl
    · rintro (rfl | ⟨hp, hid⟩)
      · exact ⟨.inr rfl, hne.symm⟩
      · exact ⟨.inl hp, hid old hold⟩
  | @released name cam hcam =>
    exact ⟨aligned_release hbuilt hs.honest hs.replays hfew (hnamed.session_of hcam) haligned,
      hnamed.of_released hcam (World.roster_drop cam s.world)⟩
  | subscribed hcam hnested =>
    exact ⟨aligned_subscribe hbuilt hnested hs.nests hs.honest hs.replays hfew
      (hnamed.session_of hcam) haligned, hnamed.of_roster (World.roster_subscribe _ _ _ _ _ _)⟩
  | unsubscribed hcam =>
    exact ⟨aligned_unsubscribe hs.honest haligned,
      hnamed.of_roster (World.roster_unsubscribe _ _ _)⟩
  | @visited index w hstatus hread =>
    -- three parts, each with few handles: opening, reading and giving up
    have hfew' := World.few_of_turns (Camera.drop_turns (Camera.opening index s.world) w) hfew
    have hfew'' := World.few_of_turns hread.turns hfew'
    have hopened := aligned_open hbuilt hs.honest hs.replays hfew'' hstatus haligned
    have hreplays := (Camera.afterOpening_turns index s.world).replays hs.replays
    have hhonest := Driver.honest_lasting.afterOpening hs.honest index
    have hcam : ((Camera.opening index s.world).session, (Camera.opening index s.world).handle) ∈
        w.roster := by
      rw [hread.roster, World.roster_afterOpening]
      exact List.mem_append_right _ List.mem_cons_self
    refine ⟨aligned_release hbuilt (Driver.honest_lasting.changes hread hhonest)
      (hread.turns.replays hreplays) hfew hcam
      (World.Changes.aligned hbuilt hread hreplays hfew' hopened), hnamed.of_roster ?_⟩
    -- the session that was there for a moment is gone
    rw [World.roster_drop, hread.roster, World.roster_afterOpening, List.filter_append,
      List.filter_eq_self.mpr fun p hp =>
        bne_iff_ne.mpr (session_fresh haligned.toSettled hp index)]
    simp

theorem Move.kept (hbuilt : ∀ device ∈ devices, device.Built)
    (h : Move Call.Orderly Scripting.Honest s s') (hs : Kept devices s) : Kept devices s' where
  nests := h.nests hs.nests
  honest := Driver.honest_lasting.move h hs.honest
  replays := h.turns.replays hs.replays
  aligned hfew := h.aligned hbuilt hs hfew

theorem kept_start (backend : Backend) (devices : List Device) :
    Kept devices (start backend devices) where
  nests := nests_start backend devices
  honest := ⟨fun _ h => absurd h List.not_mem_nil, fun _ h => absurd h List.not_mem_nil⟩
  replays := World.replays_ofDriver backend _
  aligned _ := by
    refine ⟨⟨?_, ?_⟩, ?_⟩
    · constructor <;> simp [start, World.ofDriver, Driver.ofDevices, World.roster]
    · simp [start, World.ofDriver]
    · constructor <;> simp [start, World.ofDriver, World.roster, Entries.get?]

theorem Moves.kept (hbuilt : ∀ device ∈ devices, device.Built)
    (h : Moves Call.Orderly Scripting.Honest s s') (hs : Kept devices s) : Kept devices s' := by
  induction h with
  | refl => exact hs
  | tail _ h ih => exact h.kept hbuilt ih

/-- A whole orderly script keeps it. -/
theorem runSteps_kept (hbuilt : ∀ device ∈ devices, device.Built) (backend : Backend)
    {steps : List Step} (hsteps : ∀ step ∈ steps, step.Within Call.Orderly Scripting.Honest) :
    Kept devices (runSteps (start backend devices) steps).2 :=
  (runSteps_moves regime_orderly hsteps (nests_start backend devices)).kept hbuilt
    (kept_start backend devices)

/-! ## All runs -/

/-- The live tokens of a camera are those that the driver holds for it. -/
theorem live?_of_named (hw : s.world.Aligned) (hs : Named s)
    (hcam : Entries.get? s.cameras name = some cam) :
    s.world.live? cam.session = some (s.world.heldTokens cam.handle) :=
  hw.live?_eq (hs.session_of hcam)

/-- A token of a subscription outside all sessions is not live. -/
theorem not_live_of_left_over (hw : w.Settled) {x : Subscription}
    (hx : x ∈ w.driver.subscriptions) (houtside : x.handle ∉ w.roster.map Prod.snd) :
    ∃ t, w.tokens[x.token]? = some t ∧ w.isLive t.session x.token = false := by
  obtain ⟨t, ht, hhandle, -⟩ := hw.subscription_token x hx
  refine ⟨t, ht, ?_⟩
  by_contra hlive
  obtain ⟨y, hy, hid, -⟩ := World.exists_session_of_isLive (Bool.not_eq_false _ ▸ hlive)
  -- a live token is in a session, which has the handle of its subscription
  have hsame := (hw.token_session t (List.mem_of_getElem? ht)).2 _ (World.mem_roster hy) hid
  exact houtside (List.mem_map.mpr ⟨_, World.mem_roster hy, hsame.trans hhandle.symm⟩)

/-- A subscription step that fails leaves sessions and subscriptions as they were. -/
theorem subscribe_failed (hw : s.world.Aligned) {label : String} {f : Feature}
    {reactions : List Reaction} {nested : Option Call} {e : Failure}
    (hrun : (runStep (.camera name (.subscribe label f reactions nested))).run s = (.error e, s')) :
    s'.world.sessions = s.world.sessions ∧
      s'.world.driver.subscriptions = s.world.driver.subscriptions := by
  cases hcam : Entries.get? s.cameras name with
  | none =>
    unfold runStep at hrun
    rw [run_bind, Run.run_camera, hcam] at hrun
    obtain rfl : s = s' := congrArg Prod.snd hrun
    exact ⟨rfl, rfl⟩
  | some cam =>
    rw [run_camera_step hcam] at hrun
    unfold runCamera at hrun
    rw [run_bind, Run.run_act] at hrun
    have hcall := World.call_eq (c := cam.subscription f s.world) ⟨f.portable_key, trivial⟩
      (cam.entered (cam.newToken label f reactions nested) s.world)
    rcases cam.subscribe_exec label f reactions nested s.world with
      ⟨-, hexec⟩ | ⟨hstatus, fault, hexec⟩
    · -- the new token is there, so the step has an answer
      have hentered : (cam.entered (cam.newToken label f reactions nested)
          s.world).tokens[s.world.tokens.length]? =
            some (cam.newToken label f reactions nested) := by
        show (s.world.tokens ++ [_])[s.world.tokens.length]? = _
        rw [List.getElem?_append_right (Nat.le_refl _), Nat.sub_self]
        rfl
      obtain ⟨t, ht, -⟩ := World.tokens_old_of_map (World.call_frame _
        (cam.subscription f s.world)).1 hentered
      have hanswer (s₁ : State) (h : s₁.world.tokens[s.world.tokens.length]? = some t) :
          (do return .subscribed (← Run.tokenAt s.world.tokens.length) : Run Answer).run s₁ =
            (.ok (.subscribed t), s₁) := by
        rw [run_bind, Run.run_tokenAt, h]
        rfl
      rw [hexec] at hrun
      have hrest : (do return .subscribed (← Run.tokenAt s.world.tokens.length) : Run Answer).run
          { s with
            world := ((cam.entered (cam.newToken label f reactions nested) s.world).call
              (cam.subscription f s.world)).2
            tokens := Entries.put s.tokens label s.world.tokens.length } = (.error e, s') := hrun
      rw [hanswer _ ht] at hrest
      cases hrest
    · rw [hexec] at hrun
      obtain rfl := (congrArg Prod.snd hrun).symm
      rcases Driver.step_cases s.world.driver (cam.subscription f s.world) with
        ⟨code, -, hstep⟩ | ⟨e, -, hstep⟩
      · have hworld : ((cam.entered (cam.newToken label f reactions nested) s.world).call
            (cam.subscription f s.world)).2 =
            (cam.entered (cam.newToken label f reactions nested) s.world).take
              (cam.subscription f s.world) := by
          rw [hcall]
          show (World.deliverAll _ (s.world.driver.step _).notices).2 = _
          rw [hstep]
          rfl
        rw [hworld]
        refine ⟨World.sessions_rollBack hw cam.session, ?_⟩
        show (s.world.driver.step (cam.subscription f s.world)).driver.subscriptions = _
        rw [hstep]
        rfl
      · rw [hcall] at hstatus
        have hstatus : (s.world.driver.step (cam.subscription f s.world)).reply.status ≠
          Status.success := hstatus
        rw [hstep] at hstatus
        exact absurd rfl hstatus

/-- In every run of an orderly script that opens few handles, and after each of its steps: the live
    tokens of a camera are those of the subscriptions on its handle, in order, without the ones
    that the driver failed to take back; no token has two subscriptions, and each is to the feature
    of its token; a closed handle has none; a subscription outside all cameras is left over from
    a handle that the driver failed to close, and a notification of it changes nothing; and a step
    that fails to subscribe changes neither live tokens nor subscriptions. -/
theorem registrations_in_step (backend : Backend) (devices : List Device)
    (hbuilt : ∀ device ∈ devices, device.Built) (steps : List Step)
    (hsteps : ∀ step ∈ steps, step.Within Call.Orderly Scripting.Honest)
    (hfew : (Driver.ofDevices devices).Few
      (runSteps (start backend devices) steps).2.world.operations) :
    let s := (runSteps (start backend devices) steps).2
    let w := s.world
    (∀ name cam, Entries.get? s.cameras name = some cam →
      w.live? cam.session = some (w.heldTokens cam.handle)) ∧
    (w.driver.subscriptions.map Subscription.token).Nodup ∧
    (∀ x ∈ w.driver.subscriptions, ∃ t, w.tokens[x.token]? = some t ∧ x.handle = t.handle ∧
      x.key = Text.squeeze t.feature.key) ∧
    (∀ handle r, .called (.close handle) r ∈ w.history → r.status = Status.success →
      ∀ x ∈ w.driver.subscriptions, x.handle ≠ handle) ∧
    (∀ x ∈ w.driver.subscriptions,
      (∀ name cam, Entries.get? s.cameras name = some cam → cam.handle ≠ x.handle) →
        w.CloseFailed x.handle ∧ ∀ handle reported,
          (w.dispatch x.token handle reported).2 =
            w.note (.delivered ⟨x.token, handle, reported, false⟩)) ∧
    (∀ name label f reactions nested e s',
      (runStep (.camera name (.subscribe label f reactions nested))).run s = (.error e, s') →
        s'.world.sessions = w.sessions ∧
          s'.world.driver.subscriptions = w.driver.subscriptions) := by
  intro s w
  have hkept : Kept devices s := runSteps_kept hbuilt backend hsteps
  obtain ⟨haligned, hnamed⟩ := hkept.aligned hfew
  have hsound : w.driver.Sound := sound_of_kept hbuilt hkept.replays hfew
  refine ⟨fun name cam hcam => live?_of_named haligned hnamed hcam, haligned.tokens_nodup,
    haligned.subscription_token, ?_, ?_, ?_⟩
  · rintro handle r hr hstatus x hx rfl
    exact (haligned.closed_gone x.handle r hr hstatus).1 (hsound.subscription_open x hx)
  · intro x hx hothers
    have houtside : x.handle ∉ w.roster.map Prod.snd := by
      intro hmem
      obtain ⟨p, hp, heq⟩ := List.mem_map.mp hmem
      -- a session on this handle would be that of a camera with a name
      obtain ⟨name, cam, hcam, hid⟩ := hnamed.camera_of p hp
      have hsame := haligned.eq_of_id (hnamed.session_of hcam) hp hid
      exact hothers name cam hcam ((congrArg Prod.snd hsame).trans heq)
    obtain ⟨t, ht, hdead⟩ := not_live_of_left_over haligned.toSettled hx houtside
    exact ⟨(haligned.subscription_origin x hx).resolve_left houtside,
      fun handle reported => World.dispatch_of_not_live ht hdead handle reported⟩
  · intro name label f reactions nested e s' hrun
    exact subscribe_failed haligned hrun

/-- A camera that is closed with a live token, while closing is ordered to fail: its subscription is
    left over. -/
theorem registrations_in_step_left_over :
    let steps := [Step.openCamera "c" 0, .camera "c" (.subscribe "t" .cameraModel [] none),
      .fail "AT_Close" Status.invalidHandle none, .camera "c" .close]
    (∀ device ∈ [Device.bare "A"], device.Built) ∧
      (∀ step ∈ steps, step.Within Call.Orderly Scripting.Honest) ∧
      (Driver.ofDevices [Device.bare "A"]).Few
        (runSteps (start .direct [Device.bare "A"]) steps).2.world.operations ∧
      (runSteps (start .direct [Device.bare "A"]) steps).2.world.CloseFailed 100 := by
  intro steps
  have hbuilt : ∀ device ∈ [Device.bare "A"], device.Built := by
    intro device h
    obtain rfl := List.mem_singleton.mp h
    exact .bare "A"
  have hsteps : ∀ step ∈ steps, step.Within Call.Orderly Scripting.Honest := by
    intro step h
    simp only [steps, List.mem_cons, List.not_mem_nil, or_false] at h
    have hnone {act : Scripting} (h : (none : Option Scripting) = some act) : act.Honest := by
      cases h
    rcases h with rfl | rfl | rfl | rfl
    · exact ⟨by simp [Step.ownCalls], fun act => hnone⟩
    · exact ⟨by simp [Step.ownCalls], fun act => hnone⟩
    · refine ⟨by simp [Step.ownCalls], fun act hact => ?_⟩
      have hfail : some (Scripting.fail .close Status.invalidHandle) = some act := hact
      obtain rfl := Option.some.inj hfail
      show Status.invalidHandle ≠ Status.success
      decide
    · exact ⟨by simp [Step.ownCalls], fun act => hnone⟩
  have hfew : (Driver.ofDevices [Device.bare "A"]).Few
      (runSteps (start .direct [Device.bare "A"]) steps).2.world.operations := by decide +kernel
  have hcameras : (runSteps (start .direct [Device.bare "A"]) steps).2.cameras = [] := by
    decide +kernel
  have hleft := (registrations_in_step .direct _ hbuilt steps hsteps hfew).2.2.2.2.1
    ⟨100, Text.squeeze Feature.cameraModel.key, 0⟩ (by decide +kernel)
    fun name cam hcam => by simp [hcameras, Entries.get?] at hcam
  exact ⟨hbuilt, hsteps, hfew, hleft.1⟩

end Script

end CameraControl
