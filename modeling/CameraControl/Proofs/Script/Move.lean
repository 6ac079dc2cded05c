import CameraControl.Proofs.Script.Parts

/-
  What the steps of a script come down to.

  `Move` lists the few ways in which a part of a step changes the state of a script, and
  `runStep_moves` says that every step is a sequence of them. A property of states that every move
  keeps is thereby kept by all steps, however many kinds of steps there are.

  The calls that a script makes outside its cameras, directly or by its subscribers, may be
  restricted, and so may its acts of scripting.
-/

namespace CameraControl

namespace Script

/-! ## Restricted scripts -/

/-- The act of scripting that a step makes, if it makes one. -/
def Step.scripting? : Step → Option Scripting
  | setDeviceCount n => some (.deviceCount n)
  | putKey device key c => some (.putKey device key c)
  | putReadOnly device f c => some (.putReadOnly device f c)
  | remove device f => some (.remove device f)
  | fail symbol code none => (Function.ofSymbol? symbol).map fun f => .fail f code
  | fail symbol code (some feature) =>
    (Function.ofSymbol? symbol).map fun f => .failForFeature f feature code
  | failOpen index code => some (.failOpen index code)
  | clearFailures => some .clearFailures
  | zeroSizeWaits n => some (.zeroSizeWaits n)
  | _ => none

/-- The calls of a step that are not made by a camera: its own, and one for a subscriber to make. -/
def Step.ownCalls : Step → List Call
  | call c => [c]
  | camera _ (.subscribe _ _ _ nested) => nested.toList
  | _ => []

/-- A step keeps to permitted calls and to allowed acts of scripting. -/
structure Step.Within (permits : Call → Prop) (allows : Scripting → Prop) (step : Step) : Prop where
  calls : ∀ c ∈ step.ownCalls, permits c
  scripting : ∀ s, step.scripting? = some s → allows s

instance (permits : Call → Prop) (allows : Scripting → Prop) [DecidablePred permits]
    [DecidablePred allows] (step : Step) : Decidable (step.Within permits allows) :=
  decidable_of_iff
    ((∀ c ∈ step.ownCalls, permits c) ∧ ∀ act ∈ step.scripting?, allows act)
    ⟨fun h => ⟨h.1, h.2⟩, fun h => ⟨h.calls, h.scripting⟩⟩

/-- Calls may be restricted so that cameras can still work. -/
structure Regime (permits : Call → Prop) : Prop extends PlainCalls permits where
  opens (index : Int32) : permits (.open index)
  writes (handle : Int32) (f : Feature) (w : Write) : permits (.feature handle f.key (.write w))
  pass {b : Backend} {c c' : Call} (hc : permits c) (h : b.pass? c = some c') : permits c'

/-! ## Moves -/

/-- The ways in which a part of a step changes the state of a script. -/
inductive Move (permits : Call → Prop) (allows : Scripting → Prop) : State → State → Prop where
  | changes {s : State} {w : World} (h : World.Changes permits s.world w) :
      Move permits allows s { s with world := w }
  | scripted {s : State} {act : Scripting} (hact : allows act) :
      Move permits allows s { s with world := s.world.script act }
  | named {s : State} (tokens : List (String × Nat)) :
      Move permits allows s { s with tokens := tokens }
  | relocked {s : State} {name : String} {cam : Camera} (lock : String)
      (hcam : Entries.get? s.cameras name = some cam) :
      Move permits allows s
        { s with cameras := Entries.put s.cameras name { cam with hostLock := some lock } }
  | opened {s : State} {name : String} {index : Int32}
      (hstatus : (s.world.call (.open index)).1.status = Status.success)
      (hfree : Entries.get? s.cameras name = none) :
      Move permits allows s
        { s with
          world := Camera.afterOpening index s.world
          cameras := Entries.put s.cameras name (Camera.opening index s.world) }
  /-- The camera that had the name before is given up. -/
  | reopened {s : State} {name : String} {index : Int32} {old : Camera}
      (hstatus : (s.world.call (.open index)).1.status = Status.success)
      (hold : Entries.get? s.cameras name = some old) :
      Move permits allows s
        { s with
          world := (old.drop.exec (Camera.afterOpening index s.world)).2
          cameras := Entries.put s.cameras name (Camera.opening index s.world) }
  | released {s : State} {name : String} {cam : Camera}
      (hcam : Entries.get? s.cameras name = some cam) :
      Move permits allows s
        { s with
          world := (cam.drop.exec s.world).2
          cameras := Entries.erase s.cameras name }
  | subscribed {s : State} {name : String} {cam : Camera} {label : String} {f : Feature}
      {reactions : List Reaction} {nested : Option Call}
      (hcam : Entries.get? s.cameras name = some cam) (hnested : ∀ c ∈ nested, permits c) :
      Move permits allows s
        { s with world := ((cam.subscribe label f reactions nested).exec s.world).2 }
  | unsubscribed {s : State} {name : String} {cam : Camera} {token : Nat}
      (hcam : Entries.get? s.cameras name = some cam) :
      Move permits allows s { s with world := ((cam.unsubscribe token).exec s.world).2 }
  /-- A device is open for a moment. -/
  | visited {s : State} {index : Int32} {w : World}
      (hstatus : (s.world.call (.open index)).1.status = Status.success)
      (hread : World.Changes permits (Camera.afterOpening index s.world) w) :
      Move permits allows s
        { s with world := ((Camera.opening index s.world).drop.exec w).2 }

/-- Any number of moves. -/
abbrev Moves (permits : Call → Prop) (allows : Scripting → Prop) : State → State → Prop :=
  Relation.ReflTransGen (Move permits allows)

variable {permits : Call → Prop} {allows : Scripting → Prop} {s s' : State}

/-- Moves turn the world. -/
theorem Move.turns (h : Move permits allows s s') : World.Turns s.world s'.world := by
  cases h with
  | changes h => exact h.turns
  | scripted => exact .single (.script _)
  | named => exact .refl
  | relocked => exact .refl
  | opened => exact Camera.afterOpening_turns _ _
  | reopened => exact (Camera.afterOpening_turns _ _).trans (Camera.drop_turns _ _)
  | released => exact Camera.drop_turns _ _
  | subscribed => exact Camera.subscribe_turns _ _ _ _ _ _
  | unsubscribed => exact Camera.unsubscribe_turns _ _ _
  | visited hstatus hread =>
    exact (Camera.afterOpening_turns _ _).trans (hread.turns.trans (Camera.drop_turns _ _))

theorem Moves.turns (h : Moves permits allows s s') : World.Turns s.world s'.world := by
  induction h with
  | refl => exact .refl
  | tail _ h ih => exact ih.trans h.turns

/-! ## Calls of subscribers -/

theorem nests_call {w : World} (hw : w.Nests permits) (c : Call) : (w.call c).2.Nests permits :=
  World.nests_congr (World.call_frame w c).1 hw

theorem nests_drop {w : World} (hw : w.Nests permits) (cam : Camera) :
    (cam.drop.exec w).2.Nests permits :=
  nests_call hw _

theorem nests_afterOpening {w : World} (hw : w.Nests permits) (index : Int32) :
    (Camera.afterOpening index w).Nests permits :=
  nests_call hw _

theorem nests_subscribe {w : World} (hw : w.Nests permits) {cam : Camera} {label : String}
    {f : Feature} {reactions : List Reaction} {nested : Option Call}
    (hnested : ∀ c ∈ nested, permits c) :
    ((cam.subscribe label f reactions nested).exec w).2.Nests permits := by
  have hentered : (cam.entered (cam.newToken label f reactions nested) w).Nests permits :=
    Camera.nests_entered hw hnested cam
  have hcall := nests_call hentered (cam.subscription f w)
  rcases cam.subscribe_exec label f reactions nested w with ⟨-, hexec⟩ | ⟨-, fault, hexec⟩
  · rw [hexec]
    exact hcall
  · rw [hexec]
    exact hcall

theorem nests_unsubscribe {w : World} (hw : w.Nests permits) (cam : Camera) (token : Nat) :
    ((cam.unsubscribe token).exec w).2.Nests permits := by
  rcases cam.unsubscribe_exec token w with
    ⟨hexec, -⟩ | ⟨t, fault, -, -, hexec⟩ | ⟨t, -, -, -, hexec⟩
  · rwa [hexec]
  · rwa [hexec]
  · rw [hexec]
    exact nests_call (w := w.modifyLive cam.session (·.erase token)) hw _

/-- Subscribers keep to permitted calls. -/
theorem Move.nests (h : Move permits allows s s') (hs : s.world.Nests permits) :
    s'.world.Nests permits := by
  cases h with
  | changes h => exact h.nests hs
  | scripted => exact hs
  | named => exact hs
  | relocked => exact hs
  | opened => exact nests_afterOpening hs _
  | reopened => exact nests_drop (nests_afterOpening hs _) _
  | released => exact nests_drop hs _
  | subscribed hcam hnested => exact nests_subscribe hs hnested
  | unsubscribed => exact nests_unsubscribe hs _ _
  | visited hstatus hread => exact nests_drop (hread.nests (nests_afterOpening hs _)) _

theorem Moves.nests (h : Moves permits allows s s') (hs : s.world.Nests permits) :
    s'.world.Nests permits := by
  induction h with
  | refl => exact hs
  | tail _ h ih => exact h.nests ih

end Script

/-! ## Actions -/

namespace Action

open Script

variable {permits : Call → Prop} {allows : Scripting → Prop} {α β : Type}

/-- An action comes down to moves. -/
def Moving (permits : Call → Prop) (allows : Scripting → Prop) (a : Action α) : Prop :=
  ∀ s : State, s.world.Nests permits → Moves permits allows s { s with world := (a.exec s.world).2 }

theorem Moving.bind {a : Action α} {f : α → Action β} (ha : a.Moving permits allows)
    (hf : ∀ x, (f x).Moving permits allows) : (a >>= f).Moving permits allows := by
  intro s hs
  exact exec_bind_keeps (P := fun w => Moves permits allows s { s with world := w }) (ha s hs)
    fun x w hfirst => hfirst.trans (hf x { s with world := w } (hfirst.nests hs))

/-- Using permitted calls only comes down to moves. -/
theorem Uses.moving (hp : Regime permits) {a : Action α} (ha : a.Uses permits) :
    a.Moving permits allows :=
  fun _ hs => .single (.changes (ha.changes (fun _ _ hc h => hp.pass hc h) hs))

theorem modelName_moving (hp : Regime permits) (index : Int32) :
    (Enumeration.modelName index).Moving permits allows := by
  intro s hs
  rcases Camera.modelName_exec index s.world with ⟨hstatus, hexec⟩ | ⟨-, hexec⟩
  · have hread : ((Camera.opening index s.world).text .cameraModel).Uses permits :=
      Camera.text_uses _ (hp.toPlainCalls.on _) _
    have hchanges := hread.changes (w := Camera.afterOpening index s.world)
      (fun _ _ hc h => hp.pass hc h) (nests_afterOpening hs index)
    rw [hexec]
    exact .single (.visited hstatus hchanges)
  · rw [hexec]
    exact .single (.changes (World.call_changes (fun _ h => hp.pass (hp.opens index) h) hs))

theorem modelNames_moving (hp : Regime permits) (index n : Nat) :
    (Enumeration.modelNames index n).Moving permits allows := by
  induction n generalizing index with
  | zero => exact fun _ _ => .refl
  | succ n ih =>
    exact .bind (modelName_moving hp _) fun name => .bind (ih _) fun names =>
      Uses.moving hp (.pure _)

theorem deviceNames_moving (hp : Regime permits) :
    Enumeration.deviceNames.Moving permits allows :=
  .bind (Uses.moving hp (Enumeration.deviceCount_uses hp.toPlainCalls)) fun n =>
    modelNames_moving hp 0 n

end Action

namespace Script

variable {permits : Call → Prop} {allows : Scripting → Prop}

/-! ## Parts of steps -/

/-- A part of a step comes down to moves. -/
def Run.Moving {α : Type} (permits : Call → Prop) (allows : Scripting → Prop) (r : Run α) : Prop :=
  ∀ s : State, s.world.Nests permits → Moves permits allows s (r.run s).2

namespace Run

variable {α β : Type}

/-- A part that only looks at the state. -/
theorem Moving.of_keeps {r : Run α} (h : ∀ s, (r.run s).2 = s) : Moving permits allows r := by
  intro s _
  rw [h s]

theorem Moving.pure (x : α) : Moving permits allows (pure x : Run α) := .of_keeps fun _ => rfl

theorem Moving.throw (e : Failure) : Moving permits allows (throw e : Run α) :=
  .of_keeps fun _ => rfl

theorem Moving.bind {r : Run α} {f : α → Run β} (hr : Moving permits allows r)
    (hf : ∀ x, Moving permits allows (f x)) : Moving permits allows (r >>= f) := by
  intro s hs
  exact run_bind_keeps (P := Moves permits allows s) (hr s hs)
    fun x s' hfirst => hfirst.trans (hf x s' (hfirst.nests hs))

theorem Moving.act {a : Action α} (ha : a.Moving permits allows) :
    Moving permits allows (act a) :=
  fun s hs => ha s hs

theorem Moving.script {act : Scripting} (hact : allows act) :
    Moving permits allows (Run.script act) :=
  fun _ _ => .single (.scripted hact)

theorem Moving.deliver (notices : List Notice) : Moving permits allows (Run.deliver notices) :=
  fun _ hs => .single (.changes (World.deliverAll_changes notices hs))

theorem Moving.driver : Moving permits allows driver := .of_keeps fun _ => rfl

theorem Moving.camera (name : String) : Moving permits allows (Run.camera name) :=
  .of_keeps (camera_keeps name)

theorem Moving.token (name : String) : Moving permits allows (Run.token name) :=
  .of_keeps (token_keeps name)

theorem Moving.tokenAt (id : Nat) : Moving permits allows (Run.tokenAt id) :=
  .of_keeps (tokenAt_keeps id)

theorem Moving.handle (h : HandleRef) : Moving permits allows (Run.handle h) :=
  .of_keeps (handle_keeps h)

/-- An action whose outcome is the answer. -/
theorem Moving.answer (hp : Regime permits) {a : Action α} (ha : a.Uses permits) (f : α → β) :
    Moving permits allows (do return f (← Run.act a)) :=
  .bind (.act (ha.moving hp)) fun x => .pure (f x)

end Run

/-! ## Steps -/

variable {s : State}

open Run (Moving)

theorem ending_moves {name : String} {cam : Camera} {step : CameraStep}
    (hcam : Entries.get? s.cameras name = some cam) (hstep : step = .close ∨ step = .drop) :
    Moves permits allows s ((runCamera name cam step).run s).2 := by
  rw [run_ending hstep]
  exact .single (.released hcam)

theorem subscribe_moves {name : String} {cam : Camera} {label : String} {f : Feature}
    {reactions : List Reaction} {nested : Option Call}
    (hcam : Entries.get? s.cameras name = some cam) (hnested : ∀ c ∈ nested, permits c)
    (hs : s.world.Nests permits) :
    Moves permits allows s
      ((runCamera name cam (.subscribe label f reactions nested)).run s).2 := by
  have hmove : Moves permits allows s
      ((Run.act (cam.subscribe label f reactions nested)).run s).2 :=
    .single (.subscribed hcam hnested)
  unfold runCamera
  refine run_bind_keeps (P := Moves permits allows s) hmove fun id s' hmoves => ?_
  -- the token gets its name only if the subscription was accepted
  have hnamed : Moves permits allows s' { s' with tokens := Entries.put s'.tokens label id } :=
    .single (.named _)
  refine hmoves.trans (hnamed.trans ?_)
  exact Moving.bind (.tokenAt id) (fun t => .pure _) _ (hmoves.nests hs)

theorem unsubscribe_moves {name label : String} {cam : Camera}
    (hcam : Entries.get? s.cameras name = some cam) :
    Moves permits allows s ((runCamera name cam (.unsubscribe label)).run s).2 := by
  cases hid : Entries.get? s.tokens label with
  | none =>
    unfold runCamera
    rw [run_bind, Run.run_token, hid]
  | some id =>
    rw [run_unsubscribe hid]
    exact .single (.unsubscribed hcam)

theorem runCamera_moves (hp : Regime permits) {name : String} {cam : Camera} {step : CameraStep}
    (hcam : Entries.get? s.cameras name = some cam)
    (hcalls : ∀ c ∈ (Step.camera name step).ownCalls, permits c) (hs : s.world.Nests permits) :
    Moves permits allows s ((runCamera name cam step).run s).2 := by
  have hplain (hstep : step.Plain) :
      Moves permits allows s ((runCamera name cam step).run s).2 := by
    obtain ⟨α, a, f, ha, hrun⟩ := runCamera_uses (hp.toPlainCalls.on cam.handle) hstep name
      fun f w _ => cam.write_uses f w fun _ => hp.writes _ _ _
    rw [hrun]
    exact Moving.answer hp ha f s hs
  cases step with
  | close => exact ending_moves hcam (.inl rfl)
  | drop => exact ending_moves hcam (.inr rfl)
  | subscribe label f reactions nested =>
    exact subscribe_moves hcam (fun c hc => hcalls c (Option.mem_toList.mpr hc)) hs
  | unsubscribe label => exact unsubscribe_moves hcam
  | hostLock lock => exact .single (.relocked lock hcam)
  | apply settings? =>
    cases settings? with
    | none => exact .refl
    | some settings => exact hplain trivial
  | _ => exact hplain trivial

theorem openCamera_moves (hp : Regime permits) {name : String} {index : Int32}
    (hs : s.world.Nests permits) :
    Moves permits allows s ((runStep (.openCamera name index)).run s).2 := by
  rcases run_openCamera name index s with
    ⟨-, hrun⟩ | ⟨hstatus, hfree, hrun⟩ | ⟨hstatus, old, hold, hrun⟩
  · rw [hrun]
    exact .single (.changes (World.call_changes (fun _ h => hp.pass (hp.opens index) h) hs))
  · rw [hrun]
    exact .single (.opened hstatus hfree)
  · rw [hrun]
    exact .single (.reopened hstatus hold)

/-- Every step comes down to moves. -/
theorem runStep_moves (hp : Regime permits) {step : Step} (hstep : step.Within permits allows)
    (hs : s.world.Nests permits) : Moves permits allows s ((runStep step).run s).2 := by
  have hscript {act : Scripting} (hact : step.scripting? = some act) :
      Moves permits allows s ((do Run.script act; return .nothing : Run Answer).run s).2 :=
    Moving.bind (.script (hstep.scripting act hact)) (fun _ => .pure _) s hs
  have hlook {f : Driver → Answer} :
      Moves permits allows s ((do return f (← Run.driver) : Run Answer).run s).2 :=
    Moving.bind .driver (fun d => .pure (f d)) s hs
  cases step with
  | setDeviceCount n => exact hscript rfl
  | putKey device key c => exact hscript rfl
  | putReadOnly device f c => exact hscript rfl
  | remove device f => exact hscript rfl
  | content device f => exact hlook
  | fail symbol code feature? =>
    simp only [runStep]
    cases hf : Function.ofSymbol? symbol with
    | none => exact .refl
    | some f =>
      cases feature? with
      | none => exact hscript (by simp [Step.scripting?, hf])
      | some feature => exact hscript (by simp [Step.scripting?, hf])
  | failOpen index code => exact hscript rfl
  | clearFailures => exact hscript rfl
  | openHandles => exact hlook
  | registeredCallbacks => exact hlook
  | queuedBuffers h =>
    exact Moving.bind (.handle h) (fun _ => .bind .driver fun _ => .pure _) s hs
  | zeroSizeWaits n => exact hscript rfl
  | callCount symbol =>
    simp only [runStep]
    cases Function.ofSymbol? symbol with
    | none => exact .refl
    | some f => exact hlook
  | fire h key =>
    exact Moving.bind (.handle h) (fun _ => .bind .driver fun _ => .deliver _) s hs
  | fireAs h key asHandle asKey =>
    exact Moving.bind (.handle h) (fun _ => .bind (.handle asHandle) fun _ =>
      .bind .driver fun _ => .deliver _) s hs
  | call c =>
    exact Moving.answer hp (.tryCall (hstep.calls c List.mem_cons_self)) (Answer.raw c) s hs
  | deviceNames =>
    exact Moving.bind (.act (Action.deviceNames_moving hp)) (fun _ => .pure _) s hs
  | openCamera name index => exact openCamera_moves hp hs
  | camera name step =>
    cases hcam : Entries.get? s.cameras name with
    | none =>
      rw [run_camera_step_none hcam]
    | some cam =>
      rw [run_camera_step hcam]
      exact runCamera_moves hp hcam hstep.calls hs
  | token name =>
    exact Moving.bind (.token name) (fun id => .bind (.tokenAt id) fun _ => .pure _) s hs
  | dispatch name h key =>
    simp only [runStep]
    refine Moving.bind (.token name) (fun id => .bind (.handle h) fun h => ?_) s hs
    intro s hs
    show Moves permits allows s
      ((verdictAnswer (s.world.dispatch id h key).1).run
        { s with world := (s.world.dispatch id h key).2 }).2
    rw [Run.verdictAnswer_keeps]
    exact .single (.changes (World.dispatch_changes id h key hs))

/-! ## Runs -/

theorem runSteps_moves (hp : Regime permits) {steps : List Step}
    (hsteps : ∀ step ∈ steps, step.Within permits allows) (hs : s.world.Nests permits) :
    Moves permits allows s (runSteps s steps).2 := by
  induction steps generalizing s with
  | nil => exact .refl
  | cons step rest ih =>
    have hstep := runStep_moves hp (hsteps step List.mem_cons_self) hs
    exact hstep.trans
      (ih (fun step' h => hsteps step' (List.mem_cons_of_mem _ h)) (hstep.nests hs))

theorem nests_start (backend : Backend) (devices : List Device) :
    (start backend devices).world.Nests permits :=
  fun _ ht => absurd ht List.not_mem_nil

/-- Steps without restrictions. -/
theorem Step.within_any (step : Step) : step.Within (fun _ => True) (fun _ => True) :=
  ⟨fun _ _ => trivial, fun _ _ => trivial⟩

theorem regime_any : Regime fun _ => True where
  request _ _ _ _ := trivial
  queue _ _ _ := trivial
  wait _ _ := trivial
  flush _ := trivial
  opens _ := trivial
  writes _ _ _ := trivial
  pass _ _ := trivial

/-- Whatever steps a script makes, they turn the world. -/
theorem runStep_turns (s : State) (step : Step) :
    World.Turns s.world ((runStep step).run s).2.world :=
  (runStep_moves regime_any step.within_any fun _ _ _ _ => trivial).turns

theorem runSteps_turns (s : State) (steps : List Step) :
    World.Turns s.world (runSteps s steps).2.world :=
  (runSteps_moves regime_any (fun step _ => step.within_any) fun _ _ _ _ => trivial).turns

end Script

end CameraControl
