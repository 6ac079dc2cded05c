import CameraControl.Proofs.Entries
import CameraControl.Proofs.Script.Move
import CameraControl.Proofs.World.Closing

/-
  What steps do while cameras stay.

  Most steps neither give a name to a new camera nor take one from an old camera, and they make no
  call that would open a device or close a handle, unless a subscriber does so. `Dealing` lists what
  such steps do to the world, with every call as a whole, and `runStep_stays` says that they leave
  the handles of the cameras alone.
-/

namespace CameraControl

/-- A call that neither opens a device nor closes a handle. -/
def Call.Neutral (c : Call) : Prop := c.function ≠ .open ∧ c.function ≠ .close

theorem Call.neutral_feature (handle : Int32) (key : String) (r : Request) :
    (feature handle key r).Neutral :=
  r.function_ne

theorem Call.plainCalls_neutral : PlainCalls Call.Neutral where
  request handle f r _ := neutral_feature handle f.key r
  queue _ _ _ := ⟨nofun, nofun⟩
  wait _ _ := ⟨nofun, nofun⟩
  flush _ := ⟨nofun, nofun⟩

/-! ## Dealings -/

namespace World

/-- The things that are done to a world while its sessions stay. -/
inductive Dealing (nests : Call → Prop) (allows : Scripting → Prop) : World → World → Prop where
  | call {w : World} {c : Call} (hc : c.Neutral) : Dealing nests allows w (w.call c).2
  | dispatch {w : World} (token : Nat) (handle : Int32) (reported : String) :
      Dealing nests allows w (w.dispatch token handle reported).2
  /-- The host lock is given up or taken back. -/
  | record {w : World} {e : Event} (he : ∀ label c r, e ≠ .nested label c r) :
      Dealing nests allows w (w.record e)
  | enter {w : World} {t : Token} (hnested : ∀ c, t.nested = some c → nests c) :
      Dealing nests allows w ((w.issue t).modifyLive t.session (· ++ [w.tokens.length]))
  | leave {w : World} (session token : Nat) :
      Dealing nests allows w (w.modifyLive session (·.erase token))
  | script {w : World} {act : Scripting} (hact : allows act) :
      Dealing nests allows w (w.script act)

/-- Any number of such things. -/
abbrev Dealings (nests : Call → Prop) (allows : Scripting → Prop) : World → World → Prop :=
  Relation.ReflTransGen (Dealing nests allows)

variable {nests : Call → Prop} {allows : Scripting → Prop}

theorem deliverAll_dealings (notices : List Notice) (w : World) :
    Dealings nests allows w (w.deliverAll notices).2 := by
  induction notices generalizing w with
  | nil => exact .refl
  | cons n rest ih =>
    have hfirst : Dealings nests allows w (w.deliver n).2 := .single (.dispatch _ _ _)
    exact hfirst.trans (ih _)

end World

open World

variable {nests : Call → Prop} {allows : Scripting → Prop}

/-- Using neutral calls only comes down to dealings. -/
theorem Action.Uses.dealings {α : Type} {a : Action α} (ha : a.Uses Call.Neutral) (w : World) :
    Dealings nests allows w (a.exec w).2 := by
  induction ha generalizing w with
  | pure x => exact .refl
  | throw fault => exact .refl
  | bind _ _ iha ihf =>
    exact exec_bind_keeps (iha w) fun x w' hfirst => hfirst.trans (ihf x w')
  | attempt _ iha => exact iha w
  | tryCall hc => exact .single (.call hc)
  | withoutLock cam ha iha =>
    unfold Camera.withoutLock
    split
    · exact iha w
    · next lock _ =>
      have hrelease : Dealings nests allows w (w.record (.released lock)) :=
        .single (.record fun _ _ _ h => by cases h)
      exact (hrelease.trans (iha _)).tail (.record fun _ _ _ h => by cases h)

namespace Camera

theorem subscribe_dealings (cam : Camera) (label : String) (f : Feature)
    (reactions : List Reaction) {nested : Option Call} (hnested : ∀ c ∈ nested, nests c)
    (w : World) :
    Dealings nests allows w ((cam.subscribe label f reactions nested).exec w).2 := by
  have hentered : Dealings nests allows w
      (cam.entered (cam.newToken label f reactions nested) w) :=
    .single (.enter (t := cam.newToken label f reactions nested) hnested)
  have hcall := hentered.tail (.call (c := cam.subscription f w) (Call.neutral_feature _ _ _))
  rcases cam.subscribe_exec label f reactions nested w with ⟨-, hexec⟩ | ⟨-, fault, hexec⟩
  · rw [hexec]
    exact hcall
  · rw [hexec]
    exact hcall.tail (.leave _ _)

theorem unsubscribe_dealings (cam : Camera) (token : Nat) (w : World) :
    Dealings nests allows w ((cam.unsubscribe token).exec w).2 := by
  rcases cam.unsubscribe_exec token w with
    ⟨hexec, -⟩ | ⟨t, fault, -, -, hexec⟩ | ⟨t, -, -, -, hexec⟩
  · rw [hexec]
  · rw [hexec]
  · rw [hexec]
    have hleft : Dealings nests allows w (w.modifyLive cam.session (·.erase token)) :=
      .single (.leave _ _)
    exact hleft.tail (.call (Call.neutral_feature _ _ _))

end Camera

/-! ## Handles of cameras -/

namespace Script

/-- The names of the open cameras with their handles. -/
def State.handles (s : State) : List (String × Int32) := Entries.mapValues Camera.handle s.cameras

theorem State.get?_handles {s : State} {name : String} {cam : Camera}
    (hcam : Entries.get? s.cameras name = some cam) :
    Entries.get? s.handles name = some cam.handle := by
  rw [handles, Entries.get?_mapValues, hcam, Option.map_some]

theorem handles_put (s : State) (name : String) (cam : Camera) (w : World) :
    State.handles { s with world := w, cameras := Entries.put s.cameras name cam } =
      Entries.put s.handles name cam.handle :=
  Entries.mapValues_put _ _ _ _

theorem handles_erase (s : State) (name : String) (w : World) :
    State.handles { s with world := w, cameras := Entries.erase s.cameras name } =
      Entries.erase s.handles name :=
  Entries.mapValues_erase _ _ _

/-- A part of a step that leaves the handles of the cameras alone. -/
def Run.Stays {α : Type} (nests : Call → Prop) (allows : Scripting → Prop) (r : Run α) : Prop :=
  ∀ s : State, Dealings nests allows s.world (r.run s).2.world ∧ (r.run s).2.handles = s.handles

namespace Run

variable {α β : Type}

/-- A part that only looks at the state. -/
theorem Stays.of_keeps {r : Run α} (h : ∀ s, (r.run s).2 = s) : Stays nests allows r := by
  intro s
  rw [h s]
  exact ⟨.refl, rfl⟩

theorem Stays.pure (x : α) : Stays nests allows (pure x : Run α) := .of_keeps fun _ => rfl

theorem Stays.throw (e : Failure) : Stays nests allows (throw e : Run α) := .of_keeps fun _ => rfl

theorem Stays.bind {r : Run α} {f : α → Run β} (hr : Stays nests allows r)
    (hf : ∀ x, Stays nests allows (f x)) : Stays nests allows (r >>= f) := by
  intro s
  refine run_bind_keeps
    (P := fun s' : State => Dealings nests allows s.world s'.world ∧ s'.handles = s.handles)
    (hr s) ?_
  rintro x s' ⟨hfirst, hhandles⟩
  obtain ⟨hrest, hhandles'⟩ := hf x s'
  exact ⟨hfirst.trans hrest, hhandles'.trans hhandles⟩

theorem Stays.act {a : Action α} (ha : ∀ w, Dealings nests allows w (a.exec w).2) :
    Stays nests allows (act a) :=
  fun s => ⟨ha s.world, rfl⟩

theorem Stays.script {act : Scripting} (hact : allows act) :
    Stays nests allows (Run.script act) :=
  .act fun _ => .single (.script hact)

theorem Stays.driver : Stays nests allows driver := .of_keeps fun _ => rfl

theorem Stays.token (name : String) : Stays nests allows (Run.token name) :=
  .of_keeps (token_keeps name)

theorem Stays.tokenAt (id : Nat) : Stays nests allows (Run.tokenAt id) :=
  .of_keeps (tokenAt_keeps id)

theorem Stays.handle (h : HandleRef) : Stays nests allows (Run.handle h) :=
  .of_keeps (handle_keeps h)

theorem Stays.deliver (notices : List Notice) : Stays nests allows (Run.deliver notices) :=
  fun s => ⟨deliverAll_dealings notices s.world, rfl⟩

/-- A part that changes neither the world nor the cameras. -/
theorem Stays.named (f : List (String × Nat) → List (String × Nat)) :
    Stays nests allows (modify fun s => { s with tokens := f s.tokens } : Run Unit) :=
  fun _ => ⟨.refl, rfl⟩

end Run

/-! ## Steps -/

/-- A step with which all cameras stay and which makes no raw call. -/
def Step.Stays : Step → Prop
  | call _ | deviceNames | openCamera _ _ => False
  | camera _ .close | camera _ .drop => False
  | _ => True

/-- The other steps are raw calls, and those that open, close or give up cameras. -/
theorem Step.cases_of_not_stays {step : Step} (h : ¬step.Stays) :
    (∃ c, step = .call c) ∨ step = .deviceNames ∨ (∃ name index, step = .openCamera name index) ∨
      ∃ name last, step = .camera name last ∧ (last = .close ∨ last = .drop) := by
  cases step with
  | call c => exact .inl ⟨c, rfl⟩
  | deviceNames => exact .inr (.inl rfl)
  | openCamera name index => exact .inr (.inr (.inl ⟨name, index, rfl⟩))
  | camera name last =>
    refine .inr (.inr (.inr ⟨name, last, rfl, ?_⟩))
    cases last with
    | close => exact .inl rfl
    | drop => exact .inr rfl
    | _ => exact absurd trivial h
  | _ => exact absurd trivial h

open Run (Stays)

theorem runCamera_stays {name : String} {cam : Camera} {step : CameraStep} {s : State}
    (hstep : (Step.camera name step).Stays) (hcam : Entries.get? s.cameras name = some cam)
    (hnested : ∀ c ∈ (Step.camera name step).ownCalls, nests c) :
    Dealings nests allows s.world ((runCamera name cam step).run s).2.world ∧
      ((runCamera name cam step).run s).2.handles = s.handles := by
  have hplain (hplain : step.Plain) : Stays nests allows (runCamera name cam step) := by
    obtain ⟨α, a, f, ha, hrun⟩ := runCamera_uses (Call.plainCalls_neutral.on _) hplain name
      fun f w _ => cam.write_uses f w fun _ => Call.neutral_feature _ _ _
    rw [hrun]
    exact .bind (.act ha.dealings) fun x => .pure (f x)
  cases step with
  | close => exact hstep.elim
  | drop => exact hstep.elim
  | subscribe label f reactions nested =>
    have hsubscribe : Stays nests allows (Run.act (cam.subscribe label f reactions nested)) :=
      .act (cam.subscribe_dealings label f reactions fun c hc =>
        hnested c (Option.mem_toList.mpr hc))
    have hstays : Stays nests allows
        (runCamera name cam (.subscribe label f reactions nested)) := by
      unfold runCamera
      exact .bind hsubscribe fun id => .bind (.named (Entries.put · label id)) fun _ =>
        .bind (.tokenAt id) fun t => .pure _
    exact hstays s
  | unsubscribe label =>
    have hstays : Stays nests allows (runCamera name cam (.unsubscribe label)) := by
      unfold runCamera
      exact .bind (.token label) fun id =>
        .bind (.act (cam.unsubscribe_dealings id)) fun _ => .pure _
    exact hstays s
  | hostLock lock =>
    have hrun : ((runCamera name cam (.hostLock lock)).run s).2 =
        { s with
          cameras := Entries.put s.cameras name { cam with hostLock := some lock } } := rfl
    rw [hrun]
    refine ⟨.refl, ?_⟩
    -- the camera keeps its handle, so the name has the same one as before
    have hsame := State.get?_handles hcam
    show Entries.mapValues Camera.handle
      (Entries.put s.cameras name { cam with hostLock := some lock }) = s.handles
    rw [Entries.mapValues_put]
    exact Entries.put_of_get? hsame
  | apply settings? =>
    cases settings? with
    | none =>
      have hstays : Stays nests allows (runCamera name cam (.apply none)) := .throw _
      exact hstays s
    | some settings => exact hplain trivial s
  | _ => exact hplain trivial s

/-- A step with which all cameras stay comes down to dealings. -/
theorem runStep_stays {step : Step} (hstay : step.Stays) (hstep : step.Within nests allows) :
    Stays nests allows (runStep step) := by
  have hscript {act : Scripting} (hact : step.scripting? = some act) :
      Stays nests allows (do Run.script act; return .nothing : Run Answer) :=
    .bind (.script (hstep.scripting act hact)) fun _ => .pure _
  have hlook {f : Driver → Answer} : Stays nests allows (do return f (← Run.driver)) :=
    .bind .driver fun d => .pure (f d)
  cases step with
  | setDeviceCount n => exact hscript rfl
  | putKey device key c => exact hscript rfl
  | putReadOnly device f c => exact hscript rfl
  | remove device f => exact hscript rfl
  | content device f => exact hlook
  | fail symbol code feature? =>
    simp only [runStep]
    cases hf : Function.ofSymbol? symbol with
    | none => exact .pure _
    | some f =>
      cases feature? with
      | none => exact hscript (by simp [Step.scripting?, hf])
      | some feature => exact hscript (by simp [Step.scripting?, hf])
  | failOpen index code => exact hscript rfl
  | clearFailures => exact hscript rfl
  | openHandles => exact hlook
  | registeredCallbacks => exact hlook
  | queuedBuffers h => exact .bind (.handle h) fun _ => .bind .driver fun _ => .pure _
  | zeroSizeWaits n => exact hscript rfl
  | callCount symbol =>
    simp only [runStep]
    cases Function.ofSymbol? symbol with
    | none => exact .pure _
    | some f => exact hlook
  | fire h key => exact .bind (.handle h) fun _ => .bind .driver fun _ => .deliver _
  | fireAs h key asHandle asKey =>
    exact .bind (.handle h) fun _ => .bind (.handle asHandle) fun _ => .bind .driver fun _ =>
      .deliver _
  | call c => exact hstay.elim
  | deviceNames => exact hstay.elim
  | openCamera name index => exact hstay.elim
  | camera name step =>
    intro s
    cases hcam : Entries.get? s.cameras name with
    | none =>
      rw [run_camera_step_none hcam]
      exact ⟨.refl, rfl⟩
    | some cam =>
      rw [run_camera_step hcam]
      exact runCamera_stays hstay hcam hstep.calls
  | token name => exact .bind (.token name) fun id => .bind (.tokenAt id) fun _ => .pure _
  | dispatch name h key =>
    simp only [runStep]
    refine .bind (.token name) fun id => .bind (.handle h) fun h s => ?_
    show Dealings nests allows s.world ((verdictAnswer (s.world.dispatch id h key).1).run
        { s with world := (s.world.dispatch id h key).2 }).2.world ∧
      ((verdictAnswer (s.world.dispatch id h key).1).run
        { s with world := (s.world.dispatch id h key).2 }).2.handles = s.handles
    rw [Run.verdictAnswer_keeps]
    exact ⟨.single (.dispatch id h key), rfl⟩

end Script

end CameraControl
