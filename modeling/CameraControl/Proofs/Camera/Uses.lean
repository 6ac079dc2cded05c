import CameraControl.Camera.Frames
import CameraControl.Camera.Overlay
import CameraControl.Enumeration
import CameraControl.Proofs.World.Change

/-
  What cameras are used for.

  Actions on an open camera are built from calls, in sequence, with faults in between: `Uses` says
  so, and names the calls. All actions on a camera that neither begin nor end a session nor deal
  with tokens use plain calls only, and what `Uses` implies holds of all of them at once.
-/

namespace CameraControl

/-- Requests that have nothing to do with tokens and hand over no text, nor a buffer of which the
    library would not get all. -/
def Request.Plain : Request → Prop
  | subscribe _ | unsubscribe _ | write (.enumText _) | write (.text _) => False
  | enumText _ buffer | text buffer => buffer.length ≤ Library.lengthLimit
  | _ => True

/-- Requests about registered features, and calls about frames, are permitted. -/
structure PlainCalls (permits : Call → Prop) : Prop where
  request (handle : Int32) (f : Feature) {r : Request} (hr : r.Plain) :
    permits (.feature handle f.key r)
  queue (handle : Int32) (address : UInt64) (size : Int32) : permits (.queue handle address size)
  wait (handle : Int32) (timeout : UInt32) : permits (.wait handle timeout)
  flush (handle : Int32) : permits (.flush handle)

/-- The same for the calls on one handle. -/
structure PlainCallsOn (handle : Int32) (permits : Call → Prop) : Prop where
  request (f : Feature) {r : Request} (hr : r.Plain) : permits (.feature handle f.key r)
  queue (address : UInt64) (size : Int32) : permits (.queue handle address size)
  wait (timeout : UInt32) : permits (.wait handle timeout)
  flush : permits (.flush handle)

theorem PlainCalls.on {permits : Call → Prop} (hp : PlainCalls permits) (handle : Int32) :
    PlainCallsOn handle permits where
  request := hp.request handle
  queue := hp.queue handle
  wait := hp.wait handle
  flush := hp.flush handle

/-- What comes after a part that may end early. -/
theorem run_bind {ε σ α β : Type} (a : ExceptT ε (StateM σ) α) (f : α → ExceptT ε (StateM σ) β)
    (s : σ) :
    (a >>= f).run s =
      match a.run s with
      | (.ok x, s') => (f x).run s'
      | (.error e, s') => (.error e, s') := by
  have hbind : (a >>= f).run s = match a s with | (x, s') => ExceptT.bindCont f x s' := rfl
  rw [hbind]
  show _ = match a s with | (.ok x, s') => (f x).run s' | (.error e, s') => (.error e, s')
  rcases a s with ⟨outcome, s'⟩
  cases outcome <;> rfl

/-- What comes after does not count for the state if it changes nothing. -/
theorem run_bind_snd {ε σ α β : Type} {a : ExceptT ε (StateM σ) α}
    {f : α → ExceptT ε (StateM σ) β} (hf : ∀ x s, ((f x).run s).2 = s) (s : σ) :
    ((a >>= f).run s).2 = (a.run s).2 := by
  rw [run_bind]
  split
  · next x s' hrun => rw [hf, hrun]
  · next e s' hrun => rw [hrun]

/-- What the first part leads to, and what comes after keeps, both of them lead to. -/
theorem run_bind_keeps {ε σ α β : Type} {a : ExceptT ε (StateM σ) α}
    {f : α → ExceptT ε (StateM σ) β} {P : σ → Prop} {s : σ} (ha : P (a.run s).2)
    (hf : ∀ x s', P s' → P ((f x).run s').2) : P ((a >>= f).run s).2 := by
  rw [run_bind]
  split
  · next x s' hrun =>
    rw [hrun] at ha
    exact hf x s' ha
  · next e s' hrun =>
    rw [hrun] at ha
    exact ha

namespace Action

variable {α β : Type}

/-! ## Running actions -/

@[simp] theorem exec_pure (x : α) (w : World) : (pure x : Action α).exec w = (.ok x, w) := rfl

@[simp] theorem exec_throw (fault : Fault) (w : World) :
    (throw fault : Action α).exec w = (.error fault, w) := rfl

theorem exec_bind (a : Action α) (f : α → Action β) (w : World) :
    (a >>= f).exec w =
      match a.exec w with
      | (.ok x, w') => (f x).exec w'
      | (.error fault, w') => (.error fault, w') := by
  have hrun := run_bind a f w
  unfold exec
  rw [hrun]
  rcases a.run w with ⟨outcome, w'⟩
  cases outcome <;> rfl

theorem exec_bind_of_ok {a : Action α} {f : α → Action β} {w w' : World} {x : α}
    (h : a.exec w = (.ok x, w')) : (a >>= f).exec w = (f x).exec w' := by
  rw [exec_bind, h]

theorem exec_bind_of_error {a : Action α} {f : α → Action β} {w w' : World} {fault : Fault}
    (h : a.exec w = (.error fault, w')) : (a >>= f).exec w = (.error fault, w') := by
  rw [exec_bind, h]

theorem exec_bind_snd {a : Action α} {f : α → Action β} (hf : ∀ x w, ((f x).exec w).2 = w)
    (w : World) : ((a >>= f).exec w).2 = (a.exec w).2 :=
  run_bind_snd hf w

theorem exec_bind_keeps {a : Action α} {f : α → Action β} {P : World → Prop} {w : World}
    (ha : P (a.exec w).2) (hf : ∀ x w', P w' → P ((f x).exec w').2) : P ((a >>= f).exec w).2 :=
  run_bind_keeps ha hf

/-- What follows a fault is not done. -/
theorem throw_bind (fault : Fault) (f : α → Action β) :
    (throw fault >>= f : Action β) = throw fault := rfl

@[simp] theorem exec_modify (f : World → World) (w : World) :
    (Action.modify f).exec w = (.ok (), f w) := rfl

@[simp] theorem exec_tryCall (c : Call) (w : World) :
    (tryCall c).exec w = (.ok (w.call c).1, (w.call c).2) := rfl

@[simp] theorem exec_attempt (a : Action α) (w : World) :
    (attempt a).exec w = (.ok (a.exec w).1, (a.exec w).2) := rfl

theorem exec_call (c : Call) (description : String) (w : World) :
    (call c description).exec w =
      (if (w.call c).1.status = Status.success then .ok (w.call c).1
        else .error (.device description (w.call c).1.status), (w.call c).2) := by
  rw [call, exec_bind_of_ok (exec_tryCall c w)]
  split <;> rfl

/-! ## Uses -/

/-- An action built from permitted calls. -/
inductive Uses (permits : Call → Prop) : {α : Type} → Action α → Prop where
  | pure {α : Type} (x : α) : Uses permits (Pure.pure x : Action α)
  | throw {α : Type} (fault : Fault) : Uses permits (MonadExcept.throw fault : Action α)
  | bind {α β : Type} {a : Action α} {f : α → Action β} (ha : Uses permits a)
      (hf : ∀ x, Uses permits (f x)) : Uses permits (a >>= f)
  | attempt {α : Type} {a : Action α} (ha : Uses permits a) : Uses permits (attempt a)
  | tryCall {c : Call} (hc : permits c) : Uses permits (tryCall c)
  | withoutLock {α : Type} (cam : Camera) {a : Action α} (ha : Uses permits a) :
      Uses permits (cam.withoutLock a)

variable {permits : Call → Prop}

theorem Uses.call {c : Call} (hc : permits c) (description : String) :
    (Action.call c description).Uses permits := by
  refine .bind (.tryCall hc) fun reply => ?_
  split
  · exact .pure reply
  · exact .throw _

theorem Uses.mapM {f : α → Action β} (hf : ∀ x, (f x).Uses permits) (l : List α) :
    (l.mapM f).Uses permits := by
  induction l with
  | nil => exact .pure []
  | cons x rest ih =>
    rw [List.mapM_cons]
    exact .bind (hf x) fun y => .bind ih fun ys => .pure (y :: ys)

/-- An action built from calls that are permitted when they get to the driver makes elementary
    changes. -/
theorem Uses.changes {gets : Call → Prop} {a : Action α} (ha : a.Uses permits) {w : World}
    (hpass : ∀ c c', permits c → w.backend.pass? c = some c' → gets c') (hw : w.Nests gets) :
    World.Changes gets w (a.exec w).2 := by
  induction ha generalizing w with
  | pure x => exact .refl
  | throw fault => exact .refl
  | bind _ _ iha ihf =>
    refine exec_bind_keeps (iha hpass hw) fun x w' hfirst => ?_
    -- what was done first has left the backend alone
    have hpass' : ∀ c c', permits c → w'.backend.pass? c = some c' → gets c' := by
      rw [hfirst.frame.2.2.2]
      exact hpass
    exact hfirst.trans (ihf x hpass' (World.Changes.nests hfirst hw))
  | attempt _ iha => exact iha hpass hw
  | tryCall hc => exact World.call_changes (fun c' h => hpass _ c' hc h) hw
  | withoutLock cam ha iha =>
    unfold Camera.withoutLock
    split
    · exact iha hpass hw
    -- giving up the lock and taking it back are only noted
    · next lock _ =>
      have hrelease : World.Changes gets w (w.record (.released lock)) :=
        .single (.record fun _ _ h => by cases h)
      have haction := iha (w := w.record (.released lock)) hpass
        (World.Changes.nests hrelease hw)
      exact (hrelease.trans haction).tail (.record fun _ _ h => by cases h)

end Action

/-! ## Actions on a camera -/

namespace Camera

open CameraControl.Action (Uses)

variable {permits : Call → Prop} (cam : Camera) (hp : PlainCallsOn cam.handle permits)

include hp

theorem request_uses (f : Feature) (r : Request) (hr : r.Plain) (detail : String) :
    (cam.request f r detail).Uses permits :=
  .call (hp.request f hr) _

theorem can_uses (f : Feature) (c : Capability) : (cam.can f c).Uses permits :=
  .bind (cam.request_uses hp f (.ask c) trivial "") fun _ => .pure _

theorem read_uses (f : Feature) (r : Reading) : (cam.read f r).Uses permits :=
  cam.request_uses hp f (.read r) trivial ""

theorem readInt_uses (f : Feature) (r : Reading) : (cam.readInt f r).Uses permits :=
  .bind (cam.read_uses hp f r) fun _ => .pure _

theorem readFloat_uses (f : Feature) (r : Reading) : (cam.readFloat f r).Uses permits :=
  .bind (cam.read_uses hp f r) fun _ => .pure _

theorem readWord_uses (f : Feature) (r : Reading) : (cam.readWord f r).Uses permits :=
  .bind (cam.read_uses hp f r) fun _ => .pure _

theorem intRange_uses (f : Feature) : (cam.intRange f).Uses permits :=
  .bind (cam.readInt_uses hp f _) fun _ => .bind (cam.readInt_uses hp f _) fun _ => .pure _

theorem floatRange_uses (f : Feature) : (cam.floatRange f).Uses permits :=
  .bind (cam.readFloat_uses hp f _) fun _ => .bind (cam.readFloat_uses hp f _) fun _ => .pure _

theorem bool_uses (f : Feature) : (cam.bool f).Uses permits :=
  .bind (cam.read_uses hp f _) fun _ => .pure _

theorem isIndexAvailable_uses (f : Feature) (i : Int32) :
    (cam.isIndexAvailable f i).Uses permits :=
  .bind (cam.request_uses hp f (.isIndexAvailable i) trivial _) fun _ => .pure _

theorem isIndexImplemented_uses (f : Feature) (i : Int32) :
    (cam.isIndexImplemented f i).Uses permits :=
  .bind (cam.request_uses hp f (.isIndexImplemented i) trivial _) fun _ => .pure _

theorem enumTextAt_uses (f : Feature) (i : Int32) : (cam.enumTextAt f i).Uses permits :=
  .bind (cam.request_uses hp f (.enumText i textBuffer) textBuffer_fits _) fun _ => .pure _

theorem enumText_uses (f : Feature) : (cam.enumText f).Uses permits :=
  .bind (cam.readWord_uses hp f _) fun i => cam.enumTextAt_uses hp f i

theorem enumTexts_uses (f : Feature) : (cam.enumTexts f).Uses permits :=
  .bind (cam.readWord_uses hp f _) fun _ => .mapM (fun _ => cam.enumTextAt_uses hp f _) _

theorem text_uses (f : Feature) : (cam.text f).Uses permits :=
  .bind (cam.request_uses hp f (.text textBuffer) textBuffer_fits _) fun _ => .pure _

omit hp in
/-- A write uses its call unless it is refused for a text that would end early. -/
theorem write_uses (f : Feature) (w : Write)
    (hw : (∀ s, writtenText? w = some s → Text.Wide.hasNul s = false) →
      permits (.feature cam.handle f.key (.write w))) : (cam.write f w).Uses permits := by
  have hcall (h : ∀ s, writtenText? w = some s → Text.Wide.hasNul s = false) :
      Uses permits (do
        let _ ← cam.request f (.write w) (" with value " ++ showWrite w)
        pure ()) :=
    .bind (.call (hw h) _) fun _ => .pure _
  unfold write
  -- without a text there is nothing to refuse
  cases htext : writtenText? w with
  | none => exact hcall fun s hs => by simp [htext] at hs
  | some s =>
    by_cases hnul : Text.Wide.hasNul s = true
    · simp only [hnul, if_true, Action.throw_bind]
      exact .throw _
    · simp only [if_neg hnul]
      refine hcall fun s' hs' => ?_
      obtain rfl : s = s' := Option.some.inj (htext.symm.trans hs')
      simpa using hnul

theorem command_uses (f : Feature) : (cam.command f).Uses permits :=
  .bind (cam.request_uses hp f .command trivial _) fun _ => .pure _

theorem choice_uses (f : Family) : (cam.choice f).Uses permits := by
  refine .bind (cam.readWord_uses hp _ _) fun i => ?_
  split
  · exact .pure _
  · exact .throw _

/-- Writes that hand over no text are plain. -/
theorem write_uses_of_plain (f : Feature) (w : Write) (hw : (Request.write w).Plain) :
    (cam.write f w).Uses permits :=
  cam.write_uses f w fun _ => hp.request f hw

theorem setChoice_uses {f : Family} (c : Choice f) : (cam.setChoice c).Uses permits :=
  cam.write_uses_of_plain hp _ _ trivial

/-! ### Settings -/

theorem writeAll_uses (l : List (Feature × Write)) (hl : ∀ p ∈ l, (Request.write p.2).Plain) :
    (cam.writeAll l).Uses permits := by
  induction l with
  | nil => exact .pure _
  | cons p rest ih =>
    exact .bind (cam.write_uses_of_plain hp p.1 p.2 (hl p List.mem_cons_self)) fun _ =>
      ih fun q hq => hl q (List.mem_cons_of_mem _ hq)

omit hp in
/-- Settings hand over no texts. -/
theorem plain_of_mem_writes (s : Settings) : ∀ p ∈ s.writes, (Request.write p.2).Plain := by
  intro p hp
  -- a field that is not set makes no write
  have hfield {α : Type} {o : Option α} {g : α → Feature × Write}
      (hmem : p ∈ (o.map g).toList) (hg : ∀ x, (Request.write (g x).2).Plain) :
      (Request.write p.2).Plain := by
    obtain ⟨x, -, rfl⟩ : ∃ x, o = some x ∧ g x = p := by
      simpa [Option.mem_toList] using hmem
    exact hg x
  simp only [Settings.writes, List.mem_append, or_assoc] at hp
  rcases hp with h | h | h | h | h | h | h | h | h | h | h | h | h | h | h | h | h
  case inr.inl =>
    -- the area of interest is the only field with several writes
    cases haoi : s.aoi with
    | none => simp [haoi] at h
    | some a =>
      simp only [haoi, List.mem_cons, List.not_mem_nil, or_false] at h
      rcases h with rfl | rfl | rfl | rfl <;> trivial
  all_goals exact hfield h fun _ => trivial

theorem apply_uses (s : Settings) : (cam.apply s).Uses permits :=
  cam.writeAll_uses hp _ (plain_of_mem_writes s)

theorem has_uses (f : Feature) : (cam.has f).Uses permits := by
  refine .bind (cam.can_uses hp f _) fun there => ?_
  split
  · exact cam.can_uses hp f _
  · exact .pure _

theorem readIf_uses {α : Type} (f : Feature) {read : Action α} (hread : read.Uses permits) :
    (cam.readIf f read).Uses permits := by
  refine .bind (cam.has_uses hp f) fun there => ?_
  split
  · exact .bind hread fun _ => .pure _
  · exact .pure _

theorem choiceIf_uses (f : Family) : (cam.choiceIf f).Uses permits :=
  cam.readIf_uses hp _ (cam.choice_uses hp f)

theorem aoi_uses : cam.aoi.Uses permits :=
  .bind (cam.readInt_uses hp _ _) fun _ => .bind (cam.readInt_uses hp _ _) fun _ =>
    .bind (cam.readInt_uses hp _ _) fun _ => .bind (cam.readInt_uses hp _ _) fun _ => .pure _

theorem settings_uses : cam.settings.Uses permits := by
  -- the fields in the order in which they are read
  have hint f := cam.readIf_uses hp f (cam.readInt_uses hp f .int)
  have hfloat f := cam.readIf_uses hp f (cam.readFloat_uses hp f .float)
  have hbool f := cam.readIf_uses hp f (cam.bool_uses hp f)
  exact .bind (cam.readIf_uses hp _ (cam.aoi_uses hp)) fun _ =>
    .bind (hfloat _) fun _ => .bind (hfloat _) fun _ => .bind (hint _) fun _ =>
    .bind (hint _) fun _ => .bind (cam.choiceIf_uses hp _) fun _ =>
    .bind (cam.choiceIf_uses hp _) fun _ => .bind (cam.choiceIf_uses hp _) fun _ =>
    .bind (cam.choiceIf_uses hp _) fun _ => .bind (cam.choiceIf_uses hp _) fun _ =>
    .bind (cam.choiceIf_uses hp _) fun _ => .bind (cam.choiceIf_uses hp _) fun _ =>
    .bind (cam.choiceIf_uses hp _) fun _ => .bind (hbool _) fun _ => .bind (hbool _) fun _ =>
    .bind (hbool _) fun _ => .bind (hbool _) fun _ => .pure _

/-! ### Frames -/

theorem queue_uses (address length : UInt64) : (cam.queue address length).Uses permits := by
  unfold queue
  split
  · exact .throw _
  · exact .bind (.call (hp.queue _ _) _) fun _ => .pure _

theorem wait_uses (timeout : Timeout) : (cam.wait timeout).Uses permits := by
  refine .bind (.withoutLock cam (.call (hp.wait _) _)) fun reply => ?_
  dsimp only
  split
  · exact .throw _
  · exact .pure _

theorem flush_uses : cam.flush.Uses permits :=
  .bind (.call hp.flush _) fun _ => .pure _

end Camera

/-! ## Enumeration -/

/-- Counting the devices is a use of one plain call. -/
theorem Enumeration.deviceCount_uses {permits : Call → Prop} (hp : PlainCalls permits) :
    deviceCount.Uses permits := by
  refine .bind (.call (hp.request _ _ (r := .read .int) trivial) _) fun reply => ?_
  dsimp only
  split
  · exact .throw _
  · split
    · exact .throw _
    · exact .pure _

end CameraControl
