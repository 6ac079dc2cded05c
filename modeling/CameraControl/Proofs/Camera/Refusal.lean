import CameraControl.Proofs.Camera.Sessions
import CameraControl.Proofs.Driver.Refusal
import CameraControl.Proofs.World.Accounting

/-
  Calls that fail.

  A call that the driver refuses is counted, and that is all that comes of it: `Refused`. An action
  that makes one call, and nothing after it that could fail on the driver's account, ends in a
  fault of the device only if that call was refused; the fault carries the code of the refusal.
-/

namespace CameraControl

/-! ## Texts that get through -/

/-- A request whose texts, if there are any, do not end early. -/
def Request.Unbroken : Request → Prop
  | .write w => ∀ s, Camera.writtenText? w = some s → Text.Wide.hasNul s = false
  | _ => True

theorem Library.passText?_isSome {s : String} (h : Text.Wide.hasNul s = false) :
    ∃ s', passText? s = some s' := by
  unfold passText?
  rw [Text.Wide.ofText_eq h]
  exact ⟨_, rfl⟩

theorem Library.passRequest?_isSome {r : Request} (hr : r.Unbroken) :
    ∃ r', passRequest? r = some r' := by
  cases r with
  | write w =>
    cases w with
    | enumText s | text s =>
      obtain ⟨s', hs'⟩ := passText?_isSome (hr s rfl)
      rw [passRequest?, passWrite?, hs']
      exact ⟨_, rfl⟩
    | _ => exact ⟨_, rfl⟩
  | _ => exact ⟨_, rfl⟩

/-- A request about a registered feature gets through to the driver. -/
theorem Backend.passes_request (b : Backend) (handle : Int32) (f : Feature) {r : Request}
    (hr : r.Unbroken) : ∃ c', b.pass? (.feature handle f.key r) = some c' := by
  cases b with
  | direct => exact ⟨_, rfl⟩
  | library =>
    obtain ⟨r', hr'⟩ := Library.passRequest?_isSome hr
    rw [pass?, Library.pass?_feature, Library.passText?_eq f.portable_key, hr']
    exact ⟨_, rfl⟩

/-! ## The driver and the world -/

/-- A call that fails is counted, writes nothing, and nobody hears of it. -/
theorem Driver.step_of_failed {d : Driver} {c : Call}
    (h : (d.step c).reply.status ≠ Status.success) :
    d.step c = ⟨d.logged c, ⟨(d.step c).reply.status, none⟩, []⟩ := by
  rcases d.step_cases c with ⟨code, -, hstep⟩ | ⟨e, -, hstep⟩
  · rw [hstep]
  · exact absurd (by rw [hstep]) h

namespace World

/-- Between two worlds a call got to the driver and failed with a code. It was counted; the driver
    is the same otherwise, and no token got a notification. -/
structure Refused (c : Call) (code : Status) (w w' : World) : Prop where
  code_ne : code ≠ Status.success
  arrived : ∃ c', w.backend.pass? c = some c' ∧ (w.driver.step c').reply = ⟨code, none⟩ ∧
    w'.driver = w.driver.logged c'
  deliveries_eq : w'.deliveries = w.deliveries

/-- Between two worlds nothing happened to tokens and sessions. -/
structure Still (w w' : World) : Prop where
  tokens_eq : w'.tokens = w.tokens
  sessions_eq : w'.sessions = w.sessions

variable {w w' : World} {c : Call}

theorem call_refused (hpass : ∃ c', w.backend.pass? c = some c')
    (hfailed : (w.call c).1.status ≠ Status.success) :
    Refused c (w.call c).1.status w (w.call c).2 ∧ Still w (w.call c).2 := by
  obtain ⟨c', hpass⟩ := hpass
  rw [call_of_passed hpass] at hfailed ⊢
  have hstep := Driver.step_of_failed hfailed
  -- there are no notices to deliver
  have hnotices : (w.driver.step c').notices = [] := by rw [hstep]
  rw [hnotices]
  refine ⟨⟨hfailed, ⟨c', hpass, ?_, ?_⟩, rfl⟩, rfl, rfl⟩
  · exact congrArg Outcome.reply hstep
  · exact congrArg Outcome.driver hstep

end World

/-! ## Actions of one call -/

namespace Action

variable {α β : Type} {c : Call}

/-- An action that does not end in a fault of the device. -/
def Blameless (a : Action α) : Prop :=
  ∀ w description code, (a.exec w).1 ≠ .error (.device description code)

theorem Blameless.pure (x : α) : (Pure.pure x : Action α).Blameless :=
  fun _ _ _ h => by cases h

theorem Blameless.protocol (breach : Breach) :
    (throw (.protocol breach) : Action α).Blameless :=
  fun _ _ _ h => by cases h

/-- An action that ends in a fault of the device only if one call of it was refused, with just that
    code, and nothing else was done. -/
def Sole (a : Action α) (c : Call) : Prop :=
  ∀ w description code, (a.exec w).1 = .error (.device description code) →
    World.Refused c code w (a.exec w).2 ∧ World.Still w (a.exec w).2

theorem Blameless.sole {a : Action α} (ha : a.Blameless) (c : Call) : a.Sole c :=
  fun w description code h => absurd h (ha w description code)

theorem Sole.call (hpass : ∀ b : Backend, ∃ c', b.pass? c = some c') (description : String) :
    (Action.call c description).Sole c := by
  intro w text code h
  rw [exec_call] at h ⊢
  by_cases hstatus : (w.call c).1.status = Status.success
  · rw [if_pos hstatus] at h
    cases h
  · rw [if_neg hstatus] at h
    cases h
    exact World.call_refused (hpass _) hstatus

/-- Calls about frames have no text that could be refused on the way. -/
theorem Sole.call_of_portable (hc : c.Portable) (description : String) :
    (Action.call c description).Sole c :=
  .call (fun b => ⟨c, b.pass?_eq hc⟩) description

/-- What follows the call may fail, but not on the driver's account. -/
theorem Sole.bind {a : Action α} {f : α → Action β} (ha : a.Sole c)
    (hf : ∀ x, (f x).Blameless) : (a >>= f).Sole c := by
  intro w description code h
  rcases hexec : a.exec w with ⟨outcome, w'⟩
  cases outcome with
  | ok x =>
    rw [exec_bind_of_ok hexec] at h
    exact absurd h (hf x w' description code)
  | error fault =>
    rw [exec_bind_of_error hexec] at h ⊢
    cases h
    have hfirst := ha w description code
    rw [hexec] at hfirst
    exact hfirst rfl

/-- Giving up the host lock and taking it back does not concern the driver. -/
theorem Sole.withoutLock (cam : Camera) {a : Action α} (ha : a.Sole c) :
    (cam.withoutLock a).Sole c := by
  intro w description code h
  unfold Camera.withoutLock at h ⊢
  cases hlock : cam.hostLock with
  | none =>
    rw [hlock] at h
    exact ha w description code h
  | some lock =>
    rw [hlock] at h
    obtain ⟨⟨hne, harrived, hdeliveries⟩, htokens, hsessions⟩ :=
      ha (w.record (.released lock)) description code h
    exact ⟨⟨hne, harrived, hdeliveries⟩, htokens, hsessions⟩

end Action

namespace Camera

open CameraControl.Action (Sole Blameless)

variable (cam : Camera)

theorem request_sole (f : Feature) {r : Request} (hr : r.Unbroken) (detail : String) :
    (cam.request f r detail).Sole (.feature cam.handle f.key r) :=
  .call (fun b => b.passes_request cam.handle f hr) _

/-- An accessor that makes a request and answers with something of the reply. -/
theorem reading_sole {α : Type} (f : Feature) {r : Request} (hr : r.Unbroken) (detail : String)
    (answer : Reply → α) :
    (do return answer (← cam.request f r detail) : Action α).Sole
      (.feature cam.handle f.key r) :=
  (cam.request_sole f hr detail).bind fun _ => .pure _

/-- A write whose text, if it hands over one, does not end early is made by its call alone. -/
theorem write_of_unbroken (f : Feature) {v : Write} (hv : (Request.write v).Unbroken) :
    cam.write f v = (do
      let _ ← cam.request f (.write v) (" with value " ++ showWrite v)
      pure ()) := by
  unfold write
  cases htext : writtenText? v with
  | none => rfl
  | some s =>
    have hnul : Text.Wide.hasNul s = false := hv s htext
    simp only [hnul, Bool.false_eq_true, if_false]

/-- A text that ends early is refused before the call. -/
theorem write_of_broken (f : Feature) {v : Write} (hv : ¬(Request.write v).Unbroken) :
    ∃ s, writtenText? v = some s ∧ Text.Wide.hasNul s = true ∧
      cam.write f v = throw (.interiorNul s) := by
  obtain ⟨s, hs⟩ := not_forall.mp hv
  obtain ⟨htext, hnul⟩ := Classical.not_imp.mp hs
  have hnul : Text.Wide.hasNul s = true := by simpa using hnul
  refine ⟨s, htext, hnul, ?_⟩
  unfold write
  rw [htext]
  simp only [hnul, if_true]
  rfl

theorem write_sole (f : Feature) (w : Write) :
    (cam.write f w).Sole (.feature cam.handle f.key (.write w)) := by
  by_cases hw : (Request.write w).Unbroken
  · rw [cam.write_of_unbroken f hw]
    exact cam.reading_sole f hw _ fun _ => ()
  · obtain ⟨s, -, -, hthrow⟩ := cam.write_of_broken f hw
    rw [hthrow]
    exact Blameless.sole (fun _ _ _ h => by cases h) _

theorem choice_sole (f : Family) :
    (cam.choice f).Sole (.feature cam.handle f.feature.key (.read .enumIndex)) := by
  refine (cam.reading_sole f.feature (r := .read .enumIndex) trivial "" fun reply =>
    reply.word 0).bind fun i => ?_
  cases Choice.ofIndex? f i with
  | none => exact .protocol _
  | some c => exact .pure c

theorem queue_sole (address length : UInt64) :
    (cam.queue address length).Sole
      (.queue cam.handle address (Int32.ofNat length.toNat)) := by
  unfold queue
  split
  · exact Blameless.sole (fun _ _ _ h => by cases h) _
  · exact (Sole.call_of_portable (c := .queue cam.handle _ _) trivial _).bind fun _ => .pure _

theorem wait_sole (timeout : Timeout) :
    (cam.wait timeout).Sole (.wait cam.handle timeout.asMillis) := by
  refine (Sole.withoutLock cam (.call_of_portable (c := .wait cam.handle _) trivial _)).bind
    fun reply => ?_
  show (if reply.frame.2 ≤ 0 then throw (.protocol (.emptyFrame reply.frame.2))
    else pure reply.frame.1 : Action UInt64).Blameless
  split
  · exact .protocol _
  · exact .pure _

theorem flush_sole : cam.flush.Sole (.flush cam.handle) :=
  (Sole.call_of_portable (c := .flush cam.handle) trivial _).bind fun _ => .pure _

/-! ### Sessions and tokens -/

/-- A camera that the driver does not close has its session ended, but its handle stays open. -/
theorem close_refused {w : World} {description : String} {code : Status}
    (h : (cam.close.exec w).1 = .error (.device description code)) :
    World.Refused (.close cam.handle) code w (cam.close.exec w).2 := by
  have hclose : cam.close.exec w =
      (if (w.call (.close cam.handle)).1.status = Status.success then pure ()
        else throw (.device s!"Failed to close Andor device with index {cam.deviceIndex}."
          (w.call (.close cam.handle)).1.status) : Action Unit).exec
        ((w.call (.close cam.handle)).2.endSession cam.session) := rfl
  rw [hclose] at h ⊢
  by_cases hstatus : (w.call (.close cam.handle)).1.status = Status.success
  · rw [if_pos hstatus] at h
    cases h
  · rw [if_neg hstatus] at h ⊢
    cases h
    obtain ⟨hne, harrived, hdeliveries⟩ :=
      (World.call_refused ⟨_, w.backend.pass?_eq (c := .close cam.handle) trivial⟩ hstatus).1
    exact ⟨hne, harrived, hdeliveries⟩

/-- A subscription that the driver refuses leaves no registration. -/
theorem subscribe_refused {label : String} {f : Feature} {reactions : List Reaction}
    {nested : Option Call} {w : World} {description : String} {code : Status}
    (h : ((cam.subscribe label f reactions nested).exec w).1 =
      .error (.device description code)) :
    World.Refused (cam.subscription f w) code w
      ((cam.subscribe label f reactions nested).exec w).2 := by
  -- the token enters before the call, and leaves again after it
  have hpass := w.backend.passes_request cam.handle f (r := .subscribe w.tokens.length) trivial
  generalize hentered : cam.entered (cam.newToken label f reactions nested) w = w' at *
  have hsubscribe : (cam.subscribe label f reactions nested).exec w =
      (if (w'.call (cam.subscription f w)).1.status = Status.success then
        (pure w.tokens.length : Action Nat)
      else do
        Action.modify fun w₀ => w₀.modifyLive cam.session (·.erase w.tokens.length)
        throw (.device
          (Function.registerFeatureCallback.symbol ++ " for feature \"" ++ f.key ++ "\" failed.")
          (w'.call (cam.subscription f w)).1.status)).exec
        (w'.call (cam.subscription f w)).2 := by
    rw [← hentered]
    rfl
  rw [hsubscribe] at h ⊢
  by_cases hstatus : (w'.call (cam.subscription f w)).1.status = Status.success
  · rw [if_pos hstatus] at h
    cases h
  · rw [if_neg hstatus] at h ⊢
    cases h
    have hbackend : w'.backend = w.backend := by rw [← hentered]; rfl
    rw [← hbackend] at hpass
    obtain ⟨hne, harrived, hdeliveries⟩ := (World.call_refused hpass hstatus).1
    subst hentered
    exact ⟨hne, harrived, hdeliveries⟩

/-- A registration that the driver does not take back stays. -/
theorem unsubscribe_refused {token : Nat} {w : World} {description : String} {code : Status}
    (h : ((cam.unsubscribe token).exec w).1 = .error (.device description code)) :
    ∃ t, w.tokens[token]? = some t ∧
      World.Refused (.feature cam.handle t.feature.key (.unsubscribe token)) code w
        ((cam.unsubscribe token).exec w).2 := by
  rw [unsubscribe_eq] at h ⊢
  cases ht : w.tokens[token]? with
  | none =>
    rw [ht] at h
    cases h
  | some t =>
    refine ⟨t, rfl, ?_⟩
    rw [ht] at h
    dsimp only at h ⊢
    split at h
    · cases h
    · split at h
      · cases h
      · next hsession hlive =>
        rw [if_neg hsession, if_neg hlive]
        have hcall := cam.request_sole t.feature (r := .unsubscribe token) trivial ""
        obtain ⟨⟨hne, harrived, hdeliveries⟩, -⟩ := (hcall.bind fun _ => .pure ())
          (w.modifyLive cam.session (·.erase token)) description code h
        exact ⟨hne, harrived, hdeliveries⟩

end Camera

end CameraControl
