import CameraControl.Proofs.Driver.Run
import CameraControl.Proofs.Driver.Spelling
import CameraControl.World

/-
  Spellings of a key in the world.

  Tokens hear of changes by the reported key, and they compare it up to blanks. So whatever is done
  with one spelling of a key has the same replies and statuses and asks the user's own code the same
  as with another. The history keeps the spellings, and is all that tells them apart.
-/

namespace CameraControl

namespace World

/-- Two worlds differ in their histories only, and in these the user's own code was asked the same
    in the same order. -/
def Alike (w w' : World) : Prop :=
  ∃ history, w' = { w with history := history } ∧
    w.history.filterMap Happening.event? = history.filterMap Happening.event?

variable {w w' : World}

theorem Alike.refl (w : World) : Alike w w := ⟨w.history, rfl, rfl⟩

/-! ## Changes -/

theorem Alike.note (h : Alike w w') {e e' : Happening} (he : e.event? = e'.event?) :
    Alike (w.note e) (w'.note e') := by
  obtain ⟨history, rfl, hevents⟩ := h
  refine ⟨e' :: history, rfl, ?_⟩
  rw [World.note, List.filterMap_cons, List.filterMap_cons, he, hevents]

theorem Alike.modifyToken (h : Alike w w') (token : Nat) (f : Token → Token) :
    Alike (w.modifyToken token f) (w'.modifyToken token f) := by
  obtain ⟨history, rfl, hevents⟩ := h
  exact ⟨history, rfl, hevents⟩

theorem Alike.hear (h : Alike w w') (token : Nat) (t : Token) (handle : Int32)
    (reported reported' : String) :
    Alike (w.hear token t handle reported) (w'.hear token t handle reported') :=
  h.note rfl

theorem Alike.invoke (h : Alike w w') (token : Nat) (t : Token) :
    Alike (w.invoke token t) (w'.invoke token t) :=
  (h.modifyToken token _).note rfl

theorem Alike.driver_eq (h : Alike w w') : w'.driver = w.driver := by
  obtain ⟨history, rfl, -⟩ := h
  rfl

theorem Alike.tokens_eq (h : Alike w w') : w'.tokens = w.tokens := by
  obtain ⟨history, rfl, -⟩ := h
  rfl

/-- The driver gets two calls that do the same. -/
theorem Alike.take (h : Alike w w') (c c' : Call)
    (hstep : Driver.AlikeOutcomes (w.driver.step c) (w.driver.step c')) :
    Alike (w.take c) (w'.take c') := by
  obtain ⟨history, rfl, hevents⟩ := h
  have hdriver : Alike { w with driver := (w.driver.step c).driver }
      { w with driver := (w.driver.step c').driver, history := history } := by
    rw [hstep.driver_eq]
    exact ⟨history, rfl, hevents⟩
  exact hdriver.note rfl

/-! ## Notifications -/

/-- A notification gets equally far in each spelling, unless it is a mismatch in both. -/
theorem admission_alike (h : Alike w w') (token : Nat) (t : Token) (handle : Int32)
    {reported reported' : String} (hr : SameKey reported reported') :
    (∃ breach breach', w.admission token t handle reported = .mismatch breach ∧
      w'.admission token t handle reported' = .mismatch breach') ∨
    w.admission token t handle reported = w'.admission token t handle reported' := by
  obtain ⟨history, rfl, -⟩ := h
  unfold admission
  rw [keysMatch_congr_left hr]
  split
  · exact .inl ⟨_, _, rfl, rfl⟩
  · exact .inr rfl

theorem foldl_alike {f : World → Notice → World}
    (hf : ∀ w w' n, Alike w w' → Alike (f w n) (f w' n)) (h : Alike w w')
    (notices : List Notice) : Alike (notices.foldl f w) (notices.foldl f w') := by
  induction notices generalizing w w' with
  | nil => exact h
  | cons n rest ih => exact ih (hf w w' n h)

/-- What comes of a notification, and of all that subscribers nest in it, does not depend on the
    spelling of the reported key. -/
theorem dispatchWithin_alike (depth token : Nat) (handle : Int32) {reported reported' : String}
    (h : Alike w w') (hr : SameKey reported reported') :
    (dispatchWithin depth token handle reported w).1.status =
        (dispatchWithin depth token handle reported' w').1.status ∧
      Alike (dispatchWithin depth token handle reported w).2
        (dispatchWithin depth token handle reported' w').2 := by
  induction depth using Nat.strongRecOn generalizing token handle reported reported' w w' with
  | ind depth ih =>
    unfold dispatchWithin
    rw [h.tokens_eq]
    cases w.tokens[token]? with
    | none => exact ⟨rfl, h⟩
    | some t =>
      dsimp only
      have hheard := h.hear token t handle reported reported'
      rcases admission_alike h token t handle hr with ⟨breach, breach', hadm, hadm'⟩ | hadm
      · rw [hadm, hadm']
        exact ⟨rfl, hheard⟩
      rw [hadm]
      cases w'.admission token t handle reported' with
      | mismatch breach => exact ⟨rfl, hheard⟩
      | stale => exact ⟨rfl, hheard⟩
      | precall => exact ⟨rfl, hheard.modifyToken token _⟩
      | invoke =>
        refine ⟨rfl, ?_⟩
        have hinvoked := hheard.invoke token t
        dsimp only
        split
        · cases depth with
          | zero => exact hinvoked
          | succ depth =>
            cases t.nested with
            | none => exact hinvoked
            | some c =>
              -- the subscriber's own call is the same one, and so are its notices
              have hdriver := hinvoked.driver_eq
              have htaken := hinvoked.take c c
                ⟨rfl, rfl, List.forall₂_same.mpr fun n _ => .refl n⟩
              have hdelivered := foldl_alike
                (f := fun w n =>
                  (dispatchWithin depth n.token n.handle (Text.Wide.scan (some n.reported)) w).2)
                (fun w w' n h => (ih depth (Nat.lt_succ_self depth) n.token n.handle h rfl).2)
                htaken
                (((w.hear token t handle reported).invoke token t).driver.step c).notices
              dsimp only
              rw [hdriver]
              exact hdelivered.note rfl
        · exact hinvoked

theorem dispatch_alike (h : Alike w w') (token : Nat) (handle : Int32)
    {reported reported' : String} (hr : SameKey reported reported') :
    (w.dispatch token handle reported).1.status = (w'.dispatch token handle reported').1.status ∧
      Alike (w.dispatch token handle reported).2 (w'.dispatch token handle reported').2 := by
  have hpending : w'.pendingCalls = w.pendingCalls := by
    unfold pendingCalls
    rw [h.tokens_eq]
  unfold dispatch
  rw [hpending]
  exact dispatchWithin_alike _ token handle h hr

theorem deliverAll_alike {notices notices' : List Notice} (h : Alike w w')
    (hn : List.Forall₂ Notice.Alike notices notices') :
    (w.deliverAll notices).1 = (w'.deliverAll notices').1 ∧
      Alike (w.deliverAll notices).2 (w'.deliverAll notices').2 := by
  induction hn generalizing w w' with
  | nil => exact ⟨rfl, h⟩
  | @cons n n' rest rest' hn _ ih =>
    obtain ⟨hstatus, hafter⟩ := dispatch_alike h n.token n.handle hn.reported
    obtain ⟨hrest, hlast⟩ := ih hafter
    have hdeliver : w'.deliver n' =
        ((w'.dispatch n.token n.handle (Text.Wide.scan (some n'.reported))).1.status,
          (w'.dispatch n.token n.handle (Text.Wide.scan (some n'.reported))).2) := by
      rw [hn.token_eq, hn.handle_eq]
      rfl
    rw [deliverAll, deliverAll, hdeliver]
    exact ⟨List.cons_eq_cons.mpr ⟨hstatus, hrest⟩, hlast⟩

/-! ## Calls and scripting -/

variable {k k' : String}

/-- A request arrives in each spelling of the key, or in none. -/
theorem pass?_respelled (b : Backend) (hk : Text.Wide.Portable k) (hk' : Text.Wide.Portable k')
    (handle : Int32) (r : Request) :
    (b.pass? (.feature handle k r) = none ∧ b.pass? (.feature handle k' r) = none) ∨
    ∃ r', b.pass? (.feature handle k r) = some (.feature handle k r') ∧
      b.pass? (.feature handle k' r) = some (.feature handle k' r') := by
  cases b with
  | direct => exact .inr ⟨r, rfl, rfl⟩
  | library =>
    rw [Backend.pass?, Backend.pass?, Library.pass?_feature, Library.pass?_feature,
      Library.passText?_eq hk, Library.passText?_eq hk']
    cases Library.passRequest? r with
    | none => exact .inl ⟨rfl, rfl⟩
    | some r' => exact .inr ⟨r', rfl, rfl⟩

/-- What the driver does with a call, and what its notices come to. -/
theorem take_respelled (w : World) (h : SameKey k k') (hk : Text.Wide.Portable k)
    (hk' : Text.Wide.Portable k') (handle : Int32) (r : Request) :
    let c := Call.feature handle k r
    let c' := Call.feature handle k' r
    ((w.take c).deliverAll (w.driver.step c).notices).1 =
        ((w.take c').deliverAll (w.driver.step c').notices).1 ∧
      Alike ((w.take c).deliverAll (w.driver.step c).notices).2
        ((w.take c').deliverAll (w.driver.step c').notices).2 := by
  have hstep := w.driver.step_respelled h hk hk' handle r
  exact deliverAll_alike ((Alike.refl w).take _ _ hstep) hstep.notices

theorem call_respelled (w : World) (h : SameKey k k') (hk : Text.Wide.Portable k)
    (hk' : Text.Wide.Portable k') (handle : Int32) (r : Request) :
    (w.call (.feature handle k r)).1 = (w.call (.feature handle k' r)).1 ∧
      Alike (w.call (.feature handle k r)).2 (w.call (.feature handle k' r)).2 := by
  unfold call
  rcases pass?_respelled w.backend hk hk' handle r with ⟨hpass, hpass'⟩ | ⟨r', hpass, hpass'⟩
  · rw [hpass, hpass']
    exact ⟨rfl, .refl w⟩
  · rw [hpass, hpass']
    exact ⟨(w.driver.step_respelled h hk hk' handle r').reply_eq,
      (w.take_respelled h hk hk' handle r').2⟩

/-- Blanks in keys never matter. For two spellings of a key without an early end, each of a length
    that a library reads, every request about a feature triggers the same order to fail, has the
    same reply, causes notifications of the same statuses and leaves the same world, but for the
    spellings that its history keeps. So do putting contents under the key, notifying the
    subscribers to the key, reporting the key to subscribers, and handing it to a token. The check
    that a token makes and the lookups of the driver take the same texts for equal. -/
theorem blanks_do_not_matter (hkey : keysMatch k k' = true) (hk : Text.Wide.Portable k)
    (hk' : Text.Wide.Portable k') :
    (∀ (w : World) (handle : Int32) (r : Request),
      let c := Call.feature handle k r
      let c' := Call.feature handle k' r
      (w.driver.failures.find? fun o => o.matches c.function c.key?) =
          (w.driver.failures.find? fun o => o.matches c'.function c'.key?) ∧
        ((w.take c).deliverAll (w.driver.step c).notices).1 =
          ((w.take c').deliverAll (w.driver.step c').notices).1 ∧
        (w.call c).1 = (w.call c').1 ∧ Alike (w.call c).2 (w.call c').2) ∧
    (∀ (w : World) (device : Nat) (content : Content),
      Alike (w.script (.putKey device k content)) (w.script (.putKey device k' content))) ∧
    (∀ (w : World) (handle : Int32),
      let fired := w.deliverAll (w.driver.fire handle k)
      let fired' := w.deliverAll (w.driver.fire handle k')
      fired.1 = fired'.1 ∧ Alike fired.2 fired'.2) ∧
    (∀ (w : World) (handle reportedHandle : Int32) (key : String),
      w.driver.fireAs handle k reportedHandle key = w.driver.fireAs handle k' reportedHandle key ∧
      let fired := w.deliverAll (w.driver.fireAs handle key reportedHandle k)
      let fired' := w.deliverAll (w.driver.fireAs handle key reportedHandle k')
      fired.1 = fired'.1 ∧ Alike fired.2 fired'.2) ∧
    (∀ (w : World) (token : Nat) (handle : Int32),
      (w.dispatch token handle k).1.status = (w.dispatch token handle k').1.status ∧
      Alike (w.dispatch token handle k).2 (w.dispatch token handle k').2) ∧
    ∀ a b, keysMatch a b = true ↔ Text.squeeze a = Text.squeeze b := by
  have h : SameKey k k' := (keysMatch_iff_squeeze k k').mp hkey
  refine ⟨fun w handle r => ?_, fun w device content => ?_, fun w handle => ?_,
    fun w handle reportedHandle key => ?_, fun w token handle => ?_, keysMatch_iff_squeeze⟩
  · exact ⟨w.driver.find?_failures_congr h handle r, (w.take_respelled h hk hk' handle r).1,
      w.call_respelled h hk hk' handle r⟩
  · have hdriver : w.driver.script (.putKey device k content) =
        w.driver.script (.putKey device k' content) := by
      rw [Driver.script, Driver.script]
      exact congrArg (w.driver.modifyDevice device) (funext fun d => by rw [d.putKey_congr h])
    rw [script, hdriver]
    exact (Alike.refl { w with driver := _ }).note rfl
  · exact deliverAll_alike (.refl w) (w.driver.fire_respelled h hk hk' handle)
  · exact ⟨w.driver.fireAs_congr h handle reportedHandle key,
      deliverAll_alike (.refl w) (w.driver.fireAs_respelled h hk hk' handle key reportedHandle)⟩
  · exact dispatch_alike (.refl w) token handle h

/-- A write by way of the library to a feature with a subscriber, once with blanks in the key and
    once without. -/
theorem blanks_do_not_matter_write :
    let d := (Driver.ofDevices [(Device.bare "A").put .cameraName (.text "A")]).run
      [.call (.open 0), .call (.feature 100 "CameraName" (.subscribe 0))]
    let w := (((ofDriver .library d).beginSession 100).issue
      ⟨"t", 0, 100, .cameraName, [.reject], none, true, 0⟩).modifyLive 0 (· ++ [0])
    let c : Call := .feature 100 " Camera\u2003Name" (.write (.text "B"))
    let c' : Call := .feature 100 "CameraName" (.write (.text "B"))
    (w.call c').1.status = Status.success ∧ (w.call c).1 = (w.call c').1 ∧
      (w.call c).2.driver = (w.call c').2.driver ∧
      ((w.call c).2.tokens.map Token.invocations) = [1] := by
  intro d w c c'
  obtain ⟨hcalls, -⟩ := blanks_do_not_matter (k := " Camera\u2003Name") (by decide +kernel)
    (by decide +kernel) (show Text.Wide.Portable "CameraName" by decide +kernel)
  obtain ⟨-, -, hreply, halike⟩ := hcalls w 100 (.write (.text "B"))
  exact ⟨by decide +kernel, hreply, halike.driver_eq.symm, by decide +kernel⟩

end World

end CameraControl
