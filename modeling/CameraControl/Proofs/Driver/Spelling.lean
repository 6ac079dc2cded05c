import CameraControl.Driver.Step
import CameraControl.Feature.Lookup
import CameraControl.Proofs.Library.Forwarding
import Mathlib.Data.List.Forall2

/-
  Spellings of a key.

  Two texts spell the same key if they are equal up to blanks. Devices, orders to fail and
  subscriptions never see more of a key than that, so a call does the same in each spelling. Only
  the notices that it sends out report the key as it was spelled.
-/

namespace CameraControl

/-- Two texts are equal up to blanks. -/
def SameKey (a b : String) : Prop := Text.squeeze a = Text.squeeze b

theorem keysMatch_congr {a b : String} (h : SameKey a b) (key : String) :
    keysMatch key a = keysMatch key b := by
  rw [Bool.eq_iff_iff, keysMatch_iff_squeeze, keysMatch_iff_squeeze, h]

theorem keysMatch_congr_left {a b : String} (h : SameKey a b) (key : String) :
    keysMatch a key = keysMatch b key := by
  rw [Bool.eq_iff_iff, keysMatch_iff_squeeze, keysMatch_iff_squeeze, h]

/-! ## Devices -/

namespace Device

variable {k k' : String}

theorem content?_congr (d : Device) (h : SameKey k k') : d.content? k = d.content? k' := by
  rw [content?, h, content?]

theorem isReadOnly_congr (d : Device) (h : SameKey k k') : d.isReadOnly k = d.isReadOnly k' := by
  rw [isReadOnly, h, isReadOnly]

theorem setContent_congr (d : Device) (h : SameKey k k') : d.setContent k = d.setContent k' := by
  funext content
  rw [setContent, h, setContent]

theorem putKey_congr (d : Device) (h : SameKey k k') : d.putKey k = d.putKey k' := by
  funext content
  rw [putKey, h, putKey]

theorem contentOr_congr (d : Device) (h : SameKey k k') : d.contentOr k = d.contentOr k' := by
  rw [contentOr, d.content?_congr h, contentOr]

theorem can_congr (d : Device) (h : SameKey k k') : d.can k = d.can k' := by
  funext c
  cases c with
  | implemented => rw [can, d.content?_congr h, can]
  | readable => rw [can, d.content?_congr h, can]
  | writable => rw [can, d.content?_congr h, d.isReadOnly_congr h, can]
  | readOnly => rw [can, d.isReadOnly_congr h, can]

theorem write_congr (d : Device) (h : SameKey k k') : d.write k = d.write k' := by
  funext w
  rw [write, d.isReadOnly_congr h, d.content?_congr h, d.setContent_congr h, write]

theorem command_congr (d : Device) (h : SameKey k k') : d.command k = d.command k' := by
  unfold command
  rw [d.content?_congr h, h]

end Device

/-! ## Notices -/

/-- Two notices go to the same token and report the same handle and the same key, up to its
    spelling. -/
structure Notice.Alike (n n' : Notice) : Prop where
  token_eq : n.token = n'.token
  handle_eq : n.handle = n'.handle
  reported : SameKey (Text.Wide.scan (some n.reported)) (Text.Wide.scan (some n'.reported))

theorem Notice.Alike.refl (n : Notice) : n.Alike n := ⟨rfl, rfl, rfl⟩

namespace Driver

variable {k k' : String}

/-- Notices about a portable key report it, so its spelling is all that they differ in. -/
theorem noticesFor_respelled (h : SameKey k k') (hk : Text.Wide.Portable k)
    (hk' : Text.Wide.Portable k') (subscriptions : List Subscription) (handle : Int32) :
    List.Forall₂ Notice.Alike (noticesFor subscriptions handle k)
      (noticesFor subscriptions handle k') := by
  have hunits {s : String} (hs : Text.Wide.Portable s) :
      noticesFor subscriptions handle s =
        subscriptions.map fun x => ⟨x.token, handle, Text.Wide.encode s ++ [0]⟩ := by
    rw [noticesFor, Text.Wide.ofText_eq hs.1]
  rw [hunits hk, hunits hk', List.forall₂_map_left_iff, List.forall₂_map_right_iff,
    List.forall₂_same]
  intro x _
  refine ⟨rfl, rfl, ?_⟩
  rw [Text.Wide.scan_ofText hk.1 hk.2, Text.Wide.scan_ofText hk'.1 hk'.2]
  exact h

theorem subscribers_congr (d : Driver) (h : SameKey k k') (handle : Int32) :
    d.subscribers handle k = d.subscribers handle k' := by
  rw [subscribers, h, subscribers]

theorem fireAs_congr (d : Driver) (h : SameKey k k') (handle reportedHandle : Int32)
    (reported : String) :
    d.fireAs handle k reportedHandle reported = d.fireAs handle k' reportedHandle reported := by
  rw [fireAs, d.subscribers_congr h, fireAs]

theorem fireAs_respelled (d : Driver) (h : SameKey k k') (hk : Text.Wide.Portable k)
    (hk' : Text.Wide.Portable k') (handle : Int32) (key : String) (reportedHandle : Int32) :
    List.Forall₂ Notice.Alike (d.fireAs handle key reportedHandle k)
      (d.fireAs handle key reportedHandle k') :=
  noticesFor_respelled h hk hk' _ _

theorem fire_respelled (d : Driver) (h : SameKey k k') (hk : Text.Wide.Portable k)
    (hk' : Text.Wide.Portable k') (handle : Int32) :
    List.Forall₂ Notice.Alike (d.fire handle k) (d.fire handle k') := by
  unfold fire
  rw [d.fireAs_congr h]
  exact d.fireAs_respelled h hk hk' handle k' handle

/-! ## Calls -/

/-- Two attempts fail with the same code, or take the same effect and send alike notices. -/
inductive AlikeAttempts : Except Status Effect → Except Status Effect → Prop where
  | refused (code : Status) : AlikeAttempts (.error code) (.error code)
  | effective (d : Driver) (output : Option Output) {notices notices' : List Notice}
      (h : List.Forall₂ Notice.Alike notices notices') :
      AlikeAttempts (.ok ⟨d, output, notices⟩) (.ok ⟨d, output, notices'⟩)

theorem AlikeAttempts.refl (x : Except Status Effect) : AlikeAttempts x x := by
  cases x with
  | error code => exact .refused code
  | ok e => exact .effective e.driver e.output (List.forall₂_same.mpr fun n _ => .refl n)

/-- What is done in sequence does not differ if the second part does not. -/
theorem AlikeAttempts.bind {α : Type} (x : Except Status α) {f g : α → Except Status Effect}
    (h : ∀ a, AlikeAttempts (f a) (g a)) : AlikeAttempts (x >>= f) (x >>= g) := by
  cases x with
  | error code => exact .refused code
  | ok a => exact h a

theorem serve_respelled (d : Driver) (h : SameKey k k') (hk : Text.Wide.Portable k)
    (hk' : Text.Wide.Portable k') (handle : Int32) (r : Request) :
    AlikeAttempts (d.serve handle k r) (d.serve handle k' r) := by
  refine .bind _ fun p => ?_
  obtain ⟨index, device⟩ := p
  cases r with
  | ask c =>
    show AlikeAttempts (pure (d.answer (.word (if device.can k c then 1 else 0)))) _
    rw [device.can_congr h]
    exact .refl _
  | write w =>
    show AlikeAttempts (device.write k w >>= _) (device.write k' w >>= _)
    rw [device.write_congr h]
    exact .bind _ fun device' => .effective _ _ (fire_respelled _ h hk hk' handle)
  | command =>
    show AlikeAttempts (device.command k >>= _) (device.command k' >>= _)
    rw [device.command_congr h]
    exact .refl _
  | subscribe token =>
    show AlikeAttempts (device.contentOr k >>= _) (device.contentOr k' >>= _)
    rw [device.contentOr_congr h, h]
    exact .bind _ fun _ => .effective _ _ (noticesFor_respelled h hk hk' _ _)
  | unsubscribe token =>
    show AlikeAttempts (d.unsubscribe handle k token) (d.unsubscribe handle k' token)
    rw [unsubscribe, h, unsubscribe]
    exact .refl _
  | _ =>
    show AlikeAttempts (device.contentOr k >>= _) (device.contentOr k' >>= _)
    rw [device.contentOr_congr h]
    exact .refl _

theorem deviceCount_congr (d : Driver) (h : SameKey k k') : d.deviceCount k = d.deviceCount k' := by
  rw [deviceCount, h, deviceCount]

theorem request_respelled (d : Driver) (h : SameKey k k') (hk : Text.Wide.Portable k)
    (hk' : Text.Wide.Portable k') (handle : Int32) (r : Request) :
    AlikeAttempts (d.request handle k r) (d.request handle k' r) := by
  unfold request
  split
  · split
    · rw [d.deviceCount_congr h]
      exact .refl _
    · exact d.serve_respelled h hk hk' handle _
  · exact d.serve_respelled h hk hk' handle _

/-- The same order to fail is the first about a call, in whichever spelling. -/
theorem find?_failures_congr (d : Driver) (h : SameKey k k') (handle : Int32) (r : Request) :
    (d.failures.find? fun o => o.matches r.function (Call.feature handle k r).key?) =
      d.failures.find? fun o => o.matches r.function (Call.feature handle k' r).key? := by
  have hmatches (o : FailureOrder) :
      o.matches r.function (some k) = o.matches r.function (some k') := by
    unfold FailureOrder.matches
    cases o.key with
    | none => rfl
    | some key => simp only [keysMatch_congr h key]
  exact congrArg (d.failures.find? ·) (funext hmatches)

/-- Two outcomes of a call: the same driver, the same reply, and alike notices. -/
structure AlikeOutcomes (o o' : Outcome) : Prop where
  driver_eq : o.driver = o'.driver
  reply_eq : o.reply = o'.reply
  notices : List.Forall₂ Notice.Alike o.notices o'.notices

/-- A call does the same in each spelling of its key, but for the spelling that it reports. -/
theorem step_respelled (d : Driver) (h : SameKey k k') (hk : Text.Wide.Portable k)
    (hk' : Text.Wide.Portable k') (handle : Int32) (r : Request) :
    AlikeOutcomes (d.step (.feature handle k r)) (d.step (.feature handle k' r)) := by
  have hordered : (d.logged (.feature handle k r)).orderedFailure? (.feature handle k r) =
      (d.logged (.feature handle k' r)).orderedFailure? (.feature handle k' r) :=
    congrArg (Option.map FailureOrder.code) (d.find?_failures_congr h handle r)
  have hattempt : AlikeAttempts
      ((d.logged (.feature handle k r)).attempt (.feature handle k r))
      ((d.logged (.feature handle k' r)).attempt (.feature handle k' r)) :=
    (d.logged (.feature handle k r)).request_respelled h hk hk' handle r
  unfold step
  dsimp only
  rw [hordered]
  cases (d.logged (.feature handle k' r)).orderedFailure? (.feature handle k' r) with
  | some code => exact ⟨rfl, rfl, .nil⟩
  | none =>
    revert hattempt
    generalize (d.logged (.feature handle k r)).attempt (.feature handle k r) = x
    generalize (d.logged (.feature handle k' r)).attempt (.feature handle k' r) = x'
    intro hattempt
    cases hattempt with
    | refused code => exact ⟨rfl, rfl, .nil⟩
    | effective d' output h => exact ⟨rfl, rfl, h⟩

end Driver

end CameraControl
