import CameraControl.Feature
import CameraControl.Library.Backend
import CameraControl.Proofs.Text.Wide

/-
  What the library hands on.

  Every call that the library takes apart is put together again as a call of the same function, with
  the same arguments except for texts and buffers. A text without an early end comes out of its wide
  form as it went in, unless it is longer than a text of unknown length is read; a buffer comes out
  as far as its length can be told. Calls about registered features, and all calls whose texts and
  buffers are of this kind, therefore reach the driver unchanged.
-/

namespace CameraControl

namespace Text.Wide

/-- A text that arrives as it was sent: without an early end, and within the limit. -/
def Portable (s : String) : Prop := hasNul s = false ∧ s.length ≤ scanLimit

instance (s : String) : Decidable (Portable s) := inferInstanceAs (Decidable (_ ∧ _))

end Text.Wide

/-! ## Calls -/

namespace Library

/-- A text as it arrives at the driver. -/
def passText? (s : String) : Option String := (Text.Wide.ofText s).toOption.map read

/-- A value as it arrives at the driver. -/
def passWrite? : Write → Option Write
  | .enumText s => (passText? s).map .enumText
  | .text s => (passText? s).map .text
  | w => some w

/-- A request as it arrives at the driver. -/
def passRequest? : Request → Option Request
  | .write w => (passWrite? w).map .write
  | .enumText i buffer => some (.enumText i (buffer.take lengthLimit))
  | .text buffer => some (.text (buffer.take lengthLimit))
  | r => some r

/-- The length that is told of a buffer covers all of it that can be told. -/
theorem take_bufferLength (buffer : List Int32) :
    buffer.take (bufferLength buffer).toInt.toNat = buffer.take lengthLimit := by
  have hle : min buffer.length lengthLimit ≤ 2147483647 := Nat.min_le_right _ _
  have hlength : (bufferLength buffer).toInt.toNat = min lengthLimit buffer.length := by
    rw [bufferLength, Int32.toInt_ofNat_of_lt (by omega), Int.toNat_natCast, Nat.min_comm]
  rw [hlength, ← List.take_eq_take_min]

/-- A value is put together again as it was taken apart, except for its texts. -/
theorem receiveRequest?_writeArguments (w : Write) :
    (writeArguments w).toOption.bind (receiveRequest? w.function) = (passWrite? w).map .write := by
  -- the two functions that take a text treat it in the same way
  have htext {f : Function} {g : String → Write}
      (hf : ∀ units, receiveRequest? f [.text units] = some (.write (g (read units))))
      (s : String) :
      (do return [Argument.text (← Text.Wide.ofText s)] :
        Except Fault (List Argument)).toOption.bind (receiveRequest? f) =
        ((passText? s).map g).map .write := by
    cases hs : Text.Wide.ofText s with
    | error fault => rw [passText?, hs]; rfl
    | ok units => rw [passText?, hs]; exact hf units
  cases w with
  | enumText s => exact htext (fun _ => rfl) s
  | text s => exact htext (fun _ => rfl) s
  | _ => rfl

/-- A request is put together again as it was taken apart, except for its texts and buffers. -/
theorem receiveRequest?_requestArguments (r : Request) :
    (requestArguments r).toOption.bind (receiveRequest? r.function) = passRequest? r := by
  cases r with
  | ask c => cases c <;> rfl
  | read reading => cases reading <;> rfl
  | enumText i buffer =>
    exact congrArg (fun units => some (Request.enumText i units)) (take_bufferLength buffer)
  | text buffer =>
    exact congrArg (fun units => some (Request.text units)) (take_bufferLength buffer)
  | write w => exact receiveRequest?_writeArguments w
  | _ => rfl

/-- The functions that serve requests get the handle and the key first. -/
theorem receive?_request (r : Request) (handle : Int32) (key : List Int32)
    (arguments : List Argument) :
    receive? ⟨r.function, .word handle :: .text key :: arguments⟩ =
      (receiveRequest? r.function arguments).map (.feature handle (read key)) := by
  cases r with
  | ask c => cases c <;> rfl
  | read reading => cases reading <;> rfl
  | write w => cases w <;> rfl
  | _ => rfl

theorem pass?_feature (handle : Int32) (key : String) (r : Request) :
    pass? (.feature handle key r) =
      (do
        let key ← passText? key
        let r ← passRequest? r
        pure (.feature handle key r)) := by
  rw [← receiveRequest?_requestArguments r, pass?, passText?]
  -- the key is the first text that may be refused; those of the request come after it
  cases hkey : Text.Wide.ofText key with
  | error fault =>
    have hforward : forward (.feature handle key r) = .error fault := by
      rw [forward, hkey]
      rfl
    rw [hforward]
    rfl
  | ok units =>
    cases hr : requestArguments r with
    | error fault =>
      have hforward : forward (.feature handle key r) = .error fault := by
        rw [forward, hkey, hr]
        rfl
      rw [hforward]
      rfl
    | ok arguments =>
      have hforward : forward (.feature handle key r) =
          .ok ⟨r.function, .word handle :: .text units :: arguments⟩ := by
        rw [forward, hkey, hr]
        rfl
      rw [hforward]
      show receive? ⟨r.function, .word handle :: .text units :: arguments⟩ =
        (receiveRequest? r.function arguments).bind fun r => some (.feature handle (read units) r)
      rw [receive?_request]
      exact Option.map_eq_bind

/-- Calls that are not about a feature pass unchanged. -/
theorem pass?_of_key?_none {c : Call} (h : c.key? = none) : pass? c = some c := by
  cases c with
  | feature => cases h
  | _ => rfl

end Library

/-! ## Portable calls -/

/-- The texts of a value arrive as they were sent. -/
def Write.Portable : Write → Prop
  | enumText s | text s => Text.Wide.Portable s
  | _ => True

instance : DecidablePred Write.Portable
  | .enumText s | .text s => inferInstanceAs (Decidable (Text.Wide.Portable s))
  | .int _ | .float _ | .bool _ | .enumIndex _ => isTrue trivial

/-- The texts of a request arrive as they were sent, and the length of its buffer can be told. -/
def Request.Portable : Request → Prop
  | write w => w.Portable
  | enumText _ buffer | text buffer => buffer.length ≤ Library.lengthLimit
  | _ => True

instance : DecidablePred Request.Portable
  | .write w => inferInstanceAs (Decidable w.Portable)
  | .enumText _ buffer | .text buffer =>
    inferInstanceAs (Decidable (buffer.length ≤ Library.lengthLimit))
  | .ask _ | .read _ | .isIndexAvailable _ | .isIndexImplemented _ | .command | .subscribe _
  | .unsubscribe _ => isTrue trivial

/-- The texts and the buffer of a call arrive as they were sent. -/
def Call.Portable : Call → Prop
  | feature _ key r => Text.Wide.Portable key ∧ r.Portable
  | _ => True

instance : DecidablePred Call.Portable
  | .feature _ key r => inferInstanceAs (Decidable (Text.Wide.Portable key ∧ r.Portable))
  | .open _ | .close _ | .queue _ _ _ | .wait _ _ | .flush _ => isTrue trivial

/-- The keys of the registered features arrive as they were sent. -/
theorem Feature.portable_key (f : Feature) : Text.Wide.Portable f.key := by
  cases f <;> decide +kernel

namespace Library

/-- A text without an early end arrives as far as the library reads it. -/
theorem passText?_of_hasNul {s : String} (hnul : Text.Wide.hasNul s = false) :
    passText? s = some (String.ofList (s.toList.take Text.Wide.scanLimit)) := by
  unfold passText?
  rw [Text.Wide.ofText_eq hnul]
  exact congrArg some (Text.Wide.scan_encode hnul [])

theorem passText?_eq {s : String} (h : Text.Wide.Portable s) : passText? s = some s := by
  rw [passText?_of_hasNul h.1, List.take_of_length_le (by rw [String.length_toList]; exact h.2),
    String.ofList_toList]

theorem passWrite?_eq {w : Write} (h : w.Portable) : passWrite? w = some w := by
  cases w with
  | enumText s => rw [passWrite?, passText?_eq h, Option.map_some]
  | text s => rw [passWrite?, passText?_eq h, Option.map_some]
  | _ => rfl

theorem passRequest?_eq {r : Request} (h : r.Portable) : passRequest? r = some r := by
  cases r with
  | write w => rw [passRequest?, passWrite?_eq h, Option.map_some]
  | enumText i buffer => rw [passRequest?, List.take_of_length_le h]
  | text buffer => rw [passRequest?, List.take_of_length_le h]
  | _ => rfl

/-- A portable call reaches the driver unchanged. -/
theorem pass?_eq {c : Call} (h : c.Portable) : pass? c = some c := by
  cases c with
  | feature handle key r =>
    rw [pass?_feature, passText?_eq h.1, passRequest?_eq h.2]
    rfl
  | _ => exact pass?_of_key?_none rfl

end Library

theorem Backend.pass?_eq (b : Backend) {c : Call} (h : c.Portable) : b.pass? c = some c := by
  cases b with
  | direct => rfl
  | library => exact Library.pass?_eq h

/-! ## Calls that arrive -/

/-- A call arrives as it is, or it is about a feature and its texts or its buffer may have
    changed. -/
theorem Backend.pass?_cases {b : Backend} {c c' : Call} (h : b.pass? c = some c') :
    c' = c ∨ ∃ handle key key' r r', c = .feature handle key r ∧ c' = .feature handle key' r' ∧
      Library.passRequest? r = some r' := by
  cases b with
  | direct => exact .inl (Option.some.inj h).symm
  | library =>
    cases c with
    | feature handle key r =>
      rw [Backend.pass?, Library.pass?_feature] at h
      obtain ⟨key', -, h⟩ := Option.bind_eq_some_iff.mp h
      obtain ⟨r', hr', h⟩ := Option.bind_eq_some_iff.mp h
      exact .inr ⟨handle, key, key', r, r', rfl, (Option.some.inj h).symm, hr'⟩
    | _ =>
      rw [Backend.pass?, Library.pass?_of_key?_none rfl] at h
      exact .inl (Option.some.inj h).symm

/-- A request arrives as it is, or it is a write, or it has a buffer. -/
theorem Library.passRequest?_cases {r r' : Request} (h : passRequest? r = some r') :
    r' = r ∨ (∃ w w', r = .write w ∧ r' = .write w' ∧ passWrite? w = some w') ∨
      (∃ i buffer buffer', r = .enumText i buffer ∧ r' = .enumText i buffer') ∨
      ∃ buffer buffer', r = .text buffer ∧ r' = .text buffer' := by
  cases r with
  | write w =>
    obtain ⟨w', hw', rfl⟩ := Option.map_eq_some_iff.mp h
    exact .inr (.inl ⟨w, w', rfl, rfl, hw'⟩)
  | enumText i buffer => exact .inr (.inr (.inl ⟨i, buffer, _, rfl, (Option.some.inj h).symm⟩))
  | text buffer => exact .inr (.inr (.inr ⟨buffer, _, rfl, (Option.some.inj h).symm⟩))
  | _ => exact .inl (Option.some.inj h).symm

/-- A write gets to the driver under its key. Its value is the same when it arrives, if it holds no
    text that is cut on the way. -/
theorem Backend.pass?_write {b : Backend} {handle : Int32} {key : String} {v : Write} {c' : Call}
    (hkey : key.length ≤ Text.Wide.scanLimit)
    (h : b.pass? (.feature handle key (.write v)) = some c') :
    ∃ v', c' = .feature handle key (.write v') ∧ (b = .direct ∨ v.Portable → v' = v) := by
  cases b with
  | direct => exact ⟨v, (Option.some.inj h).symm, fun _ => rfl⟩
  | library =>
    rw [pass?, Library.pass?_feature] at h
    obtain ⟨key', hpass, h⟩ := Option.bind_eq_some_iff.mp h
    obtain ⟨r, hr, h⟩ := Option.bind_eq_some_iff.mp h
    obtain ⟨v', hv', rfl⟩ := Option.map_eq_some_iff.mp hr
    -- a key that is not refused has no early end
    have hnul : Text.Wide.hasNul key = false := by
      by_contra hnul
      rw [Library.passText?, Text.Wide.ofText, if_pos (Bool.not_eq_false _ ▸ hnul)] at hpass
      cases hpass
    rw [Library.passText?_eq ⟨hnul, hkey⟩] at hpass
    obtain rfl := Option.some.inj hpass
    refine ⟨v', (Option.some.inj h).symm, fun hsame => ?_⟩
    have hportable : v.Portable := hsame.resolve_left fun h => by cases h
    rw [Library.passWrite?_eq hportable] at hv'
    exact (Option.some.inj hv').symm

end CameraControl
