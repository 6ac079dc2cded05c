import CameraControl.Proofs.Camera.Enumerating
import CameraControl.Proofs.Camera.Glancing
import CameraControl.Proofs.Script.ReadBack
import CameraControl.Proofs.Settings.Fitting

/-
  Texts through buffers.

  The driver writes a text into a buffer of the caller, cut to its length and with an end mark if
  there is room; a camera reads into 256 units of which the last is taken for the end mark. What a
  camera gets of a text is `Text.cut` of it, and a buffer holds the whole text exactly if it is long
  enough. A text with the character of code 0 is never sent, and any other that a setter succeeds
  with is what the driver holds afterwards: `texts_survive`.

  Lengths, counts and indices are numbers of 32 bits, and the library reads no more than 4096
  characters of a text. `texts_fail_beyond_limits` has a text, a list of options and an index for
  each of these limits that go beyond it and are lost.
-/

namespace CameraControl

/-! ## Texts -/

namespace Text

/-- Of a text without an early end, the first 255 characters come out of the buffer of a camera. -/
theorem cut_eq_take {s : String} (hnul : Wide.hasNul s = false) :
    cut s = String.ofList (s.toList.take 255) := by
  rw [cut, Wide.takeWhile_toList hnul]

/-- The first characters of a text are all of it if it has no more. -/
theorem ofList_take_eq_self_iff (s : String) (n : Nat) :
    String.ofList (s.toList.take n) = s ↔ s.length ≤ n := by
  rw [← String.length_toList]
  constructor
  · intro h
    have hlength := congrArg (fun s => s.toList.length) h
    simp only [String.toList_ofList, List.length_take] at hlength
    omega
  · intro h
    rw [List.take_of_length_le h, String.ofList_toList]

/-- Such a text comes out whole if it fits. -/
theorem cut_eq_self_iff {s : String} (hnul : Wide.hasNul s = false) :
    cut s = s ↔ s.length ≤ 255 := by
  rw [cut_eq_take hnul, ofList_take_eq_self_iff]

/-- A buffer holds a text without an early end exactly if it has room for all characters. -/
theorem Wide.toText_fill_eq_self_iff {s : String} (hnul : hasNul s = false)
    (buffer : List Int32) : toText (fill s buffer) = s ↔ s.length ≤ buffer.length := by
  rw [toText_fill_eq, takeWhile_toList hnul, ofList_take_eq_self_iff]

/-- A text of one character, repeated. -/
def repeated (n : Nat) : String := String.ofList (List.replicate n 'x')

theorem length_repeated (n : Nat) : (repeated n).length = n := by
  rw [repeated, String.length_ofList, List.length_replicate]

theorem hasNul_repeated (n : Nat) : Wide.hasNul (repeated n) = false := by
  rw [Wide.hasNul, repeated, String.toList_ofList, List.any_eq_false]
  intro c hc
  rw [List.eq_of_mem_replicate hc]
  decide

theorem take_repeated {m n : Nat} (h : m ≤ n) :
    String.ofList ((repeated n).toList.take m) = repeated m := by
  rw [repeated, String.toList_ofList, List.take_replicate, Nat.min_eq_left h, repeated]

/-- A text behind others is found at the number of those. -/
theorem findIdx?_behind (n : Nat) :
    (List.replicate n "a" ++ ["b"]).findIdx? (· == "b") = some n := by
  have hothers : (List.replicate n "a").findIdx? (· == "b") = none := by
    refine List.findIdx?_eq_none_iff.mpr fun x hx => ?_
    rw [List.eq_of_mem_replicate hx]
    decide
  rw [List.findIdx?_append, hothers]
  simp

end Text

/-! ## Replies -/

namespace Driver

variable {d : Driver} {handle : Int32} {f : Feature} {v : String} {buffer : List Int32}

/-- Without orders for failures every request is granted. -/
theorem grants_of_obedient {r : Request} (h : d.failures = []) : d.Grants handle f r := by
  rw [Grants, orderedFailure?, h]
  rfl

/-- The reply to a granted request about a feature that holds something, from what serving it comes
    to once the feature has been looked up. -/
theorem reply_of_request {r : Request} {c : Content} {output : Output}
    (hgrant : d.Grants handle f r) (hholds : d.holds? handle f = some c)
    (hserve : ∀ {d' : Driver} {i : Nat} {device : Device}, d'.opened? handle = .ok (i, device) →
      device.contentOr f.key = .ok c → d'.request handle f.key r = .ok (d'.answer output)) :
    (d.step (.feature handle f.key r)).reply = ⟨Status.success, some output⟩ := by
  obtain ⟨device, hdevice, hcontent⟩ := Option.bind_eq_some_iff.mp hholds
  obtain ⟨i, hopen⟩ := opened?_logged (c := .feature handle f.key r) hdevice
  have hok : device.contentOr f.key = .ok c := by rw [Device.contentOr, hcontent]
  rw [step_of_attempt hgrant (hserve hopen hok)]
  rfl

/-- Reading the value of a text feature fills the buffer with it. -/
theorem reply_text (hgrant : d.Grants handle f (.text buffer))
    (hholds : d.holds? handle f = some (.text v)) :
    (d.step (.feature handle f.key (.text buffer))).reply =
      ⟨Status.success, some (.buffer (Text.Wide.fill v buffer))⟩ := by
  refine reply_of_request hgrant hholds fun {d' i device} hopen hok => ?_
  show d'.serve handle f.key (.text buffer) = _
  unfold serve
  rw [hopen]
  show (device.contentOr f.key >>= _) = _
  rw [hok]
  rfl

/-- Reading an option fills the buffer with it. -/
theorem reply_option {c : Content} {i : Int32} (hgrant : d.Grants handle f (.enumText i buffer))
    (hholds : d.holds? handle f = some c) (hoption : c.option i = .ok v) :
    (d.step (.feature handle f.key (.enumText i buffer))).reply =
      ⟨Status.success, some (.buffer (Text.Wide.fill v buffer))⟩ := by
  refine reply_of_request hgrant hholds fun {d' j device} hopen hok => ?_
  show d'.serve handle f.key (.enumText i buffer) = _
  unfold serve
  rw [hopen]
  show (device.contentOr f.key >>= _) = _
  rw [hok]
  show (c.option i >>= _) = _
  rw [hoption]
  rfl

/-! ## Texts that were written -/

variable {d' : Driver}

/-- A write that contents admit takes effect if callers may write the feature. -/
theorem takesEffect_of_editable {device : Device} {c c' : Content} {write : Write}
    (hgrant : d.Grants handle f (.write write)) (hdevice : d.device? handle = some device)
    (heditable : device.Editable f c) (hwrite : c.write write = .ok c') :
    d.TakesEffect (.feature handle f.key (.write write)) := by
  have hstatus := status_write hdevice hgrant
  rw [heditable.write_eq, hwrite] at hstatus
  exact ⟨hgrant, hstatus⟩

theorem Written.holds_text (h : Written d d' handle f.key (.text v)) :
    d'.holds? handle f = some (.text v) := by
  obtain ⟨c, c', -, hwrite, -, hafter⟩ := h.stored
  cases c with
  | text old =>
    simp only [Content.write] at hwrite
    split at hwrite
    · cases hwrite
    · obtain rfl := Except.ok.inj hwrite
      exact hafter
  | _ => cases hwrite

/-- An option that was written by its text is the first one of this text. -/
theorem Written.holds_enumText (h : Written d d' handle f.key (.enumText v)) :
    ∃ index options pos, d.holds? handle f = some (.enum index options) ∧
      options[pos]? = some v ∧ (∀ j < pos, options[j]? ≠ some v) ∧
      d'.holds? handle f = some (.enum (Int32.ofNat pos) options) := by
  obtain ⟨c, c', hbefore, hwrite, -, hafter⟩ := h.stored
  cases c with
  | enum index options =>
    simp only [Content.write] at hwrite
    split at hwrite
    · cases hwrite
    · split at hwrite
      · next pos hfind =>
        obtain rfl := Except.ok.inj hwrite
        obtain ⟨hlt, hpos, hfirst⟩ := List.findIdx?_eq_some_iff_getElem.mp hfind
        refine ⟨index, options, pos, hbefore, ?_, fun j hj hv => ?_, hafter⟩
        · rw [List.getElem?_eq_getElem hlt, eq_of_beq hpos]
        · obtain ⟨hlt', rfl⟩ := List.getElem?_eq_some_iff.mp hv
          exact hfirst j hj (beq_self_eq_true _)
      · cases hwrite
  | _ => cases hwrite

end Driver

/-- The length that is told for the buffer of a text, if it is a number of 32 bits. -/
theorem Content.textMaxLength_toInt {v : String} (h : v.length + 1 < 2147483648) :
    (textMaxLength v).toInt = max (v.length + 1) 64 := by
  have hsum : (Int32.ofNat v.length + 1).toInt = (v.length + 1 : Nat) := by
    rw [show Int32.ofNat v.length + 1 = Int32.ofNat (v.length + 1) from (Int32.ofNat_add _ 1).symm,
      Int32.toInt_ofNat_of_lt h]
  have hmax : textMaxLength v = if Int32.ofNat v.length + 1 ≤ 64 then 64 else
      Int32.ofNat v.length + 1 := rfl
  have hconst : (64 : Int32).toInt = 64 := rfl
  rw [hmax]
  split
  · next hle =>
    rw [Int32.le_iff_toInt_le, hsum] at hle
    omega
  · next hle =>
    rw [Int32.le_iff_toInt_le, hsum] at hle
    omega

/-- The text is one character too long: its length with the end mark is none of 32 bits. -/
theorem Content.textMaxLength_of_length {v : String} (h : v.length = 2147483647) :
    textMaxLength v = 64 := by
  rw [textMaxLength, h]
  decide

theorem Content.option_enum {index i : Int32} {options : List String} {v : String}
    (hi : 0 ≤ i.toInt) (hv : options[i.toInt.toNat]? = some v) :
    (Content.enum index options).option i = .ok v := by
  simp only [option, if_pos hi, hv]

/-- An option that is written by its text is kept by the number of the first one of this text. -/
theorem Content.write_enumText (index : Int32) {options : List String} {v : String} {pos : Nat}
    (hnul : Text.Wide.hasNul v = false) (hpos : options.findIdx? (· == v) = some pos) :
    (enum index options).write (.enumText v) = .ok (.enum (Int32.ofNat pos) options) := by
  simp only [write, hnul, hpos]
  rfl

/-- Looking at the driver changes neither what it holds nor which requests it grants. -/
theorem World.Looked.holds?_eq {w w' : World} (h : w.Looked w') (handle : Int32) (f : Feature) :
    w'.driver.holds? handle f = w.driver.holds? handle f := by
  obtain ⟨calls, rfl⟩ := h
  rfl

theorem World.Looked.grants {w w' : World} (h : w.Looked w') {handle : Int32} {f : Feature}
    {r : Request} (hgrant : w.driver.Grants handle f r) : w'.driver.Grants handle f r := by
  obtain ⟨calls, rfl⟩ := h
  exact hgrant

namespace Action

variable {α β : Type} {w : World}

theorem exec_of_outcome {a : Action α} {x : α} (ha : (a.exec w).1 = .ok x) :
    a.exec w = (.ok x, (a.exec w).2) :=
  Prod.ext ha rfl

/-- What comes after a part that succeeds. -/
theorem outcome_bind {a : Action α} {f : α → Action β} {x : α} (ha : (a.exec w).1 = .ok x) :
    ((a >>= f).exec w).1 = ((f x).exec (a.exec w).2).1 := by
  rw [exec_bind_of_ok (exec_of_outcome ha)]

/-- Where a part fails, all fails. -/
theorem outcome_bind_of_error {a : Action α} {f : α → Action β} {fault : Fault}
    (ha : (a.exec w).1 = .error fault) : ((a >>= f).exec w).1 = .error fault := by
  have hexec : a.exec w = (.error fault, (a.exec w).2) := Prod.ext ha rfl
  rw [exec_bind_of_error hexec]

/-- Looking at things one after another finds what looking at each of them finds. -/
theorem outcome_mapM {f : α → Action β} {g : α → β} (hglances : ∀ x, (f x).Glances) (l : List α)
    (hf : ∀ x ∈ l, ∀ w', w.Looked w' → ((f x).exec w').1 = .ok (g x)) :
    ((l.mapM f).exec w).1 = .ok (l.map g) := by
  induction l generalizing w with
  | nil => rfl
  | cons x rest ih =>
    have hfirst := hf x List.mem_cons_self w (.refl w)
    have hlooked : w.Looked ((f x).exec w).2 := hglances x w
    have hrest := ih (w := ((f x).exec w).2) fun y hy w' h =>
      hf y (List.mem_cons_of_mem x hy) w' (hlooked.trans h)
    rw [List.mapM_cons, outcome_bind hfirst, outcome_bind hrest]
    rfl

end Action

namespace Camera

open CameraControl.Action World

variable {cam : Camera} {f : Feature} {w w' : World} {v : String}

/-! ## Reading -/

/-- A request that reads gives the reply of the driver. -/
theorem request_of_reply (cam : Camera) (f : Feature) (r : Request) (hr : r.isReading = true)
    (hportable : r.Portable) (detail : String) {output : Output}
    (hreply : (w.driver.step (.feature cam.handle f.key r)).reply =
      ⟨Status.success, some output⟩) :
    ((cam.request f r detail).exec w).1 = .ok ⟨Status.success, some output⟩ := by
  rw [request, exec_call, w.call_reading cam.handle f r hr hportable, hreply]
  rfl

/-- A request that reads fails with the driver. -/
theorem request_of_status (cam : Camera) (f : Feature) (r : Request) (hr : r.isReading = true)
    (hportable : r.Portable) (detail : String)
    (hstatus : (w.driver.step (.feature cam.handle f.key r)).reply.status ≠ Status.success) :
    ∃ fault, ((cam.request f r detail).exec w).1 = .error fault := by
  rw [request, exec_call, w.call_reading cam.handle f r hr hportable]
  exact ⟨_, if_neg hstatus⟩

theorem text_of_holds (hgrant : w.driver.Grants cam.handle f (.text textBuffer))
    (hholds : w.driver.holds? cam.handle f = some (.text v)) :
    ((cam.text f).exec w).1 = .ok (Text.cut v) := by
  have hrequest := request_of_reply cam f (.text textBuffer) rfl textBuffer_fits ""
    (Driver.reply_text hgrant hholds)
  rw [text, outcome_bind hrequest, bufferText_fill]
  rfl

theorem enumTextAt_of_holds {c : Content} {i : Int32}
    (hgrant : w.driver.Grants cam.handle f (.enumText i textBuffer))
    (hholds : w.driver.holds? cam.handle f = some c) (hoption : c.option i = .ok v) :
    ((cam.enumTextAt f i).exec w).1 = .ok (Text.cut v) := by
  have hrequest := request_of_reply cam f (.enumText i textBuffer) rfl textBuffer_fits
    s!" with index {i}" (Driver.reply_option hgrant hholds hoption)
  rw [enumTextAt, outcome_bind hrequest, bufferText_fill]
  rfl

/-- Reading an index, a count or a length. -/
theorem readWord_of_holds {ρ : Reading} {c : Content} {n : Int32} (hρ : ρ ≠ .int)
    (hgrant : w.driver.Grants cam.handle f (.read ρ))
    (hholds : w.driver.holds? cam.handle f = some c) (hread : c.read? ρ = some (.word n)) :
    ((cam.readWord f ρ).exec w).1 = .ok n := by
  have hrequest : ((cam.read f ρ).exec w).1 = .ok ⟨Status.success, some (.word n)⟩ :=
    request_of_reply cam f (.read ρ) rfl trivial ""
      (Driver.reply_read hgrant (fun h => absurd h hρ) hholds hread)
  rw [readWord, outcome_bind hrequest]
  rfl

/-- The current option, if the index is that of one. -/
theorem enumText_of_holds {index : Int32} {options : List String} (hi : 0 ≤ index.toInt)
    (hv : options[index.toInt.toNat]? = some v)
    (hindex : w.driver.Grants cam.handle f (.read .enumIndex))
    (hgrant : w.driver.Grants cam.handle f (.enumText index textBuffer))
    (hholds : w.driver.holds? cam.handle f = some (.enum index options)) :
    ((cam.enumText f).exec w).1 = .ok (Text.cut v) := by
  have hread : ((cam.enumIndex f).exec w).1 = .ok index :=
    readWord_of_holds (by decide) hindex hholds rfl
  have hlooked : w.Looked ((cam.enumIndex f).exec w).2 := cam.readWord_glances f .enumIndex w
  rw [enumText, outcome_bind hread]
  exact enumTextAt_of_holds (hlooked.grants hgrant) ((hlooked.holds?_eq _ _).trans hholds)
    (Content.option_enum hi hv)

/-- A negative index is that of no option. -/
theorem enumText_of_negative {index : Int32} {options : List String} (hi : index.toInt < 0)
    (hindex : w.driver.Grants cam.handle f (.read .enumIndex))
    (hgrant : w.driver.Grants cam.handle f (.enumText index textBuffer))
    (hholds : w.driver.holds? cam.handle f = some (.enum index options)) :
    ∃ fault, ((cam.enumText f).exec w).1 = .error fault := by
  have hread : ((cam.enumIndex f).exec w).1 = .ok index :=
    readWord_of_holds (by decide) hindex hholds rfl
  have hlooked : w.Looked ((cam.enumIndex f).exec w).2 := cam.readWord_glances f .enumIndex w
  obtain ⟨device, hdevice, -⟩ :=
    Option.bind_eq_some_iff.mp ((hlooked.holds?_eq cam.handle f).trans hholds)
  obtain ⟨hsuccess, -⟩ := Driver.status_option_iff hdevice (r := .enumText index textBuffer) rfl
    (hlooked.grants hgrant)
  obtain ⟨fault, hfault⟩ := request_of_status cam f (.enumText index textBuffer) rfl
    textBuffer_fits s!" with index {index}" fun hstatus => by
      obtain ⟨_, _, -, hle, -⟩ := hsuccess.mp hstatus
      omega
  rw [enumText, outcome_bind hread]
  exact ⟨fault, outcome_bind_of_error hfault⟩

/-- The option at a number, as the driver counts them. -/
theorem enumTextAt_of_lt {index : Int32} {options : List String} {i : Nat}
    (hi : i < options.length) (hsmall : i < 2147483648)
    (hgrant : w.driver.Grants cam.handle f (.enumText (Int32.ofNat i) textBuffer))
    (hholds : w.driver.holds? cam.handle f = some (.enum index options)) :
    ((cam.enumTextAt f (Int32.ofNat i)).exec w).1 = .ok (Text.cut options[i]) := by
  have hnonneg : 0 ≤ (Int32.ofNat i).toInt := by
    rw [Int32.toInt_ofNat_of_lt hsmall]
    exact Int.natCast_nonneg i
  have hoption : options[(Int32.ofNat i).toInt.toNat]? = some options[i] := by
    rw [Enumeration.toNat_ofNat hsmall, List.getElem?_eq_getElem hi]
  exact enumTextAt_of_holds hgrant hholds (Content.option_enum hnonneg hoption)

/-- The driver counts the options in 32 bits, and never counts more than there are. -/
theorem counted_le (n : Nat) : (Int32.ofNat n).toInt.toNat ≤ n := by
  rw [Int32.toInt_ofNat', Int.bmod_def]
  have hsize : Int32.size = 4294967296 := rfl
  rw [hsize]
  split <;> omega

/-- All options that the driver counts. -/
theorem enumTexts_of_holds {index : Int32} {options : List String}
    (hcount : w.driver.Grants cam.handle f (.read .enumCount))
    (hgrant : ∀ i, w.driver.Grants cam.handle f (.enumText i textBuffer))
    (hholds : w.driver.holds? cam.handle f = some (.enum index options)) :
    ((cam.enumTexts f).exec w).1 =
      .ok ((options.take (Int32.ofNat options.length).toInt.toNat).map Text.cut) := by
  have hread : ((cam.enumCount f).exec w).1 = .ok (Int32.ofNat options.length) :=
    readWord_of_holds (by decide) hcount hholds rfl
  have hlooked : w.Looked ((cam.enumCount f).exec w).2 := cam.readWord_glances f .enumCount w
  have hle := counted_le options.length
  have hsmall : (Int32.ofNat options.length).toInt.toNat < 2147483648 := by
    have hbound := (Int32.ofNat options.length).toInt_lt
    omega
  rw [enumTexts, outcome_bind hread]
  generalize (Int32.ofNat options.length).toInt.toNat = n at hle hsmall
  have hall := outcome_mapM (w := ((cam.enumCount f).exec w).2)
    (g := fun i => Text.cut (options[i]?.getD ""))
    (fun i => cam.enumTextAt_glances f (Int32.ofNat i)) (List.range n) fun i hi w' h => by
      have hi := List.mem_range.mp hi
      have hlt : i < options.length := by omega
      have hlooked := hlooked.trans h
      rw [enumTextAt_of_lt hlt (by omega) (hlooked.grants (hgrant _))
        ((hlooked.holds?_eq _ _).trans hholds), List.getElem?_eq_getElem hlt]
      rfl
  rw [hall]
  congr 1
  apply List.ext_getElem
  · simp only [List.length_map, List.length_range, List.length_take]
    omega
  · intro i hi hi'
    have hin : i < options.length := by
      simp only [List.length_map, List.length_range] at hi
      omega
    simp [List.getElem?_eq_getElem hin]

/-! ## Writing -/

variable {write : Write}

theorem unbroken_of_text (htext : writtenText? write = some v)
    (hnul : Text.Wide.hasNul v = false) : (Request.write write).Unbroken := by
  intro s hs
  obtain rfl : v = s := Option.some.inj (htext.symm.trans hs)
  exact hnul

/-- A text that would end early is refused before the call. -/
theorem write_of_nul (htext : writtenText? write = some v) (hnul : Text.Wide.hasNul v = true) :
    (cam.write f write).exec w = (.error (.interiorNul v), w) := by
  have hbroken : ¬(Request.write write).Unbroken := fun h =>
    Bool.false_ne_true ((h v htext).symm.trans hnul)
  obtain ⟨s, hs, -, hthrow⟩ := cam.write_of_broken f hbroken
  obtain rfl : v = s := Option.some.inj (htext.symm.trans hs)
  rw [hthrow]
  rfl

/-- A text is refused for that reason only if it would end early. -/
theorem write_interiorNul_iff (cam : Camera) (f : Feature) (w : World)
    (htext : writtenText? write = some v) :
    ((cam.write f write).exec w).1 = .error (.interiorNul v) ↔ Text.Wide.hasNul v = true := by
  constructor
  · intro h
    by_contra hnul
    have hunbroken := unbroken_of_text htext (by simpa using hnul)
    rw [write_exec cam (p := (f, write)) hunbroken] at h
    dsimp only at h
    split at h
    · cases h
    · cases h
  · intro hnul
    rw [write_of_nul htext hnul]

/-- A text that a setter succeeds with reached the driver, and the write took effect. Through the
    library only texts within the limit arrive whole. -/
theorem wrote_of_write (htext : writtenText? write = some v) (hquiet : w.Quiet)
    (hgrant : w.driver.Grants cam.handle f (.write write))
    (harrives : w.backend = .direct ∨ v.length ≤ Text.Wide.scanLimit)
    (h : (cam.write f write).exec w = (.ok (), w')) :
    Text.Wide.hasNul v = false ∧ w.Wrote w' cam.handle f.key write := by
  have hnul : Text.Wide.hasNul v = false := by
    by_contra hnul
    rw [write_of_nul htext (by simpa using hnul)] at h
    cases h
  have hunbroken := unbroken_of_text htext hnul
  have hpass : w.backend.pass? (cam.setter (f, write)) = some (cam.setter (f, write)) := by
    rcases harrives with hdirect | hlength
    · rw [hdirect]
      rfl
    · have hportable : write.Portable := by
        cases write with
        | enumText s | text s =>
          obtain rfl : s = v := Option.some.inj htext
          exact ⟨hnul, hlength⟩
        | _ => trivial
      exact Backend.pass?_eq _ ⟨f.portable_key, hportable⟩
  have hexec := write_exec cam (p := (f, write)) hunbroken w
  rw [(World.driver_call hquiet hpass).1, h] at hexec
  have hstatus : (w.driver.step (cam.setter (f, write))).reply.status = Status.success := by
    by_contra hstatus
    rw [if_neg hstatus] at hexec
    cases hexec
  obtain ⟨w'', hok, hwrote⟩ := write_of_passed hunbroken hquiet hpass ⟨hgrant, hstatus⟩
  obtain ⟨-, rfl⟩ := Prod.mk.inj (h.symm.trans hok)
  exact ⟨hnul, hwrote⟩

/-- A request of one's own with a buffer gets the whole of a text. -/
def GetsWhole (cam : Camera) (f : Feature) (v : String) (buffer : List Int32) (w : World) : Prop :=
  ∃ units, (w.call (.feature cam.handle f.key (.text buffer))).1 =
      ⟨Status.success, some (.buffer units)⟩ ∧
    Text.Wide.toText units = v

/-- A buffer that the library gets all of holds a text exactly if it is long enough. -/
theorem getsWhole_iff (hnul : Text.Wide.hasNul v = false)
    (hholds : w.driver.holds? cam.handle f = some (.text v)) {buffer : List Int32}
    (hgrant : w.driver.Grants cam.handle f (.text buffer))
    (hportable : (Request.text buffer).Portable) :
    cam.GetsWhole f v buffer w ↔ v.length ≤ buffer.length := by
  have hcall : (w.call (.feature cam.handle f.key (.text buffer))).1 =
      ⟨Status.success, some (.buffer (Text.Wide.fill v buffer))⟩ := by
    rw [w.call_reading cam.handle f (.text buffer) rfl hportable]
    exact Driver.reply_text hgrant hholds
  rw [GetsWhole, hcall, ← Text.Wide.toText_fill_eq_self_iff hnul]
  constructor
  · rintro ⟨units, hunits, hwhole⟩
    cases hunits
    exact hwhole
  · exact fun h => ⟨_, rfl, h⟩

/-- A text that a setter left behind, read in each way: by the camera, its length, and by a request
    of one's own with a buffer. -/
structure LeftText (cam : Camera) (f : Feature) (v : String) (w : World) : Prop where
  holds : w.driver.holds? cam.handle f = some (.text v)
  text : w.driver.Grants cam.handle f (.text textBuffer) →
    (((cam.text f).exec w).1 = .ok v ↔ v.length ≤ 255)
  whole : ∀ buffer, w.driver.Grants cam.handle f (.text buffer) → (Request.text buffer).Portable →
    (cam.GetsWhole f v buffer w ↔ v.length ≤ buffer.length)
  /-- The length that the driver tells, if this is a number of 32 bits, and a buffer of this
      length. -/
  told : v.length + 1 < 2147483648 → ∃ n : Int32, n.toInt = max (v.length + 1) 64 ∧
    (w.driver.Grants cam.handle f (.read .textMaxLength) →
      (w.call (.feature cam.handle f.key (.read .textMaxLength))).1 =
        ⟨Status.success, some (.word n)⟩) ∧
    ∀ buffer, w.driver.Grants cam.handle f (.text buffer) → (buffer.length : Int) = n.toInt →
      cam.GetsWhole f v buffer w

/-- The length that the driver tells of a text. -/
theorem call_textMaxLength (hholds : w.driver.holds? cam.handle f = some (.text v))
    (hgrant : w.driver.Grants cam.handle f (.read .textMaxLength)) :
    (w.call (.feature cam.handle f.key (.read .textMaxLength))).1 =
      ⟨Status.success, some (.word (Content.textMaxLength v))⟩ := by
  rw [w.call_reading cam.handle f (.read .textMaxLength) rfl trivial]
  exact Driver.reply_read hgrant (fun h => absurd h (by decide)) hholds rfl

theorem leftText_of_wrote (hnul : Text.Wide.hasNul v = false)
    (h : w.Wrote w' cam.handle f.key (.text v)) : cam.LeftText f v w' := by
  have hholds := h.driver.holds_text
  refine ⟨hholds, fun hgrant => ?_, fun buffer => getsWhole_iff hnul hholds, fun hlength => ?_⟩
  · rw [text_of_holds hgrant hholds, Except.ok.injEq]
    exact Text.cut_eq_self_iff hnul
  · have htold := Content.textMaxLength_toInt hlength
    refine ⟨_, htold, call_textMaxLength hholds, fun buffer hgrant hbuffer => ?_⟩
    have hportable : buffer.length ≤ 2147483647 := by omega
    refine (getsWhole_iff hnul hholds hgrant hportable).mpr ?_
    omega

end Camera

/-! ## Devices to try the limits on -/

namespace World

/-- A world whose only device is open. -/
def ofDevice (b : Backend) (device : Device) : World :=
  ((ofDriver b (.ofDevices [device])).call (.open 0)).2

theorem device?_ofDevice (b : Backend) (device : Device) :
    (ofDevice b device).driver.device? 100 = some device := by cases b <;> rfl

theorem quiet_ofDevice (b : Backend) (device : Device) : (ofDevice b device).Quiet := by
  cases b <;> rfl

theorem failures_ofDevice (b : Backend) (device : Device) :
    (ofDevice b device).driver.failures = [] := by cases b <;> rfl

theorem backend_ofDevice (b : Backend) (device : Device) : (ofDevice b device).backend = b := by
  cases b <;> rfl

end World

namespace Camera

open CameraControl.Action World

variable {cam : Camera} {f : Feature} {c c' : Content} {v v' : Write}

/-- An option arrives through the library as far as the library reads it. -/
theorem pass?_enumText (cam : Camera) (f : Feature) {text : String}
    (hnul : Text.Wide.hasNul text = false) :
    Backend.library.pass? (cam.setter (f, .enumText text)) = some (cam.setter
      (f, .enumText (String.ofList (text.toList.take Text.Wide.scanLimit)))) := by
  rw [Backend.pass?, setter, Library.pass?_feature, Library.passText?_eq f.portable_key,
    Library.passRequest?, Library.passWrite?, Library.passText?_of_hasNul hnul]
  rfl

/-- A write to a feature that was set up just before, by what it arrives as. -/
theorem write_ofDevice (cam : Camera) (f : Feature) (hhandle : cam.handle = 100) {b : Backend}
    (device : Device)
    (hv : (Request.write v).Unbroken)
    (hpass : b.pass? (cam.setter (f, v)) = some (cam.setter (f, v')))
    (hwrite : c.write v' = .ok c') :
    ∃ w', (cam.write f v).exec (ofDevice b (device.put f c)) = (.ok (), w') ∧
      w'.driver.holds? cam.handle f = some c' ∧ w'.driver.failures = [] := by
  have hdevice : (ofDevice b (device.put f c)).driver.device? cam.handle =
      some (device.put f c) := by
    rw [hhandle]
    exact device?_ofDevice b _
  have heditable := Device.editable_put device f c
  have hobedient := failures_ofDevice b (device.put f c)
  have hpass' : (ofDevice b (device.put f c)).backend.pass? (cam.setter (f, v)) =
      some (cam.setter (f, v')) := by
    rw [backend_ofDevice]
    exact hpass
  obtain ⟨w', hexec, hwrote⟩ := write_of_passed hv (quiet_ofDevice b _) hpass'
    (Driver.takesEffect_of_editable (Driver.grants_of_obedient hobedient) hdevice heditable hwrite)
  have hholds : (ofDevice b (device.put f c)).driver.holds? cam.handle f = some c :=
    Option.bind_eq_some_iff.mpr ⟨_, hdevice, heditable.content⟩
  refine ⟨w', hexec, hwrote.driver.contentAt?_eq hholds hwrite, ?_⟩
  rw [hwrote.driver.rest]
  exact hobedient

/-! ## Texts of any length -/

/-- What a camera gets of a text is the text as far as its buffer takes it, of a text feature as of
    an option. A setter refuses a text with the character of code 0, for that reason no other, and
    without a call. Any other that it succeeds with is what the driver holds afterwards, and an
    option is then the first one of this text.

    Lengths are numbers of 32 bits for the driver: it counts and numbers the options in such a
    number, and can ask for a buffer for a whole text only where the length of one is such a number.
    Through the library a text arrives whole only within the limit of its scans. -/
theorem texts_survive (cam : Camera) (f : Feature) (w : World) :
    -- reading
    (∀ v, w.driver.holds? cam.handle f = some (.text v) →
      w.driver.Grants cam.handle f (.text textBuffer) →
      ((cam.text f).exec w).1 = .ok (Text.cut v)) ∧
    (∀ index options, w.driver.holds? cam.handle f = some (.enum index options) →
      (∀ i, w.driver.Grants cam.handle f (.enumText i textBuffer)) →
      (∀ i v, 0 ≤ i.toInt → options[i.toInt.toNat]? = some v →
        ((cam.enumTextAt f i).exec w).1 = .ok (Text.cut v)) ∧
      (w.driver.Grants cam.handle f (.read .enumCount) →
        ((cam.enumTexts f).exec w).1 =
          .ok ((options.take (Int32.ofNat options.length).toInt.toNat).map Text.cut) ∧
        (options.length < 2147483648 →
          ((cam.enumTexts f).exec w).1 = .ok (options.map Text.cut)))) ∧
    -- writing
    (∀ v, ∀ write ∈ [Write.text v, .enumText v],
      (((cam.write f write).exec w).1 = .error (.interiorNul v) ↔ Text.Wide.hasNul v = true) ∧
      (Text.Wide.hasNul v = true →
        (cam.write f write).exec w = (.error (.interiorNul v), w))) ∧
    (∀ v w', w.Quiet → w.backend = .direct ∨ v.length ≤ Text.Wide.scanLimit →
      (w.driver.Grants cam.handle f (.write (.text v)) →
        (cam.write f (.text v)).exec w = (.ok (), w') →
        cam.LeftText f v w') ∧
      (w.driver.Grants cam.handle f (.write (.enumText v)) →
        (cam.write f (.enumText v)).exec w = (.ok (), w') →
        ∃ index options pos, w.driver.holds? cam.handle f = some (.enum index options) ∧
          options[pos]? = some v ∧ (∀ j < pos, options[j]? ≠ some v) ∧
          w'.driver.holds? cam.handle f = some (.enum (Int32.ofNat pos) options) ∧
          (pos < 2147483648 → (Int32.ofNat pos).toInt = pos) ∧
          (w'.driver.Grants cam.handle f (.read .enumIndex) →
            ((cam.enumIndex f).exec w').1 = .ok (Int32.ofNat pos)))) := by
  refine ⟨fun v hholds hgrant => text_of_holds hgrant hholds, ?_, ?_, ?_⟩
  · intro index options hholds hgrant
    refine ⟨fun i v hi hv => enumTextAt_of_holds (hgrant i) hholds (Content.option_enum hi hv),
      fun hcount => ?_⟩
    have hall := enumTexts_of_holds hcount hgrant hholds
    refine ⟨hall, fun hlength => ?_⟩
    rwa [Enumeration.toNat_ofNat hlength, List.take_length] at hall
  · intro v write hwrite
    have htext : writtenText? write = some v := by
      rcases List.mem_pair.mp hwrite with rfl | rfl <;> rfl
    exact ⟨write_interiorNul_iff cam f w htext, write_of_nul htext⟩
  · intro v w' hquiet harrives
    refine ⟨fun hgrant hexec => ?_, fun hgrant hexec => ?_⟩
    · obtain ⟨hnul, hwrote⟩ := wrote_of_write rfl hquiet hgrant harrives hexec
      exact leftText_of_wrote hnul hwrote
    · obtain ⟨-, hwrote⟩ := wrote_of_write rfl hquiet hgrant harrives hexec
      obtain ⟨index, options, pos, hbefore, hpos, hfirst, hafter⟩ := hwrote.driver.holds_enumText
      exact ⟨index, options, pos, hbefore, hpos, hfirst, hafter, Int32.toInt_ofNat_of_lt,
        fun hindex => readWord_of_holds (by decide) hindex hafter rfl⟩

/-- A name that is one character too long for the buffer of a camera, and options that repeat or
    end early. -/
theorem texts_survive_long :
    let device := ((Device.bare "A").put .cameraName (.text "")).put .triggerMode
      (.enum 0 ["a\x00z", "b", "b"])
    let w := (Script.runSteps (Script.start .direct [device]) [.openCamera "c" 0]).2.world
    let cam : Camera := ⟨0, 0, 100, none⟩
    let long := String.ofList (List.replicate 256 'x')
    w.Quiet ∧ ((cam.enumTexts .triggerMode).exec w).1 = .ok ["a", "b", "b"] ∧
      (∃ w', (cam.write .cameraName (.text long)).exec w = (.ok (), w') ∧
        ((cam.text .cameraName).exec w').1 ≠ .ok long ∧
        cam.GetsWhole .cameraName long (List.replicate 257 0) w') ∧
      ∃ w', (cam.write .triggerMode (.enumText "b")).exec w = (.ok (), w') ∧
        ((cam.enumIndex .triggerMode).exec w').1 = .ok 1 := by
  intro device w cam long
  have hw : w = (Script.runSteps (Script.start .direct [device]) [.openCamera "c" 0]).2.world := rfl
  clear_value w
  have hquiet : w.Quiet := by rw [hw]; decide +kernel
  have hdirect : w.backend = .direct := by rw [hw]; decide +kernel
  have hfailures : w.driver.failures = [] := by rw [hw]; decide +kernel
  have hoptions : w.driver.holds? 100 .triggerMode = some (.enum 0 ["a\x00z", "b", "b"]) := by
    rw [hw]
    decide +kernel
  obtain ⟨-, hread, -, hwrite⟩ := texts_survive cam .triggerMode w
  obtain ⟨-, hall⟩ := hread 0 _ hoptions fun i => Driver.grants_of_obedient hfailures
  refine ⟨hquiet, ?_, ?_, ?_⟩
  · exact ((hall (Driver.grants_of_obedient hfailures)).2 (by decide)).trans (by decide +kernel)
  -- too long for the buffer of a camera, but not for one of the length that is told
  · obtain ⟨-, -, -, hwrite⟩ := texts_survive cam .cameraName w
    obtain ⟨hok, hstays⟩ : ((cam.write .cameraName (.text long)).exec w).1 = .ok () ∧
        ((cam.write .cameraName (.text long)).exec w).2.driver.failures = [] := by
      rw [hw]
      decide +kernel
    have hleft := (hwrite long _ hquiet (.inl hdirect)).1
      (Driver.grants_of_obedient hfailures) (exec_of_outcome hok)
    have hlength : long.length = 256 := by rw [String.length_ofList, List.length_replicate]
    refine ⟨_, exec_of_outcome hok, fun h => ?_, ?_⟩
    · have hshort := (hleft.text (Driver.grants_of_obedient hstays)).mp h
      omega
    · obtain ⟨n, hn, -, hwhole⟩ := hleft.told (by omega)
      refine hwhole _ (Driver.grants_of_obedient hstays) ?_
      rw [List.length_replicate, hn, hlength]
      rfl
  -- the first of the two equal options
  · obtain ⟨hok, hstays⟩ : ((cam.write .triggerMode (.enumText "b")).exec w).1 = .ok () ∧
        ((cam.write .triggerMode (.enumText "b")).exec w).2.driver.failures = [] := by
      rw [hw]
      decide +kernel
    obtain ⟨index, options, pos, hbefore, hpos, hfirst, -, -, hindex⟩ :=
      (hwrite "b" _ hquiet (.inl hdirect)).2 (Driver.grants_of_obedient hfailures)
        (exec_of_outcome hok)
    obtain ⟨-, rfl⟩ := Content.enum.inj (Option.some.inj (hoptions.symm.trans hbefore))
    have hle : pos ≤ 1 := Nat.le_of_not_lt fun h => hfirst 1 h rfl
    obtain rfl | rfl : pos = 0 ∨ pos = 1 := by omega
    · exact absurd hpos (by decide)
    · exact ⟨_, exec_of_outcome hok, hindex (Driver.grants_of_obedient hstays)⟩

/-- Beyond each of the limits something is lost. A text of 2147483647 characters is stored, but the
    length that is told for it is 64; a list of 2147483648 options appears to be empty, and the
    option behind them has a negative index; and of two long options that the library does not tell
    apart, the first is set for the second. -/
theorem texts_fail_beyond_limits :
    let cam : Camera := ⟨0, 0, 100, none⟩
    let device := Device.bare "A"
    (∃ w', (cam.write .cameraName (.text (Text.repeated 2147483647))).exec
        (ofDevice .direct (device.put .cameraName (.text ""))) = (.ok (), w') ∧
      (w'.call (.feature 100 Feature.cameraName.key (.read .textMaxLength))).1 =
        ⟨Status.success, some (.word 64)⟩ ∧
      ¬cam.GetsWhole .cameraName (Text.repeated 2147483647) (List.replicate 64 0) w') ∧
    ((cam.enumTexts .triggerMode).exec (ofDevice .direct (device.put .triggerMode
      (.enum 0 (List.replicate 2147483648 "a"))))).1 = .ok [] ∧
    (∃ w', (cam.write .triggerMode (.enumText "b")).exec (ofDevice .direct
        (device.put .triggerMode (.enum 0 (List.replicate 2147483648 "a" ++ ["b"])))) =
          (.ok (), w') ∧
      ((cam.enumIndex .triggerMode).exec w').1 = .ok (-2147483648)) ∧
    ∃ w', (cam.write .triggerMode (.enumText (Text.repeated 4097))).exec (ofDevice .library
        (device.put .triggerMode (.enum 1 [Text.repeated 4096, Text.repeated 4097]))) =
          (.ok (), w') ∧
      Text.repeated 4096 ≠ Text.repeated 4097 ∧
      ((cam.enumIndex .triggerMode).exec w').1 = .ok 0 := by
  intro cam device
  have hgrant {w : World} (h : w.driver.failures = []) (f : Feature) (r : Request) :
      w.driver.Grants cam.handle f r := Driver.grants_of_obedient h
  refine ⟨?_, ?_, ?_, ?_⟩
  -- a text that is one character too long for its length to be told
  · generalize hv : Text.repeated 2147483647 = v
    have hnul : Text.Wide.hasNul v = false := hv ▸ Text.hasNul_repeated _
    have hlength : v.length = 2147483647 := hv ▸ Text.length_repeated _
    have hwrite : (Content.text "").write (.text v) = .ok (.text v) := by
      simp only [Content.write, hnul]
      rfl
    obtain ⟨w', hexec, hholds, hobedient⟩ := write_ofDevice cam .cameraName rfl
      device (b := .direct) (unbroken_of_text rfl hnul) rfl hwrite
    refine ⟨w', hexec, ?_, fun hwhole => ?_⟩
    · rw [← Content.textMaxLength_of_length hlength]
      exact call_textMaxLength hholds (hgrant hobedient _ _)
    · have hroom := (getsWhole_iff hnul hholds (hgrant hobedient _ _) (by decide)).mp hwhole
      rw [hlength, List.length_replicate] at hroom
      omega
  -- one option too many to be counted
  · generalize hoptions : List.replicate 2147483648 "a" = options
    have hlength : options.length = 2147483648 := hoptions ▸ List.length_replicate
    have hobedient := failures_ofDevice .direct (device.put .triggerMode (.enum 0 options))
    have hholds : (ofDevice .direct (device.put .triggerMode (.enum 0 options))).driver.holds?
        cam.handle .triggerMode = some (.enum 0 options) :=
      Option.bind_eq_some_iff.mpr ⟨_, device?_ofDevice _ _, (Device.editable_put _ _ _).content⟩
    rw [enumTexts_of_holds (hgrant hobedient _ _) (fun i => hgrant hobedient _ _) hholds, hlength]
    rfl
  -- an option behind as many others
  · generalize hoptions : List.replicate 2147483648 "a" ++ ["b"] = options
    have hpos : options.findIdx? (· == "b") = some 2147483648 :=
      hoptions ▸ Text.findIdx?_behind 2147483648
    obtain ⟨w', hexec, hholds, hobedient⟩ := write_ofDevice cam .triggerMode rfl
      device (b := .direct) (unbroken_of_text rfl (by decide)) rfl
      (Content.write_enumText 0 (by decide) hpos)
    exact ⟨w', hexec, readWord_of_holds (by decide) (hgrant hobedient _ _) hholds rfl⟩
  -- two options that are one after the first 4096 characters
  · have hpass := pass?_enumText cam .triggerMode (Text.hasNul_repeated 4097)
    rw [Text.take_repeated (by decide)] at hpass
    have hunbroken : (Request.write (.enumText (Text.repeated 4097))).Unbroken :=
      unbroken_of_text rfl (Text.hasNul_repeated _)
    have hnul := Text.hasNul_repeated 4096
    have hscan : Text.Wide.scanLimit = 4096 := rfl
    rw [hscan] at hpass
    have hne : Text.repeated 4096 ≠ Text.repeated 4097 := fun heq => by
      have hlength := congrArg String.length heq
      rw [Text.length_repeated, Text.length_repeated] at hlength
      omega
    generalize Text.repeated 4097 = long at hpass hunbroken hne
    generalize Text.repeated 4096 = short at hpass hnul hne
    have hpos : [short, long].findIdx? (· == short) = some 0 := by
      rw [List.findIdx?_cons, beq_self_eq_true]
      rfl
    obtain ⟨w', hexec, hholds, hobedient⟩ := write_ofDevice cam .triggerMode rfl
      device hunbroken hpass (Content.write_enumText 1 hnul hpos)
    exact ⟨w', hexec, hne, readWord_of_holds (by decide) (hgrant hobedient _ _) hholds rfl⟩

end Camera

end CameraControl
