import CameraControl.Text.Wide
import Mathlib.Data.List.Forall2
import Mathlib.Data.List.TakeWhile

/-
  Wide texts and their characters.

  A character has one unit, and every unit is read as one character: a Unicode scalar value as this
  character, anything else as U+FFFD. `Shows` is this reading, and `mend` the unit of what is read.
  The end mark of a text ends what is read of it, wherever the list of units goes on after it, and a
  buffer that a text was written into reads as what it had room for. `wide_texts_fit_together` is
  about all of this together.
-/

namespace CameraControl.Text.Wide

/-! ## Units -/

theorem toNat_ofChar (c : Char) : (ofChar c).toUInt32.toNat = c.toNat := by
  show (UInt32.ofNat c.toNat).toNat = c.toNat
  rw [UInt32.toNat_ofNat']
  exact Nat.mod_eq_of_lt (UInt32.toNat_lt c.val)

theorem toChar_ofChar (c : Char) : toChar (ofChar c) = c := by
  unfold toChar
  have hvalid : c.toNat.isValidChar := c.valid
  rw [toNat_ofChar, if_pos hvalid, Char.ofNat_toNat]

theorem ofChar_ne_zero {c : Char} (h : c ≠ Char.ofNat 0) : ofChar c ≠ 0 := by
  intro hzero
  apply h
  rw [← toChar_ofChar c, hzero]
  decide

theorem ofChar_bne_zero (c : Char) : (ofChar c != 0) = (c != Char.ofNat 0) := by
  by_cases hc : c = Char.ofNat 0
  · rw [hc]
    rfl
  · have hunit : ofChar c ≠ 0 := ofChar_ne_zero hc
    rw [bne_iff_ne.mpr hc, bne_iff_ne.mpr hunit]

/-- A unit that is a Unicode scalar value: neither negative nor a surrogate nor too large. -/
def IsScalar (u : Int32) : Prop :=
  0 ≤ u.toInt ∧ u.toInt < 0xD800 ∨ 0xDFFF < u.toInt ∧ u.toInt < 0x110000

instance : DecidablePred IsScalar := fun _ => inferInstanceAs (Decidable (_ ∨ _))

/-- What a unit is read as. -/
inductive Shows : Int32 → Char → Prop where
  /-- A scalar value is read as the character that it is. -/
  | scalar {u : Int32} {c : Char} (h : u.toInt = c.toNat) : Shows u c
  /-- Every other unit is read as the replacement character. -/
  | other {u : Int32} (h : ¬IsScalar u) : Shows u '\ufffd'

/-- The unit of what a unit is read as. -/
def mend (u : Int32) : Int32 := if IsScalar u then u else 0xFFFD

/-- A unit has the value of its bits, or it is negative and the value of its bits is large. -/
theorem toInt_cases (u : Int32) :
    u.toInt = u.toUInt32.toNat ∨ u.toInt < 0 ∧ 0x80000000 ≤ u.toUInt32.toNat := by
  have hint := BitVec.toInt_eq_toNat_cond u.toBitVec
  have hlt := u.toBitVec.isLt
  show u.toBitVec.toInt = u.toBitVec.toNat ∨ u.toBitVec.toInt < 0 ∧ _ ≤ u.toBitVec.toNat
  split at hint <;> omega

theorem isScalar_iff (u : Int32) : IsScalar u ↔ u.toUInt32.toNat.isValidChar := by
  have hint := toInt_cases u
  unfold IsScalar Nat.isValidChar
  omega

theorem toNat_toChar {u : Int32} (h : IsScalar u) : (toChar u).toNat = u.toUInt32.toNat := by
  have hvalid := (isScalar_iff u).mp h
  rw [toChar, if_pos hvalid, Char.ofNat, dif_pos hvalid]
  rfl

theorem toChar_of_not_isScalar {u : Int32} (h : ¬IsScalar u) : toChar u = '\ufffd' :=
  if_neg fun hvalid => h ((isScalar_iff u).mpr hvalid)

theorem shows_toChar (u : Int32) : Shows u (toChar u) := by
  by_cases h : IsScalar u
  · refine .scalar ?_
    rw [toNat_toChar h]
    have hint := toInt_cases u
    unfold IsScalar at h
    omega
  · exact toChar_of_not_isScalar h ▸ .other h

theorem ofChar_toChar (u : Int32) : ofChar (toChar u) = mend u := by
  by_cases h : IsScalar u
  · have hbits : (ofChar (toChar u)).toUInt32 = u.toUInt32 := by
      rw [← UInt32.toNat_inj, toNat_ofChar, toNat_toChar h]
    rw [mend, if_pos h, ← Int32.toInt32_toUInt32 (ofChar (toChar u)), hbits,
      Int32.toInt32_toUInt32]
  · rw [mend, if_neg h, toChar_of_not_isScalar h]
    rfl

theorem mend_ne_zero {u : Int32} (h : u ≠ 0) : mend u ≠ 0 := by
  unfold mend
  split
  · exact h
  · decide

/-! ## Texts -/

theorem decode_encode (s : String) : decode (encode s) = s := by
  unfold decode encode
  rw [List.map_map]
  have hid : toChar ∘ ofChar = id := funext toChar_ofChar
  rw [hid, List.map_id]
  exact String.ofList_toList

theorem encode_decode (units : List Int32) : encode (decode units) = units.map mend := by
  unfold decode encode
  rw [String.toList_ofList, List.map_map]
  exact List.map_congr_left fun u _ => ofChar_toChar u

theorem hasNul_iff (s : String) : hasNul s = true ↔ Char.ofNat 0 ∈ s.toList := by
  unfold hasNul
  rw [List.any_eq_true]
  constructor
  · rintro ⟨c, hc, hnul⟩
    exact beq_iff_eq.mp hnul ▸ hc
  · exact fun h => ⟨_, h, beq_self_eq_true _⟩

/-- A text without an early end has no unit zero. -/
theorem ne_zero_of_mem_encode {s : String} (h : hasNul s = false) : ∀ u ∈ encode s, u ≠ 0 := by
  intro u hu
  obtain ⟨c, hc, rfl⟩ := List.mem_map.mp hu
  refine ofChar_ne_zero fun hnul => ?_
  have hany : hasNul s = true := (hasNul_iff s).mpr (hnul ▸ hc)
  exact Bool.false_ne_true (h.symm.trans hany)

/-- Units that do not end a text early give a text without an early end. -/
theorem hasNul_decode {units : List Int32} (h : ∀ u ∈ units, u ≠ 0) :
    hasNul (decode units) = false := by
  rw [Bool.eq_false_iff, ne_eq, hasNul_iff, decode, String.toList_ofList]
  intro hmem
  obtain ⟨u, hu, hnul⟩ := List.mem_map.mp hmem
  have hmend : mend u = 0 := by
    rw [← ofChar_toChar, hnul]
    rfl
  exact mend_ne_zero (h u hu) hmend

theorem ofText_eq {s : String} (h : hasNul s = false) : ofText s = .ok (encode s ++ [0]) := by
  rw [ofText, h]
  rfl

/-! ## Reading -/

/-- Nothing is read from the end mark on, whether or not reading gets that far. -/
theorem takeWhile_append_zero (units rest : List Int32) (n : Nat) :
    (units ++ (0 :: rest).take n).takeWhile (· != 0) = units.takeWhile (· != 0) := by
  induction units with
  | nil =>
    cases n with
    | zero => rfl
    | succ n => simp
  | cons u units ih =>
    rw [List.cons_append, List.takeWhile_cons, List.takeWhile_cons, ih]

/-- Reading the first units of a text: its first characters, up to an early end. -/
theorem decode_takeWhile_encode (s : String) (n : Nat) :
    decode (((encode s).take n).takeWhile (· != 0)) =
      String.ofList ((s.toList.take n).takeWhile (· != Char.ofNat 0)) := by
  have hchars : toChar ∘ ofChar = id := funext toChar_ofChar
  have hzero : (· != 0) ∘ ofChar = (· != Char.ofNat 0) := funext ofChar_bne_zero
  rw [encode, ← List.map_take, List.takeWhile_map, decode, List.map_map, hchars, hzero,
    List.map_id]

/-- A text without an early end is read to its end. -/
theorem takeWhile_toList {s : String} (hnul : hasNul s = false) (n : Nat) :
    (s.toList.take n).takeWhile (· != Char.ofNat 0) = s.toList.take n := by
  refine List.takeWhile_eq_self_iff.mpr fun c hc => bne_iff_ne.mpr fun h => ?_
  have hany : hasNul s = true := (hasNul_iff s).mpr (h ▸ List.mem_of_mem_take hc)
  exact Bool.false_ne_true (hnul.symm.trans hany)

theorem toText_encode {s : String} (hnul : hasNul s = false) (more : List Int32) :
    toText (encode s ++ 0 :: more) = s := by
  have hunits : ∀ u ∈ encode s, (u != 0) = true := fun u hu =>
    bne_iff_ne.mpr (ne_zero_of_mem_encode hnul u hu)
  have hread : (encode s ++ 0 :: more).takeWhile (· != 0) = encode s := by
    rw [List.takeWhile_append_of_pos hunits]
    simp
  rw [toText, hread, decode_encode]

/-- Of a text without an early end, the beginning is read that is within the limit. -/
theorem scan_encode {s : String} (hnul : hasNul s = false) (more : List Int32) :
    scan (some (encode s ++ 0 :: more)) = String.ofList (s.toList.take scanLimit) := by
  rw [scan, toText, List.take_append, takeWhile_append_zero, decode_takeWhile_encode,
    takeWhile_toList hnul]

/-- A text without an early end is read as it was written. -/
theorem scan_ofText {s : String} (hnul : hasNul s = false) (hlength : s.length ≤ scanLimit) :
    scan (some (encode s ++ [0])) = s := by
  rw [scan_encode hnul, List.take_of_length_le (by rwa [String.length_toList]),
    String.ofList_toList]

/-! ## Writing into a buffer -/

theorem length_encode (s : String) : (encode s).length = s.length := by
  rw [encode, List.length_map, String.length_toList]

/-- The units that are read from a buffer into which a text was written. -/
theorem takeWhile_fill (s : String) (buffer : List Int32) (n : Nat) :
    ((fill s buffer).take n).takeWhile (· != 0) =
      ((encode s).take (min n buffer.length)).takeWhile (· != 0) := by
  unfold fill
  dsimp only
  split
  · next hshort =>
    rw [List.length_take] at hshort
    have hall (m : Nat) (hm : buffer.length ≤ m) : (encode s).take m = encode s :=
      List.take_of_length_le (by omega)
    rw [hall _ (Nat.le_refl _), List.take_append, takeWhile_append_zero]
    rcases Nat.le_total n buffer.length with hn | hn
    · rw [Nat.min_eq_left hn]
    · rw [Nat.min_eq_right hn, hall n hn, hall _ (Nat.le_refl _)]
  · rw [List.take_take]

/-- A buffer reads as the characters that it had room for, up to an early end. -/
theorem toText_fill_eq (s : String) (buffer : List Int32) :
    toText (fill s buffer) =
      String.ofList ((s.toList.take buffer.length).takeWhile (· != Char.ofNat 0)) := by
  have hread := takeWhile_fill s buffer buffer.length
  rw [List.take_of_length_le (length_fill s buffer).le, Nat.min_self] at hread
  rw [toText, hread, decode_takeWhile_encode]

/-- Past the text and its end mark a buffer stays as it was. -/
theorem getElem?_fill {s : String} {buffer : List Int32} {i : Nat}
    (h : min (s.length + 1) buffer.length ≤ i) : (fill s buffer)[i]? = buffer[i]? := by
  by_cases hi : buffer.length ≤ i
  · rw [List.getElem?_eq_none hi, List.getElem?_eq_none (by rwa [length_fill])]
  · have hshort : ((encode s).take buffer.length).length < buffer.length := by
      rw [List.length_take, length_encode]
      omega
    have hlength : (encode s).length = s.length := length_encode s
    unfold fill
    rw [if_pos hshort, List.take_of_length_le (by omega), List.getElem?_append_right (by omega),
      List.getElem?_cons, if_neg (by omega), List.getElem?_drop]
    congr 1
    omega

/-! ## Texts, units and buffers -/

/-- A text that would end early has no wide form. The wide form of any other text is read as the
    text, whatever comes after the end mark, and as the beginning of it where no more than 4096
    units are read. Units are read up to the first end mark or to the end of the list, each as one
    character; what was read always has a wide form, which has the units that were read with those
    that are no character mended, and reading it again changes nothing. A text that is written into
    a buffer leaves the length of the buffer and all units past the text and its end mark as they
    were; what is read from the buffer does not depend on what it held before. -/
theorem wide_texts_fit_together :
    (∀ s : String,
      (ofText s = .error (.interiorNul s) ↔ Char.ofNat 0 ∈ s.toList) ∧
      (Char.ofNat 0 ∉ s.toList → ∃ units, ofText s = .ok units ∧ ∀ more,
        toText (units ++ more) = s ∧
        scan (some (units ++ more)) = String.ofList (s.toList.take 4096))) ∧
    (∀ codes : List Int32,
      let read := codes.takeWhile (· != 0)
      List.Forall₂ Shows read (toText codes).toList ∧
      ofText (toText codes) = .ok (read.map mend ++ [0]) ∧
      toText (read.map mend ++ [0]) = toText codes) ∧
    ∀ (s : String) (buffer : List Int32),
      (fill s buffer).length = buffer.length ∧
      (∀ i, min (s.length + 1) buffer.length ≤ i → (fill s buffer)[i]? = buffer[i]?) ∧
      toText (fill s buffer) =
        String.ofList ((s.toList.take buffer.length).takeWhile (· != Char.ofNat 0)) := by
  refine ⟨fun s => ?_, fun codes => ?_, fun s buffer =>
    ⟨length_fill s buffer, fun i => getElem?_fill, toText_fill_eq s buffer⟩⟩
  · cases hnul : hasNul s with
    | true =>
      have hmem := (hasNul_iff s).mp hnul
      refine ⟨iff_of_true ?_ hmem, fun h => absurd hmem h⟩
      rw [ofText, hnul]
      rfl
    | false =>
      have hmem : Char.ofNat 0 ∉ s.toList := by rw [← hasNul_iff, hnul]; exact Bool.false_ne_true
      refine ⟨iff_of_false (fun h => ?_) hmem, fun _ => ⟨_, ofText_eq hnul, fun more => ?_⟩⟩
      · cases (ofText_eq hnul).symm.trans h
      · rw [List.append_assoc]
        exact ⟨toText_encode hnul more, scan_encode hnul more⟩
  · intro read
    have hread : toText codes = decode read := rfl
    have hnul : hasNul (decode read) = false := hasNul_decode fun u hu =>
      bne_iff_ne.mp (List.all_eq_true.mp List.all_takeWhile u hu)
    refine ⟨?_, ?_, ?_⟩
    · rw [hread, decode, String.toList_ofList, List.forall₂_map_right_iff, List.forall₂_same]
      exact fun u _ => shows_toChar u
    · rw [hread, ofText_eq hnul, encode_decode]
    · rw [hread, ← encode_decode]
      exact toText_encode hnul []

/-- A lone surrogate, a negative unit and units after an end mark; a buffer that is too short. -/
theorem wide_texts_fit_together_lone_surrogate :
    let codes : List Int32 := [0x41, 0xD800, -1, 0x10FFFF, 0, 0x42]
    ofText (toText codes) = .ok [0x41, 0xFFFD, 0xFFFD, 0x10FFFF, 0] ∧
      ofText "a\x00b" = .error (.interiorNul "a\x00b") ∧
      (∃ units, ofText "Zyla" = .ok units ∧ toText (units ++ codes) = "Zyla") ∧
      toText (fill "Zyla 5.5" [7, 7, 7, 7]) = "Zyla" ∧
      (fill "Zy" [7, 7, 7, 7])[3]? = some 7 := by
  obtain ⟨htexts, hunits, hbuffers⟩ := wide_texts_fit_together
  refine ⟨(hunits _).2.1, ((htexts _).1).mpr (by decide), ?_, ?_, ?_⟩
  · obtain ⟨units, hunits, hmore⟩ := (htexts "Zyla").2 (by decide)
    exact ⟨units, hunits, (hmore _).1⟩
  · exact (hbuffers _ _).2.2
  · exact (hbuffers _ _).2.1 3 (by decide)

end CameraControl.Text.Wide
