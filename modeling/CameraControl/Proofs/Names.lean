import CameraControl.Family
import Mathlib.Data.List.FinRange
import Mathlib.Data.List.Nodup
import Mathlib.Logic.Relation

/-
  Names and what they are names of.

  The keys of the features are told apart by what they hold besides blanks, and the names of a
  family by what is left of them without blanks and capitals. The first match in a list is then the
  only one, so looking a name up answers whether it is a spelling of the one name that matches it:
  `find?_eq_some_iff_of_nodup` is the argument for every table. That two texts match means that
  blanks can be put in and taken out until one is the other: `keysMatch_iff_respaced`.
-/

namespace CameraControl

/-- In a complete list of things that a key tells apart, the first match is the only one. -/
theorem find?_eq_some_iff_of_nodup {α β : Type} [BEq β] [LawfulBEq β] {l : List α} {key : α → β}
    (hall : ∀ a, a ∈ l) (hnodup : (l.map key).Nodup) (a : α) (b : β) :
    l.find? (fun a => key a == b) = some a ↔ key a = b := by
  constructor
  · intro h
    simpa using List.find?_some h
  · rintro rfl
    cases hfind : l.find? fun a' => key a' == key a with
    | none =>
      have hdiffers := List.find?_eq_none.mp hfind a (hall a)
      exact absurd (beq_self_eq_true (key a)) hdiffers
    | some a' =>
      have hkey : key a' = key a := by simpa using List.find?_some hfind
      rw [List.inj_on_of_nodup_map hnodup (hall a') (hall a) hkey]

/-! ## Blanks -/

namespace Text

/-- A blank is put into a text. -/
inductive Spaced : String → String → Prop where
  | blank (before after : List Char) {c : Char} (hc : isBlank c = true) :
      Spaced (String.ofList (before ++ after)) (String.ofList (before ++ c :: after))

/-- Blanks are put into a text and taken out of it, wherever they are. -/
def Respaced : String → String → Prop := Relation.EqvGen Spaced

theorem solids_spaced {a b : String} (h : Spaced a b) : solids a = solids b := by
  cases h with
  | blank before after hc => simp [solids, hc]

theorem solids_respaced {a b : String} (h : Respaced a b) : solids a = solids b := by
  induction h with
  | rel _ _ h => exact solids_spaced h
  | refl => rfl
  | symm _ _ _ ih => exact ih.symm
  | trans _ _ _ _ _ ih ih' => exact ih.trans ih'

/-- The blanks after a part of a text can be taken out. -/
theorem respaced_filter (before rest : List Char) :
    Respaced (String.ofList (before ++ rest))
      (String.ofList (before ++ rest.filter fun c => !isBlank c)) := by
  induction rest generalizing before with
  | nil => exact .refl _
  | cons c rest ih =>
    cases hc : isBlank c with
    | true =>
      rw [List.filter_cons_of_neg (by simp [hc])]
      exact .trans _ _ _ (.symm _ _ (.rel _ _ (.blank before rest hc))) (ih before)
    | false =>
      rw [List.filter_cons_of_pos (by simp [hc])]
      have hnext := ih (before ++ [c])
      rwa [List.append_assoc, List.append_assoc] at hnext

theorem respaced_squeeze (s : String) : Respaced s (squeeze s) := by
  have hfilter := respaced_filter [] s.toList
  rwa [List.nil_append, List.nil_append, String.ofList_toList] at hfilter

end Text

/-- Texts match if blanks make the difference. -/
theorem keysMatch_iff_respaced (a b : String) : keysMatch a b = true ↔ Text.Respaced a b := by
  rw [keysMatch_iff]
  constructor
  · intro h
    have hb : Text.Respaced (Text.squeeze a) b :=
      (Text.squeeze_eq_squeeze_iff a b).mpr h ▸ .symm _ _ (Text.respaced_squeeze b)
    exact .trans _ _ _ (Text.respaced_squeeze a) hb
  · exact Text.solids_respaced

theorem keysMatch_equivalence : Equivalence fun a b => keysMatch a b = true := by
  simp only [keysMatch_iff]
  exact ⟨fun _ => rfl, fun h => h.symm, fun h h' => h.trans h'⟩

/-! ## Features -/

namespace Feature

theorem mem_all (f : Feature) : f ∈ all := by cases f <;> decide

/-- The keys of the registered features differ, also without blanks. -/
theorem nodup_solids_key : (all.map fun f => Text.solids f.key).Nodup := by decide +kernel

theorem squeeze_key_injective {f g : Feature} (h : Text.squeeze f.key = Text.squeeze g.key) :
    f = g :=
  List.inj_on_of_nodup_map nodup_solids_key (mem_all f) (mem_all g)
    ((Text.squeeze_eq_squeeze_iff f.key g.key).mp h)

/-- A name is found exactly if it matches a key. -/
theorem ofKey?_eq_some_iff {name : String} {f : Feature} :
    ofKey? name = some f ↔ keysMatch f.key name = true :=
  (find?_eq_some_iff_of_nodup mem_all nodup_solids_key f (Text.solids name)).trans
    (keysMatch_iff f.key name).symm

theorem ofKey?_eq_none {name : String} (h : ∀ f : Feature, keysMatch f.key name = false) :
    ofKey? name = none :=
  List.find?_eq_none.mpr fun f _ => Bool.not_eq_true _ ▸ h f

theorem ofKey?_congr {a b : String} (h : Text.solids a = Text.solids b) : ofKey? a = ofKey? b := by
  unfold ofKey? keysMatch
  rw [h]

end Feature

/-! ## Values of a family -/

namespace Choice

variable {f : Family}

theorem mem_all (c : Choice f) : c ∈ all f := List.mem_finRange c

/-- The names of a family stay apart without their blanks and capitals. -/
theorem nodup_foldName (f : Family) : ((all f).map fun c => foldName c.name).Nodup := by
  cases f <;> decide +kernel

/-- A value is found exactly by what is its name up to blanks and capitals. -/
theorem ofName?_eq_some_iff {s : String} {c : Choice f} :
    ofName? f s = some c ↔ foldName c.name = foldName s :=
  find?_eq_some_iff_of_nodup mem_all (nodup_foldName f) c (foldName s)

theorem ofName?_congr {s s' : String} (h : foldName s = foldName s') :
    ofName? f s = ofName? f s' := by
  unfold ofName?
  rw [h]

end Choice

/-! ## Names -/

/-- Looking a name up undoes naming, up to the spelling. Matching is an equivalence of texts, the
    one that putting in and taking out blanks makes. A text is found to name a feature exactly if it
    matches the key of the feature, which it does for one feature at most, and blanks never make a
    difference. A text is found to name a value of a family exactly if it is the name of the value
    up to blanks and the case of each character, which goes for one value at most, and every other
    spelling of this kind is found to name the same. -/
theorem names_are_undone_up_to_spelling :
    Equivalence (fun a b => keysMatch a b = true) ∧
    (∀ a b, keysMatch a b = true ↔ Text.Respaced a b) ∧
    (∀ (name : String) (f : Feature),
      (Feature.ofKey? name = some f ↔ keysMatch f.key name = true) ∧
      (∀ g : Feature, keysMatch f.key name = true → keysMatch g.key name = true → g = f) ∧
      ∀ name', Text.Respaced name name' → Feature.ofKey? name' = Feature.ofKey? name) ∧
    ∀ (F : Family) (s : String) (v : Choice F),
      (Choice.ofName? F s = some v ↔ Choice.foldName s = Choice.foldName v.name) ∧
      (∀ v' : Choice F, Choice.foldName s = Choice.foldName v.name →
        Choice.foldName s = Choice.foldName v'.name → v' = v) ∧
      ∀ s', Choice.foldName s' = Choice.foldName s → Choice.ofName? F s' = Choice.ofName? F s := by
  refine ⟨keysMatch_equivalence, keysMatch_iff_respaced, fun name f => ⟨?_, fun g hf hg => ?_,
    fun name' h => ?_⟩, fun F s v => ⟨?_, fun v' hv hv' => ?_, fun s' h => ?_⟩⟩
  · exact Feature.ofKey?_eq_some_iff
  · have hfound := Feature.ofKey?_eq_some_iff.mpr hg
    exact Option.some.inj (hfound.symm.trans (Feature.ofKey?_eq_some_iff.mpr hf))
  · exact Feature.ofKey?_congr (Text.solids_respaced h).symm
  · exact Choice.ofName?_eq_some_iff.trans eq_comm
  · have hfound := Choice.ofName?_eq_some_iff.mpr hv'.symm
    exact Option.some.inj (hfound.symm.trans (Choice.ofName?_eq_some_iff.mpr hv.symm))
  · exact Choice.ofName?_congr h

/-- Blanks and capitals beyond ASCII: an em space, the Kelvin sign for a K, and a dotted I, whose
    lower-case form has a dot that the name has not. -/
theorem names_are_undone_up_to_spelling_kelvin :
    Feature.ofKey? "Exposure\u2003Time" = some .exposureTime ∧
      Feature.ofKey? " Exposure Time" = Feature.ofKey? "Exposure\u2003Time" ∧
      (∀ g : Feature, keysMatch g.key "ExposureTime" = true → g = .exposureTime) ∧
      Choice.ofName? .pixelEncoding "MONO 12 PAC\u212aED" =
        some (⟨1, by decide⟩ : Choice .pixelEncoding) ∧
      Choice.ofName? .pixelEncoding "Mono12Packed" =
        Choice.ofName? .pixelEncoding "MONO 12 PAC\u212aED" ∧
      Choice.ofName? .temperatureStatus "Dr\u0130ft" ≠
        some (⟨3, by decide⟩ : Choice .temperatureStatus) := by
  obtain ⟨-, hmatch, hkeys, hnames⟩ := names_are_undone_up_to_spelling
  have hblank : Text.Respaced "Exposure\u2003Time" " Exposure Time" :=
    (hmatch _ _).mp (by decide +kernel)
  have hkelvin : Choice.foldName "MONO 12 PAC\u212aED" = Choice.foldName "Mono12Packed" := by
    decide +kernel
  refine ⟨(hkeys _ _).1.mpr (by decide +kernel), (hkeys _ .exposureTime).2.2 _ hblank,
    fun g hg => (hkeys _ _).2.1 g (by decide +kernel) hg, (hnames _ _ _).1.mpr (by decide +kernel),
    (hnames _ _ ⟨1, by decide⟩).2.2 _ hkelvin.symm, fun h => ?_⟩
  exact absurd ((hnames _ _ _).1.mp h) (by decide +kernel)

end CameraControl
