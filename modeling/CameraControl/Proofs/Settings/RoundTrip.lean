import CameraControl.Proofs.Toml.Encoding

/-
  Settings files read back.

  The fields of settings are scalars, in their order, and an area of interest behind them. Their
  text is the one that the encoder gives for these fields, and it reads back as the settings it was
  written for: every text is cut into the lines it was made of, each line gives its value, and no
  name stands twice.
-/

namespace CameraControl

open Toml (Scalar IsWord Item present written valued scalarItems Value)

/-! ## Identifiers -/

namespace Choice

variable {f : Family}

theorem isWord_identifier (c : Choice f) : IsWord c.identifier := by
  revert c
  cases f <;> decide

/-- The values of a family have different identifiers. -/
theorem ofIdentifier?_identifier (c : Choice f) : ofIdentifier? f c.identifier = some c := by
  revert c
  cases f <;> decide

end Choice

namespace Settings

/-! ## Fields -/

/-- A value of a family as a scalar. -/
def choiceScalar {f : Family} (c : Choice f) : Scalar := .word c.identifier c.isWord_identifier

/-- The fields before the area of interest, in their order. -/
def scalars (s : Settings) : List (String × Option Scalar) :=
  [("exposure_time", s.exposureTime.map .float),
   ("frame_rate", s.frameRate.map .float),
   ("frame_count", s.frameCount.map .integer),
   ("accumulate_count", s.accumulateCount.map .integer),
   ("cycle_mode", s.cycleMode.map choiceScalar),
   ("trigger_mode", s.triggerMode.map choiceScalar),
   ("shutter", s.shutter.map choiceScalar),
   ("binning", s.binning.map choiceScalar),
   ("simple_pre_amp", s.simplePreAmp.map choiceScalar),
   ("pixel_readout_rate", s.pixelReadoutRate.map choiceScalar),
   ("fan_speed", s.fanSpeed.map choiceScalar),
   ("auxiliary_out_source", s.auxiliaryOutSource.map choiceScalar),
   ("sensor_cooling", s.sensorCooling.map .boolean),
   ("overlap", s.overlap.map .boolean),
   ("spurious_noise_filter", s.spuriousNoiseFilter.map .boolean),
   ("metadata_enable", s.metadataEnable.map .boolean)]

/-- The fields of an area of interest, in their order. -/
def aoiScalars (a : Aoi) : List (String × Scalar) :=
  [("left", .integer a.left), ("top", .integer a.top), ("width", .integer a.width),
   ("height", .integer a.height)]

/-- All fields as the encoder gets them. -/
def items (s : Settings) : List (String × Option Item) :=
  scalarItems s.scalars ++ [("aoi", s.aoi.map fun a => .table (tomlAoiLines a))]

theorem names_scalars (s : Settings) : s.scalars.map Prod.fst ++ ["aoi"] = fieldNames := rfl

theorem isWord_of_mem_fieldNames {name : String} (h : name ∈ fieldNames) : IsWord name := by
  revert name
  decide

theorem isWord_of_mem_present_scalars {s : Settings} {p : String × Scalar}
    (h : p ∈ present s.scalars) : IsWord p.1 := by
  have hmem := (Toml.map_fst_present_sublist s.scalars).mem (List.mem_map_of_mem h)
  refine isWord_of_mem_fieldNames ?_
  rw [← names_scalars s]
  exact List.mem_append_left _ hmem

theorem isWord_of_mem_aoiScalars {a : Aoi} {p : String × Scalar} (h : p ∈ aoiScalars a) :
    IsWord p.1 := by
  have hnames : ∀ name ∈ Aoi.fieldNames, IsWord name := by decide
  exact hnames p.1 (List.mem_map_of_mem h)

/-- A field that is set adds its line in front of the others. -/
theorem written_present_cons {lines more : List (String × String)}
    {field : String × Option Scalar} {fields : List (String × Option Scalar)}
    (h : lines = written (present [field])) (hmore : more = written (present fields)) :
    lines ++ more = written (present (field :: fields)) := by
  rw [h, hmore, written, written, ← List.map_append, ← Toml.present_append]
  rfl

/-- The lines of settings are those of the fields that are set. -/
theorem tomlLines_eq (s : Settings) : s.tomlLines = written (present s.scalars) := by
  simp only [tomlLines, scalars, List.append_assoc]
  -- field by field; what is set and what is not is written as it stands in both
  iterate 15
    refine written_present_cons ?_ ?_
    · split <;> next heq => rw [heq]; rfl
  split <;> next heq => rw [heq]; rfl

/-! ## Writing -/

/-- The text of settings, put together from the lines of their fields and their table. -/
theorem toToml_eq (s : Settings) :
    s.toToml = renderLines (written (present s.scalars)) ++
      ((s.aoi.map tomlAoiLines).map
        (Toml.tableText (!(present s.scalars).isEmpty) "aoi")).getD "" := by
  have hempty : (written (present s.scalars)).isEmpty = (present s.scalars).isEmpty :=
    List.isEmpty_map
  rw [toToml, tomlLines_eq]
  cases s.aoi with
  | none => rfl
  | some a =>
    have htable : (if (written (present s.scalars)).isEmpty then "" else "\n") ++ "[aoi]\n"
        = (if !(present s.scalars).isEmpty then "\n" else "") ++ "[" ++ "aoi" ++ "]\n" := by
      rw [hempty]
      cases (present s.scalars).isEmpty <;> rfl
    exact congrArg (fun t => renderLines (written (present s.scalars)) ++
      (t ++ renderLines (tomlAoiLines a))) htable

example : toToml { overlap := some true, aoi := some ⟨1, 1, 512, 256⟩ }
    = "overlap = true\n\n[aoi]\nleft = 1\ntop = 1\nwidth = 512\nheight = 256\n" := rfl

/-- Settings always have a text: the table is the last of their fields. -/
theorem encode?_items (s : Settings) : Toml.encode? s.items = some s.toToml := by
  have hitem : s.aoi.map (fun a => Item.table (tomlAoiLines a))
      = (s.aoi.map tomlAoiLines).map .table := (Option.map_map _ _ _).symm
  rw [toToml_eq, items, hitem, Toml.encode?_scalars_table]

/-! ## Reading -/

/-- An area of interest as a value. -/
def aoiValue (a : Aoi) : Value := .table .header (valued (aoiScalars a))

/-- All fields as the decoder gets them. -/
def values (s : Settings) : List (String × Option Value) :=
  (s.scalars.map fun p => (p.1, p.2.map Scalar.value)) ++ [("aoi", s.aoi.map aoiValue)]

theorem names_values (s : Settings) : s.values.map Prod.fst = fieldNames := rfl

theorem nodup_fieldNames : fieldNames.Nodup := by decide

theorem present_values (s : Settings) :
    present s.values = valued (present s.scalars) ++ present [("aoi", s.aoi.map aoiValue)] := by
  rw [values, Toml.present_append, Toml.present_map]
  rfl

theorem loneHeader?_frontSection (pairs : List (String × Value)) :
    loneHeader? (Toml.frontSection pairs) = none := by
  cases pairs <;> rfl

/-- A table with pairs is more than a header alone. -/
theorem loneHeader?_table (pairs inner : List (String × Value)) (p : String × Value)
    (name : String) :
    loneHeader? (Toml.frontSection pairs ++ [⟨[name], false, p :: inner⟩]) = none := by
  cases pairs <;> rfl

/-- The text of settings is cut into sections whose pairs are the fields that are set. -/
theorem sections_toToml (s : Settings) :
    ∃ sections, Toml.Section.ofText? s.toToml = some sections ∧ loneHeader? sections = none ∧
      Toml.documentPairs? sections = some (present s.values) := by
  have hnames : ∀ p ∈ present s.scalars, IsWord p.1 := fun p => isWord_of_mem_present_scalars
  rw [toToml_eq, present_values]
  cases s.aoi with
  | none =>
    refine ⟨Toml.frontSection (valued (present s.scalars)), ?_, loneHeader?_frontSection _, ?_⟩
    · exact (congrArg _ String.append_empty).trans (Toml.ofText?_lines hnames)
    · rw [Toml.documentPairs?_frontSection]
      exact congrArg some (List.append_nil _).symm
  | some a =>
    exact ⟨_, Toml.ofText?_table hnames (by decide) (fun q => isWord_of_mem_aoiScalars) _,
      loneHeader?_table _ _ _ _, Toml.documentPairs?_table _ _ _⟩

/-- Only names of fields stand in the text of settings, and none stands twice. -/
theorem namesFit_values (s : Settings) : namesFit (present s.values) = true := by
  have hsublist := Toml.map_fst_present_sublist s.values
  rw [names_values] at hsublist
  have hall : (present s.values).all (fun p => fieldNames.contains p.1) = true :=
    List.all_eq_true.mpr fun p hp =>
      List.contains_iff_mem.mpr (hsublist.mem (List.mem_map_of_mem hp))
  have hnodup : ((present s.values).map Prod.fst).Nodup := nodup_fieldNames.sublist hsublist
  rw [namesFit, hall, Bool.true_and, decide_eq_true_iff]
  exact hnodup

theorem lookup_values (s : Settings) (name : String) :
    (present s.values).lookup name = (s.values.lookup name).join :=
  Toml.lookup_present (by rw [names_values]; exact nodup_fieldNames) name

theorem tomlChoice?_choiceScalar {f : Family} (c : Choice f) :
    tomlChoice? f (choiceScalar c).value = some c := c.ofIdentifier?_identifier

/-- One step of reading a record, when what is read is known. -/
theorem bind_of_eq_some {α β : Type} {x : Option α} (a : α) {f : α → Option β} {r : Option β}
    (h : x = some a) (hf : f a = r) : x >>= f = r := by
  rw [h]
  exact hf

/-- Every field is read as it was. -/
theorem ofFields?_values (s : Settings) :
    ofFields? tomlReaders (fun name => (present s.values).lookup name) = some s := by
  have hchoice : ∀ {f : Family} (c : Choice f),
      tomlReaders.choice f (choiceScalar c).value = some (some c) :=
    fun c => congrArg (Option.map some) (tomlChoice?_choiceScalar c)
  rw [show (fun name => (present s.values).lookup name)
    = fun name => (s.values.lookup name).join from funext s.lookup_values]
  simp only [ofFields?, values, scalars]
  -- a field that is not set is not found; one that is set is found with its value
  refine bind_of_eq_some s.exposureTime (by cases s.exposureTime <;> rfl) ?_
  refine bind_of_eq_some s.frameRate (by cases s.frameRate <;> rfl) ?_
  refine bind_of_eq_some s.frameCount (by cases s.frameCount <;> rfl) ?_
  refine bind_of_eq_some s.accumulateCount (by cases s.accumulateCount <;> rfl) ?_
  refine bind_of_eq_some s.cycleMode (by cases s.cycleMode; exacts [rfl, hchoice _]) ?_
  refine bind_of_eq_some s.triggerMode (by cases s.triggerMode; exacts [rfl, hchoice _]) ?_
  refine bind_of_eq_some s.shutter (by cases s.shutter; exacts [rfl, hchoice _]) ?_
  refine bind_of_eq_some s.binning (by cases s.binning; exacts [rfl, hchoice _]) ?_
  refine bind_of_eq_some s.simplePreAmp (by cases s.simplePreAmp; exacts [rfl, hchoice _]) ?_
  refine bind_of_eq_some s.pixelReadoutRate
    (by cases s.pixelReadoutRate; exacts [rfl, hchoice _]) ?_
  refine bind_of_eq_some s.fanSpeed (by cases s.fanSpeed; exacts [rfl, hchoice _]) ?_
  refine bind_of_eq_some s.auxiliaryOutSource
    (by cases s.auxiliaryOutSource; exacts [rfl, hchoice _]) ?_
  refine bind_of_eq_some s.sensorCooling (by cases s.sensorCooling <;> rfl) ?_
  refine bind_of_eq_some s.overlap (by cases s.overlap <;> rfl) ?_
  refine bind_of_eq_some s.spuriousNoiseFilter (by cases s.spuriousNoiseFilter <;> rfl) ?_
  refine bind_of_eq_some s.metadataEnable (by cases s.metadataEnable <;> rfl) ?_
  refine bind_of_eq_some s.aoi (by cases s.aoi <;> rfl) ?_
  rfl

/-- The text of settings reads back as the settings. -/
theorem ofToml?_toToml (s : Settings) : ofToml? s.toToml = some s := by
  obtain ⟨sections, htext, hlone, hpairs⟩ := sections_toToml s
  rw [ofToml?, htext]
  simp only [Option.bind_eq_bind, Option.bind_some, hlone, hpairs, ofPairs?, namesFit_values,
    if_true]
  exact ofFields?_values s

/-- Different settings have different texts. -/
theorem toToml_injective : Function.Injective toToml := fun s t h => by
  have hread := ofToml?_toToml s
  rw [h, ofToml?_toToml] at hread
  exact (Option.some.inj hread).symm

/-- Settings with no field set are those without a text. -/
theorem isEmpty_iff_toToml_eq (s : Settings) : s.isEmpty = true ↔ s.toToml = "" := by
  have hempty : toToml empty = "" := rfl
  rw [isEmpty, decide_eq_true_iff, ← hempty]
  exact toToml_injective.eq_iff.symm

/-- All settings can be written, whatever their fields hold, and their text reads back as the very
    settings, each floating-point number with its bits. So the text determines the settings, and
    only settings with no field set have the empty text. -/
theorem toml_round_trip :
    (∀ s : Settings, Toml.encode? s.items = some s.toToml ∧ ofToml? s.toToml = some s) ∧
      Function.Injective toToml ∧ ∀ s : Settings, s.isEmpty = true ↔ s.toToml = "" :=
  ⟨fun s => ⟨encode?_items s, ofToml?_toToml s⟩, toToml_injective, isEmpty_iff_toToml_eq⟩

end Settings

end CameraControl
