import CameraControl.Proofs.Camera.Prefix
import CameraControl.Proofs.Driver.Capability
import CameraControl.Proofs.Driver.Choices

/-
  What a usual device admits of settings.

  A usual device has a feature for every field of settings, of the right kind and with leave to
  write it, and each family has all its options. So the only writes of settings that it refuses are
  numbers outside their range, and it says so of them, `write_of_suits`. Writes keep the make of
  a device, so this stays so from one write to the next.
-/

namespace CameraControl

/-! ## Contents and the writes that suit them -/

namespace Content

/-- A write is of the kind of some contents, and only a number may be out of their range. -/
inductive Suits : Content → Write → Prop where
  | int {value min max v : Int64} : Suits (.int value min max) (.int v)
  | float {value min max v : Binary64} : Suits (.float value min max) (.float v)
  | admitted {c : Content} {w : Write} (h : c.Admits w) : Suits c w

variable {c c' : Content} {w : Write}

/-- A write that suits is made or is out of range. -/
theorem Suits.write (h : c.Suits w) :
    (c.Admits w ∧ ∃ c', c.write w = .ok c') ∨
    (¬c.Admits w ∧ c.write w = .error Status.outOfRange) := by
  by_cases hadmits : c.Admits w
  · exact .inl ⟨hadmits, write_of_admits hadmits⟩
  · refine .inr ⟨hadmits, ?_⟩
    cases h with
    | @int value min max v =>
      refine if_pos ?_
      by_contra hrange
      rw [not_or, Int64.not_lt, Int64.not_lt] at hrange
      exact hadmits (.int hrange.1 hrange.2)
    | @float value min max v =>
      refine if_pos ?_
      by_contra hrange
      rw [not_or, Bool.not_eq_true, Bool.not_eq_true] at hrange
      exact hadmits (.float hrange.1 hrange.2)
    | admitted h => exact absurd h hadmits

/-- What contents admit depends on their shape. -/
theorem Admits.of_shape (h : c.Admits w) (hshape : c'.shape = c.shape) : c'.Admits w := by
  cases h with
  | int hmin hmax =>
    cases c' <;> cases hshape
    exact .int hmin hmax
  | float hmin hmax =>
    cases c' <;> cases hshape
    exact .float hmin hmax
  | bool =>
    cases c' <;> cases hshape
    exact .bool
  | enumIndex hlow hhigh =>
    cases c' <;> cases hshape
    exact .enumIndex hlow hhigh
  | enumText hfree hoption =>
    cases c' <;> cases hshape
    exact .enumText hfree hoption
  | text hfree =>
    cases c' <;> cases hshape
    exact .text hfree

theorem Suits.of_shape (h : c.Suits w) (hshape : c'.shape = c.shape) : c'.Suits w := by
  cases h with
  | int =>
    cases c' <;> cases hshape
    exact .int
  | float =>
    cases c' <;> cases hshape
    exact .float
  | admitted h => exact .admitted (h.of_shape hshape)

/-- A family has an option for each of its values. -/
theorem admits_choice {f : Family} (c c' : Choice f) :
    (ofChoice f c).Admits (.enumIndex c'.index) := by
  have hindex := Choice.index_toInt c'
  have hlength : ((Choice.all f).map Choice.name).length = f.members.length := by
    rw [List.length_map, Choice.all, List.length_finRange]
  have hlt : c'.val < f.members.length := c'.isLt
  exact .enumIndex (by omega) (by omega)

end Content

namespace Device

/-- A device admits a write to a feature if there is the feature and its contents admit it. -/
def Admits (device : Device) (f : Feature) (w : Write) : Prop :=
  ∃ c, device.content? f.key = some c ∧ c.Admits w

/-! ## Setting up features -/

variable {device device' : Device} {f : Feature} {c : Content}

/-- A feature holds something, and callers may write it. -/
structure Editable (device : Device) (f : Feature) (c : Content) : Prop where
  content : device.content? f.key = some c
  writable : device.isReadOnly f.key = false

theorem editable_put (device : Device) (f : Feature) (c : Content) :
    (device.put f c).Editable f c where
  content := (Entries.get?_put _ _ _ _).trans (if_pos rfl)
  writable := by simp [put, putKey, isReadOnly]

/-- The contents of such a feature decide what becomes of a write. -/
theorem Editable.write_eq (h : device.Editable f c) (v : Write) :
    device.write f.key v = (c.write v).map (device.setContent f.key) := by
  rw [write, h.writable, h.content]
  rfl

/-- Setting up another feature leaves this one alone. -/
theorem Editable.put (h : device.Editable f c) {g : Feature} (hg : g ≠ f) (c' : Content) :
    (device.put g c').Editable f c where
  content := by
    have hkey : Text.squeeze g.key ≠ Text.squeeze f.key :=
      fun hkey => hg (Feature.squeeze_key_injective hkey)
    exact (Entries.get?_put _ _ _ _).trans ((if_neg hkey).trans h.content)
  writable := by
    have hbefore := h.writable
    simp only [isReadOnly, List.contains_eq_mem, decide_eq_false_iff_not] at hbefore ⊢
    exact fun hmem => hbefore (List.mem_filter.mp hmem).1

theorem Editable.foldl_put (h : device.Editable f c) {l : List (Feature × Content)}
    (hl : f ∉ Entries.keys l) : (l.foldl (fun d p => d.put p.1 p.2) device).Editable f c := by
  induction l generalizing device with
  | nil => exact h
  | cons p rest ih =>
    rw [Entries.keys_cons, List.mem_cons, not_or] at hl
    exact ih (h.put (Ne.symm hl.1) p.2) hl.2

/-- Features that are set up one after another are all there. -/
theorem editable_foldl_put {l : List (Feature × Content)} (hl : (Entries.keys l).Nodup)
    (hmem : (f, c) ∈ l) (device : Device) :
    (l.foldl (fun d p => d.put p.1 p.2) device).Editable f c := by
  induction l generalizing device with
  | nil => cases hmem
  | cons p rest ih =>
    obtain ⟨hp, hrest⟩ := List.nodup_cons.mp hl
    rcases List.mem_cons.mp hmem with rfl | hmem
    · exact (editable_put device f c).foldl_put hp
    · exact ih hrest hmem _

theorem editable_standard (hmem : (f, c) ∈ standardWritable) (model : String) :
    (standard model).Editable f c := by
  have hkeys : (Entries.keys standardWritable).Nodup := by decide +kernel
  unfold standard
  exact editable_foldl_put hkeys hmem _

/-- A device of the same make has the same features, with contents of the same shapes. -/
theorem SameMake.editable (h : device.SameMake device') (heditable : device.Editable f c) :
    ∃ c', device'.Editable f c' ∧ c'.shape = c.shape := by
  have hshape := h.shape f.key
  rw [heditable.content, Option.map_some] at hshape
  obtain ⟨c', hc', hshape⟩ := Option.map_eq_some_iff.mp hshape
  exact ⟨c', ⟨hc', (h.isReadOnly f.key).trans heditable.writable⟩, hshape⟩

/-- A write that suits a feature is made or is out of range, and which of the two it is depends on
    the make of the device. -/
theorem write_of_suits {w : Write} (heditable : device.Editable f c) (hsuits : c.Suits w)
    (h : device.SameMake device') :
    (device.Admits f w ∧ ∃ device'', device'.write f.key w = .ok device'' ∧
      device.SameMake device'') ∨
    (¬device.Admits f w ∧ device'.write f.key w = .error Status.outOfRange) := by
  obtain ⟨c', heditable', hshape⟩ := h.editable heditable
  have hwrite := heditable'.write_eq w
  have hadmits : device.Admits f w ↔ c'.Admits w := by
    -- ranges and options belong to the shape, so both devices judge the write alike
    constructor
    · rintro ⟨c₀, hc₀, h⟩
      obtain rfl := Option.some.inj (heditable.content.symm.trans hc₀)
      exact h.of_shape hshape
    · exact fun h => ⟨c, heditable.content, h.of_shape hshape.symm⟩
  rcases (hsuits.of_shape hshape).write with ⟨hok, c'', hc''⟩ | ⟨hno, herror⟩
  · rw [hc''] at hwrite
    exact .inl ⟨hadmits.mpr hok, _, hwrite, h.trans (sameMake_write hwrite)⟩
  · rw [herror] at hwrite
    exact .inr ⟨fun hok => hno (hadmits.mp hok), hwrite⟩

end Device

/-! ## Settings -/

namespace Settings

open Content (Suits)

/-- The numbers of some settings are in the ranges of a device: integers within the bounds of their
    features, and floating-point numbers neither below nor above them. -/
structure Fit (s : Settings) (device : Device) : Prop where
  exposureTime : ∀ x, s.exposureTime = some x → device.Admits .exposureTime (.float x)
  frameRate : ∀ x, s.frameRate = some x → device.Admits .frameRate (.float x)
  frameCount : ∀ n, s.frameCount = some n → device.Admits .frameCount (.int n)
  accumulateCount : ∀ n, s.accumulateCount = some n → device.Admits .accumulateCount (.int n)
  width : ∀ a, s.aoi = some a → device.Admits .aoiWidth (.int a.width)
  left : ∀ a, s.aoi = some a → device.Admits .aoiLeft (.int a.left)
  height : ∀ a, s.aoi = some a → device.Admits .aoiHeight (.int a.height)
  top : ∀ a, s.aoi = some a → device.Admits .aoiTop (.int a.top)

/-- Where no field is set, no number is out of range. -/
theorem fit_empty (device : Device) : empty.Fit device where
  exposureTime := fun _ h => by cases h
  frameRate := fun _ h => by cases h
  frameCount := fun _ h => by cases h
  accumulateCount := fun _ h => by cases h
  width := fun _ h => by cases h
  left := fun _ h => by cases h
  height := fun _ h => by cases h
  top := fun _ h => by cases h

variable {s : Settings} {f : Feature} {w : Write}

theorem suits_of_int {α : Type} {o : Option α} {g : α → Int64} {value min max : Int64}
    (h : (o.map fun x => Write.int (g x)) = some w) : Suits (.int value min max) w := by
  obtain ⟨x, -, rfl⟩ := Option.map_eq_some_iff.mp h
  exact .int

theorem suits_of_float {o : Option Binary64} {value min max : Binary64}
    (h : o.map Write.float = some w) : Suits (.float value min max) w := by
  obtain ⟨x, -, rfl⟩ := Option.map_eq_some_iff.mp h
  exact .float

theorem admits_of_bool {o : Option Bool} {value : Bool} (h : o.map Camera.boolWrite = some w) :
    Content.Admits (.bool value) w := by
  obtain ⟨x, -, rfl⟩ := Option.map_eq_some_iff.mp h
  exact .bool

theorem admits_of_choice {f : Family} {o : Option (Choice f)} {c : Choice f}
    (h : o.map (Slot.choice f).encode = some w) : Content.Admits (.ofChoice f c) w := by
  obtain ⟨x, -, rfl⟩ := Option.map_eq_some_iff.mp h
  exact Content.admits_choice c x

/-- A usual device has a feature for every field, of its kind. -/
theorem suits_of_write? (h : s.write? f = some w) :
    ∃ c, Entries.get? Device.standardWritable f = some c ∧ c.Suits w := by
  unfold write? at h
  split at h
  case h_2 | h_3 | h_4 | h_5 | h_11 | h_12 => exact ⟨_, rfl, suits_of_int h⟩
  case h_13 | h_14 => exact ⟨_, rfl, suits_of_float h⟩
  case h_16 | h_17 | h_18 | h_19 => exact ⟨_, rfl, .admitted (admits_of_bool h)⟩
  case h_21 => cases h
  all_goals exact ⟨_, rfl, .admitted (admits_of_choice h)⟩

/-- A usual device may be written to as settings do. -/
theorem editable_of_mem_writes {p : Feature × Write} (h : p ∈ s.writes) (model : String) :
    ∃ c, (Device.standard model).Editable p.1 c ∧ c.Suits p.2 := by
  obtain ⟨c, hget, hsuits⟩ := suits_of_write? (mem_writes.mp h)
  exact ⟨c, Device.editable_standard (Entries.mem_of_get? hget) model, hsuits⟩

/-- Usual devices admit the same, whatever their names are. -/
theorem admits_standard_iff {p : Feature × Write} (h : p ∈ s.writes) (model model' : String) :
    (Device.standard model).Admits p.1 p.2 ↔ (Device.standard model').Admits p.1 p.2 := by
  obtain ⟨c, hget, -⟩ := suits_of_write? (mem_writes.mp h)
  have hcontent (model : String) : (Device.standard model).content? p.1.key = some c :=
    (Device.editable_standard (Entries.mem_of_get? hget) model).content
  rw [Device.Admits, Device.Admits, hcontent, hcontent]

/-- The numbers are all that a usual device may refuse. -/
theorem fit_standard_iff (s : Settings) (model : String) :
    s.Fit (.standard model) ↔ ∀ p ∈ s.writes, (Device.standard model).Admits p.1 p.2 := by
  constructor
  · rintro hfit ⟨f, w⟩ hmem
    have h := mem_writes.mp hmem
    have hadmits {f : Feature} {c : Content}
        (hget : Entries.get? Device.standardWritable f = some c) (h : c.Admits w) :
        (Device.standard model).Admits f w :=
      ⟨c, (Device.editable_standard (Entries.mem_of_get? hget) model).content, h⟩
    have hset {f : Feature} {α : Type} {o : Option α} {e : α → Write}
        (hfit : ∀ x, o = some x → (Device.standard model).Admits f (e x))
        (h : o.map e = some w) : (Device.standard model).Admits f w := by
      obtain ⟨x, hx, rfl⟩ := Option.map_eq_some_iff.mp h
      exact hfit x hx
    unfold write? at h
    split at h
    -- the numbers; all other fields are truth values and options, which are always admitted
    case h_2 => exact hset hfit.width h
    case h_3 => exact hset hfit.left h
    case h_4 => exact hset hfit.height h
    case h_5 => exact hset hfit.top h
    case h_11 => exact hset hfit.frameCount h
    case h_12 => exact hset hfit.accumulateCount h
    case h_13 => exact hset hfit.exposureTime h
    case h_14 => exact hset hfit.frameRate h
    case h_16 | h_17 | h_18 | h_19 => exact hadmits rfl (admits_of_bool h)
    case h_21 => cases h
    all_goals exact hadmits rfl (admits_of_choice h)
  · intro hall
    have hfield {f : Feature} {w : Write} (h : s.write? f = some w) :
        (Device.standard model).Admits f w := hall (f, w) (mem_writes.mpr h)
    exact
      { exposureTime := fun x hx => hfield (congrArg (Option.map _) hx)
        frameRate := fun x hx => hfield (congrArg (Option.map _) hx)
        frameCount := fun n hn => hfield (congrArg (Option.map _) hn)
        accumulateCount := fun n hn => hfield (congrArg (Option.map _) hn)
        width := fun a ha => hfield (congrArg (Option.map _) ha)
        left := fun a ha => hfield (congrArg (Option.map _) ha)
        height := fun a ha => hfield (congrArg (Option.map _) ha)
        top := fun a ha => hfield (congrArg (Option.map _) ha) }

end Settings

end CameraControl
