import CameraControl.Camera.Overlay
import CameraControl.Proofs.Driver.Content

/-
  Settings as a device shows them.

  A slot is a way to keep a value in a feature: what is written to it is read from it again. Every
  field of the settings is kept in a slot, the area of interest in four. `Depicts` says that
  settings are those that reading finds in a driver, and `Depicts.overlay` that overwriting the
  features of some of the fields gives a driver in which reading finds just these changed.
-/

namespace CameraControl

/-! ## Slots -/

/-- A way to keep a value in a feature. -/
structure Slot (α : Type) where
  feature : Feature
  reading : Reading
  /-- The value that a reply tells. -/
  decode : Reply → Except Fault α
  encode : α → Write
  /-- What was written is read again. -/
  decode_of_write {v : α} {c c' : Content} (h : c.write (encode v) = .ok c') :
    ∃ output, c'.read? reading = some output ∧ decode ⟨Status.success, some output⟩ = .ok v

/-- The index of a member of a family stands for that member. -/
theorem Choice.ofIndex?_index {f : Family} (c : Choice f) : Choice.ofIndex? f c.index = some c := by
  cases f <;> revert c <;> decide

namespace Slot

/-- An integer. -/
def int (f : Feature) : Slot Int64 where
  feature := f
  reading := .int
  decode := fun reply => .ok reply.int
  encode := .int
  decode_of_write := by
    intro v c c' h
    cases c with
    | int value min max =>
      simp only [Content.write] at h
      split at h
      · cases h
      · cases h
        exact ⟨.int v, rfl, rfl⟩
    | _ => cases h

/-- A floating-point number. -/
def float (f : Feature) : Slot Binary64 where
  feature := f
  reading := .float
  decode := fun reply => .ok reply.float
  encode := .float
  decode_of_write := by
    intro v c c' h
    cases c with
    | float value min max =>
      simp only [Content.write] at h
      split at h
      · cases h
      · cases h
        exact ⟨.float v, rfl, rfl⟩
    | _ => cases h

/-- A truth value. -/
def bool (f : Feature) : Slot Bool where
  feature := f
  reading := .bool
  decode := fun reply => .ok reply.flag
  encode := Camera.boolWrite
  decode_of_write := by
    intro v c c' h
    cases c with
    | bool value =>
      cases h
      refine ⟨_, rfl, ?_⟩
      cases v <;> rfl
    | _ => cases h

/-- An index of an enumerated feature. -/
def index (f : Feature) : Slot Int32 where
  feature := f
  reading := .enumIndex
  decode := fun reply => .ok (reply.word 0)
  encode := .enumIndex
  decode_of_write := by
    intro v c c' h
    cases c with
    | enum index options =>
      simp only [Content.write] at h
      split at h
      · cases h
        exact ⟨.word v, rfl, rfl⟩
      · cases h
    | _ => cases h

/-- A member of a family, which goes as its index. -/
def choice (f : Family) : Slot (Choice f) where
  feature := f.feature
  reading := .enumIndex
  decode := fun reply =>
    match Choice.ofIndex? f (reply.word 0) with
    | some c => .ok c
    | none => .error (.protocol (.unknownIndex f.feature (reply.word 0) f.size))
  encode := fun c => .enumIndex c.index
  decode_of_write := by
    intro v c c' h
    cases c with
    | enum index options =>
      simp only [Content.write] at h
      split at h
      · cases h
        refine ⟨.word v.index, rfl, ?_⟩
        show (match Choice.ofIndex? f v.index with
          | some c => Except.ok c
          | none => _) = _
        rw [Choice.ofIndex?_index]
      · cases h
    | _ => cases h

variable {α : Type} {slot : Slot α} {d d' : Driver} {handle : Int32} {v x : α}

/-- Reading from the slot finds a value. -/
def Shown (slot : Slot α) (d : Driver) (handle : Int32) (v : α) : Prop :=
  d.Grants handle slot.feature (.read slot.reading) ∧
    (slot.reading = .int → handle ≠ systemHandle) ∧
    ∃ c output, d.holds? handle slot.feature = some c ∧ c.read? slot.reading = some output ∧
      slot.decode ⟨Status.success, some output⟩ = .ok v

end Slot

namespace Driver

variable {α : Type} {d d' d₁ d₂ d₃ : Driver} {handle : Int32} {f : Feature}

/-! ## What stays as it was -/

/-- Orders to fail stay. -/
theorem Akin.grants (h : Akin handle d d') {r : Request} (hd : d.Grants handle f r) :
    d'.Grants handle f r := by
  unfold Grants orderedFailure? at hd ⊢
  rw [h.failures]
  exact hd

/-- Where a feature can be read, it still can, and where it cannot, it still cannot. -/
theorem Akin.has (h : Akin handle d d') {b : Bool} (hd : d.Has handle f b) : d'.Has handle f b := by
  have hkind := h.kind f
  cases b with
  | true =>
    obtain ⟨himplemented, hreadable, c, hc, hcommand⟩ := hd
    rw [hc, Option.map_some, hcommand] at hkind
    obtain ⟨c', hc', hcommand'⟩ := Option.map_eq_some_iff.mp hkind
    exact ⟨h.grants himplemented, h.grants hreadable, c', hc', hcommand'⟩
  | false =>
    obtain ⟨himplemented, hopen, habsent | ⟨hreadable, c, hc, hcommand⟩⟩ := hd
    · rw [habsent, Option.map_none] at hkind
      exact ⟨h.grants himplemented, h.isOpen.trans hopen, .inl (Option.map_eq_none_iff.mp hkind)⟩
    · rw [hc, Option.map_some, hcommand] at hkind
      obtain ⟨c', hc', hcommand'⟩ := Option.map_eq_some_iff.mp hkind
      exact ⟨h.grants himplemented, h.isOpen.trans hopen,
        .inr ⟨h.grants hreadable, c', hc', hcommand'⟩⟩

/-- A value is found as before where the contents are those from before. -/
theorem Akin.shown (h : Akin handle d d') {slot : Slot α} {x : α}
    (hsame : d'.holds? handle slot.feature = d.holds? handle slot.feature)
    (hx : slot.Shown d handle x) : slot.Shown d' handle x := by
  obtain ⟨hgrant, hsystem, c, output, hc, hread⟩ := hx
  exact ⟨h.grants hgrant, hsystem, c, output, hsame.trans hc, hread⟩

/-! ## Writing over it -/

/-- The features that changes name are written over, and the others keep their contents. -/
structure Overwritten (handle : Int32) (changes : Feature → Option Write) (d d' : Driver) :
    Prop where
  akin : Akin handle d d'
  kept : ∀ f, changes f = none → d'.holds? handle f = d.holds? handle f
  written : ∀ f w, changes f = some w → ∃ c c',
    d.holds? handle f = some c ∧ c.write w = .ok c' ∧ d'.holds? handle f = some c'

variable {changes : Feature → Option Write}

theorem Overwritten.refl (handle : Int32) (d : Driver) :
    Overwritten handle (Entries.get? []) d d where
  akin := .refl d
  kept := fun _ _ => rfl
  written := fun _ _ h => nomatch h

/-- A write that succeeds, followed by others to other features. -/
theorem Overwritten.cons {w : Write} {rest : List (Feature × Write)} (hd : d₁.Honest)
    (hsuccess : (d₁.step (.feature handle f.key (.write w))).reply.status = Status.success)
    (hf : f ∉ Entries.keys rest)
    (h : Overwritten handle (Entries.get? rest)
      (d₁.step (.feature handle f.key (.write w))).driver d₂) :
    Overwritten handle (Entries.get? ((f, w) :: rest)) d₁ d₂ := by
  obtain ⟨c, c', hbefore, hwrite, hafter, hothers⟩ := wrote_of_success hd hsuccess
  have hrest : Entries.get? rest f = none := by
    cases hget : Entries.get? rest f with
    | none => rfl
    | some w' => exact absurd (Entries.mem_keys_of_get? hget) hf
  refine ⟨(akin_of_setter rfl).trans h.akin, fun g hg => ?_, fun g w' hg => ?_⟩
  · by_cases hfg : f = g
    · simp [Entries.get?, hfg] at hg
    · rw [Entries.get?, if_neg hfg] at hg
      rw [h.kept g hg, hothers g (Ne.symm hfg)]
  · by_cases hfg : f = g
    -- the others leave the contents alone that the first one has written
    · subst hfg
      rw [Entries.get?, if_pos rfl] at hg
      obtain rfl := Option.some.inj hg
      exact ⟨c, c', hbefore, hwrite, (h.kept f hrest).trans hafter⟩
    · rw [Entries.get?, if_neg hfg] at hg
      obtain ⟨c₂, c₂', hbefore₂, hwrite₂, hafter₂⟩ := h.written g w' hg
      exact ⟨c₂, c₂', (hothers g (Ne.symm hfg)).symm.trans hbefore₂, hwrite₂, hafter₂⟩

/-- The value that was written to a slot is found there, if anything was found there before. -/
theorem Overwritten.shown (h : Overwritten handle changes d₂ d₃) (hakin : Akin handle d₁ d₂)
    {slot : Slot α} {v x : α} (hchange : changes slot.feature = some (slot.encode v))
    (hx : slot.Shown d₁ handle x) : slot.Shown d₃ handle v := by
  obtain ⟨hgrant, hsystem, -⟩ := hx
  obtain ⟨c, c', -, hwrite, hafter⟩ := h.written _ _ hchange
  obtain ⟨output, hread, hdecode⟩ := slot.decode_of_write hwrite
  exact ⟨h.akin.grants (hakin.grants hgrant), hsystem, c', output, hafter, hread, hdecode⟩

/-- A feature that was written was there to be read before. -/
theorem Overwritten.has_before (h : Overwritten handle changes d₂ d₃) (hakin : Akin handle d₁ d₂)
    {w : Write} (hchange : changes f = some w) (hd : d₁.Has handle f false) : False := by
  obtain ⟨c, c', hbefore, hwrite, -⟩ := h.written _ _ hchange
  obtain ⟨-, -, habsent | ⟨-, c₂, hc₂, hcommand⟩⟩ := hakin.has hd
  · rw [habsent] at hbefore
    cases hbefore
  · obtain rfl : c = c₂ := Option.some.inj (hbefore.symm.trans hc₂)
    rw [(Content.isCommand_of_write hwrite).1] at hcommand
    cases hcommand

/-- What is read from a feature after an overlay: the value that was set, if one was, and what was
    read before otherwise. -/
theorem IfHas.overlay (h : Overwritten handle changes d₂ d₃) (hakin : Akin handle d₁ d₂)
    {P Q : α → Prop} {o x : Option α} (hx : d₁.IfHas handle f P x)
    (hset : ∀ v, o = some v → ∃ w, changes f = some w)
    (hwritten : ∀ v y, o = some v → P y → Q v) (hkept : ∀ y, o = none → x = some y → P y → Q y) :
    d₃.IfHas handle f Q (o <|> x) := by
  cases o with
  | some v =>
    obtain ⟨w, hw⟩ := hset v rfl
    cases x with
    | none => exact (h.has_before hakin hw hx).elim
    | some y => exact ⟨h.akin.has (hakin.has hx.1), hwritten v y rfl hx.2⟩
  | none =>
    cases x with
    | none => exact h.akin.has (hakin.has (b := false) hx)
    | some y => exact ⟨h.akin.has (hakin.has hx.1), hkept y rfl rfl hx.2⟩

end Driver

/-! ## Settings -/

namespace Settings

/-- The settings laid over others: a field that is not set is taken from those. -/
def onto (s r : Settings) : Settings where
  exposureTime := s.exposureTime <|> r.exposureTime
  frameRate := s.frameRate <|> r.frameRate
  frameCount := s.frameCount <|> r.frameCount
  accumulateCount := s.accumulateCount <|> r.accumulateCount
  cycleMode := s.cycleMode <|> r.cycleMode
  triggerMode := s.triggerMode <|> r.triggerMode
  shutter := s.shutter <|> r.shutter
  binning := s.binning <|> r.binning
  simplePreAmp := s.simplePreAmp <|> r.simplePreAmp
  pixelReadoutRate := s.pixelReadoutRate <|> r.pixelReadoutRate
  fanSpeed := s.fanSpeed <|> r.fanSpeed
  auxiliaryOutSource := s.auxiliaryOutSource <|> r.auxiliaryOutSource
  sensorCooling := s.sensorCooling <|> r.sensorCooling
  overlap := s.overlap <|> r.overlap
  spuriousNoiseFilter := s.spuriousNoiseFilter <|> r.spuriousNoiseFilter
  metadataEnable := s.metadataEnable <|> r.metadataEnable
  aoi := s.aoi <|> r.aoi

/-- Settings laid over themselves are the same. -/
theorem onto_self (r : Settings) : r.onto r = r := by
  have hfield {α : Type} (o : Option α) : (o <|> o) = o := by cases o <;> rfl
  simp only [onto, hfield]

/-- What is written to a feature for the fields that are set. -/
def write? (s : Settings) : Feature → Option Write
  | .aoiBinning => s.binning.map (Slot.choice .binning).encode
  | .aoiWidth => s.aoi.map fun a => .int a.width
  | .aoiLeft => s.aoi.map fun a => .int a.left
  | .aoiHeight => s.aoi.map fun a => .int a.height
  | .aoiTop => s.aoi.map fun a => .int a.top
  | .electronicShutteringMode => s.shutter.map (Slot.choice .shutter).encode
  | .simplePreAmpGainControl => s.simplePreAmp.map (Slot.choice .simplePreAmp).encode
  | .pixelReadoutRate => s.pixelReadoutRate.map (Slot.choice .pixelReadoutRate).encode
  | .triggerMode => s.triggerMode.map (Slot.choice .triggerMode).encode
  | .cycleMode => s.cycleMode.map (Slot.choice .cycleMode).encode
  | .frameCount => s.frameCount.map .int
  | .accumulateCount => s.accumulateCount.map .int
  | .exposureTime => s.exposureTime.map .float
  | .frameRate => s.frameRate.map .float
  | .fanSpeed => s.fanSpeed.map (Slot.choice .fanSpeed).encode
  | .sensorCooling => s.sensorCooling.map Camera.boolWrite
  | .overlap => s.overlap.map Camera.boolWrite
  | .spuriousNoiseFilter => s.spuriousNoiseFilter.map Camera.boolWrite
  | .metadataEnable => s.metadataEnable.map Camera.boolWrite
  | .auxiliaryOutSource => s.auxiliaryOutSource.map (Slot.choice .auxiliaryOutSource).encode
  | _ => none

/-- The features that settings may write, in the order in which they are written. -/
def writable : List Feature :=
  [.aoiBinning, .aoiWidth, .aoiLeft, .aoiHeight, .aoiTop, .electronicShutteringMode,
   .simplePreAmpGainControl, .pixelReadoutRate, .triggerMode, .cycleMode, .frameCount,
   .accumulateCount, .exposureTime, .frameRate, .fanSpeed, .sensorCooling, .overlap,
   .spuriousNoiseFilter, .metadataEnable, .auxiliaryOutSource]

/-- The writes of some features, in order. -/
def writesOf (changes : Feature → Option Write) (features : List Feature) :
    List (Feature × Write) :=
  features.flatMap fun f => ((changes f).map fun w => (f, w)).toList

theorem writes_eq (s : Settings) : s.writes = writesOf s.write? writable := by
  have hfield {α : Type} (f : Feature) (o : Option α) (e : α → Write) :
      ((o.map e).map fun w => (f, w)).toList = (o.map fun v => (f, e v)).toList := by
    rw [Option.map_map]
    rfl
  simp only [writesOf, writable, List.flatMap_cons, List.flatMap_nil, write?, hfield,
    List.append_nil]
  unfold writes
  simp only [List.append_assoc]
  -- the area of interest is the only field with several writes
  cases s.aoi <;> rfl

/-- Settings write to no other features. -/
theorem write?_eq_none (s : Settings) {f : Feature} (hf : f ∉ writable) : s.write? f = none := by
  unfold write?
  split
  case h_21 => rfl
  all_goals exact absurd (by decide) hf

/-- A feature is written once at most. -/
theorem get?_writesOf (changes : Feature → Option Write) (features : List Feature) (f : Feature) :
    Entries.get? (writesOf changes features) f = if f ∈ features then changes f else none := by
  induction features with
  | nil => rfl
  | cons g rest ih =>
    have hcons : writesOf changes (g :: rest) =
        ((changes g).map fun w => (g, w)).toList ++ writesOf changes rest := List.flatMap_cons
    rw [hcons]
    by_cases hg : g = f
    · subst hg
      cases hw : changes g with
      | none => simp [ih, hw]
      | some w => simp [Entries.get?]
    · have hmem : f ∈ g :: rest ↔ f ∈ rest := by
        rw [List.mem_cons]
        exact or_iff_right (Ne.symm hg)
      simp only [hmem]
      rw [← ih]
      cases changes g with
      | none => rfl
      | some w => simp [Entries.get?, hg]

theorem nodup_keys_writesOf (changes : Feature → Option Write) {features : List Feature}
    (h : features.Nodup) : (Entries.keys (writesOf changes features)).Nodup := by
  have hkeys : Entries.keys (writesOf changes features) =
      features.filter fun f => (changes f).isSome := by
    clear h
    induction features with
    | nil => rfl
    | cons g rest ih =>
      have hcons : writesOf changes (g :: rest) =
          ((changes g).map fun w => (g, w)).toList ++ writesOf changes rest := List.flatMap_cons
      rw [hcons, Entries.keys, List.map_append]
      cases hw : changes g with
      | none => simpa [hw, Entries.keys] using ih
      | some w => simpa [hw, Entries.keys] using ih
  rw [hkeys]
  exact h.filter _

theorem get?_writes (s : Settings) : Entries.get? s.writes = s.write? := by
  funext f
  rw [writes_eq, get?_writesOf]
  by_cases hf : f ∈ writable
  · rw [if_pos hf]
  · rw [if_neg hf, write?_eq_none s hf]

theorem nodup_keys_writes (s : Settings) : (Entries.keys s.writes).Nodup := by
  rw [writes_eq]
  exact nodup_keys_writesOf _ (by decide)

end Settings

namespace Driver

variable {α : Type} {d d₁ d₂ d₃ : Driver} {handle : Int32}

/-- Reading from a slot, if the device has its feature, finds a value or nothing. -/
def Finds (d : Driver) (handle : Int32) (slot : Slot α) (o : Option α) : Prop :=
  d.IfHas handle slot.feature (slot.Shown d handle) o

/-- Reading the area of interest finds its four numbers. -/
def ShowsAoi (d : Driver) (handle : Int32) (a : Aoi) : Prop :=
  (Slot.int .aoiLeft).Shown d handle a.left ∧ (Slot.int .aoiTop).Shown d handle a.top ∧
    (Slot.int .aoiWidth).Shown d handle a.width ∧ (Slot.int .aoiHeight).Shown d handle a.height

/-- Settings are those that reading finds. -/
structure Depicts (d : Driver) (handle : Int32) (r : Settings) : Prop where
  aoi : d.IfHas handle .aoiWidth (d.ShowsAoi handle) r.aoi
  exposureTime : d.Finds handle (.float .exposureTime) r.exposureTime
  frameRate : d.Finds handle (.float .frameRate) r.frameRate
  frameCount : d.Finds handle (.int .frameCount) r.frameCount
  accumulateCount : d.Finds handle (.int .accumulateCount) r.accumulateCount
  cycleMode : d.Finds handle (.choice .cycleMode) r.cycleMode
  triggerMode : d.Finds handle (.choice .triggerMode) r.triggerMode
  shutter : d.Finds handle (.choice .shutter) r.shutter
  binning : d.Finds handle (.choice .binning) r.binning
  simplePreAmp : d.Finds handle (.choice .simplePreAmp) r.simplePreAmp
  pixelReadoutRate : d.Finds handle (.choice .pixelReadoutRate) r.pixelReadoutRate
  fanSpeed : d.Finds handle (.choice .fanSpeed) r.fanSpeed
  auxiliaryOutSource : d.Finds handle (.choice .auxiliaryOutSource) r.auxiliaryOutSource
  sensorCooling : d.Finds handle (.bool .sensorCooling) r.sensorCooling
  overlap : d.Finds handle (.bool .overlap) r.overlap
  spuriousNoiseFilter : d.Finds handle (.bool .spuriousNoiseFilter) r.spuriousNoiseFilter
  metadataEnable : d.Finds handle (.bool .metadataEnable) r.metadataEnable

/-- What a slot shows after an overlay. -/
theorem Finds.overlay {changes : Feature → Option Write} {slot : Slot α} {o x : Option α}
    (hx : d₁.Finds handle slot x) (h : Overwritten handle changes d₂ d₃)
    (hakin : Akin handle d₁ d₂) (hchange : changes slot.feature = o.map slot.encode)
    (hkept : o = none → x = none ∨ ∀ f, d₂.holds? handle f = d₁.holds? handle f) :
    d₃.Finds handle slot (o <|> x) := by
  refine IfHas.overlay h hakin hx ?_ ?_ ?_
  · rintro v rfl
    exact ⟨_, hchange⟩
  · rintro v y rfl hy
    exact h.shown hakin hchange hy
  · rintro y rfl rfl hy
    rcases hkept rfl with hnone | hsame
    · cases hnone
    · have hafter := h.kept slot.feature hchange
      exact (hakin.trans h.akin).shown (hafter.trans (hsame _)) hy

/-- An area of interest that was written is shown. -/
theorem Overwritten.showsAoi {s : Settings} (h : Overwritten handle s.write? d₂ d₃)
    (hakin : Akin handle d₁ d₂) {v y : Aoi} (hv : s.aoi = some v) (hy : d₁.ShowsAoi handle y) :
    d₃.ShowsAoi handle v := by
  have hchange (g : Aoi → Int64) : (s.aoi.map fun a => Write.int (g a)) = some (.int (g v)) :=
    congrArg (Option.map _) hv
  obtain ⟨hleft, htop, hwidth, hheight⟩ := hy
  exact ⟨h.shown hakin (hchange Aoi.left) hleft, h.shown hakin (hchange Aoi.top) htop,
    h.shown hakin (hchange Aoi.width) hwidth, h.shown hakin (hchange Aoi.height) hheight⟩

/-- An area of interest that was not written is the one that was shown before. -/
theorem Overwritten.showsAoi_of_none {s : Settings} (h : Overwritten handle s.write? d₂ d₃)
    (hakin : Akin handle d₁ d₂) (hnone : s.aoi = none)
    (hsame : ∀ f, d₂.holds? handle f = d₁.holds? handle f) {y : Aoi} (hy : d₁.ShowsAoi handle y) :
    d₃.ShowsAoi handle y := by
  have hchange (g : Aoi → Int64) : (s.aoi.map fun a => Write.int (g a)) = none :=
    congrArg (Option.map _) hnone
  have hslot {f : Feature} {v : Int64} (hf : s.write? f = none)
      (hv : (Slot.int f).Shown d₁ handle v) : (Slot.int f).Shown d₃ handle v :=
    (hakin.trans h.akin).shown ((h.kept f hf).trans (hsame f)) hv
  obtain ⟨hleft, htop, hwidth, hheight⟩ := hy
  exact ⟨hslot (hchange Aoi.left) hleft, hslot (hchange Aoi.top) htop,
    hslot (hchange Aoi.width) hwidth, hslot (hchange Aoi.height) hheight⟩

/-- Overwriting the features of the fields that some settings set changes just these fields. What
    reading found before may come from an earlier state with the same contents, or it may be the
    settings themselves. -/
theorem Depicts.overlay {r s : Settings} (hr : d₁.Depicts handle r) (hakin : Akin handle d₁ d₂)
    (h : Overwritten handle s.write? d₂ d₃)
    (hkept : s = r ∨ ∀ f, d₂.holds? handle f = d₁.holds? handle f) :
    d₃.Depicts handle (s.onto r) := by
  have hfield {α : Type} (field : Settings → Option α) :
      field s = none → field r = none ∨ ∀ f, d₂.holds? handle f = d₁.holds? handle f := by
    intro hnone
    rcases hkept with rfl | hsame
    · exact .inl hnone
    · exact .inr hsame
  exact {
    aoi := by
      refine IfHas.overlay h hakin hr.aoi ?_ ?_ ?_
      · intro v hv
        exact ⟨.int v.width, congrArg (Option.map _) hv⟩
      · exact fun v y hv hy => h.showsAoi hakin hv hy
      · intro y hnone hy hshown
        rcases hfield Settings.aoi hnone with hnone' | hsame
        · rw [hnone'] at hy
          cases hy
        · exact h.showsAoi_of_none hakin hnone hsame hshown
    exposureTime := hr.exposureTime.overlay h hakin rfl (hfield Settings.exposureTime)
    frameRate := hr.frameRate.overlay h hakin rfl (hfield Settings.frameRate)
    frameCount := hr.frameCount.overlay h hakin rfl (hfield Settings.frameCount)
    accumulateCount := hr.accumulateCount.overlay h hakin rfl (hfield Settings.accumulateCount)
    cycleMode := hr.cycleMode.overlay h hakin rfl (hfield Settings.cycleMode)
    triggerMode := hr.triggerMode.overlay h hakin rfl (hfield Settings.triggerMode)
    shutter := hr.shutter.overlay h hakin rfl (hfield Settings.shutter)
    binning := hr.binning.overlay h hakin rfl (hfield Settings.binning)
    simplePreAmp := hr.simplePreAmp.overlay h hakin rfl (hfield Settings.simplePreAmp)
    pixelReadoutRate := hr.pixelReadoutRate.overlay h hakin rfl (hfield Settings.pixelReadoutRate)
    fanSpeed := hr.fanSpeed.overlay h hakin rfl (hfield Settings.fanSpeed)
    auxiliaryOutSource :=
      hr.auxiliaryOutSource.overlay h hakin rfl (hfield Settings.auxiliaryOutSource)
    sensorCooling := hr.sensorCooling.overlay h hakin rfl (hfield Settings.sensorCooling)
    overlap := hr.overlap.overlay h hakin rfl (hfield Settings.overlap)
    spuriousNoiseFilter :=
      hr.spuriousNoiseFilter.overlay h hakin rfl (hfield Settings.spuriousNoiseFilter)
    metadataEnable := hr.metadataEnable.overlay h hakin rfl (hfield Settings.metadataEnable) }

end Driver

end CameraControl
