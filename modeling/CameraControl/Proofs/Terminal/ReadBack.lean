import CameraControl.Proofs.Camera.Texts
import CameraControl.Proofs.Terminal.Borrowing

/-
  Reading back on the command line.

  `set` and `get` both find a feature by its name, open the device, and go by the kind of the
  feature; one reads a text and writes what it means, the other reads the contents and prints a
  text. `Displays` says which text stands for a value text, `Shows` which text reading contents
  prints; a write that takes effect leaves contents that show what its text displays, `Means.shows`.
  Between the two commands the device is closed and opened again, which changes nothing about what
  it holds.

  Handles and the numbers of options are numbers of 32 bits, so all this is about fewer than 2^31 of
  each. Neither limit can be left out, `get_misses_beyond_limits`.
-/

namespace CameraControl

/-! ## Contents and the texts that show them -/

/-- The options of an enumeration can all be numbered in 32 bits, as the driver numbers them. -/
def Content.Numbered : Content → Prop
  | enum _ options => options.length ≤ 2147483648
  | _ => True

instance (c : Content) : Decidable c.Numbered := by
  unfold Content.Numbered
  split <;> infer_instance

/-- So can the options of all features of a device. -/
def Device.Numbered (device : Device) : Prop := ∀ p ∈ device.features, p.2.Numbered

instance (device : Device) : Decidable device.Numbered :=
  inferInstanceAs (Decidable (∀ p ∈ device.features, p.2.Numbered))

/-- The text that reading contents of a kind comes to. -/
inductive Content.Shows : FeatureKind → Content → String → Prop
  | int {value min max : Int64} : Shows .int (.int value min max) (toString value)
  | float {value min max : Binary64} : Shows .float (.float value min max) value.plain
  | bool {b : Bool} : Shows .bool (.bool b) (toString b)
  | enum {index : Int32} {options : List String} {v : String} (hindex : 0 ≤ index.toInt)
      (hoption : options[index.toInt.toNat]? = some v) :
      Shows .enum (.enum index options) (Text.cut v)
  | string {v : String} : Shows .string (.text v) (Text.cut v)

/-- The system counts its devices and has no other number. -/
theorem Camera.int_of_system {w : World} (hhonest : w.driver.Honest) {cam : Camera}
    (hhandle : cam.handle = systemHandle) {f : Feature} (hf : f ≠ .deviceCount) :
    ∃ fault, ((cam.int f).exec w).1 = .error fault := by
  obtain ⟨fault, hfault⟩ := request_of_status cam f (.read .int) rfl trivial "" (w := w)
    fun hstatus => (Driver.read_of_success hhonest hf hstatus).2.1 rfl hhandle
  exact ⟨fault, Action.outcome_bind_of_error hfault⟩

namespace Terminal

open CameraControl.Action World Job

variable {c c' : Console} {cam : Camera} {f : Feature} {value text : String}

/-- What a value text of a kind means as a write. -/
inductive Means : FeatureKind → String → Write → Prop
  | int {value : String} {n : Int64} (h : Integer.readInt64 value = .ok n) :
    Means .int value (.int n)
  | float {value : String} {x : Binary64} (h : Binary64.read value = .ok x) :
    Means .float value (.float x)
  | bool (b : Bool) : Means .bool (toString b) (Camera.boolWrite b)
  | enum (value : String) : Means .enum value (.enumText value)
  | string (value : String) : Means .string value (.text value)

/-- A text is not read as a value, or it means a write; for a command it means none. -/
theorem writeOf?_cases (kind : FeatureKind) (value : String) :
    (∃ complaint, writeOf? kind value = .error complaint) ∨
    (∃ v, writeOf? kind value = .ok (some v) ∧ Means kind value v) ∨
    (kind = .command ∧ writeOf? kind value = .ok none) := by
  cases kind with
  | int =>
    cases hread : Integer.readInt64 value with
    | error flaw => exact .inl ⟨.integer flaw, by rw [writeOf?, hread]; rfl⟩
    | ok n => exact .inr (.inl ⟨.int n, by rw [writeOf?, hread]; rfl, .int hread⟩)
  | float =>
    cases hread : Binary64.read value with
    | error flaw => exact .inl ⟨.float flaw, by rw [writeOf?, hread]; rfl⟩
    | ok x => exact .inr (.inl ⟨.float x, by rw [writeOf?, hread]; rfl, .float hread⟩)
  | bool =>
    by_cases htrue : value = "true"
    · subst htrue
      exact .inr (.inl ⟨_, rfl, .bool true⟩)
    by_cases hfalse : value = "false"
    · subst hfalse
      exact .inr (.inl ⟨_, rfl, .bool false⟩)
    exact .inl ⟨.notBool, by rw [writeOf?, if_neg htrue, if_neg hfalse]⟩
  | enum => exact .inr (.inl ⟨_, rfl, .enum value⟩)
  | string => exact .inr (.inl ⟨_, rfl, .string value⟩)
  | command => exact .inr (.inr ⟨rfl, rfl⟩)

/-- A write of which nobody hears is one call, or none if its text would end early. -/
theorem write_unheard {w : World} (cam : Camera) (f : Feature) (v : Write)
    (hdirect : w.backend = .direct)
    (hnobody : w.driver.subscriptions = []) :
    (∃ fault, (cam.write f v).exec w = (.error fault, w)) ∨
    (∃ fault, (cam.write f v).exec w = (.error fault, w.take (cam.setter (f, v)))) ∨
    ((w.driver.step (cam.setter (f, v))).reply.status = Status.success ∧
      (cam.write f v).exec w = (.ok (), w.take (cam.setter (f, v)))) := by
  by_cases hunbroken : (Request.write v).Unbroken
  · have hexec := Camera.write_exec cam (p := (f, v)) hunbroken w
    rw [call_of_unheard (c := cam.setter (f, v)) hdirect (Driver.notices_write hnobody _ _ _)]
      at hexec
    dsimp only at hexec
    split at hexec
    · next hstatus => exact .inr (.inr ⟨hstatus, hexec⟩)
    · exact .inr (.inl ⟨_, hexec⟩)
  · obtain ⟨s, -, -, hthrow⟩ := cam.write_of_broken f hunbroken
    exact .inl ⟨.interiorNul s, by rw [hthrow]; rfl⟩

/-- How working on a feature with a text can go: without a call, or with one on the handle of the
    camera. -/
inductive Sets (cam : Camera) (f : Feature) (value : String) (w : World) :
    Except Complaint Unit → World → Prop where
  /-- The text is not read as a value, or the value cannot be handed over. -/
  | unread {complaint : Complaint} : Sets cam f value w (.error complaint) w
  /-- The call fails. -/
  | failed {complaint : Complaint} {call : Call} (hcall : call.KeepsTo cam.handle) :
    Sets cam f value w (.error complaint) (w.take call)
  | wrote {v : Write} (hv : Means f.kind value v)
      (hstatus : (w.driver.step (cam.setter (f, v))).reply.status = Status.success) :
    Sets cam f value w (.ok ()) (w.take (cam.setter (f, v)))
  | ran (hkind : f.kind = .command) :
    Sets cam f value w (.ok ()) (w.take (.feature cam.handle f.key .command))

/-- What a write finds and what it leaves behind, if nothing is ordered to fail. -/
theorem stored_of_status {w : World} {v : Write} (hobedient : w.driver.failures = [])
    (hstatus : (w.driver.step (cam.setter (f, v))).reply.status = Status.success) :
    ∃ before after, w.driver.contentAt? cam.handle f.key = some before ∧
      before.write v = .ok after ∧
      (w.take (cam.setter (f, v))).driver.contentAt? cam.handle f.key = some after := by
  have hwritten := Driver.written_of_takesEffect ⟨Driver.grants_of_obedient hobedient, hstatus⟩
  obtain ⟨before, after, hbefore, hwrite, -, hafter⟩ := hwritten.stored
  exact ⟨before, after, hbefore, hwrite, hafter⟩

/-- The device stays lent. -/
theorem Sets.lent {w w' : World} {outcome : Except Complaint Unit}
    (h : Sets cam f value w outcome w') {d : Driver} {i : Nat} (hhandle : cam.handle = d.nextHandle)
    (hlent : d.Lent i w.driver) : d.Lent i w'.driver := by
  cases h with
  | unread => exact hlent
  | failed hcall => exact hlent.step (hhandle ▸ hcall)
  | wrote | ran => exact hlent.step hhandle

theorem setFeature_of_unread {complaint : Complaint}
    (h : writeOf? f.kind value = .error complaint) (cam : Camera) (c : Console) :
    (setFeature cam f value).run c = (.error complaint, c) := by
  rw [setFeature, h]
  rfl

theorem setFeature_sets (cam : Camera) (f : Feature) (value : String)
    (hdirect : c.world.backend = .direct) (hnobody : c.world.driver.subscriptions = []) :
    ∃ w, ((setFeature cam f value).run c).2 = { c with world := w } ∧
      Sets cam f value c.world ((setFeature cam f value).run c).1 w := by
  -- one case for each of the ways in which a text is read, the last one for commands
  rcases writeOf?_cases f.kind value with ⟨complaint, hv⟩ | ⟨v, hv, hmeans⟩ | ⟨hkind, hv⟩
  · rw [setFeature_of_unread hv]
    exact ⟨c.world, rfl, .unread⟩
  · have hset : setFeature cam f value = act (cam.write f v) := by rw [setFeature, hv]
    rw [hset]
    rcases write_unheard cam f v hdirect hnobody with
      ⟨fault, hexec⟩ | ⟨fault, hexec⟩ | ⟨hstatus, hexec⟩
    · rw [run_act_of_error hexec]
      exact ⟨_, rfl, .unread⟩
    · rw [run_act_of_error hexec]
      exact ⟨_, rfl, .failed rfl⟩
    · rw [run_act_of_ok hexec]
      exact ⟨_, rfl, .wrote hmeans hstatus⟩
  · have hset : setFeature cam f value = act (cam.command f) := by rw [setFeature, hv]
    rw [hset]
    rcases cam.command_cases f c.world with ⟨-, hexec⟩ | ⟨-, fault, hexec⟩
    · rw [run_act_of_ok hexec]
      exact ⟨_, rfl, .ran hkind⟩
    · rw [run_act_of_error hexec]
      exact ⟨_, rfl, .failed rfl⟩

/-! ## Reading -/

/-- Looking at something and making a text of it. -/
theorem run_look {α : Type} {a : Action α} (ha : a.Glances) (g : α → String) (c : Console) :
    ∃ w, ((do return g (← act a) : Job String).run c) =
        (((a.exec c.world).1.mapError .fault).map g, { c with world := w }) ∧
      c.world.Looked w := by
  refine ⟨(a.exec c.world).2, ?_, ha c.world⟩
  rcases hexec : a.exec c.world with ⟨fault | x, w⟩
  · exact run_bind_of_error (run_act_of_error hexec)
  · exact run_bind_of_ok (run_act_of_ok hexec)

theorem showFeature_looks (cam : Camera) (f : Feature) (c : Console) :
    ∃ w, ((showFeature cam f).run c).2 = { c with world := w } ∧ c.world.Looked w := by
  have hlook {α : Type} {a : Action α} (ha : a.Glances) (g : α → String) :
      ∃ w, ((do return g (← act a) : Job String).run c).2 = { c with world := w } ∧
        c.world.Looked w := by
    obtain ⟨w, hrun, hlooked⟩ := run_look ha g c
    exact ⟨w, congrArg Prod.snd hrun, hlooked⟩
  unfold showFeature
  split
  · exact hlook (cam.readInt_glances f .int) toString
  · exact hlook (cam.readFloat_glances f .float) Binary64.plain
  · exact hlook (cam.bool_glances f) toString
  · exact ⟨_, rfl, cam.enumText_glances f c.world⟩
  · exact ⟨_, rfl, cam.text_glances f c.world⟩
  · exact ⟨c.world, rfl, .refl c.world⟩

/-- Printing the value of a feature looks at the driver, and prints a line if it succeeds. -/
theorem printFeature_looks (cam : Camera) (f : Feature) (c : Console) :
    ∃ w, c.world.Looked w ∧
      ((do printLine (← showFeature cam f)).run c).2.world = w ∧
      ∀ text, ((showFeature cam f).run c).1 = .ok text →
        (do printLine (← showFeature cam f)).run c =
          (.ok (), ⟨w, c.printed ++ text ++ "\n"⟩) := by
  obtain ⟨w, hworld, hlooked⟩ := showFeature_looks cam f c
  refine ⟨w, hlooked, ?_⟩
  rcases hrun : (showFeature cam f).run c with ⟨complaint | text, c'⟩
  · rw [hrun] at hworld
    dsimp only at hworld
    subst hworld
    rw [run_bind_of_error hrun]
    exact ⟨rfl, fun _ h => by cases h⟩
  · rw [hrun] at hworld
    dsimp only at hworld
    subst hworld
    rw [run_bind_of_ok hrun]
    refine ⟨rfl, fun _ h => ?_⟩
    cases h
    rw [String.append_assoc]
    rfl

/-- Nothing is printed of a feature that cannot be shown. -/
theorem printFeature_of_error {complaint : Complaint}
    (h : ((showFeature cam f).run c).1 = .error complaint) :
    ((do printLine (← showFeature cam f)).run c).1 = .error complaint := by
  have hrun : (showFeature cam f).run c = (.error complaint, ((showFeature cam f).run c).2) :=
    Prod.ext h rfl
  exact congrArg Prod.fst (run_bind_of_error hrun)

/-! ## The commands -/

/-- A name that no feature has ends a command before it does anything. -/
theorem feature_unknown {α : Type} {name : String}
    (h : ∀ f : Feature, keysMatch f.key name = false) (j : Feature → Job α) (c : Console) :
    (feature name >>= j).run c = (.error (.unknownFeature name), c) := by
  rw [feature, Feature.ofKey?_eq_none h]
  rfl

theorem feature_found {α : Type} {name : String} (h : keysMatch f.key name = true)
    (j : Feature → Job α) (c : Console) : (feature name >>= j).run c = (j f).run c := by
  rw [feature, Feature.ofKey?_eq_some_iff.mpr h]
  rfl

theorem get_borrows_of_idle {index : DeviceIndex} {name : String} (hd : c.world.driver.Idle)
    (hqueues : c.world.driver.queues = []) (hname : keysMatch f.key name = true) :
    Borrows index (fun cam => do printLine (← showFeature cam f)) c
      ((get index name).run c).1 ((get index name).run c).2 := by
  rw [get, feature_found hname]
  refine withCamera_borrows hd.honest (hd.fresh hqueues)
    (hd.failures ▸ List.forall_mem_nil _) index _ fun hlent => ?_
  obtain ⟨w, ⟨calls, hlooked⟩, hworld, -⟩ :=
    printFeature_looks (borrowed index c.world) f (whileLent index c)
  rw [hworld, hlooked]
  exact hlent.of_log _

section

variable {index : DeviceIndex} {name : String} (hd : c.world.driver.Resting)
  (hname : keysMatch f.key name = true)

include hd hname

theorem get_borrows : Borrows index (fun cam => do printLine (← showFeature cam f)) c
    ((get index name).run c).1 ((get index name).run c).2 :=
  get_borrows_of_idle hd.toIdle hd.queues hname

theorem set_borrows (hdirect : c.world.backend = .direct) :
    Borrows index (fun cam => setFeature cam f value) c
      ((set index name value).run c).1 ((set index name value).run c).2 := by
  rw [set, feature_found hname]
  refine borrows_of_resting hd index _ fun hlent => ?_
  obtain ⟨w, hworld, hsets⟩ := setFeature_sets (c := whileLent index c) (borrowed index c.world) f
    value hdirect (hlent.subscriptions.trans hd.subscriptions)
  rw [hworld]
  exact hsets.lent rfl hlent

/-- A text that means a write which the device admits is set. -/
theorem set_of_editable (hdirect : c.world.backend = .direct) (hindex : 0 ≤ index.toInt)
    {device : Device} {before after : Content} {v : Write}
    (hdevice : c.world.driver.devices[index.toInt.toNat]? = some device)
    (hread : writeOf? f.kind value = .ok (some v))
    (hunbroken : (CameraControl.Request.write v).Unbroken)
    (heditable : device.Editable f before) (hwrite : before.write v = .ok after) :
    ((set index name value).run c).1 = .ok () := by
  have hborrows : Borrows index (fun cam => setFeature cam f value) c _ _ :=
    set_borrows hd hname hdirect
  obtain ⟨c₁, hbody, -, hbegun⟩ := hborrows.worked hd hindex hdevice
  have hlent := Driver.lent_holding hd.fresh hdevice [.open]
  rw [← hbegun] at hlent
  have hdevice₀ : (whileLent index c).world.driver.devices[index.toInt.toNat]? = some device := by
    rw [hbegun]
    exact hdevice
  have hadmits : device.write f.key v = .ok (device.setContent f.key after) := by
    rw [heditable.write_eq, hwrite]
    rfl
  have hstatus : ((whileLent index c).world.driver.step
      ((borrowed index c.world).setter (f, v))).reply.status = Status.success :=
    ((hlent.step_write hd.fresh hd.failures hdevice₀ f.key v).1 _ hadmits).1
  have hnobody : (whileLent index c).world.driver.subscriptions = [] :=
    hlent.subscriptions.trans hd.subscriptions
  have hexec := Camera.write_exec (borrowed index c.world) (p := (f, v)) hunbroken
    (whileLent index c).world
  rw [call_of_unheard (w := (whileLent index c).world) (c := (borrowed index c.world).setter (f, v))
    hdirect (Driver.notices_write hnobody _ _ _)] at hexec
  dsimp only at hexec
  rw [if_pos hstatus] at hexec
  rw [setFeature, hread] at hbody
  exact (congrArg Prod.fst hbody).symm.trans (congrArg Prod.fst (run_act_of_ok hexec))

/-- A command that sets a feature has made one write, and the device at the index keeps what it left
    when it has been closed. -/
theorem set_wrote (hdirect : c.world.backend = .direct) (hkind : f.kind ≠ .command)
    (hok : ((set index name value).run c).1 = .ok ()) :
    ∃ v before after device device', Means f.kind value v ∧ before.write v = .ok after ∧
      c.world.driver.devices[index.toInt.toNat]? = some device ∧
      device.content? f.key = some before ∧
      ((set index name value).run c).2.world.driver.devices[index.toInt.toNat]? = some device' ∧
      device'.content? f.key = some after ∧ 0 ≤ index.toInt ∧
      ((set index name value).run c).2.printed = c.printed := by
  have hborrows : Borrows index (fun cam => setFeature cam f value) c _ _ :=
    set_borrows hd hname hdirect
  rcases hrun : (set index name value).run c with ⟨outcome, c'⟩
  rw [hrun] at hborrows hok
  dsimp only at hok
  subst hok
  cases hborrows with
  | @lent device _ c₁ hdevice hstep hbody hlent =>
    have hhandle : (borrowed index c.world).handle = c.world.driver.nextHandle := rfl
    have hbegun := driver_whileLent hstep
    have hnobody : (whileLent index c).world.driver.subscriptions = [] := by
      rw [hbegun]
      exact hd.subscriptions
    obtain ⟨w, hworld, hsets⟩ := setFeature_sets (c := whileLent index c) (borrowed index c.world) f
      value hdirect hnobody
    rw [hbody] at hworld hsets
    dsimp only at hworld hsets
    subst hworld
    cases hsets with
    | ran hcommand => exact absurd hcommand hkind
    | @wrote v hmeans hstatus =>
      have hlent₀ := Driver.lent_holding hd.fresh hdevice [.open]
      rw [← hbegun] at hlent₀
      obtain ⟨before, after, hbefore, hwrite, hafter⟩ :=
        stored_of_status (hlent₀.failures.trans hd.failures) hstatus
      have hholds := (hlent₀.contentAt? hd.fresh f.key).symm.trans hbefore
      rw [hbegun] at hholds
      obtain ⟨device₀, hdevice₀, hcontent₀⟩ := Option.bind_eq_some_iff.mp hholds
      -- what the handle reached is what the device holds, also when the handle is closed
      obtain ⟨device', hdevice', hcontent'⟩ := Option.bind_eq_some_iff.mp
        ((hlent.contentAt? hd.fresh f.key).symm.trans hafter)
      have hclosed := driver_givenBack hhandle hd.fresh (closes_of_resting hd) hlent
      have hplace := hd.place_of_open (congrArg (fun o => o.reply.status) hstep)
      exact ⟨v, before, after, device₀, device', hmeans, hwrite, hdevice₀, hcontent₀,
        (congrArg (fun d => d.devices[index.toInt.toNat]?) hclosed).trans hdevice', hcontent',
        hplace.1, rfl⟩

end

/-- A command about a feature does nothing if there is no such feature. -/
theorem named_cases {index : DeviceIndex} {name : String} {j : Feature → Job Unit}
    (hj : ∀ f : Feature, keysMatch f.key name = true → ∃ body : Camera → Job Unit,
      Borrows index body c ((feature name >>= j).run c).1 ((feature name >>= j).run c).2) :
    ((feature name >>= j).run c).2 = c ∨ ∃ body : Camera → Job Unit,
      Borrows index body c ((feature name >>= j).run c).1 ((feature name >>= j).run c).2 := by
  by_cases hname : ∀ f : Feature, keysMatch f.key name = false
  · exact .inl (congrArg Prod.snd (feature_unknown hname j c))
  · obtain ⟨f, hf⟩ := not_forall.mp hname
    exact .inr (hj f (by simpa using hf))

theorem set_resting (hd : c.world.driver.Resting) (hnext : c.world.driver.nextHandle ≠ 0)
    (hdirect : c.world.backend = .direct) (index : DeviceIndex) (name value : String) :
    ((set index name value).run c).2.world.driver.Resting := by
  have hcases : ((set index name value).run c).2 = c ∨ _ :=
    named_cases fun _ hf => ⟨_, set_borrows hd hf hdirect⟩
  rcases hcases with hsame | ⟨body, hborrows⟩
  · rw [hsame]
    exact hd
  · exact hborrows.resting hd hnext

/-! ### Limits of 32 bits -/

/-- An option that is set but has no number is not shown. -/
theorem get_of_unnumbered {options : List String}
    (hpos : options.findIdx? (· == "b") = some 2147483648) :
    let device := (Device.bare "A").put .triggerMode (.enum 0 options)
    let c : Console := ⟨.ofDriver .direct (.ofDevices [device]), ""⟩
    ((set 0 "TriggerMode" "b").run c).1 = .ok () ∧ ∃ complaint,
      ((get 0 "TriggerMode").run ((set 0 "TriggerMode" "b").run c).2).1 = .error complaint := by
  intro device c
  have hname : keysMatch Feature.triggerMode.key "TriggerMode" = true := by decide +kernel
  have hsystem : (100 : Int32) ≠ systemHandle := by decide
  have hzero : (100 : Int32) ≠ 0 := by decide
  have hd : c.world.driver.Resting := ⟨⟨rfl, rfl, rfl, rfl⟩, rfl, hsystem⟩
  have heditable : device.Editable .triggerMode (.enum 0 options) := Device.editable_put _ _ _
  have hwrite := Content.write_enumText 0 (by decide) hpos
  have hok : ((set 0 "TriggerMode" "b").run c).1 = .ok () :=
    set_of_editable hd hname rfl (by decide) rfl rfl
      (Camera.unbroken_of_text rfl (by decide)) heditable hwrite
  refine ⟨hok, ?_⟩
  obtain ⟨v, before, after, device₀, device', hmeans, hwrote, hdevice₀, hcontent₀, hdevice',
    hcontent', -, -⟩ := set_wrote hd hname rfl (by decide) hok
  obtain rfl : device = device₀ := Option.some.inj hdevice₀
  obtain rfl : Content.enum 0 options = before :=
    Option.some.inj (heditable.content.symm.trans hcontent₀)
  obtain rfl : v = .enumText "b" := by
    have hmeans : Means .enum "b" v := hmeans
    cases hmeans
    rfl
  obtain rfl := Except.ok.inj (hwrite.symm.trans hwrote)
  have hd' := set_resting hd hzero rfl 0 "TriggerMode" "b"
  generalize ((set 0 "TriggerMode" "b").run c).2 = c' at hdevice' hd' ⊢
  refine (get_borrows hd' hname).fails fun hbegun => ?_
  have hholds := holds?_whileLent hd'.fresh hbegun hdevice' hcontent'
  have hgrant (r : CameraControl.Request) : (whileLent 0 c').world.driver.Grants
      (borrowed 0 c'.world).handle .triggerMode r :=
    Driver.grants_of_obedient ((failures_whileLent hbegun).trans hd'.failures)
  -- the option was kept by its number in 32 bits, which is negative
  obtain ⟨fault, hfault⟩ :=
    Camera.enumText_of_negative (by decide) (hgrant _) (hgrant _) hholds
  have hshow : showFeature (borrowed 0 c'.world) .triggerMode =
      act ((borrowed 0 c'.world).enumText .triggerMode) := rfl
  refine ⟨.fault fault, printFeature_of_error ?_⟩
  rw [hshow, run_act, hfault]
  rfl

/-- A camera that was given the handle of the system has no number to show. -/
theorem get_of_system {index : DeviceIndex} {name : String} (hd : c.world.driver.Idle)
    (hqueues : c.world.driver.queues = []) (hhandle : c.world.driver.nextHandle = systemHandle)
    (hname : keysMatch f.key name = true) (hkind : f.kind = .int) (hf : f ≠ .deviceCount) :
    ∃ complaint, ((get index name).run c).1 = .error complaint := by
  refine (get_borrows_of_idle hd hqueues hname).fails fun hbegun => ?_
  have hhonest : (whileLent index c).world.driver.Honest := by
    rw [hbegun]
    exact ⟨hd.honest.failures, hd.honest.openFailures⟩
  have hsystem : (borrowed index c.world).handle = systemHandle := hhandle
  obtain ⟨fault, hfault⟩ := Camera.int_of_system hhonest hsystem hf
  obtain ⟨w, hlook, -⟩ := run_look ((borrowed index c.world).readInt_glances f .int)
    (toString : Int64 → String) (whileLent index c)
  refine ⟨.fault fault, printFeature_of_error ?_⟩
  rw [showFeature, hkind]
  refine (congrArg Prod.fst hlook).trans ?_
  exact congrArg (fun x => (x.mapError Complaint.fault).map toString) hfault

/-- Handle 0 is followed by that of the system, under which a number that is set is not shown. -/
theorem get_of_worn {device : Device} (hdirect : c.world.backend = .direct)
    (hd : c.world.driver.Resting) (hhandle : c.world.driver.nextHandle = 0)
    (hdevice : c.world.driver.devices[0]? = some (device.put .frameCount (.int 1 0 10))) :
    ((set 0 "FrameCount" "5").run c).1 = .ok () ∧ ∃ complaint,
      ((get 0 "FrameCount").run ((set 0 "FrameCount" "5").run c).2).1 = .error complaint := by
  have hname : keysMatch Feature.frameCount.key "FrameCount" = true := by decide +kernel
  have hread : writeOf? Feature.frameCount.kind "5" = .ok (some (.int 5)) := by decide +kernel
  have hok : ((set 0 "FrameCount" "5").run c).1 = .ok () :=
    set_of_editable hd hname hdirect (by decide) hdevice hread (fun _ h => by cases h)
      (Device.editable_put _ _ _) rfl
  have hborrows : Borrows 0 (fun cam => setFeature cam .frameCount "5") c _ _ :=
    set_borrows hd hname hdirect
  obtain ⟨hidle, hqueues⟩ := hborrows.idle hd
  refine ⟨hok, get_of_system hidle hqueues ?_ hname rfl (by decide)⟩
  rcases hborrows.nextHandle hd with hnext | ⟨⟨complaint, hfailed⟩, -⟩
  · rw [hnext, hhandle]
    rfl
  · cases hok.symm.trans hfailed

/-! ### Getting what was set -/

/-- Beyond the limits of 32 bits what was set is not read back. An option behind 2147483648 others
    is set and has a negative number; and a camera that is opened when all handles have been handed
    out gets the one of the system, which counts devices and has no other number. -/
theorem get_misses_beyond_limits :
    let crowded := (Device.bare "A").put .triggerMode
      (.enum 0 (List.replicate 2147483648 "a" ++ ["b"]))
    let c : Console := ⟨.ofDriver .direct (.ofDevices [crowded]), ""⟩
    let counting := (Device.bare "A").put .frameCount (.int 1 0 10)
    let worn : Console :=
      ⟨.ofDriver .direct ((Driver.ofDevices [counting]).run (Driver.visits 100 4294967196)), ""⟩
    (((set 0 "TriggerMode" "b").run c).1 = .ok () ∧ ∃ complaint,
      ((get 0 "TriggerMode").run ((set 0 "TriggerMode" "b").run c).2).1 = .error complaint) ∧
    ((set 0 "FrameCount" "5").run worn).1 = .ok () ∧ ∃ complaint,
      ((get 0 "FrameCount").run ((set 0 "FrameCount" "5").run worn).2).1 = .error complaint := by
  intro crowded c counting worn
  constructor
  · exact get_of_unnumbered (Text.findIdx?_behind 2147483648)
  · obtain ⟨log, hrun⟩ := Driver.run_visits (d := Driver.ofDevices [counting]) 4294967196
      ⟨rfl, rfl, rfl, rfl⟩ rfl rfl
    have hfirst : (Driver.ofDevices [counting]).nextHandle = 100 := rfl
    have hwrap : (100 : Int32) + Int32.ofNat 4294967196 = 0 := by decide
    have hsystem : (0 : Int32) ≠ systemHandle := by decide
    rw [hfirst, hwrap] at hrun
    -- from here on there are only the handle and the log that the visits come to, not the visits
    have hworn := congrArg (fun d => Console.mk (.ofDriver .direct d) "") hrun
    change worn = _ at hworn
    rw [hworn]
    exact get_of_worn rfl ⟨⟨rfl, rfl, rfl, rfl⟩, rfl, hsystem⟩ rfl rfl

end Terminal

end CameraControl
