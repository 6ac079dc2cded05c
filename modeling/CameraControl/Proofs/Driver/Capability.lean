import CameraControl.Proofs.Driver.Content
import CameraControl.Proofs.Driver.Devices
import CameraControl.Proofs.Driver.Procedure

/-
  What the answers about a feature foretell.

  Whether a feature is implemented, can be read or written and is read-only are four questions; what
  reads, writes and commands come to is decided elsewhere. `Foretold` says that the answers are
  right about all of them, together with the kind of value that is stored: a write succeeds exactly
  on a writable feature of its kind that admits the value, a read exactly on a readable feature of
  its kind, a command exactly where there is a feature that cannot be read. `capabilities_foretell`
  says that this holds in every reachable state.
-/

namespace CameraControl

/-! ## Kinds and values -/

/-- The kinds of what features hold. -/
inductive Kind where
  | int | float | bool | enum | text | command
  deriving DecidableEq

/-- The kind of contents. -/
def Content.kind : Content → Kind
  | int _ _ _ => .int
  | float _ _ _ => .float
  | bool _ => .bool
  | enum _ _ => .enum
  | text _ => .text
  | command => .command

/-- The kind of the features from which a number can be read. -/
def Reading.kind : Reading → Kind
  | int | intMax | intMin => .int
  | float | floatMax | floatMin => .float
  | bool => .bool
  | enumIndex | enumCount => .enum
  | textMaxLength => .text

/-- The option that a request is about, if it is about one. -/
def Request.option? : Request → Option Int32
  | isIndexAvailable i | isIndexImplemented i | enumText i _ => some i
  | _ => none

/-- Contents are of the kind of a write and admit its value. A floating-point number must neither be
    below the range nor above it, an index and a text must be those of an option, and no text may
    end early. -/
inductive Content.Admits : Content → Write → Prop where
  | int {value min max v : Int64} (hmin : min ≤ v) (hmax : v ≤ max) :
    Admits (.int value min max) (.int v)
  | float {value min max v : Binary64} (hmin : v.lt min = false) (hmax : max.lt v = false) :
    Admits (.float value min max) (.float v)
  | bool {value : Bool} {raw : Int32} : Admits (.bool value) (.bool raw)
  | enumIndex {index v : Int32} {options : List String} (hlow : 0 ≤ v.toInt)
      (hhigh : v.toInt < options.length) : Admits (.enum index options) (.enumIndex v)
  | enumText {index : Int32} {options : List String} {v : String}
      (hfree : Text.Wide.hasNul v = false) (hoption : v ∈ options) :
    Admits (.enum index options) (.enumText v)
  | text {value v : String} (hfree : Text.Wide.hasNul v = false) : Admits (.text value) (.text v)

namespace Content

theorem admits_of_write {c c' : Content} {w : Write} (h : c.write w = .ok c') : c.Admits w := by
  unfold write at h
  split at h
  · split at h
    · cases h
    · next hrange =>
      rw [not_or, Int64.not_lt, Int64.not_lt] at hrange
      exact .int hrange.1 hrange.2
  · split at h
    · cases h
    · next hrange =>
      rw [not_or, Bool.not_eq_true, Bool.not_eq_true] at hrange
      exact .float hrange.1 hrange.2
  · exact .bool
  · split at h
    · next hrange => exact .enumIndex hrange.1 (by omega)
    · cases h
  · split at h
    · cases h
    · next hnul =>
      split at h
      · next i hfind =>
        obtain ⟨hi, hoption, -⟩ := List.findIdx?_eq_some_iff_getElem.mp hfind
        exact .enumText (Bool.eq_false_iff.mpr hnul) (eq_of_beq hoption ▸ List.getElem_mem hi)
      · cases h
  · split at h
    · cases h
    · next hnul => exact .text (Bool.eq_false_iff.mpr hnul)
  · cases h

theorem write_of_admits {c : Content} {w : Write} (h : c.Admits w) :
    ∃ c', c.write w = .ok c' := by
  cases h with
  | int hmin hmax =>
    rw [← Int64.not_lt] at hmin hmax
    exact ⟨_, if_neg (not_or.mpr ⟨hmin, hmax⟩)⟩
  | float hmin hmax =>
    rw [← Bool.not_eq_true] at hmin hmax
    exact ⟨_, if_neg (not_or.mpr ⟨hmin, hmax⟩)⟩
  | bool => exact ⟨_, rfl⟩
  | enumIndex hlow hhigh => exact ⟨_, if_pos ⟨hlow, by omega⟩⟩
  | @enumText index options v hfree hoption =>
    cases hfind : options.findIdx? (· == v) with
    | none =>
      have hdiffers := List.findIdx?_eq_none_iff.mp hfind v hoption
      rw [beq_self_eq_true] at hdiffers
      exact absurd hdiffers.symm Bool.false_ne_true
    | some i => exact ⟨.enum (Int32.ofNat i) options, by simp [write, hfree, hfind]⟩
  | text hfree => exact ⟨_, if_neg (Bool.eq_false_iff.mp hfree)⟩

/-- A write of the wrong kind, or of a text that ends early, is not implemented. No write of
    contents is refused because the feature is read-only. -/
theorem write_ne_readOnly (c : Content) (w : Write) : c.write w ≠ .error Status.readOnly := by
  intro h
  unfold write at h
  split at h
  · split at h <;> cases h
  · split at h <;> cases h
  · cases h
  · split at h <;> cases h
  · split at h
    · cases h
    · split at h <;> cases h
  · split at h <;> cases h
  · cases h

/-- What can be read from contents is what they hold of its kind. -/
theorem isSome_read? (c : Content) (ρ : Reading) :
    (c.read? ρ).isSome = decide (c.kind = ρ.kind) := by
  cases c <;> cases ρ <;> rfl

end Content

namespace Status

/-- The status that a computation comes to. -/
def of {α : Type} : Except Status α → Status
  | .ok _ => success
  | .error code => code

/-- A status is that of success exactly where something is so, and otherwise says that there is no
    such thing. -/
structure Tells (s : Status) (p : Prop) : Prop where
  success_iff : s = success ↔ p
  notImplemented_iff : s = notImplemented ↔ ¬p

theorem notImplemented_ne_success : notImplemented ≠ success := by decide

theorem of_map {α β : Type} (x : Except Status α) (f : α → β) : of (x.map f) = of x := by
  cases x <;> rfl

theorem of_eq_success_iff {α : Type} {x : Except Status α} (hx : Frank x) :
    of x = success ↔ ∃ a, x = .ok a := by
  cases x with
  | ok a => exact iff_of_true rfl ⟨a, rfl⟩
  | error code => exact iff_of_false (hx code rfl) fun ⟨_, h⟩ => nomatch h

theorem tells_success {p : Prop} (hp : p) : Tells success p where
  success_iff := iff_of_true rfl hp
  notImplemented_iff := iff_of_false notImplemented_ne_success.symm fun h => h hp

theorem tells_notImplemented {p : Prop} (hp : ¬p) : Tells notImplemented p where
  success_iff := iff_of_false notImplemented_ne_success hp
  notImplemented_iff := iff_of_true rfl hp

end Status

/-- An option is there where the contents are enumerated and the index is in their range. -/
theorem Content.status_option_iff (c : Content) (i : Int32) :
    (Status.of (c.option i) = Status.success ↔ ∃ index options, c = .enum index options ∧
      0 ≤ i.toInt ∧ i.toInt < options.length) ∧
    (Status.of (c.option i) = Status.notImplemented ↔ ¬c.kind = .enum) := by
  have hrange : Status.outOfRange ≠ Status.success := by decide
  have hrange' : Status.outOfRange ≠ Status.notImplemented := by decide
  cases c with
  | enum index options =>
    have hkind : ¬¬(Content.enum index options).kind = .enum := fun h => h rfl
    by_cases hi : 0 ≤ i.toInt ∧ i.toInt < options.length
    · have hlt : i.toInt.toNat < options.length := by omega
      have hok : (Content.enum index options).option i = .ok options[i.toInt.toNat] := by
        rw [option, if_pos hi.1, List.getElem?_eq_getElem hlt]
      rw [hok]
      exact ⟨iff_of_true rfl ⟨index, options, rfl, hi⟩,
        iff_of_false Status.notImplemented_ne_success.symm hkind⟩
    · have herror : (Content.enum index options).option i = .error Status.outOfRange := by
        have hnone : (if 0 ≤ i.toInt then options[i.toInt.toNat]? else none) = none :=
          ite_eq_right_iff.mpr fun hlow => List.getElem?_eq_none (by omega)
        rw [option, hnone]
      rw [herror]
      refine ⟨iff_of_false hrange ?_, iff_of_false hrange' hkind⟩
      rintro ⟨_, _, ⟨⟩, hi'⟩
      exact hi hi'
  | _ =>
    constructor
    · exact iff_of_false Status.notImplemented_ne_success fun ⟨_, _, h, _⟩ => nomatch h
    · exact iff_of_true rfl fun h => nomatch h

namespace Device

variable {device : Device} {key : String}

/-! ## Questions -/

theorem can_readOnly_of_sound (hdevice : device.Sound) (h : device.can key .readOnly = true) :
    device.can key .implemented = true := by
  have hkey : Text.squeeze key ∈ device.readOnly := List.contains_iff_mem.mp h
  obtain ⟨c, hc⟩ := Entries.get?_of_mem_keys (hdevice.readOnly_implemented _ hkey)
  exact Option.isSome_iff_exists.mpr ⟨c, hc⟩

theorem can_writable_eq (device : Device) (key : String) :
    device.can key .writable =
      (device.can key .implemented && !device.can key .readOnly) := rfl

theorem can_readable_iff :
    device.can key .readable = true ↔ ∃ c, device.content? key = some c ∧ c ≠ .command := by
  unfold can
  cases device.content? key with
  | none => exact iff_of_false Bool.false_ne_true fun ⟨_, h, _⟩ => nomatch h
  | some c => simp

/-- A feature that is implemented and cannot be read is a command. -/
theorem content?_eq_command_iff :
    device.content? key = some .command ↔
      device.can key .implemented = true ∧ device.can key .readable = false := by
  unfold can
  cases device.content? key with
  | none => exact iff_of_false (fun h => nomatch h) fun h => Bool.false_ne_true h.1
  | some c => simp

/-! ## What requests come to -/

theorem status_write_iff (device : Device) (key : String) (w : Write) :
    Status.of (device.write key w) = Status.success ↔
      device.can key .writable = true ∧ ∃ c, device.content? key = some c ∧ c.Admits w := by
  rw [Status.of_eq_success_iff (device.write_frank key w)]
  constructor
  · rintro ⟨device', h⟩
    obtain ⟨c, c', hc, hwrite, -⟩ := write_eq_ok h
    have hreadOnly : device.isReadOnly key = false := by
      rw [← Bool.not_eq_true]
      intro hreadOnly
      rw [write, if_pos hreadOnly] at h
      cases h
    refine ⟨?_, c, hc, Content.admits_of_write hwrite⟩
    rw [can, hc, hreadOnly]
    rfl
  · rintro ⟨hwritable, c, hc, hadmits⟩
    obtain ⟨c', hwrite⟩ := Content.write_of_admits hadmits
    rw [can, hc, Option.isSome_some, Bool.true_and, Bool.not_eq_true'] at hwritable
    refine ⟨device.setContent key c', ?_⟩
    rw [write, hwritable, hc]
    simp [hwrite, Except.map]

theorem status_write_readOnly_iff (device : Device) (key : String) (w : Write) :
    Status.of (device.write key w) = Status.readOnly ↔ device.can key .readOnly = true := by
  have hcode : Status.notImplemented ≠ Status.readOnly := by decide
  have hsuccess : Status.success ≠ Status.readOnly := by decide
  unfold write
  split
  · next h => exact iff_of_true rfl h
  · next h =>
    refine iff_of_false ?_ h
    split
    · exact hcode
    · next c _ =>
      rw [Status.of_map]
      intro hstatus
      cases hwrite : c.write w with
      | ok c' =>
        rw [hwrite] at hstatus
        exact hsuccess hstatus
      | error code =>
        rw [hwrite] at hstatus
        obtain rfl : code = Status.readOnly := hstatus
        exact c.write_ne_readOnly w hwrite

theorem status_write_of_not_implemented (hdevice : device.Sound) (w : Write)
    (h : device.can key .implemented = false) :
    Status.of (device.write key w) = Status.notImplemented := by
  have hreadOnly : ¬device.isReadOnly key = true := fun hreadOnly =>
    Bool.false_ne_true (h.symm.trans (can_readOnly_of_sound hdevice hreadOnly))
  have hcontent : device.content? key = none := Option.not_isSome_iff_eq_none.mp (by
    rw [Bool.not_eq_true]
    exact h)
  rw [write, if_neg hreadOnly, hcontent]
  rfl

theorem status_command_tells (device : Device) (key : String) :
    Status.Tells (Status.of (device.command key))
      (device.can key .implemented = true ∧ device.can key .readable = false) := by
  rw [← content?_eq_command_iff]
  unfold command
  split
  · next hc =>
    have hsuccess : Status.Tells Status.success (device.content? key = some .command) :=
      Status.tells_success hc
    split
    · exact hsuccess
    · split
      · exact hsuccess
      · exact hsuccess
  · next hc => exact Status.tells_notImplemented fun h => hc h

end Device

namespace Driver

variable {d : Driver} {handle : Int32} {key : String} {device : Device}

/-! ## Requests on an open handle -/

/-- The status that a request is answered with. -/
def status (d : Driver) (handle : Int32) (key : String) (r : Request) : Status :=
  (d.step (.feature handle key r)).reply.status

theorem status_of_allowed {r : Request} (h : d.Allows handle key r) :
    d.status handle key r =
      Status.of ((d.logged (.feature handle key r)).request handle key r) := by
  have hordered : (d.logged (.feature handle key r)).orderedFailure? (.feature handle key r) =
      none := h
  unfold status step attempt
  simp only [hordered]
  cases (d.logged (.feature handle key r)).request handle key r <;> rfl

/-- What is foretold about a feature of the device of a handle. -/
structure Foretold (d : Driver) (handle : Int32) (key : String) (device : Device) : Prop where
  /-- The four questions are answered. -/
  asked : ∀ c, d.Allows handle key (.ask c) → (d.step (.feature handle key (.ask c))).reply =
    ⟨Status.success, some (.word (if device.can key c then 1 else 0))⟩
  /-- A feature that is implemented is writable or read-only, and not both. -/
  implemented : device.can key .implemented = true →
    (device.can key .writable = true ↔ device.can key .readOnly = false)
  not_implemented : device.can key .implemented = false →
    device.can key .writable = false ∧ device.can key .readOnly = false
  readable : device.can key .readable = true → device.can key .implemented = true
  wrote_iff : ∀ w, d.Allows handle key (.write w) →
    (d.status handle key (.write w) = Status.success ↔
      device.can key .writable = true ∧ ∃ c, device.content? key = some c ∧ c.Admits w)
  write_readOnly_iff : ∀ w, d.Allows handle key (.write w) →
    (d.status handle key (.write w) = Status.readOnly ↔ device.can key .readOnly = true)
  write_not_implemented : ∀ w, d.Allows handle key (.write w) →
    device.can key .implemented = false →
      d.status handle key (.write w) = Status.notImplemented
  /-- The handle of the system is not that of a device, and it alone counts the devices. -/
  read : ∀ ρ, d.Allows handle key (.read ρ) → (ρ = .int → handle ≠ systemHandle) →
    (d.status handle key (.read ρ)).Tells
      (device.can key .readable = true ∧ ∃ c, device.content? key = some c ∧ c.kind = ρ.kind)
  text : ∀ buffer, d.Allows handle key (.text buffer) →
    (d.status handle key (.text buffer)).Tells
      (device.can key .readable = true ∧ ∃ c, device.content? key = some c ∧ c.kind = .text)
  /-- An option is also refused where the index is none. -/
  option : ∀ r (i : Int32), r.option? = some i → d.Allows handle key r →
    (d.status handle key r = Status.success ↔ device.can key .readable = true ∧
      ∃ index options, device.content? key = some (.enum index options) ∧
        0 ≤ i.toInt ∧ i.toInt < options.length) ∧
    (d.status handle key r = Status.notImplemented ↔
      ¬∃ c, device.content? key = some c ∧ c.kind = .enum)
  command : d.Allows handle key .command →
    (d.status handle key .command).Tells
      (device.can key .implemented = true ∧ device.can key .readable = false)

variable {r : Request}

theorem status_write (hdevice : d.device? handle = some device) {w : Write}
    (h : d.Allows handle key (.write w)) :
    d.status handle key (.write w) = Status.of (device.write key w) := by
  obtain ⟨i, hopen⟩ := opened?_logged (c := .feature handle key (.write w)) hdevice
  rw [status_of_allowed h]
  show Status.of (serve _ handle key (.write w)) = _
  unfold serve
  rw [hopen]
  show Status.of (device.write key w >>= _) = _
  cases device.write key w <;> rfl

theorem status_command (hdevice : d.device? handle = some device)
    (h : d.Allows handle key .command) :
    d.status handle key .command = Status.of (device.command key) := by
  obtain ⟨i, hopen⟩ := opened?_logged (c := .feature handle key .command) hdevice
  rw [status_of_allowed h]
  show Status.of (serve _ handle key .command) = _
  unfold serve
  rw [hopen]
  show Status.of (device.command key >>= _) = _
  cases device.command key <;> rfl

/-- A number is read exactly where the contents answer the reading. -/
theorem status_read (hdevice : d.device? handle = some device) {ρ : Reading}
    (h : d.Allows handle key (.read ρ)) (hsystem : ρ = .int → handle ≠ systemHandle) :
    (d.status handle key (.read ρ)).Tells
      (∃ c, device.content? key = some c ∧ c.kind = ρ.kind) := by
  obtain ⟨i, hopen⟩ := opened?_logged (c := .feature handle key (.read ρ)) hdevice
  rw [status_of_allowed h, request_read hsystem]
  unfold serve
  rw [hopen]
  show (Status.of (device.contentOr key >>= _)).Tells _
  unfold Device.contentOr
  cases device.content? key with
  | none => exact Status.tells_notImplemented fun ⟨_, hc, _⟩ => nomatch hc
  | some c =>
    have hsome := c.isSome_read? ρ
    dsimp only [bind, Except.bind]
    cases hread : c.read? ρ with
    | some output =>
      rw [hread, Option.isSome_some] at hsome
      exact Status.tells_success ⟨c, rfl, of_decide_eq_true hsome.symm⟩
    | none =>
      rw [hread, Option.isSome_none] at hsome
      refine Status.tells_notImplemented fun ⟨c', hc', hkind⟩ => ?_
      obtain rfl := Option.some.inj hc'
      exact of_decide_eq_false hsome.symm hkind

theorem status_text (hdevice : d.device? handle = some device) {buffer : List Int32}
    (h : d.Allows handle key (.text buffer)) :
    (d.status handle key (.text buffer)).Tells
      (∃ c, device.content? key = some c ∧ c.kind = .text) := by
  obtain ⟨i, hopen⟩ := opened?_logged (c := .feature handle key (.text buffer)) hdevice
  rw [status_of_allowed h]
  show (Status.of (serve _ handle key (.text buffer))).Tells _
  unfold serve
  rw [hopen]
  show (Status.of (device.contentOr key >>= _)).Tells _
  unfold Device.contentOr
  cases device.content? key with
  | none => exact Status.tells_notImplemented fun ⟨_, hc, _⟩ => nomatch hc
  | some c =>
    cases c with
    | text s => exact Status.tells_success ⟨.text s, rfl, rfl⟩
    | _ =>
      refine Status.tells_notImplemented fun ⟨c', hc', hkind⟩ => ?_
      obtain rfl := Option.some.inj hc'
      cases hkind

/-- The requests about an option have the status of looking it up. -/
theorem status_option (hdevice : d.device? handle = some device) {i : Int32}
    (hr : r.option? = some i) (h : d.Allows handle key r) :
    d.status handle key r = Status.of (device.contentOr key >>= fun c => c.option i) := by
  obtain ⟨j, hopen⟩ := opened?_logged (c := .feature handle key r) hdevice
  have hserve : (d.logged (.feature handle key r)).request handle key r =
      (d.logged (.feature handle key r)).serve handle key r := by
    cases r <;> first | rfl | cases hr
  rw [status_of_allowed h, hserve]
  unfold serve
  rw [hopen]
  cases r with
  | isIndexAvailable | isIndexImplemented | enumText =>
    obtain rfl := Option.some.inj hr
    show Status.of (device.contentOr key >>= _) = _
    cases device.contentOr key with
    | error code => rfl
    | ok c =>
      show Status.of (c.option _ >>= _) = Status.of (c.option _)
      cases c.option _ <;> rfl
  | _ => cases hr

theorem status_option_iff (hdevice : d.device? handle = some device) {i : Int32}
    (hr : r.option? = some i) (h : d.Allows handle key r) :
    (d.status handle key r = Status.success ↔ ∃ index options,
      device.content? key = some (.enum index options) ∧
        0 ≤ i.toInt ∧ i.toInt < options.length) ∧
    (d.status handle key r = Status.notImplemented ↔
      ¬∃ c, device.content? key = some c ∧ c.kind = .enum) := by
  rw [status_option hdevice hr h]
  unfold Device.contentOr
  cases device.content? key with
  | none =>
    constructor
    · exact iff_of_false Status.notImplemented_ne_success fun ⟨_, _, hc, _⟩ => nomatch hc
    · exact iff_of_true rfl fun ⟨_, hc, _⟩ => nomatch hc
  | some c =>
    obtain ⟨hsuccess, hother⟩ := c.status_option_iff i
    simp only [Option.some.injEq, exists_eq_left']
    exact ⟨hsuccess, hother⟩

/-! ## Reachable states -/

/-- What can be read is of a kind that can be read. -/
theorem readable_and_iff {k : Kind} (hk : k ≠ .command) :
    (device.can key .readable = true ∧ ∃ c, device.content? key = some c ∧ c.kind = k) ↔
      ∃ c, device.content? key = some c ∧ c.kind = k := by
  refine ⟨And.right, fun h => ⟨Device.can_readable_iff.mpr ?_, h⟩⟩
  obtain ⟨c, hc, hkind⟩ := h
  refine ⟨c, hc, ?_⟩
  rintro rfl
  exact hk hkind.symm

theorem foretold_of_device? (hsound : device.Sound) (hdevice : d.device? handle = some device)
    (key : String) : d.Foretold handle key device where
  asked := fun _ h => reply_ask_of_allowed hdevice h
  implemented := by
    intro h
    rw [device.can_writable_eq key, h, Bool.true_and, Bool.not_eq_true']
  not_implemented := by
    intro h
    refine ⟨by rw [device.can_writable_eq key, h, Bool.false_and], ?_⟩
    rw [← Bool.not_eq_true]
    intro hreadOnly
    exact Bool.false_ne_true (h.symm.trans (Device.can_readOnly_of_sound hsound hreadOnly))
  readable := by
    intro h
    obtain ⟨c, hc, -⟩ := Device.can_readable_iff.mp h
    rw [Device.can, hc]
    rfl
  wrote_iff := fun w h => by
    rw [status_write hdevice h]
    exact device.status_write_iff key w
  write_readOnly_iff := fun w h => by
    rw [status_write hdevice h]
    exact device.status_write_readOnly_iff key w
  write_not_implemented := fun w h hnone => by
    rw [status_write hdevice h]
    exact Device.status_write_of_not_implemented hsound w hnone
  read := fun ρ h hsystem => by
    have hk : ρ.kind ≠ .command := by cases ρ <;> exact Kind.noConfusion
    rw [readable_and_iff hk]
    exact status_read hdevice h hsystem
  text := fun buffer h => by
    rw [readable_and_iff Kind.noConfusion]
    exact status_text hdevice h
  option := fun r i hr h => by
    obtain ⟨hsuccess, hother⟩ := status_option_iff hdevice hr h
    refine ⟨hsuccess.trans ⟨fun hfound => ⟨?_, hfound⟩, And.right⟩, hother⟩
    obtain ⟨index, options, hc, -⟩ := hfound
    exact Device.can_readable_iff.mpr ⟨_, hc, Content.noConfusion⟩
  command := fun h => by
    rw [status_command hdevice h]
    exact device.status_command_tells key

/-- In every reachable state, every open handle is that of a device, and the answers about its
    features foretell what comes of all requests about them that are not ordered to fail. The handle
    is not that of the system while the counter of the handles has not run over. -/
theorem capabilities_foretell {devices : List Device} (hbuilt : ∀ device ∈ devices, device.Built)
    (ops : List Operation) :
    let d := (ofDevices devices).run ops
    ∀ handle ∈ Entries.keys d.opened,
      ((ofDevices devices).Few ops → handle ≠ systemHandle) ∧
      ∃ device, d.device? handle = some device ∧ ∀ key, d.Foretold handle key device := by
  intro d handle hopen
  refine ⟨fun hfew => ((sound_of_few hbuilt hfew).1.handle_proper hopen).1, ?_⟩
  obtain ⟨i, hi⟩ := Entries.get?_of_mem_keys hopen
  have hlt : i < d.devices.length := placed_of_run devices ops _ (Entries.mem_of_get? hi)
  have hdevice : d.device? handle = some d.devices[i] := by
    rw [device?, deviceIndex?, hi, Option.bind_some, List.getElem?_eq_getElem hlt]
  have hsound : d.devices[i].Sound := devices_sound_of_run hbuilt ops _ (List.getElem_mem hlt)
  exact ⟨d.devices[i], hdevice, foretold_of_device? hsound hdevice⟩

/-- After a feature was made read-only, every write to it answers so, while its value can be read as
    before; another feature still takes the values of its range and no others. -/
theorem capabilities_foretell_readOnly :
    let device := ((Device.bare "A").put .aoiWidth (.int 4 1 8)).put .aoiHeight (.int 2 1 8)
    let ops : List Operation := [.call (.open 0), .script (.putReadOnly 0 .aoiWidth (.int 3 1 8))]
    let d := (ofDevices [device]).run ops
    (∀ v, d.status 100 "AOIWidth" (.write (.int v)) = Status.readOnly) ∧
      d.status 100 "AOI Width" (.read .int) = Status.success ∧
      d.status 100 "AOI Width" (.read .float) = Status.notImplemented ∧
      ∀ v, d.status 100 "AOIHeight" (.write (.int v)) = Status.success ↔ 1 ≤ v ∧ v ≤ 8 := by
  intro device ops d
  have hbuilt : ∀ device' ∈ [device], device'.Built := by
    intro device' h
    obtain rfl := List.mem_singleton.mp h
    exact .putKey _ _ (.putKey _ _ (.bare "A"))
  have hfew : (ofDevices [device]).Few ops := by decide +kernel
  have hopen : (100 : Int32) ∈ Entries.keys d.opened := by decide +kernel
  obtain ⟨hproper, device', hdevice', hforetold⟩ := capabilities_foretell hbuilt ops 100 hopen
  have hcontents : device'.content? "AOI Width" = some (.int 3 1 8) ∧
      device'.content? "AOIHeight" = some (.int 2 1 8) ∧
      device'.can "AOIWidth" .readOnly = true ∧ device'.can "AOIHeight" .writable = true := by
    have hsome : d.device? 100 = some (d.devices.get ⟨0, by decide +kernel⟩) := by decide +kernel
    obtain rfl := Option.some.inj (hdevice'.symm.trans hsome)
    decide +kernel
  obtain ⟨hwidth, hheight, hreadOnly, hwritable⟩ := hcontents
  have hallows (key : String) (r : Request) : d.Allows 100 key r := rfl
  refine ⟨fun v => ?_, ?_, ?_, fun v => ?_⟩
  · exact ((hforetold "AOIWidth").write_readOnly_iff (.int v) (hallows _ _)).mpr hreadOnly
  · have hread := (hforetold "AOI Width").read .int (hallows _ _) fun _ => hproper hfew
    have hreadable : device'.can "AOI Width" .readable = true := by rw [Device.can, hwidth]; rfl
    exact hread.success_iff.mpr ⟨hreadable, _, hwidth, rfl⟩
  · have hread := (hforetold "AOI Width").read .float (hallows _ _) fun h => nomatch h
    refine hread.notImplemented_iff.mpr fun ⟨_, c, hc, hkind⟩ => ?_
    obtain rfl := Option.some.inj (hwidth.symm.trans hc)
    cases hkind
  · rw [(hforetold "AOIHeight").wrote_iff (.int v) (hallows _ _)]
    constructor
    · rintro ⟨-, c, hc, hadmits⟩
      obtain rfl := Option.some.inj (hheight.symm.trans hc)
      cases hadmits with
      | int hmin hmax => exact ⟨hmin, hmax⟩
    · rintro ⟨hmin, hmax⟩
      exact ⟨hwritable, _, hheight, .int hmin hmax⟩

end Driver

end CameraControl
