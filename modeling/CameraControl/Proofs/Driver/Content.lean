import CameraControl.Proofs.Driver.Refusal
import CameraControl.Proofs.Names

/-
  What reads and writes of features come to.

  `contentAt?` is what the device of a handle holds under a key, and `holds?` what it holds under a
  feature. Requests that only read change nothing but the log, and their replies are those of the
  contents, `reply_ask` and `reply_read`. `Takes` lists the writes that contents take, each with
  what it leaves. A write that succeeds replaces the contents under its key, `write_of_success`; no
  write, whoever makes it, changes whether a feature is there and whether it is a command,
  `akin_of_setter`.
-/

namespace CameraControl

/-! ## Devices -/

/-- Whether contents are those of a command. -/
def Content.isCommand (c : Content) : Bool := decide (c = command)

/-- The writes that contents take, each with what it leaves. An option is kept by its place among
    the options, as a number of 32 bits. -/
inductive Content.Takes : Content → Write → Content → Prop where
  | int {value min max v : Int64} : Takes (.int value min max) (.int v) (.int v min max)
  | float {value min max v : Binary64} : Takes (.float value min max) (.float v) (.float v min max)
  | bool {value : Bool} {raw : Int32} : Takes (.bool value) (.bool raw) (.bool (raw ≠ 0))
  | enumIndex {index v : Int32} {options : List String} :
    Takes (.enum index options) (.enumIndex v) (.enum v options)
  | enumText {index : Int32} {options : List String} {i : Nat} {v : String}
      (h : options[i]? = some v) :
      Takes (.enum index options) (.enumText v) (.enum (Int32.ofNat i) options)
  | text {value v : String} : Takes (.text value) (.text v) (.text v)

theorem Content.takes_of_write {c c' : Content} {v : Write} (h : c.write v = .ok c') :
    Takes c v c' := by
  unfold write at h
  split at h
  · split at h
    · cases h
    · cases h
      exact .int
  · split at h
    · cases h
    · cases h
      exact .float
  · cases h
    exact .bool
  · split at h
    · cases h
      exact .enumIndex
    · cases h
  · split at h
    · cases h
    · split at h
      -- the place of the first option that is the text
      · next i hfind =>
        cases h
        obtain ⟨hi, hoption, -⟩ := List.findIdx?_eq_some_iff_getElem.mp hfind
        refine .enumText (i := i) ?_
        rw [List.getElem?_eq_getElem hi, eq_of_beq hoption]
      · cases h
  · split at h
    · cases h
    · cases h
      exact .text
  · cases h

/-- Contents that take a write are no command, before and after it. -/
theorem Content.isCommand_of_write {c c' : Content} {w : Write} (h : c.write w = .ok c') :
    c.isCommand = false ∧ c'.isCommand = false := by
  cases takes_of_write h with
  | _ => exact ⟨rfl, rfl⟩

namespace Device

/-- A write that a device admits replaces the contents under its key. -/
theorem write_eq_ok {device device' : Device} {key : String} {w : Write}
    (h : device.write key w = .ok device') :
    ∃ c c', device.content? key = some c ∧ c.write w = .ok c' ∧
      device' = device.setContent key c' := by
  unfold write at h
  split at h
  · cases h
  · split at h
    · cases h
    · next c hc =>
      cases hwrite : c.write w with
      | error code =>
        rw [hwrite] at h
        cases h
      | ok c' =>
        rw [hwrite] at h
        cases h
        exact ⟨c, c', hc, hwrite, rfl⟩

theorem content?_setContent (device : Device) (key key' : String) (c : Content) :
    (device.setContent key c).content? key' =
      if Text.squeeze key = Text.squeeze key' then some c else device.content? key' := by
  unfold content? setContent
  rw [Entries.get?_put]

/-- A write changes neither what features there are nor which of them are commands. -/
theorem map_isCommand_write {device device' : Device} {key : String} {w : Write}
    (h : device.write key w = .ok device') (key' : String) :
    (device'.content? key').map Content.isCommand =
      (device.content? key').map Content.isCommand := by
  obtain ⟨c, c', hc, hwrite, rfl⟩ := write_eq_ok h
  rw [content?_setContent]
  by_cases hkey : Text.squeeze key = Text.squeeze key'
  · have hc' : device.content? key' = some c := by
      rw [content?, ← hkey]
      exact hc
    obtain ⟨hbefore, hafter⟩ := Content.isCommand_of_write hwrite
    rw [if_pos hkey, hc', Option.map_some, Option.map_some, hbefore, hafter]
  · rw [if_neg hkey]

end Device

namespace Driver

variable {d d' d'' : Driver} {handle : Int32} {f : Feature}

/-! ## Open devices -/

theorem device?_of_opened? {i : Nat} {device : Device} (h : d.opened? handle = .ok (i, device)) :
    d.deviceIndex? handle = some i ∧ d.devices[i]? = some device ∧
      d.device? handle = some device := by
  unfold opened? at h
  split at h
  · cases h
  · next j hindex =>
    split at h
    · next device' hdevice =>
      cases h
      exact ⟨hindex, hdevice, by rw [device?, hindex, Option.bind_some, hdevice]⟩
    · cases h

theorem opened?_of_device? {device : Device} (h : d.device? handle = some device) :
    ∃ i, d.opened? handle = .ok (i, device) := by
  obtain ⟨i, hindex, hdevice⟩ := Option.bind_eq_some_iff.mp h
  refine ⟨i, ?_⟩
  unfold opened?
  rw [hindex]
  dsimp only
  rw [hdevice]

/-- The device of a handle after another state of a device was set. -/
theorem device?_setDevice (d : Driver) (i : Nat) (device : Device) (handle : Int32) :
    (d.setDevice i device).device? handle =
      if d.deviceIndex? handle = some i then (d.device? handle).map fun _ => device
      else d.device? handle := by
  have hindex : (d.setDevice i device).deviceIndex? handle = d.deviceIndex? handle := rfl
  rw [device?, device?, hindex]
  cases hopen : d.deviceIndex? handle with
  | none => simp
  | some j =>
    by_cases hij : j = i
    · subst hij
      rw [if_pos rfl, Option.bind_some, Option.bind_some]
      exact List.getElem?_set_self'
    · have hne : some j ≠ some i := fun h => hij (Option.some.inj h)
      rw [if_neg hne, Option.bind_some, Option.bind_some]
      exact List.getElem?_set_ne (Ne.symm hij)

/-- What the device of a handle holds under a feature. -/
def holds? (d : Driver) (handle : Int32) (f : Feature) : Option Content :=
  (d.device? handle).bind (·.content? f.key)

/-- No order to fail is about a request under a key. -/
def Allows (d : Driver) (handle : Int32) (key : String) (r : Request) : Prop :=
  d.orderedFailure? (.feature handle key r) = none

/-- No order to fail is about a request. -/
def Grants (d : Driver) (handle : Int32) (f : Feature) (r : Request) : Prop :=
  d.orderedFailure? (.feature handle f.key r) = none

/-! ## Reading -/

/-- A request that only reads is logged and does nothing else. -/
theorem step_reading (d : Driver) (handle : Int32) (key : String) {r : Request}
    (hr : r.isReading = true) :
    (d.step (.feature handle key r)).driver = d.logged (.feature handle key r) := by
  rcases step_cases d (.feature handle key r) with ⟨code, -, hstep⟩ | ⟨e, he, hstep⟩
  · rw [hstep]
  · rw [hstep]
    cases he with
    | answered => rfl
    | _ => cases hr

/-- In an honest driver, a call that succeeds is not ordered to fail, and its attempt succeeds. -/
theorem attempt_of_success (hd : d.Honest) {c : Call}
    (h : (d.step c).reply.status = Status.success) :
    d.orderedFailure? c = none ∧ ∃ e, (d.logged c).attempt c = .ok e ∧
      d.step c = ⟨e.driver, ⟨Status.success, e.output⟩, e.notices⟩ := by
  cases hordered : d.orderedFailure? c with
  | some code =>
    rw [step_of_order hordered] at h
    obtain ⟨o, ho, rfl⟩ := Option.map_eq_some_iff.mp hordered
    exact absurd h (hd.failures o (List.mem_of_find?_eq_some ho))
  | none =>
    cases hattempt : (d.logged c).attempt c with
    | error code =>
      rw [step_of_failedAttempt hordered hattempt] at h
      exact absurd h (attempt_frank (honest_logged hd c) c code hattempt)
    | ok e => exact ⟨rfl, e, rfl, step_of_attempt hordered hattempt⟩

/-- Which device serves a request is not changed by the log. -/
theorem opened?_logged {c : Call} {device : Device}
    (hdevice : d.device? handle = some device) :
    ∃ i, (d.logged c).opened? handle = .ok (i, device) :=
  opened?_of_device? (d := d.logged c) hdevice

/-- A question about a feature is answered if the device is open. -/
theorem reply_ask_of_allowed {key : String} {device : Device} {c : Capability}
    (hdevice : d.device? handle = some device)
    (h : d.Allows handle key (.ask c)) :
    (d.step (.feature handle key (.ask c))).reply =
      ⟨Status.success, some (.word (if device.can key c then 1 else 0))⟩ := by
  obtain ⟨i, hopen⟩ := opened?_logged (c := .feature handle key (.ask c)) hdevice
  have hattempt : (d.logged (.feature handle key (.ask c))).attempt
      (.feature handle key (.ask c)) =
        .ok ((d.logged (.feature handle key (.ask c))).answer
          (.word (if device.can key c then 1 else 0))) := by
    show serve _ handle key (.ask c) = _
    unfold serve
    rw [hopen]
    rfl
  rw [step_of_attempt h hattempt]
  rfl

theorem reply_ask {device : Device} {c : Capability} (hgrant : d.Grants handle f (.ask c))
    (hdevice : d.device? handle = some device) :
    (d.step (.feature handle f.key (.ask c))).reply =
      ⟨Status.success, some (.word (if device.can f.key c then 1 else 0))⟩ :=
  reply_ask_of_allowed hdevice hgrant

theorem ask_of_success (hd : d.Honest) {c : Capability}
    (h : (d.step (.feature handle f.key (.ask c))).reply.status = Status.success) :
    d.Grants handle f (.ask c) ∧ ∃ device, d.device? handle = some device := by
  obtain ⟨hgrant, e, hattempt, -⟩ := attempt_of_success hd h
  obtain ⟨⟨i, device⟩, hopen, -⟩ := bind_eq_ok hattempt
  exact ⟨hgrant, device, (device?_of_opened? hopen).2.2⟩

/-- Only the system itself serves a request in another way, and only one for an integer. -/
theorem request_read {ρ : Reading} (hsystem : ρ = .int → handle ≠ systemHandle) (d : Driver)
    (key : String) : d.request handle key (.read ρ) = d.serve handle key (.read ρ) := by
  cases ρ with
  | int => rw [request, if_neg (hsystem rfl)]
  | _ => rfl

/-- Reading from a feature gives what its contents answer. -/
theorem reply_read {ρ : Reading} {c : Content} {output : Output}
    (hgrant : d.Grants handle f (.read ρ)) (hsystem : ρ = .int → handle ≠ systemHandle)
    (hholds : d.holds? handle f = some c) (hread : c.read? ρ = some output) :
    (d.step (.feature handle f.key (.read ρ))).reply = ⟨Status.success, some output⟩ := by
  obtain ⟨device, hdevice, hcontent⟩ := Option.bind_eq_some_iff.mp hholds
  obtain ⟨i, hopen⟩ := opened?_of_device? hdevice
  have hopen' : (d.logged (.feature handle f.key (.read ρ))).opened? handle = .ok (i, device) :=
    hopen
  have hattempt : (d.logged (.feature handle f.key (.read ρ))).attempt
      (.feature handle f.key (.read ρ)) =
        .ok ((d.logged (.feature handle f.key (.read ρ))).answer output) := by
    have hok : device.contentOr f.key = .ok c := by rw [Device.contentOr, hcontent]
    show request _ _ _ _ = _
    rw [request_read hsystem]
    unfold serve
    rw [hopen']
    show (device.contentOr f.key >>= _) = _
    rw [hok]
    dsimp only [bind, Except.bind]
    rw [hread]
    rfl
  rw [step_of_attempt hgrant hattempt]
  rfl

/-- Of the features, the system counts the devices only. -/
theorem read_of_success (hd : d.Honest) {ρ : Reading} (hf : f ≠ .deviceCount)
    (h : (d.step (.feature handle f.key (.read ρ))).reply.status = Status.success) :
    d.Grants handle f (.read ρ) ∧ (ρ = .int → handle ≠ systemHandle) ∧ ∃ c output,
      d.holds? handle f = some c ∧ c.read? ρ = some output := by
  obtain ⟨hgrant, e, hattempt, -⟩ := attempt_of_success hd h
  have hsystem : ρ = .int → handle ≠ systemHandle := by
    rintro rfl rfl
    have hkey : Text.squeeze f.key ≠ Text.squeeze Feature.deviceCount.key :=
      fun heq => hf (Feature.squeeze_key_injective heq)
    have hattempt' : Driver.deviceCount (d.logged _) f.key = .ok e := hattempt
    rw [Driver.deviceCount, if_neg hkey] at hattempt'
    cases hattempt'
  have hserve : (d.logged (.feature handle f.key (.read ρ))).serve handle f.key (.read ρ) = .ok e :=
    (request_read hsystem _ _).symm.trans hattempt
  obtain ⟨⟨i, device⟩, hopen, hserve⟩ := bind_eq_ok hserve
  obtain ⟨c, hc, hserve⟩ := bind_eq_ok hserve
  have hdevice : d.device? handle = some device := (device?_of_opened? hopen).2.2
  have hholds : d.holds? handle f = some c := by
    rw [holds?, hdevice]
    exact contentOr_eq_ok hc
  refine ⟨hgrant, hsystem, c, ?_⟩
  cases hread : c.read? ρ with
  | some output => exact ⟨output, hholds, rfl⟩
  | none =>
    simp only [hread] at hserve
    cases hserve

/-! ### Features that a device has -/

/-- Whether the device of a handle has a feature that can be read, as far as it may be asked. -/
def Has (d : Driver) (handle : Int32) (f : Feature) : Bool → Prop
  | true => d.Grants handle f (.ask .implemented) ∧ d.Grants handle f (.ask .readable) ∧
      ∃ c, d.holds? handle f = some c ∧ c.isCommand = false
  | false => d.Grants handle f (.ask .implemented) ∧ (d.device? handle).isSome = true ∧
      (d.holds? handle f = none ∨
        d.Grants handle f (.ask .readable) ∧ ∃ c, d.holds? handle f = some c ∧ c.isCommand = true)

/-- What is read where the device has a feature, and only there. -/
def IfHas (d : Driver) (handle : Int32) (f : Feature) {α : Type} (P : α → Prop) : Option α → Prop
  | none => d.Has handle f false
  | some x => d.Has handle f true ∧ P x

/-! ## Writing -/

/-- What the device of a handle holds under a key. -/
def contentAt? (d : Driver) (handle : Int32) (key : String) : Option Content :=
  (d.device? handle).bind (·.content? key)

/-- A write on a handle that succeeds replaces the contents under its key and leaves those under
    other keys alone. The subscribers to the key are notified. -/
theorem write_of_success (hd : d.Honest) {key : String} {w : Write}
    (h : (d.step (.feature handle key (.write w))).reply.status = Status.success) :
    (∃ c c', d.contentAt? handle key = some c ∧ c.write w = .ok c' ∧
      ∀ key', (d.step (.feature handle key (.write w))).driver.contentAt? handle key' =
        if Text.squeeze key = Text.squeeze key' then some c' else d.contentAt? handle key') ∧
    (d.step (.feature handle key (.write w))).notices = d.fire handle key := by
  rcases step_honest hd (.feature handle key (.write w)) with ⟨code, hcode, hstep⟩ |
    ⟨e, he, hstep⟩
  · rw [hstep] at h
    exact absurd h hcode
  rw [hstep]
  cases he with
  | answered hread => cases hread
  | @wrote _ _ _ i device device' hopen hwrite =>
    obtain ⟨hindex, -, hdevice⟩ := device?_of_opened? hopen
    obtain ⟨c, c', hc, hcontent, rfl⟩ := Device.write_eq_ok hwrite
    have hbefore : d.device? handle = some device := hdevice
    have hafter : ((d.logged (.feature handle key (.write w))).setDevice i
        (device.setContent key c')).device? handle = some (device.setContent key c') := by
      rw [device?_setDevice, if_pos hindex, hdevice, Option.map_some]
    refine ⟨⟨c, c', ?_, hcontent, fun key' => ?_⟩, rfl⟩
    · rw [contentAt?, hbefore]
      exact hc
    · rw [contentAt?, hafter, Option.bind_some, Device.content?_setContent, contentAt?, hbefore,
        Option.bind_some]

/-- A write on a handle that succeeds replaces the contents of its feature and leaves those of the
    others alone. -/
theorem wrote_of_success (hd : d.Honest) {w : Write}
    (h : (d.step (.feature handle f.key (.write w))).reply.status = Status.success) :
    ∃ c c', d.holds? handle f = some c ∧ c.write w = .ok c' ∧
      (d.step (.feature handle f.key (.write w))).driver.holds? handle f = some c' ∧
      ∀ g, g ≠ f → (d.step (.feature handle f.key (.write w))).driver.holds? handle g =
        d.holds? handle g := by
  obtain ⟨⟨c, c', hc, hcontent, hafter⟩, -⟩ := write_of_success hd h
  refine ⟨c, c', hc, hcontent, (hafter f.key).trans (if_pos rfl), fun g hg => ?_⟩
  have hkey : Text.squeeze f.key ≠ Text.squeeze g.key :=
    fun heq => hg (Feature.squeeze_key_injective heq).symm
  exact (hafter g.key).trans (if_neg hkey)

/-- What no write changes: which features the device of a handle has, and which are commands. -/
structure Akin (handle : Int32) (d d' : Driver) : Prop where
  failures : d'.failures = d.failures
  isOpen : (d'.device? handle).isSome = (d.device? handle).isSome
  kind : ∀ f, (d'.holds? handle f).map Content.isCommand = (d.holds? handle f).map Content.isCommand

theorem Akin.refl (d : Driver) : Akin handle d d := ⟨rfl, rfl, fun _ => rfl⟩

theorem Akin.trans (h : Akin handle d d') (h' : Akin handle d' d'') : Akin handle d d'' where
  failures := h'.failures.trans h.failures
  isOpen := h'.isOpen.trans h.isOpen
  kind := fun f => (h'.kind f).trans (h.kind f)

end Driver

/-- Whether a call writes to a feature. -/
def Call.isSetter : Call → Bool
  | feature _ _ (.write _) => true
  | _ => false

namespace Driver

variable {d : Driver} {handle : Int32}

/-- No write changes which features there are, on whichever handle it is made. -/
theorem akin_of_setter {c : Call} (hc : c.isSetter = true) : Akin handle d (d.step c).driver := by
  rcases step_cases d c with ⟨code, -, hstep⟩ | ⟨e, he, hstep⟩
  · rw [hstep]
    exact ⟨rfl, rfl, fun _ => rfl⟩
  rw [hstep]
  cases he with
  | @wrote own key w i device device' hopen hwrite =>
    obtain ⟨hindex, hdevice, -⟩ := device?_of_opened? hopen
    have hset := device?_setDevice (d.logged (.feature own key (.write w))) i device' handle
    by_cases hown : (d.logged (.feature own key (.write w))).deviceIndex? handle = some i
    -- the device of the handle is the one that was written
    · have hbefore : d.device? handle = some device := by
        have hown' : d.deviceIndex? handle = some i := hown
        rw [device?, hown']
        exact hdevice
      have hbefore' : (d.logged (.feature own key (.write w))).device? handle = some device :=
        hbefore
      rw [if_pos hown, hbefore', Option.map_some] at hset
      refine ⟨rfl, ?_, fun f => ?_⟩
      · rw [hset, hbefore]
        rfl
      · rw [holds?, hset, holds?, hbefore, Option.bind_some, Option.bind_some]
        exact Device.map_isCommand_write hwrite f.key
    · rw [if_neg hown] at hset
      refine ⟨rfl, ?_, fun f => ?_⟩
      · rw [hset]
        rfl
      · rw [holds?, hset]
        rfl
  | @answered _ _ r _ hread =>
    cases r with
    | write => cases hread
    | _ => cases hc
  | _ => cases hc

end Driver

end CameraControl
