import CameraControl.Proofs.Driver.Run
import CameraControl.Proofs.Entries

/-
  Soundness of the driver's state.

  `Device.Sound` and `Driver.Sound` say how the parts of the state hang together: which handles are
  open and for which devices, that subscriptions and queues belong to open handles, what a queue may
  hold, and how devices keep their keys. Every operation keeps this as long as the counter of the
  handles does not run over, which `sound_of_operate` says for one operation and `sound_of_run` for
  a run.
-/

namespace CameraControl

/-! ## Devices -/

/-- A text without blanks. -/
def Text.Solid (s : String) : Prop := ∀ c ∈ s.toList, Text.isBlank c = false

theorem Text.solid_squeeze (s : String) : Text.Solid (Text.squeeze s) := by
  intro c hc
  rw [Text.toList_squeeze, Text.solids, List.mem_filter] at hc
  simpa using hc.2

namespace Device

/-- The keys of a device are without blanks, and only features that it has are read-only. -/
structure Sound (d : Device) : Prop where
  keys_solid : ∀ key ∈ Entries.keys d.features, Text.Solid key
  readOnly_implemented : ∀ key ∈ d.readOnly, key ∈ Entries.keys d.features

/-- The devices that can be set up. -/
inductive Built : Device → Prop where
  | bare (model : String) : Built (bare model)
  | standard (model : String) : Built (standard model)
  | putKey {d : Device} (key : String) (content : Content) (h : Built d) :
      Built (d.putKey key content)
  | putReadOnly {d : Device} (f : Feature) (content : Content) (h : Built d) :
      Built (d.putReadOnly f content)
  | remove {d : Device} (f : Feature) (h : Built d) : Built (d.remove f)

theorem sound_putKey {d : Device} (h : d.Sound) (key : String) (content : Content) :
    (d.putKey key content).Sound where
  keys_solid := by
    intro k hk
    rcases (Entries.mem_keys_put content).mp hk with rfl | hk
    · exact Text.solid_squeeze key
    · exact h.keys_solid k hk
  readOnly_implemented := by
    intro k hk
    simp only [putKey, List.mem_filter] at hk
    exact (Entries.mem_keys_put content).mpr (.inr (h.readOnly_implemented k hk.1))

theorem sound_putReadOnly {d : Device} (h : d.Sound) (f : Feature) (content : Content) :
    (d.putReadOnly f content).Sound where
  keys_solid := by
    intro k hk
    rcases (Entries.mem_keys_put content).mp hk with rfl | hk
    · exact Text.solid_squeeze f.key
    · exact h.keys_solid k hk
  readOnly_implemented := by
    intro k hk
    simp only [putReadOnly, List.mem_insert_iff] at hk
    rcases hk with rfl | hk
    · exact (Entries.mem_keys_put content).mpr (.inl rfl)
    · exact (Entries.mem_keys_put content).mpr (.inr (h.readOnly_implemented k hk))

theorem sound_remove {d : Device} (h : d.Sound) (f : Feature) : (d.remove f).Sound where
  keys_solid := by
    intro k hk
    exact h.keys_solid k (Entries.mem_keys_erase.mp hk).1
  readOnly_implemented := by
    intro k hk
    simp only [remove, List.mem_filter, decide_eq_true_eq] at hk
    exact Entries.mem_keys_erase.mpr ⟨h.readOnly_implemented k hk.1, hk.2⟩

theorem sound_setContent {d : Device} (h : d.Sound) (key : String) (content : Content) :
    (d.setContent key content).Sound where
  keys_solid := by
    intro k hk
    rcases (Entries.mem_keys_put content).mp hk with rfl | hk
    · exact Text.solid_squeeze key
    · exact h.keys_solid k hk
  readOnly_implemented := by
    intro k hk
    exact (Entries.mem_keys_put content).mpr (.inr (h.readOnly_implemented k hk))

theorem sound_bare (model : String) : (bare model).Sound :=
  sound_putReadOnly ⟨by simp, by simp⟩ .cameraModel (.text model)

/-- Setting up features one after another keeps a device sound if setting up each one does. -/
theorem sound_foldl {f : Device → Feature × Content → Device}
    (hf : ∀ d p, d.Sound → (f d p).Sound) (l : List (Feature × Content)) {d : Device}
    (hd : d.Sound) : (l.foldl f d).Sound := by
  induction l generalizing d with
  | nil => exact hd
  | cons p rest ih => exact ih (hf d p hd)

theorem sound_standard (model : String) : (standard model).Sound := by
  have hnamed := sound_putReadOnly (sound_bare model) .cameraName (.text (model ++ " (mock)"))
  have hfixed := sound_foldl (f := fun d p => d.putReadOnly p.1 p.2)
    (fun _ p h => sound_putReadOnly h p.1 p.2) standardReadOnly hnamed
  unfold standard
  exact sound_foldl (f := fun d p => d.put p.1 p.2) (fun _ p h => sound_putKey h p.1.key p.2)
    standardWritable hfixed

/-- Every device that can be set up is sound. -/
theorem Built.sound {d : Device} (h : d.Built) : d.Sound := by
  induction h with
  | bare model => exact sound_bare model
  | standard model => exact sound_standard model
  | putKey key content _ ih => exact sound_putKey ih key content
  | putReadOnly f content _ ih => exact sound_putReadOnly ih f content
  | remove f _ ih => exact sound_remove ih f

theorem sound_write {d d' : Device} {key : String} {w : Write} (hd : d.Sound)
    (h : d.write key w = .ok d') : d'.Sound := by
  unfold write at h
  split at h
  · cases h
  · split at h
    · cases h
    · next content hc =>
      cases hw : content.write w with
      | error code => simp [hw, Except.map] at h
      -- the device keeps its keys, so only the new content counts
      | ok content' =>
        simp only [hw, Except.map, Except.ok.injEq] at h
        exact h ▸ sound_setContent hd key content'

theorem sound_command {d d' : Device} {key : String} (hd : d.Sound)
    (h : d.command key = .ok d') : d'.Sound := by
  unfold command at h
  split at h
  · split at h
    · cases h
      exact sound_setContent hd _ _
    · split at h
      · cases h
        exact sound_setContent hd _ _
      · cases h
        exact hd
  · cases h

end Device

/-! ## The driver -/

namespace Driver

/-- The state of the driver hangs together. -/
structure Sound (d : Driver) : Prop where
  /-- A handle stands for one device. -/
  handles_nodup : (Entries.keys d.opened).Nodup
  /-- A device is open under one handle at most. -/
  indices_nodup : (d.opened.map Prod.snd).Nodup
  index_lt : ∀ p ∈ d.opened, p.2 < d.devices.length
  /-- Open handles are among those handed out. -/
  handle_range : ∀ p ∈ d.opened, 100 ≤ p.1 ∧ p.1 < d.nextHandle
  subscription_open : ∀ s ∈ d.subscriptions, s.handle ∈ Entries.keys d.opened
  queue_open : ∀ p ∈ d.queues, p.1 ∈ Entries.keys d.opened
  /-- Queued frames have an address and a size. -/
  frame_proper : ∀ p ∈ d.queues, ∀ frame ∈ p.2.toList, frame.address ≠ 0 ∧ 0 < frame.size
  device_sound : ∀ device ∈ d.devices, device.Sound

/-- The counter of the handles after a number of them was handed out. -/
def Counted (d : Driver) (n : Nat) : Prop := d.nextHandle.toInt = 100 + n

theorem sound_ofDevices {devices : List Device} (h : ∀ device ∈ devices, device.Sound) :
    (ofDevices devices).Sound where
  handles_nodup := by simp [ofDevices]
  indices_nodup := by simp [ofDevices]
  index_lt := by simp [ofDevices]
  handle_range := by simp [ofDevices]
  subscription_open := by simp [ofDevices]
  queue_open := by simp [ofDevices]
  frame_proper := by simp [ofDevices]
  device_sound := h

theorem counted_ofDevices (devices : List Device) : (ofDevices devices).Counted 0 := by
  simp [Counted, ofDevices]

theorem sound_logged {d : Driver} (h : d.Sound) (c : Call) : (d.logged c).Sound :=
  ⟨h.handles_nodup, h.indices_nodup, h.index_lt, h.handle_range, h.subscription_open, h.queue_open,
    h.frame_proper, h.device_sound⟩

/-! ### Open devices -/

theorem opened?_eq_ok {d : Driver} {handle : Int32} {i : Nat} {device : Device}
    (h : d.opened? handle = .ok (i, device)) :
    Entries.get? d.opened handle = some i ∧ d.devices[i]? = some device := by
  unfold opened? at h
  split at h
  · cases h
  · next j hj =>
    split at h
    · next device' hdevice =>
      simp only [Except.ok.injEq, Prod.mk.injEq] at h
      obtain ⟨rfl, rfl⟩ := h
      exact ⟨hj, hdevice⟩
    · cases h

theorem mem_keys_of_opened? {d : Driver} {handle : Int32} {i : Nat} {device : Device}
    (h : d.opened? handle = .ok (i, device)) : handle ∈ Entries.keys d.opened :=
  Entries.mem_keys_of_get? (opened?_eq_ok h).1

theorem Sound.of_opened? {d : Driver} {handle : Int32} {i : Nat} {device : Device} (hd : d.Sound)
    (h : d.opened? handle = .ok (i, device)) : device.Sound :=
  hd.device_sound device (List.mem_of_getElem? (opened?_eq_ok h).2)

/-- The handle that is handed out next is not open. -/
theorem Sound.nextHandle_not_mem {d : Driver} (hd : d.Sound) :
    d.nextHandle ∉ Entries.keys d.opened := by
  intro h
  obtain ⟨i, hi⟩ := Entries.mem_keys_iff.mp h
  exact Int32.lt_irrefl (hd.handle_range _ hi).2

theorem toInt_succ {h : Int32} (hroom : h.toInt + 1 < 2147483648) :
    (h + 1).toInt = h.toInt + 1 := by
  have hlow := Int32.le_toInt h
  rw [Int32.toInt_add]
  have hone : (1 : Int32).toInt = 1 := rfl
  rw [hone]
  -- the sum does not wrap around
  exact Int.bmod_eq_of_le (by omega) (by omega)

/-! ### One step -/

theorem sound_setDevice {d : Driver} (hd : d.Sound) (i : Nat) {device : Device}
    (hdevice : device.Sound) : (d.setDevice i device).Sound :=
  { hd with
    index_lt := by simpa [setDevice] using hd.index_lt
    device_sound := by
      intro device' hmem
      rcases List.mem_or_eq_of_mem_set hmem with hmem | rfl
      · exact hd.device_sound device' hmem
      · exact hdevice }

/-- The frames of a handle's queue are proper, also where the handle has no queue yet. -/
theorem Sound.frame_proper_queue {d : Driver} (hd : d.Sound) (handle : Int32) :
    ∀ frame ∈ (d.queue handle).toList, frame.address ≠ 0 ∧ 0 < frame.size := by
  unfold queue
  cases hq : Entries.get? d.queues handle with
  | none => simp [FrameQueue.toList_empty]
  | some q => exact hd.frame_proper _ (Entries.mem_of_get? hq)

/-- Writing the queue of an open handle keeps the state sound if the frames are proper. -/
theorem sound_putQueue {d : Driver} (hd : d.Sound) {handle : Int32} {q : FrameQueue}
    (hopen : handle ∈ Entries.keys d.opened)
    (hq : ∀ frame ∈ q.toList, frame.address ≠ 0 ∧ 0 < frame.size) (n : Nat) :
    ({ d with queues := Entries.put d.queues handle q, zeroSizeWaits := n } : Driver).Sound :=
  { hd with
    queue_open := by
      intro p hp
      rcases Entries.mem_put hp with rfl | hp
      · exact hopen
      · exact hd.queue_open p hp
    frame_proper := by
      intro p hp
      rcases Entries.mem_put hp with rfl | hp
      · exact hq
      · exact hd.frame_proper p hp }

theorem sound_opened {d : Driver} (hd : d.Sound) {i : Nat} (hlow : 100 ≤ d.nextHandle.toInt)
    (hroom : d.nextHandle.toInt + 1 < 2147483648) (hlt : i < d.devices.length)
    (hfree : ∀ p ∈ d.opened, p.2 ≠ i) :
    ({ d with
        nextHandle := d.nextHandle + 1
        opened := Entries.put d.opened d.nextHandle i } : Driver).Sound := by
  have hnew : Entries.put d.opened d.nextHandle i = d.opened ++ [(d.nextHandle, i)] :=
    Entries.put_of_not_mem i hd.nextHandle_not_mem
  have hkeys : ∀ h ∈ Entries.keys d.opened,
      h ∈ Entries.keys (Entries.put d.opened d.nextHandle i) :=
    fun h hh => (Entries.mem_keys_put i).mpr (.inr hh)
  have hgrows : d.nextHandle < d.nextHandle + 1 := by
    rw [Int32.lt_iff_toInt_lt, toInt_succ hroom]
    omega
  -- handles that were open stay open, so subscriptions and queues are not touched
  refine ⟨Entries.nodup_keys_put i hd.handles_nodup, ?_, ?_, ?_, ?_, ?_, hd.frame_proper,
    hd.device_sound⟩
  -- the device was free, so its index is new
  · show ((Entries.put d.opened d.nextHandle i).map Prod.snd).Nodup
    rw [hnew, List.map_append]
    have hi : i ∉ d.opened.map Prod.snd := by
      intro h
      obtain ⟨p, hp, rfl⟩ := List.mem_map.mp h
      exact hfree p hp rfl
    simpa [List.concat_eq_append] using hd.indices_nodup.concat hi
  · intro p hp
    rcases Entries.mem_put hp with rfl | hp
    · exact hlt
    · exact hd.index_lt p hp
  · intro p hp
    rcases Entries.mem_put hp with rfl | hp
    -- the handle is the one that the counter stood at
    · exact ⟨by rw [Int32.le_iff_toInt_le]; exact hlow, hgrows⟩
    · obtain ⟨h1, h2⟩ := hd.handle_range p hp
      exact ⟨h1, Int32.lt_trans h2 hgrows⟩
  · exact fun s hs => hkeys _ (hd.subscription_open s hs)
  · exact fun p hp => hkeys _ (hd.queue_open p hp)

theorem sound_closed {d : Driver} (hd : d.Sound) (handle : Int32) :
    ({ d with
        opened := Entries.erase d.opened handle
        subscriptions := d.subscriptions.filter fun s => s.handle != handle
        queues := Entries.erase d.queues handle } : Driver).Sound where
  handles_nodup := hd.handles_nodup.sublist ((Entries.erase_sublist _ _).map _)
  indices_nodup := hd.indices_nodup.sublist ((Entries.erase_sublist _ _).map _)
  index_lt := fun p hp => hd.index_lt p (Entries.mem_erase.mp hp).1
  handle_range := fun p hp => hd.handle_range p (Entries.mem_erase.mp hp).1
  subscription_open := by
    intro s hs
    simp only [List.mem_filter, bne_iff_ne, ne_eq] at hs
    exact Entries.mem_keys_erase.mpr ⟨hd.subscription_open s hs.1, hs.2⟩
  queue_open := by
    intro p hp
    obtain ⟨hp, hne⟩ := Entries.mem_erase.mp hp
    exact Entries.mem_keys_erase.mpr ⟨hd.queue_open p hp, hne⟩
  frame_proper := fun p hp => hd.frame_proper p (Entries.mem_erase.mp hp).1
  device_sound := hd.device_sound

/-- A call that takes effect keeps the state sound; one that opens a device needs a handle that the
    counter can still give. -/
theorem sound_of_effects {d : Driver} {c : Call} {e : Effect} (hd : d.Sound)
    (hlow : 100 ≤ d.nextHandle.toInt)
    (hroom : ∀ index, c = .open index → d.nextHandle.toInt + 1 < 2147483648)
    (he : d.Effects c e) : e.driver.Sound := by
  cases he with
  | opened hfail hrange hlt hfree => exact sound_opened hd hlow (hroom _ rfl) hlt hfree
  | closed hopen => exact sound_closed hd _
  | answered hread => exact hd
  | wrote hopen hwrite =>
    exact sound_setDevice hd _ (Device.sound_write (hd.of_opened? hopen) hwrite)
  | commanded hopen hcommand =>
    exact sound_setDevice hd _ (Device.sound_command (hd.of_opened? hopen) hcommand)
  | subscribed hopen hcontent =>
    refine { hd with subscription_open := ?_ }
    intro s hs
    rcases List.mem_append.mp hs with hs | hs
    · exact hd.subscription_open s hs
    · rw [List.mem_singleton.mp hs]
      exact mem_keys_of_opened? hopen
  | unsubscribed hopen hmem =>
    exact { hd with
      subscription_open := fun s hs => hd.subscription_open s (List.mem_of_mem_erase hs) }
  | queued hopen hsize haddress =>
    refine sound_putQueue hd (mem_keys_of_opened? hopen) ?_ _
    intro frame hframe
    -- the call itself has checked the new frame
    rw [FrameQueue.toList_push] at hframe
    rcases List.mem_append.mp hframe with hframe | hframe
    · exact hd.frame_proper_queue _ frame hframe
    · rw [List.mem_singleton.mp hframe]
      exact ⟨haddress, hsize⟩
  | waited hopen hpop =>
    refine sound_putQueue hd (mem_keys_of_opened? hopen) ?_ _
    intro frame hframe
    exact hd.frame_proper_queue _ frame
      (FrameQueue.toList_of_pop? hpop ▸ List.mem_cons_of_mem _ hframe)
  | flushed hopen =>
    exact { hd with
      queue_open := fun p hp => hd.queue_open p (Entries.mem_erase.mp hp).1
      frame_proper := fun p hp => hd.frame_proper p (Entries.mem_erase.mp hp).1 }

theorem sound_modifyDevice {d : Driver} (hd : d.Sound) (i : Nat) {f : Device → Device}
    (hf : ∀ device : Device, device.Sound → (f device).Sound) : (d.modifyDevice i f).Sound :=
  { hd with
    index_lt := by simpa [modifyDevice] using hd.index_lt
    device_sound := by
      intro device hmem
      obtain ⟨j, hj, rfl⟩ := List.mem_iff_getElem.mp hmem
      simp only [modifyDevice, List.getElem_modify]
      split
      · exact hf _ (hd.device_sound _ (List.getElem_mem _))
      · exact hd.device_sound _ (List.getElem_mem _) }

/-- Scripting keeps the state sound and the counter as it is. -/
theorem sound_script {d : Driver} (hd : d.Sound) (s : Scripting) : (d.script s).Sound := by
  cases s with
  | putKey i key content =>
    exact sound_modifyDevice hd i fun _ h => Device.sound_putKey h key content
  | putReadOnly i f content =>
    exact sound_modifyDevice hd i fun _ h => Device.sound_putReadOnly h f content
  | remove i f => exact sound_modifyDevice hd i fun _ h => Device.sound_remove h f
  | _ => exact { hd with }

theorem nextHandle_script (d : Driver) (s : Scripting) :
    (d.script s).nextHandle = d.nextHandle := by
  cases s <;> rfl

/-- Only a call that opens a device moves the counter, and it hands out the handle it stood at. -/
theorem nextHandle_of_effects {d : Driver} {c : Call} {e : Effect} (he : d.Effects c e) :
    (∃ index, c = .open index ∧ e.output = some (.word d.nextHandle) ∧
      e.driver.nextHandle = d.nextHandle + 1) ∨
    ((∀ index, c ≠ .open index) ∧ e.driver.nextHandle = d.nextHandle) := by
  cases he with
  | opened => exact .inl ⟨_, rfl, rfl, rfl⟩
  | _ => exact .inr ⟨fun _ => Call.noConfusion, rfl⟩

/-- One operation keeps the state sound and counts the handle that it hands out. -/
theorem sound_of_operate {d : Driver} {n : Nat} (hd : d.Sound) (hn : d.Counted n) (op : Operation)
    (hfew : n + (d.handedOut? op).toList.length < 2147483648 - 100) :
    (d.operate op).Sound ∧ (d.operate op).Counted (n + (d.handedOut? op).toList.length) := by
  cases op with
  | script s =>
    refine ⟨sound_script hd s, ?_⟩
    simpa [Counted, operate, nextHandle_script, handedOut?] using hn
  | call c =>
    rcases step_cases d c with ⟨code, -, hstep⟩ | ⟨e, he, hstep⟩
    · have hout : d.handedOut? (.call c) = none := by
        cases c with
        | «open» index => simp [handedOut?, hstep]
        | _ => rfl
      refine ⟨?_, ?_⟩
      · simpa [operate, hstep] using sound_logged hd c
      · rw [hout]
        simpa [operate, hstep, Counted, logged] using hn
    · have hlogged : (d.logged c).nextHandle = d.nextHandle := rfl
      unfold Counted at hn
      -- whether there is room for another handle matters for opening only
      have hsound := fun hroom =>
        sound_of_effects (sound_logged hd c) (by rw [hlogged]; omega) hroom he
      rcases nextHandle_of_effects he with ⟨index, rfl, hout, hnext⟩ | ⟨hne, hnext⟩
      · have hhanded : d.handedOut? (.call (.open index)) = some d.nextHandle := by
          simp [handedOut?, hstep, hout, hlogged]
        rw [hhanded] at hfew ⊢
        simp only [Option.toList_some, List.length_singleton] at hfew ⊢
        have hroom : d.nextHandle.toInt + 1 < 2147483648 := by omega
        refine ⟨?_, ?_⟩
        · simpa [operate, hstep] using hsound fun _ _ => hroom
        · have := toInt_succ hroom
          simp only [operate, hstep, Counted, hnext, hlogged, this]
          omega
      · rw [handedOut?_of_ne_open hne]
        refine ⟨?_, ?_⟩
        · simpa [operate, hstep] using hsound fun index h => absurd h (hne index)
        · simpa [operate, hstep, Counted, hnext, hlogged] using hn

/-- A run keeps the state sound and counts the handles that it hands out. -/
theorem sound_of_run {d : Driver} {n : Nat} (hd : d.Sound) (hn : d.Counted n)
    (ops : List Operation) (hfew : n + (d.handedOut ops).length < 2147483648 - 100) :
    (d.run ops).Sound ∧ (d.run ops).Counted (n + (d.handedOut ops).length) := by
  induction ops generalizing d n with
  | nil => exact ⟨hd, by simpa [handedOut] using hn⟩
  | cons op rest ih =>
    rw [handedOut, List.length_append] at hfew ⊢
    -- the bound covers the whole run, and so each of its parts
    obtain ⟨hd', hn'⟩ := sound_of_operate hd hn op (by omega)
    rw [run_cons, ← Nat.add_assoc]
    exact ih hd' hn' (by omega)

/-! ## Runs from the start -/

/-- A run hands out fewer handles than the counter can give. It counts from 100 in 32 bits with a
    sign, and one more would overflow it. -/
def Few (d : Driver) (ops : List Operation) : Prop := (d.handedOut ops).length < 2147483648 - 100

instance (d : Driver) (ops : List Operation) : Decidable (d.Few ops) :=
  inferInstanceAs (Decidable (_ < _))

theorem Few.of_append {d : Driver} {ops later : List Operation} (h : d.Few (ops ++ later)) :
    d.Few ops := by
  unfold Few at h ⊢
  rw [handedOut_append, List.length_append] at h
  omega

theorem sound_of_few {devices : List Device} (hbuilt : ∀ device ∈ devices, device.Built)
    {ops : List Operation} (hfew : (ofDevices devices).Few ops) :
    ((ofDevices devices).run ops).Sound ∧
      ((ofDevices devices).run ops).Counted ((ofDevices devices).handedOut ops).length := by
  have hstart : (ofDevices devices).Sound :=
    sound_ofDevices fun device h => (hbuilt device h).sound
  unfold Few at hfew
  simpa using sound_of_run hstart (counted_ofDevices devices) ops (by omega)

/-- An open handle is that of a device. -/
theorem Sound.handle_proper {d : Driver} (hd : d.Sound) {handle : Int32}
    (h : handle ∈ Entries.keys d.opened) : handle ≠ systemHandle ∧ handle ≠ noHandle := by
  obtain ⟨i, hi⟩ := Entries.mem_keys_iff.mp h
  have hlow : 100 ≤ handle := (hd.handle_range _ hi).1
  constructor
  · rintro rfl
    exact absurd hlow (by decide)
  · rintro rfl
    exact absurd hlow (by decide)

end Driver

end CameraControl
