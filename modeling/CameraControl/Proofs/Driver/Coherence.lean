import CameraControl.Proofs.Driver.Soundness

/-
  What every reachable state of the driver keeps.

  `Sound` needs a bound on how many handles are handed out. `Coherent` is the part of it that needs
  none: a device is open under one handle at most, subscriptions and queues belong to open handles,
  and queued frames have an address and a size. A handle that is handed out a second time takes over
  what belongs to it, so even an overflow of the counter breaks none of this.
-/

namespace CameraControl.Driver

/-- The parts of the driver's state refer to open handles, and to each device once. -/
structure Coherent (d : Driver) : Prop where
  /-- A device is open under one handle at most. -/
  indices_nodup : (d.opened.map Prod.snd).Nodup
  subscription_open : ∀ s ∈ d.subscriptions, s.handle ∈ Entries.keys d.opened
  queue_open : ∀ p ∈ d.queues, p.1 ∈ Entries.keys d.opened
  /-- Queued frames have an address and a size. -/
  frame_proper : ∀ p ∈ d.queues, ∀ frame ∈ p.2.toList, frame.address ≠ 0 ∧ 0 < frame.size

theorem coherent_ofDevices (devices : List Device) : (ofDevices devices).Coherent where
  indices_nodup := List.nodup_nil
  subscription_open := by simp [ofDevices]
  queue_open := by simp [ofDevices]
  frame_proper := by simp [ofDevices]

variable {d : Driver}

/-! ## Views -/

/-- The frames of a handle's queue are proper, also where the handle has no queue. -/
theorem Coherent.frame_proper_queue (hd : d.Coherent) (handle : Int32) :
    ∀ frame ∈ (d.queue handle).toList, frame.address ≠ 0 ∧ 0 < frame.size := by
  intro frame hframe
  unfold queue at hframe
  cases hq : Entries.get? d.queues handle with
  | none => simp [hq, FrameQueue.toList_empty] at hframe
  | some q =>
    rw [hq] at hframe
    exact hd.frame_proper _ (Entries.mem_of_get? hq) frame hframe

/-- A handle that is not open has no frames. -/
theorem Coherent.queue_of_not_open (hd : d.Coherent) {handle : Int32}
    (h : handle ∉ Entries.keys d.opened) : d.queue handle = .empty := by
  unfold queue
  cases hq : Entries.get? d.queues handle with
  | none => rfl
  | some q => exact absurd (hd.queue_open _ (Entries.mem_of_get? hq)) h

/-- Two open handles of one device are the same. -/
theorem Coherent.handle_eq (hd : d.Coherent) {handle handle' : Int32} {i : Nat}
    (h : d.deviceIndex? handle = some i) (h' : d.deviceIndex? handle' = some i) :
    handle = handle' := by
  have hmem := Entries.mem_of_get? h
  have hmem' := Entries.mem_of_get? h'
  -- both pairs have the same second part, and no two pairs do
  have heq : (handle, i) = (handle', i) := List.inj_on_of_nodup_map hd.indices_nodup hmem hmem' rfl
  exact congrArg Prod.fst heq

/-! ## One call -/

/-- Writing the value of a key, old or new, adds no value but the new one. -/
theorem nodup_values_put {m : List (Int32 × Nat)} (hm : (m.map Prod.snd).Nodup) (key : Int32)
    {i : Nat} (hi : ∀ p ∈ m, p.2 ≠ i) : ((Entries.put m key i).map Prod.snd).Nodup := by
  induction m with
  | nil => simp [Entries.put]
  | cons q rest ih =>
    obtain ⟨k, v⟩ := q
    rw [List.map_cons, List.nodup_cons] at hm
    have hrest : ∀ p ∈ rest, p.2 ≠ i := fun p hp => hi p (List.mem_cons_of_mem _ hp)
    by_cases hk : k = key
    · have hput : Entries.put ((k, v) :: rest) key i = (key, i) :: rest := by simp [Entries.put, hk]
      rw [hput, List.map_cons, List.nodup_cons]
      refine ⟨fun h => ?_, hm.2⟩
      obtain ⟨p, hp, hpi⟩ := List.mem_map.mp h
      exact hrest p hp hpi
    · have hput : Entries.put ((k, v) :: rest) key i = (k, v) :: Entries.put rest key i := by
        simp [Entries.put, hk]
      rw [hput, List.map_cons, List.nodup_cons]
      refine ⟨fun h => ?_, ih hm.2 hrest⟩
      obtain ⟨p, hp, hpv⟩ := List.mem_map.mp h
      -- the value of the first pair is neither the new one nor that of another pair
      rcases Entries.mem_put hp with rfl | hp
      · exact hi _ List.mem_cons_self hpv.symm
      · exact hm.1 (List.mem_map.mpr ⟨p, hp, hpv⟩)

/-- Writing the queue of an open handle keeps the state coherent if the frames are proper. -/
theorem coherent_putQueue (hd : d.Coherent) {handle : Int32} {q : FrameQueue}
    (hopen : handle ∈ Entries.keys d.opened)
    (hq : ∀ frame ∈ q.toList, frame.address ≠ 0 ∧ 0 < frame.size) (n : Nat) :
    ({ d with
        queues := Entries.put d.queues handle q
        zeroSizeWaits := n } : Driver).Coherent :=
  { hd with
    queue_open := by
      intro p hp
      rcases Entries.mem_put hp with rfl | hp
      · exact hopen
      · exact hd.queue_open p hp
    frame_proper := by
      intro p hp
      rcases Entries.mem_put hp with rfl | hp
      · exact hq
      · exact hd.frame_proper p hp }

theorem coherent_opened (hd : d.Coherent) {i : Nat} (hfree : ∀ p ∈ d.opened, p.2 ≠ i) :
    ({ d with
        nextHandle := d.nextHandle + 1
        opened := Entries.put d.opened d.nextHandle i } : Driver).Coherent := by
  -- what was open stays open, whether or not the counter has run over
  have hkeys : ∀ h ∈ Entries.keys d.opened,
      h ∈ Entries.keys (Entries.put d.opened d.nextHandle i) :=
    fun h hh => (Entries.mem_keys_put i).mpr (.inr hh)
  exact ⟨nodup_values_put hd.indices_nodup _ hfree,
    fun s hs => hkeys _ (hd.subscription_open s hs), fun p hp => hkeys _ (hd.queue_open p hp),
    hd.frame_proper⟩

theorem coherent_closed (hd : d.Coherent) (handle : Int32) :
    ({ d with
        opened := Entries.erase d.opened handle
        subscriptions := d.subscriptions.filter fun s => s.handle != handle
        queues := Entries.erase d.queues handle } : Driver).Coherent where
  indices_nodup := hd.indices_nodup.sublist ((Entries.erase_sublist _ _).map _)
  subscription_open := by
    intro s hs
    simp only [List.mem_filter, bne_iff_ne, ne_eq] at hs
    exact Entries.mem_keys_erase.mpr ⟨hd.subscription_open s hs.1, hs.2⟩
  queue_open := by
    intro p hp
    obtain ⟨hp, hne⟩ := Entries.mem_erase.mp hp
    exact Entries.mem_keys_erase.mpr ⟨hd.queue_open p hp, hne⟩
  frame_proper := fun p hp => hd.frame_proper p (Entries.mem_erase.mp hp).1

theorem coherent_logged (hd : d.Coherent) (c : Call) : (d.logged c).Coherent :=
  ⟨hd.indices_nodup, hd.subscription_open, hd.queue_open, hd.frame_proper⟩

/-- A call that takes effect keeps the state coherent. -/
theorem coherent_of_effects {c : Call} {e : Effect} (hd : d.Coherent) (he : d.Effects c e) :
    e.driver.Coherent := by
  cases he with
  | opened hfail hrange hlt hfree => exact coherent_opened hd hfree
  | closed hopen => exact coherent_closed hd _
  | subscribed hopen hcontent =>
    refine { hd with subscription_open := ?_ }
    intro s hs
    rcases List.mem_append.mp hs with hs | hs
    · exact hd.subscription_open s hs
    · rw [List.mem_singleton.mp hs]
      exact mem_keys_of_opened? hopen
  | unsubscribed hopen hmem =>
    exact { hd with
      subscription_open := fun s hs => hd.subscription_open s (List.mem_of_mem_erase hs) }
  | queued hopen hsize haddress =>
    refine coherent_putQueue hd (mem_keys_of_opened? hopen) ?_ _
    intro frame hframe
    rw [FrameQueue.toList_push] at hframe
    rcases List.mem_append.mp hframe with hframe | hframe
    · exact hd.frame_proper_queue _ frame hframe
    · rw [List.mem_singleton.mp hframe]
      exact ⟨haddress, hsize⟩
  | waited hopen hpop =>
    refine coherent_putQueue hd (mem_keys_of_opened? hopen) ?_ _
    intro frame hframe
    exact hd.frame_proper_queue _ frame
      (FrameQueue.toList_of_pop? hpop ▸ List.mem_cons_of_mem _ hframe)
  | flushed hopen =>
    exact { hd with
      queue_open := fun p hp => hd.queue_open p (Entries.mem_erase.mp hp).1
      frame_proper := fun p hp => hd.frame_proper p (Entries.mem_erase.mp hp).1 }
  | _ => exact { hd with }

/-! ## Runs -/

theorem coherent_operate (hd : d.Coherent) (op : Operation) : (d.operate op).Coherent := by
  cases op with
  | script s => cases s <;> exact { hd with }
  | call c =>
    rcases step_cases d c with ⟨code, -, hstep⟩ | ⟨e, he, hstep⟩
    · simpa [operate, hstep] using coherent_logged hd c
    · simpa [operate, hstep] using coherent_of_effects (coherent_logged hd c) he

theorem coherent_run (hd : d.Coherent) (ops : List Operation) : (d.run ops).Coherent := by
  induction ops generalizing d with
  | nil => exact hd
  | cons op rest ih => exact ih (coherent_operate hd op)

/-- Every reachable state of the driver is coherent, however many devices are opened. -/
theorem coherent_of_run (devices : List Device) (ops : List Operation) :
    ((ofDevices devices).run ops).Coherent :=
  coherent_run (coherent_ofDevices devices) ops

end CameraControl.Driver
