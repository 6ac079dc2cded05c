import CameraControl.Proofs.Driver.Content
import CameraControl.Proofs.Driver.Retirement

/-
  Devices that are open for a moment.

  The handle that is handed out next is fresh: it is not open, nobody subscribed on it, and nothing
  is queued on it. A device that is opened under it, read from and closed again therefore leaves no
  trace in the driver, but for the counter of the handles and the log. Each of the three calls
  either is refused, which leaves only a trace in the log, or does what its lemma says.
-/

namespace CameraControl.Driver

variable {d : Driver} {i : Nat} {device : Device} {handle : Int32}

/-! ## Fresh handles -/

/-- Nothing belongs to the handle that is handed out next. -/
structure Fresh (d : Driver) : Prop where
  not_open : d.nextHandle ∉ Entries.keys d.opened
  not_subscribed : ∀ s ∈ d.subscriptions, s.handle ≠ d.nextHandle
  not_queued : ∀ p ∈ d.queues, p.1 ≠ d.nextHandle

theorem fresh_of_few {devices : List Device} {ops : List Operation}
    (hfew : (ofDevices devices).Few ops) : ((ofDevices devices).run ops).Fresh := by
  have hcoherent := coherent_of_run devices ops
  unfold Few at hfew
  obtain ⟨hnumbered, -⟩ := numbered_run (numbered_ofDevices devices) ops (by omega)
  have hopen : ((ofDevices devices).run ops).nextHandle ∉
      Entries.keys ((ofDevices devices).run ops).opened :=
    fun h => Int32.lt_irrefl (hnumbered.range _ h).2
  -- whoever has the handle has an open one
  refine ⟨hopen, fun s hs heq => hopen ?_, fun p hp heq => hopen ?_⟩
  · exact heq ▸ hcoherent.subscription_open s hs
  · exact heq ▸ hcoherent.queue_open p hp

/-! ## The driver during a visit -/

/-- The driver while a device is open under the fresh handle; `fs` are the functions called since
    before it was opened, the latest first. -/
def holding (d : Driver) (i : Nat) (fs : List Function) : Driver :=
  { d with
    nextHandle := d.nextHandle + 1
    opened := d.opened ++ [(d.nextHandle, i)]
    log := fs ++ d.log }

/-- The driver after the device was closed. -/
def released (d : Driver) (fs : List Function) : Driver :=
  { d with
    nextHandle := d.nextHandle + 1
    log := fs ++ d.log }

theorem honest_holding (hd : d.Honest) (fs : List Function) : (d.holding i fs).Honest :=
  ⟨hd.failures, hd.openFailures⟩

theorem deviceIndex?_holding (hd : d.Fresh) (fs : List Function) :
    (d.holding i fs).deviceIndex? d.nextHandle = some i := by
  show Entries.get? (d.opened ++ [(d.nextHandle, i)]) d.nextHandle = some i
  rw [← Entries.put_of_not_mem i hd.not_open, Entries.get?_put, if_pos rfl]

theorem device?_holding (hd : d.Fresh) (hdevice : d.devices[i]? = some device)
    (fs : List Function) : (d.holding i fs).device? d.nextHandle = some device := by
  rw [device?, deviceIndex?_holding hd fs, Option.bind_some]
  exact hdevice

/-! ## The calls of a visit -/

/-- Opening a device is refused, or the device is there and is open under the fresh handle. -/
theorem step_open_visit (hhonest : d.Honest) (hd : d.Fresh) (index : Int32) :
    (∃ code, code ≠ Status.success ∧
      d.step (.open index) = ⟨d.logged (.open index), ⟨code, none⟩, []⟩) ∨
    (∃ device, d.devices[index.toInt.toNat]? = some device ∧
      d.step (.open index) = ⟨d.holding index.toInt.toNat [.open],
        ⟨Status.success, some (.word d.nextHandle)⟩, []⟩) := by
  rcases step_honest hhonest (.open index) with hrefused | ⟨e, he, hstep⟩
  · exact .inl hrefused
  · cases he with
    | opened hfail hrange hlt hfree =>
      have hlt' : index.toInt.toNat < d.devices.length := hlt
      have hput := Entries.put_of_not_mem index.toInt.toNat hd.not_open
      refine .inr ⟨_, List.getElem?_eq_getElem hlt', ?_⟩
      rw [hstep, holding, ← hput]
      rfl

/-- Reading a text from an open device is refused, or the feature has a text, and the buffer gets
    it. -/
theorem step_text_visit (hhonest : d.Honest) (hdevice : d.device? handle = some device)
    (f : Feature) (buffer : List Int32) :
    (∃ code, code ≠ Status.success ∧ d.step (.feature handle f.key (.text buffer)) =
      ⟨d.logged (.feature handle f.key (.text buffer)), ⟨code, none⟩, []⟩) ∨
    (∃ s, device.content? f.key = some (.text s) ∧
      d.step (.feature handle f.key (.text buffer)) =
        ⟨d.logged (.feature handle f.key (.text buffer)),
          ⟨Status.success, some (.buffer (Text.Wide.fill s buffer))⟩, []⟩) := by
  rcases step_honest hhonest (.feature handle f.key (.text buffer)) with hrefused | ⟨e, -, hstep⟩
  · exact .inl hrefused
  · have hstatus :
        (d.step (.feature handle f.key (.text buffer))).reply.status = Status.success := by
      rw [hstep]
    obtain ⟨-, e, hattempt, hstep⟩ := attempt_of_success hhonest hstatus
    obtain ⟨⟨i, device'⟩, hopen, hserve⟩ := bind_eq_ok hattempt
    have hsame : device = device' := by
      have hdevice' : d.device? handle = some device' := (device?_of_opened? hopen).2.2
      exact Option.some.inj (hdevice.symm.trans hdevice')
    subst hsame
    obtain ⟨c, hc, hserve⟩ := bind_eq_ok hserve
    split at hserve
    · next s =>
      cases hserve
      exact .inr ⟨s, contentOr_eq_ok hc, hstep⟩
    · cases hserve

/-- Closing the fresh handle is refused, or nothing is left of the visit. -/
theorem step_close_visit (hhonest : d.Honest) (hd : d.Fresh) (i : Nat) (fs : List Function) :
    (∃ code, code ≠ Status.success ∧ (d.holding i fs).step (.close d.nextHandle) =
      ⟨d.holding i (.close :: fs), ⟨code, none⟩, []⟩) ∨
    ((d.holding i fs).step (.close d.nextHandle) =
      ⟨d.released (.close :: fs), ⟨Status.success, none⟩, []⟩) := by
  rcases step_honest (honest_holding hhonest fs) (.close d.nextHandle) with hrefused |
    ⟨e, he, hstep⟩
  · exact .inl hrefused
  · cases he with
    | closed hopen =>
      have hopened : Entries.erase (d.opened ++ [(d.nextHandle, i)]) d.nextHandle = d.opened := by
        have hothers : ∀ p ∈ d.opened, p.1 ≠ d.nextHandle := fun p hp heq =>
          hd.not_open (heq ▸ Entries.mem_keys_iff.mpr ⟨p.2, hp⟩)
        simpa [Entries.erase] using hothers
      have hsubscriptions :
          (d.subscriptions.filter fun s => s.handle != d.nextHandle) = d.subscriptions := by
        rw [List.filter_eq_self]
        intro s hs
        simpa using hd.not_subscribed s hs
      have hqueues : Entries.erase d.queues d.nextHandle = d.queues := by
        rw [Entries.erase, List.filter_eq_self]
        intro p hp
        simpa using hd.not_queued p hp
      refine .inr ?_
      rw [hstep]
      show (⟨{ d with
          nextHandle := d.nextHandle + 1
          opened := Entries.erase (d.opened ++ [(d.nextHandle, i)]) d.nextHandle
          subscriptions := d.subscriptions.filter fun s => s.handle != d.nextHandle
          queues := Entries.erase d.queues d.nextHandle
          log := .close :: fs ++ d.log }, ⟨Status.success, none⟩, []⟩ : Outcome) = _
      rw [hopened, hsubscriptions, hqueues]
      rfl

/-! ## Counting -/

/-- The number of devices that the driver reports. -/
def count (d : Driver) : Int64 := d.reportedCount.getD (Int64.ofNat d.devices.length)

/-- The call that asks for the number of devices. -/
def counter : Call := .feature systemHandle Feature.deviceCount.key (.read .int)

/-- Counting the devices is refused, or the number is given that the driver reports. -/
theorem step_counter (hhonest : d.Honest) :
    (∃ code, code ≠ Status.success ∧ d.step counter = ⟨d.logged counter, ⟨code, none⟩, []⟩) ∨
    d.step counter = ⟨d.logged counter, ⟨Status.success, some (.int d.count)⟩, []⟩ := by
  rcases step_honest hhonest counter with hrefused | ⟨e, -, hstep⟩
  · exact .inl hrefused
  · have hstatus : (d.step counter).reply.status = Status.success := by rw [hstep]
    obtain ⟨-, e, hattempt, hstep⟩ := attempt_of_success hhonest hstatus
    have hcount : (d.logged counter).attempt counter =
        .ok ((d.logged counter).answer (.int d.count)) := rfl
    obtain rfl := Except.ok.inj (hcount.symm.trans hattempt)
    exact .inr hstep

end CameraControl.Driver
