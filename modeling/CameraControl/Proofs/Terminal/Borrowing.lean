import CameraControl.Proofs.Camera.Enumerating
import CameraControl.Proofs.World.Trail
import CameraControl.Terminal.Commands

/-
  Commands that work with a camera.

  Such a command opens a device, works with it and closes it, whatever came of the work. `Borrows`
  lists how this can go where closing is not ordered to fail: the device cannot be opened, or the
  outcome is that of the work and the handle is closed afterwards. All that has to be known of the
  work is that its calls keep to the handle.
-/

namespace CameraControl.Terminal

open CameraControl.Action World

variable {α β : Type} {c c' : Console}

namespace Job

/-! ## Running parts of commands -/

theorem run_act (a : Action α) (c : Console) :
    (act a).run c = ((a.exec c.world).1.mapError .fault, { c with world := (a.exec c.world).2 }) :=
  rfl

theorem run_act_of_ok {a : Action α} {x : α} {w : World} (h : a.exec c.world = (.ok x, w)) :
    (act a).run c = (.ok x, { c with world := w }) := by
  rw [run_act, h]
  rfl

theorem run_act_of_error {a : Action α} {fault : Fault} {w : World}
    (h : a.exec c.world = (.error fault, w)) :
    (act a).run c = (.error (.fault fault), { c with world := w }) := by
  rw [run_act, h]
  rfl

theorem run_attempt (j : Job α) (c : Console) :
    (attempt j).run c = (.ok (j.run c).1, (j.run c).2) := rfl

theorem run_bind_of_ok {j : Job α} {f : α → Job β} {x : α} (h : j.run c = (.ok x, c')) :
    (j >>= f).run c = (f x).run c' := by
  rw [run_bind, h]

theorem run_bind_of_error {j : Job α} {f : α → Job β} {complaint : Complaint}
    (h : j.run c = (.error complaint, c')) : (j >>= f).run c = (.error complaint, c') := by
  rw [run_bind, h]

end Job

open Job

/-! ## Borrowing a camera -/

/-- The camera that a command works with. -/
def borrowed (index : DeviceIndex) (w : World) : Camera :=
  ⟨w.nextSession, index, w.driver.nextHandle, none⟩

/-- The console when the camera has been opened. -/
def whileLent (index : DeviceIndex) (c : Console) : Console :=
  { c with world := (c.world.take (.open index)).beginSession c.world.driver.nextHandle }

/-- The console after a camera was closed. -/
def givenBack (cam : Camera) (c : Console) : Console :=
  { c with world := (c.world.take (.close cam.handle)).endSession cam.session }

/-- The complaint about a device that cannot be opened. -/
def notOpened (index : DeviceIndex) (code : Status) : Complaint :=
  .fault (.device s!"Failed to open Andor device with index {index}." code)

/-- How working with a camera can go. -/
inductive Borrows (index : DeviceIndex) (body : Camera → Job α) (c : Console) :
    Except Complaint α → Console → Prop where
  /-- The device cannot be opened. -/
  | refused {code : Status} (hcode : code ≠ Status.success)
      (hstep : c.world.driver.step (.open index) =
        ⟨c.world.driver.logged (.open index), ⟨code, none⟩, []⟩) :
    Borrows index body c (.error (notOpened index code))
      { c with world := c.world.take (.open index) }
  /-- The work is done with the device, which is then closed. -/
  | lent {device : Device} {outcome : Except Complaint α} {c' : Console}
      (hdevice : c.world.driver.devices[index.toInt.toNat]? = some device)
      (hstep : c.world.driver.step (.open index) =
        ⟨c.world.driver.holding index.toInt.toNat [.open],
          ⟨Status.success, some (.word c.world.driver.nextHandle)⟩, []⟩)
      (hbody : (body (borrowed index c.world)).run (whileLent index c) = (outcome, c'))
      (hlent : c.world.driver.Lent index.toInt.toNat c'.world.driver) :
    Borrows index body c outcome (givenBack (borrowed index c.world) c')

/-- The camera works on the open device. -/
theorem driver_whileLent {index : DeviceIndex} {i : Nat}
    (hstep : c.world.driver.step (.open index) = ⟨c.world.driver.holding i [.open],
      ⟨Status.success, some (.word c.world.driver.nextHandle)⟩, []⟩) :
    (whileLent index c).world.driver = c.world.driver.holding i [.open] :=
  (take_of_step hstep).1

/-- Opening the device orders nothing to fail. -/
theorem failures_whileLent {index : DeviceIndex} {i : Nat}
    (hbegun : (whileLent index c).world.driver = c.world.driver.holding i [.open]) :
    (whileLent index c).world.driver.failures = c.world.driver.failures := by
  rw [hbegun]
  rfl

/-- What the opened device holds. -/
theorem holds?_whileLent {index : DeviceIndex} {f : Feature} {device : Device} {content : Content}
    (hfresh : c.world.driver.Fresh)
    (hbegun : (whileLent index c).world.driver =
      c.world.driver.holding index.toInt.toNat [.open])
    (hdevice : c.world.driver.devices[index.toInt.toNat]? = some device)
    (hcontent : device.content? f.key = some content) :
    (whileLent index c).world.driver.holds? (borrowed index c.world).handle f = some content := by
  have hlent := Driver.lent_holding hfresh hdevice [.open]
  rw [hbegun]
  exact (hlent.contentAt? hfresh f.key).trans
    (Option.bind_eq_some_iff.mpr ⟨device, hdevice, hcontent⟩)

/-- A command whose work ends in a complaint ends in one. -/
theorem Borrows.fails {index : DeviceIndex} {body : Camera → Job α}
    {outcome : Except Complaint α} (h : Borrows index body c outcome c')
    (hbody : (whileLent index c).world.driver =
        c.world.driver.holding index.toInt.toNat [.open] →
      ∃ complaint, ((body (borrowed index c.world)).run (whileLent index c)).1 =
        .error complaint) :
    ∃ complaint, outcome = .error complaint := by
  cases h with
  | refused => exact ⟨_, rfl⟩
  | lent hdevice hstep hrun hlent =>
    obtain ⟨complaint, hcomplaint⟩ := hbody (driver_whileLent hstep)
    rw [hrun] at hcomplaint
    exact ⟨complaint, hcomplaint⟩

/-- A camera that can be closed is closed, and what comes of the work is told. -/
theorem withCamera_of_opened {index : DeviceIndex} {body : Camera → Job α} {cam : Camera}
    {w : World} {outcome : Except Complaint α}
    (hopen : (Camera.openDevice index).exec c.world = (.ok cam, w))
    (hbody : (body cam).run { c with world := w } = (outcome, c'))
    (hclose : (c'.world.driver.step (.close cam.handle)).reply.status = Status.success) :
    (withCamera index body).run c = (outcome, givenBack cam c') := by
  unfold withCamera
  rw [run_bind_of_ok (run_act_of_ok hopen), run_bind_of_ok (run_attempt _ _), hbody]
  -- with a complaint the camera is dropped instead of closed, which makes the same call
  cases outcome with
  | ok x =>
    have hclosed := Camera.close_eq cam c'.world
    rw [if_pos hclose] at hclosed
    exact run_bind_of_ok (run_act_of_ok hclosed)
  | error complaint =>
    have hdropped : cam.drop.exec c'.world =
        (.ok (), (c'.world.take (.close cam.handle)).endSession cam.session) := by
      rw [Camera.drop_exec, call_close]
    exact run_bind_of_ok (run_act_of_ok hdropped)

/-- Work that keeps to the handle of its camera is done between opening and closing the device. -/
theorem withCamera_borrows (hhonest : c.world.driver.Honest) (hfresh : c.world.driver.Fresh)
    (hclose : ∀ o ∈ c.world.driver.failures, o.function ≠ .close) (index : DeviceIndex)
    (body : Camera → Job α)
    (hbody : c.world.driver.Lent index.toInt.toNat (whileLent index c).world.driver →
      c.world.driver.Lent index.toInt.toNat
        ((body (borrowed index c.world)).run (whileLent index c)).2.world.driver) :
    Borrows index body c ((withCamera index body).run c).1 ((withCamera index body).run c).2 := by
  rcases Driver.step_open_visit hhonest hfresh index with ⟨code, hcode, hstep⟩ |
    ⟨device, hdevice, hstep⟩
  · have hrun : (withCamera index body).run c =
        (.error (notOpened index code), { c with world := c.world.take (.open index) }) :=
      run_bind_of_error (run_act_of_error (Camera.openDevice_refused hcode hstep))
    rw [hrun]
    exact .refused hcode hstep
  · have hbegun := driver_whileLent hstep
    have hlent := hbody (hbegun ▸ Driver.lent_holding hfresh hdevice [.open])
    rcases hrun : (body (borrowed index c.world)).run (whileLent index c) with ⟨outcome, c'⟩
    rw [hrun] at hlent
    have hclosed := hlent.step_close hfresh hclose
    have hall := withCamera_of_opened (Camera.openDevice_visit hstep) hrun
      (congrArg (fun o => o.reply.status) hclosed)
    rw [hall]
    exact .lent hdevice hstep hrun hlent

/-! ## Before and after the work -/

/-- Opening the device is one call, whatever sessions there are. -/
theorem trail_whileLent {index : DeviceIndex} {i : Nat}
    (hstep : c.world.driver.step (.open index) = ⟨c.world.driver.holding i [.open],
      ⟨Status.success, some (.word c.world.driver.nextHandle)⟩, []⟩) :
    c.world.Trail [(.open index, ⟨Status.success, some (.word c.world.driver.nextHandle)⟩)]
      (whileLent index c).world := by
  have htrail := c.world.trail_take (.open index)
  rw [hstep] at htrail
  exact ⟨htrail.history, htrail.serves⟩

section

variable {d : Driver} {i : Nat} {cam : Camera} (hhandle : cam.handle = d.nextHandle)
  (hfresh : d.Fresh) (hclose : ∀ o ∈ d.failures, o.function ≠ .close)
  (hlent : d.Lent i c'.world.driver)

include hhandle hfresh hclose hlent

/-- After a camera was closed, what is open and queued is as it was before. -/
theorem driver_givenBack :
    (givenBack cam c').world.driver =
      { c'.world.driver with
        opened := d.opened
        queues := d.queues
        log := .close :: c'.world.driver.log } := by
  have hstep := hlent.step_close hfresh hclose
  rw [← hhandle] at hstep
  exact (take_of_step hstep).1

/-- Nothing of the camera is left with the driver. -/
theorem kept_givenBack :
    (givenBack cam c').world.driver.opened = d.opened ∧
      (givenBack cam c').world.driver.queues = d.queues ∧
      (givenBack cam c').world.driver.subscriptions = d.subscriptions := by
  rw [driver_givenBack hhandle hfresh hclose hlent]
  exact ⟨rfl, rfl, hlent.subscriptions⟩

theorem trail_givenBack :
    c'.world.Trail [(.close cam.handle, ⟨Status.success, none⟩)] (givenBack cam c').world := by
  have hstep := hlent.step_close hfresh hclose
  have htrail := c'.world.trail_take (.close cam.handle)
  rw [hhandle, hstep, ← hhandle] at htrail
  exact ⟨htrail.history, htrail.serves⟩

end

/-! ## Drivers at rest -/

section

variable {index : DeviceIndex} {body : Camera → Job α} (hd : c.world.driver.Resting)

include hd

theorem closes_of_resting : ∀ o ∈ c.world.driver.failures, o.function ≠ .close :=
  hd.failures ▸ List.forall_mem_nil _

theorem borrows_of_resting (index : DeviceIndex) (body : Camera → Job α)
    (hbody : c.world.driver.Lent index.toInt.toNat (whileLent index c).world.driver →
      c.world.driver.Lent index.toInt.toNat
        ((body (borrowed index c.world)).run (whileLent index c)).2.world.driver) :
    Borrows index body c ((withCamera index body).run c).1 ((withCamera index body).run c).2 :=
  withCamera_borrows hd.honest hd.fresh (closes_of_resting hd) index body hbody

/-- A device that is there can be opened, so that the outcome is that of the work. -/
theorem Borrows.worked {outcome : Except Complaint α} {device : Device} (hindex : 0 ≤ index.toInt)
    (hdevice : c.world.driver.devices[index.toInt.toNat]? = some device)
    (h : Borrows index body c outcome c') :
    ∃ c₁, (body (borrowed index c.world)).run (whileLent index c) = (outcome, c₁) ∧
      c' = givenBack (borrowed index c.world) c₁ ∧
      (whileLent index c).world.driver = c.world.driver.holding index.toInt.toNat [.open] := by
  have hplace : 0 ≤ index.toInt ∧ index.toInt.toNat < c.world.driver.devices.length :=
    ⟨hindex, (List.getElem?_eq_some_iff.mp hdevice).1⟩
  have hopen := hd.step_open index
  rw [if_pos hplace] at hopen
  cases h with
  | refused hcode hstep =>
    rw [hopen] at hstep
    exact absurd (congrArg (fun o => o.reply.status) hstep).symm hcode
  | lent hlent hstep hbody => exact ⟨_, hbody, rfl, driver_whileLent hstep⟩

/-- After a command nothing is open or queued, nobody has subscribed and no failures are ordered. -/
theorem Borrows.idle {outcome : Except Complaint α} (h : Borrows index body c outcome c') :
    c'.world.driver.Idle ∧ c'.world.driver.queues = [] := by
  cases h with
  | refused hcode hstep =>
    show (c.world.take _).driver.Idle ∧ (c.world.take _).driver.queues = []
    rw [(take_of_step hstep).1]
    exact ⟨{ hd.toIdle with }, hd.queues⟩
  | @lent device _ c₁ hdevice hstep hbody hlent =>
    have hhandle : (borrowed index c.world).handle = c.world.driver.nextHandle := rfl
    rw [driver_givenBack hhandle hd.fresh (closes_of_resting hd) hlent]
    exact ⟨⟨hd.opened, hlent.subscriptions.trans hd.subscriptions,
      hlent.failures.trans hd.failures, hlent.openFailures.trans hd.openFailures⟩, hd.queues⟩

/-- A command uses up a handle, or it cannot open its device. -/
theorem Borrows.nextHandle {outcome : Except Complaint α} (h : Borrows index body c outcome c') :
    c'.world.driver.nextHandle = c.world.driver.nextHandle + 1 ∨
      ((∃ complaint, outcome = .error complaint) ∧
        c'.world.driver.nextHandle = c.world.driver.nextHandle) := by
  cases h with
  | refused hcode hstep =>
    refine .inr ⟨⟨_, rfl⟩, ?_⟩
    show (c.world.take _).driver.nextHandle = _
    rw [(take_of_step hstep).1]
    rfl
  | @lent device _ c₁ hdevice hstep hbody hlent =>
    have hhandle : (borrowed index c.world).handle = c.world.driver.nextHandle := rfl
    rw [driver_givenBack hhandle hd.fresh (closes_of_resting hd) hlent]
    exact .inl hlent.nextHandle

/-- After a command another may follow. -/
theorem Borrows.resting {outcome : Except Complaint α} (h : Borrows index body c outcome c')
    (hnext : c.world.driver.nextHandle ≠ 0) : c'.world.driver.Resting := by
  obtain ⟨hidle, hqueues⟩ := h.idle hd
  refine ⟨hidle, hqueues, fun heq => ?_⟩
  rcases h.nextHandle hd with hnew | ⟨-, hsame⟩
  · exact hnext (Int32.add_eq_right.mp (hnew.symm.trans heq))
  · exact hd.handle (hsame.symm.trans heq)

end

end CameraControl.Terminal
