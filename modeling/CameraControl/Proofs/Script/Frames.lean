import CameraControl.Proofs.Camera.Locks
import CameraControl.Proofs.Driver.Frames
import CameraControl.Proofs.Script.Soundness
import CameraControl.Proofs.World.Registration

/-
  The frames of cameras.

  Frames are neither lost nor given out twice, and they come back in the order in which they were
  queued: in every run of the driver, and for the cameras of every script, whose histories are such
  runs. A camera that has waited with success holds the address of the oldest frame that it had
  left.
-/

namespace CameraControl

namespace Camera

variable {cam : Camera} {w w' : World}

/-- A wait that succeeds is a call that took effect, and the frame it gave had a size. -/
theorem wait_exec {timeout : Timeout} {address : UInt64}
    (h : (cam.wait timeout).exec w = (.ok address, w')) :
    w.driver.TakesEffect (.wait cam.handle timeout.asMillis) ∧ ∃ size, 0 < size ∧
      (w.driver.step (.wait cam.handle timeout.asMillis)).reply.output =
        some (.frame address size) := by
  have hwaited := congrArg Prod.fst ((cam.wait_eq timeout w).symm.trans h)
  generalize hreply : (w.driver.step (.wait cam.handle timeout.asMillis)).reply = reply
  simp only [waited, hreply] at hwaited
  split at hwaited
  · cases hwaited
  next hstatus =>
  split at hwaited
  · cases hwaited
  next hempty =>
  obtain rfl := Except.ok.inj hwaited
  have hsize : 0 < reply.frame.2 := by
    simpa [Int32.lt_iff_toInt_lt, Int32.le_iff_toInt_le] using hempty
  have houtput : reply.output = some (.frame reply.frame.1 reply.frame.2) := by
    unfold Reply.frame at hsize ⊢
    split at hsize
    · next a size hout => rw [hout]
    · exact absurd hsize (by decide)
  refine ⟨⟨?_, hreply ▸ not_not.mp hstatus⟩, reply.frame.2, hsize, houtput⟩
  -- a call that is refused by an order writes nothing
  cases hordered : w.driver.orderedFailure? (.wait cam.handle timeout.asMillis) with
  | none => rfl
  | some code =>
    rw [← hreply, Driver.step_of_order hordered] at houtput
    cases houtput

end Camera

namespace Script

/-- Frames are neither lost, given out twice nor reordered. In every run of the driver the queue of
    an open handle holds, in order, the frames whose queueing took effect since the handle was
    opened or last flushed, without as many of the first ones as waits were served since; a wait
    that takes effect gives out the oldest of them, without its size while frames are to be reported
    so, and a call that takes no effect changes no queue. A camera of a script that has waited with
    success got the address of the oldest frame that its handle had left. -/
theorem frames_in_order (devices : List Device) :
    (∀ ops : List Operation,
      let d := (Driver.ofDevices devices).run ops
      let deeds := (Driver.ofDevices devices).deeds ops
      (∀ handle ∈ Entries.keys d.opened, (d.queue handle).toList = remaining handle deeds) ∧
      (∀ handle timeout, d.TakesEffect (.wait handle timeout) →
        handle ∈ Entries.keys d.opened ∧ ∃ frame rest,
          remaining handle deeds = frame :: rest ∧
          (d.step (.wait handle timeout)).reply.output =
            some (.frame frame.address (if 0 < d.zeroSizeWaits then 0 else frame.size)) ∧
          (d.step (.wait handle timeout)).driver.zeroSizeWaits = d.zeroSizeWaits - 1) ∧
      (∀ c, ¬d.TakesEffect c →
        (d.step c).driver.queues = d.queues ∧
          (d.step c).driver.zeroSizeWaits = d.zeroSizeWaits)) ∧
    (∀ backend steps,
      let w := (runSteps (start backend devices) steps).2.world
      w.driver = (Driver.ofDevices devices).run w.operations ∧
      ∀ (cam : Camera) (timeout : Timeout) (address : UInt64) (w' : World),
        (cam.wait timeout).exec w = (.ok address, w') →
        address ≠ 0 ∧ ∃ frame rest,
          remaining cam.handle ((Driver.ofDevices devices).deeds w.operations) = frame :: rest ∧
          frame.address = address) := by
  have hwait (ops : List Operation) (handle : Int32) (timeout : UInt32)
      (h : ((Driver.ofDevices devices).run ops).TakesEffect (.wait handle timeout)) :
      handle ∈ Entries.keys ((Driver.ofDevices devices).run ops).opened ∧ ∃ frame rest,
        remaining handle ((Driver.ofDevices devices).deeds ops) = frame :: rest ∧
        (((Driver.ofDevices devices).run ops).step (.wait handle timeout)).reply.output =
          some (.frame frame.address
            (if 0 < ((Driver.ofDevices devices).run ops).zeroSizeWaits then 0 else frame.size)) ∧
        (((Driver.ofDevices devices).run ops).step (.wait handle timeout)).driver.zeroSizeWaits =
          ((Driver.ofDevices devices).run ops).zeroSizeWaits - 1 := by
    obtain ⟨hopen, frame, rest, hqueue, houtput, hcount⟩ := Driver.wait_of_takesEffect h
    rw [Driver.queue_eq_remaining devices ops hopen] at hqueue
    exact ⟨hopen, frame, rest, hqueue, houtput, hcount⟩
  refine ⟨fun ops => ⟨?_, hwait ops, ?_⟩, fun backend steps => ?_⟩
  · exact fun handle hopen => Driver.queue_eq_remaining devices ops hopen
  · intro c hc
    rw [Driver.step_of_not_takesEffect hc]
    exact ⟨rfl, rfl⟩
  · intro w
    have hreplays : w.driver = (Driver.ofDevices devices).run w.operations :=
      runSteps_replays backend devices steps
    refine ⟨hreplays, fun cam timeout address w' hexec => ?_⟩
    obtain ⟨heffect, size, -, hreply⟩ := Camera.wait_exec hexec
    rw [hreplays] at heffect hreply
    obtain ⟨hopen, frame, rest, hremaining, houtput, -⟩ := hwait _ _ _ heffect
    have haddress : frame.address = address := by
      rw [houtput] at hreply
      exact (Output.frame.inj (Option.some.inj hreply)).1
    -- every frame that remains was checked when it was queued
    have hproper := (Driver.coherent_of_run devices w.operations).frame_proper_queue cam.handle
    rw [Driver.queue_eq_remaining devices _ hopen, hremaining] at hproper
    exact ⟨haddress ▸ (hproper frame List.mem_cons_self).1, frame, rest, hremaining, haddress⟩

/-- The next wait is to be served without a size and gets the older of two frames; a flush of a
    handle that is not open leaves both; and a camera waits with success for the one it queued. -/
theorem frames_in_order_withheld :
    let devices := [Device.bare "A"]
    let ops : List Operation := [.call (.open 0), .call (.queue 100 4096 64),
      .call (.queue 100 8192 64), .script (.zeroSizeWaits 1)]
    let d := (Driver.ofDevices devices).run ops
    let w := (runSteps (start .library devices)
      [.openCamera "a" 0, .camera "a" (.queue 4096 64)]).2.world
    let cam : Camera := ⟨0, 0, 100, none⟩
    (d.TakesEffect (.wait 100 5) ∧
      (d.step (.wait 100 5)).reply.output = some (.frame 4096 0) ∧
      (d.step (.wait 100 5)).driver.zeroSizeWaits = 0) ∧
    (¬d.TakesEffect (.flush 7) ∧ (d.step (.flush 7)).driver.queues = d.queues) ∧
    ∃ w', (cam.wait (.millis 5)).exec w = (.ok 4096, w') ∧ ∃ frame rest,
      remaining 100 ((Driver.ofDevices devices).deeds w.operations) = frame :: rest ∧
      frame.address = 4096 := by
  intro devices ops d w cam
  obtain ⟨hdriver, hscript⟩ := frames_in_order devices
  obtain ⟨-, hwait, hstill⟩ := hdriver ops
  have heffect : d.TakesEffect (.wait 100 5) := by decide +kernel
  have hnone : ¬d.TakesEffect (.flush 7) := by decide +kernel
  have hremaining : remaining 100 ((Driver.ofDevices devices).deeds ops) =
      [⟨4096, 64⟩, ⟨8192, 64⟩] := by decide +kernel
  have hwithheld : d.zeroSizeWaits = 1 := by decide +kernel
  obtain ⟨-, frame, rest, holdest, houtput, hlowered⟩ := hwait 100 5 heffect
  obtain ⟨rfl, -⟩ := List.cons.inj (holdest.symm.trans hremaining)
  rw [if_pos (by rw [hwithheld]; decide)] at houtput
  rw [hwithheld] at hlowered
  have hexec : ((cam.wait (.millis 5)).exec w).1 = .ok 4096 := by decide +kernel
  have hwaited : (cam.wait (.millis 5)).exec w = (.ok 4096, ((cam.wait (.millis 5)).exec w).2) := by
    rw [← hexec]
  obtain ⟨-, hgiven⟩ := (hscript .library _).2 cam (.millis 5) 4096 _ hwaited
  exact ⟨⟨heffect, houtput, hlowered⟩, ⟨hnone, (hstill _ hnone).1⟩, _, hwaited, hgiven⟩

end Script

end CameraControl
