import CameraControl.Proofs.Driver.Retirement
import CameraControl.Proofs.Script.Refusal
import CameraControl.Proofs.World.Locality

/-
  Cameras whose handle was closed.

  A camera can outlive its handle, because the driver may be asked to close it by others. All that
  such a camera makes is calls on a retired handle, and these come to nothing, even if the device
  was opened again since.
-/

namespace CameraControl

namespace World

/-- Between two worlds calls were made and nothing came of them: the driver has counted them, and
    no token got a notification. -/
structure Spared (w w' : World) : Prop where
  driver_eq : ∃ log, w'.driver = { w.driver with log := log }
  deliveries_eq : w'.deliveries = w.deliveries

variable {w w' w'' : World} {handle : Int32}

theorem Spared.refl (w : World) : Spared w w := ⟨⟨w.driver.log, rfl⟩, rfl⟩

theorem Spared.trans (h : Spared w w') (h' : Spared w' w'') : Spared w w'' := by
  obtain ⟨log, hlog⟩ := h.driver_eq
  obtain ⟨log', hlog'⟩ := h'.driver_eq
  refine ⟨⟨log', ?_⟩, h'.deliveries_eq.trans h.deliveries_eq⟩
  rw [hlog', hlog]

theorem Spared.retired (h : Spared w w') (hw : w.driver.Retired handle) :
    w'.driver.Retired handle := by
  obtain ⟨log, hlog⟩ := h.driver_eq
  rw [hlog]
  exact ⟨hw.ne_system, hw.lt_next, hw.not_open⟩

/-- A call on a retired handle comes to nothing. -/
theorem call_spared (hw : w.driver.Retired handle) {c : Call} (hc : c.handle? = some handle) :
    Spared w (w.call c).2 := by
  cases hpass : w.backend.pass? c with
  | none =>
    rw [call_of_refused hpass]
    exact .refl w
  | some c' =>
    have hstep := hw.step ((handle?_of_pass? hpass).trans hc)
    have hnotices : (w.driver.step c').notices = [] := by rw [hstep]
    rw [call_of_passed hpass, hnotices]
    exact ⟨⟨_, congrArg Outcome.driver hstep⟩, rfl⟩

end World

open World (Spared)

/-! ## Actions -/

/-- An action that is built from calls on a retired handle comes to nothing. -/
theorem Action.Uses.spared {α : Type} {a : Action α} {handle : Int32}
    (ha : a.Uses fun c => c.handle? = some handle) {w : World} (hw : w.driver.Retired handle) :
    Spared w (a.exec w).2 := by
  induction ha generalizing w with
  | pure x => exact .refl w
  | throw fault => exact .refl w
  | bind _ _ iha ihf =>
    refine exec_bind_keeps (iha hw) fun x w' hfirst => ?_
    exact hfirst.trans (ihf x (hfirst.retired hw))
  | attempt _ iha => exact iha hw
  | tryCall hc => exact World.call_spared hw hc
  | withoutLock cam ha iha =>
    unfold Camera.withoutLock
    split
    · exact iha hw
    · next lock _ =>
      -- giving up the lock and taking it back does not concern the driver
      obtain ⟨hdriver, hdeliveries⟩ := iha (w := w.record (.released lock)) hw
      exact ⟨hdriver, hdeliveries⟩

namespace Camera

variable {cam : Camera} {w : World}

theorem plainCallsOn_handle (handle : Int32) :
    PlainCallsOn handle fun c => c.handle? = some handle where
  request _ _ _ := rfl
  queue _ _ := rfl
  wait _ := rfl
  flush := rfl

theorem drop_spared (hw : w.driver.Retired cam.handle) : Spared w (cam.drop.exec w).2 := by
  rw [drop_exec]
  obtain ⟨hdriver, hdeliveries⟩ := World.call_spared hw (c := .close cam.handle) rfl
  exact ⟨hdriver, hdeliveries⟩

theorem subscribe_spared (label : String) (f : Feature) (reactions : List Reaction)
    (nested : Option Call) (hw : w.driver.Retired cam.handle) :
    Spared w ((cam.subscribe label f reactions nested).exec w).2 := by
  obtain ⟨hdriver, hdeliveries⟩ := World.call_spared
    (w := cam.entered (cam.newToken label f reactions nested) w) (c := cam.subscription f w) hw rfl
  rcases cam.subscribe_exec label f reactions nested w with ⟨-, hexec⟩ | ⟨-, fault, hexec⟩
  · rw [hexec]
    exact ⟨hdriver, hdeliveries⟩
  · rw [hexec]
    exact ⟨hdriver, hdeliveries⟩

theorem unsubscribe_spared (token : Nat) (hw : w.driver.Retired cam.handle) :
    Spared w ((cam.unsubscribe token).exec w).2 := by
  rcases cam.unsubscribe_exec token w with
    ⟨hexec, -⟩ | ⟨t, fault, -, -, hexec⟩ | ⟨t, -, -, -, hexec⟩
  · rw [hexec]
    exact .refl w
  · rw [hexec]
    exact .refl w
  · rw [hexec]
    obtain ⟨hdriver, hdeliveries⟩ := World.call_spared
      (w := w.modifyLive cam.session (·.erase token))
      (c := .feature cam.handle t.feature.key (.unsubscribe token)) hw rfl
    exact ⟨hdriver, hdeliveries⟩

end Camera

namespace Script

/-! ## Steps -/

/-- Whatever a script does with a camera whose handle is retired comes to nothing. -/
theorem runCamera_spared {s : State} {cam : Camera} (hs : s.world.driver.Retired cam.handle)
    (name : String) (step : CameraStep) :
    Spared s.world ((runCamera name cam step).run s).2.world := by
  have hplain (hplain : step.Plain) :
      Spared s.world ((runCamera name cam step).run s).2.world := by
    obtain ⟨α, a, f, ha, hrun⟩ := runCamera_uses (Camera.plainCallsOn_handle cam.handle) hplain
      name fun f w _ => cam.write_uses f w fun _ => rfl
    rw [hrun, run_bind_snd fun _ _ => rfl, Run.run_act]
    exact ha.spared hs
  have hending (hending : step = .close ∨ step = .drop) :
      Spared s.world ((runCamera name cam step).run s).2.world := by
    rw [run_ending hending]
    exact Camera.drop_spared hs
  cases step with
  | close => exact hending (.inl rfl)
  | drop => exact hending (.inr rfl)
  | subscribe label f reactions nested =>
    have hrun : (runCamera name cam (.subscribe label f reactions nested)).run s =
        (Run.act (cam.subscribe label f reactions nested) >>= answerToken label).run s := rfl
    have hspared := Camera.subscribe_spared label f reactions nested hs
    rw [hrun]
    refine run_bind_keeps (P := fun s' : State => Spared s.world s'.world) ?_ fun id s' h => ?_
    · exact hspared
    · rw [answerToken_keeps]
      exact h
  | unsubscribe label =>
    cases hid : Entries.get? s.tokens label with
    | none =>
      unfold runCamera
      rw [run_bind, Run.run_token, hid]
      exact .refl _
    | some id =>
      rw [run_unsubscribe hid]
      exact Camera.unsubscribe_spared id hs
  | hostLock => exact .refl _
  | apply settings? =>
    cases settings? with
    | none => exact .refl _
    | some settings => exact hplain trivial
  | _ => exact hplain trivial

/-! ## Runs -/

/-- A closed handle stays dead. A call that opens a device is of no effect or gives a handle greater
    than all that were given before. From when a handle was closed, for as long as the counter of
    handles lasts and whatever is opened since, every call on it answers with the code of the first
    order to fail that is about it, and otherwise that there is no such handle; the call is counted,
    and nothing else changes and nobody is notified. Changes on the handle reach nobody, and it has
    no frames. So nothing that is done with a camera of this handle changes the driver, but for the
    calls it has counted, or reaches a token. -/
theorem closed_handle_stays_dead (devices : List Device) :
    (∀ (ops : List Operation) (index : Int32),
      (Driver.ofDevices devices).Few (ops ++ [.call (.open index)]) →
      let d := (Driver.ofDevices devices).run ops
      d.step (.open index) =
        ⟨d.logged (.open index), ⟨(d.step (.open index)).reply.status, none⟩, []⟩ ∨
      ∃ handle, (d.step (.open index)).reply = ⟨Status.success, some (.word handle)⟩ ∧
        (d.step (.open index)).driver.deviceIndex? handle = some index.toInt.toNat ∧
        ∀ earlier ∈ (Driver.ofDevices devices).handedOut ops, earlier < handle) ∧
    ∀ (ops later : List Operation) (handle : Int32),
      ((Driver.ofDevices devices).run ops).TakesEffect (.close handle) →
      (Driver.ofDevices devices).Few (ops ++ .call (.close handle) :: later) →
      let d := (Driver.ofDevices devices).run (ops ++ .call (.close handle) :: later)
      (∀ c : Call, c.handle? = some handle →
        d.step c =
          ⟨d.logged c, ⟨(d.orderedFailure? c).getD Status.invalidHandle, none⟩, []⟩) ∧
      (∀ key reportedHandle reported, d.fireAs handle key reportedHandle reported = []) ∧
      (d.queue handle).length = 0 ∧
      ∀ (s : State) (name : String) (cam : Camera) (step : CameraStep),
        s.world.driver = d → cam.handle = handle →
        World.Spared s.world ((runCamera name cam step).run s).2.world := by
  refine ⟨fun ops index hfew => ?_, fun ops later handle heffect hfew => ?_⟩
  · intro d
    rcases d.step_open_cases index with hrefused | ⟨hreply, hindex⟩
    · exact .inl hrefused
    · have hbefore := hfew.of_append
      unfold Driver.Few at hbefore
      obtain ⟨-, -, hbelow⟩ :=
        Driver.numbered_run (Driver.numbered_ofDevices devices) ops (by omega)
      exact .inr ⟨d.nextHandle, hreply, hindex, hbelow⟩
  · intro d
    have hretired : d.Retired handle := Driver.retired_of_run heffect hfew
    have hcoherent : d.Coherent := Driver.coherent_of_run devices _
    refine ⟨fun c hc => hretired.step hc, hretired.fireAs hcoherent, ?_, ?_⟩
    · rw [hcoherent.queue_of_not_open hretired.not_open]
      rfl
    · intro s name cam step hs hcam
      subst hcam
      exact runCamera_spared (hs ▸ hretired) name step

/-- The device of a camera was closed by a direct call and opened again by another camera. The first
    one is then given up. -/
theorem closed_handle_stays_dead_reopened :
    let devices := [Device.bare "A"]
    let ops : List Operation := [.call (.open 0)]
    let d := (Driver.ofDevices devices).run (ops ++ [.call (.close 100), .call (.open 0)])
    let s := (runSteps (start .direct devices)
      [.openCamera "a" 0, .call (.close 100), .openCamera "b" 0]).2
    let cam : Camera := ⟨0, 0, 100, none⟩
    s.cameras = [("a", cam), ("b", ⟨1, 0, 101, none⟩)] ∧
      (∃ handle, (((Driver.ofDevices devices).run (ops ++ [.call (.close 100)])).step
        (.open 0)).reply = ⟨Status.success, some (.word handle)⟩ ∧ 100 < handle) ∧
      (d.step (.flush 100)).reply = ⟨Status.invalidHandle, none⟩ ∧
      World.Spared s.world ((runCamera "a" cam .drop).run s).2.world := by
  intro devices ops d s cam
  obtain ⟨hopen, hclosed⟩ := closed_handle_stays_dead devices
  have heffect : ((Driver.ofDevices devices).run ops).TakesEffect (.close 100) := by decide +kernel
  have hfew : (Driver.ofDevices devices).Few (ops ++ [.call (.close 100), .call (.open 0)]) := by
    decide +kernel
  obtain ⟨hcalls, -, -, hcameras⟩ := hclosed ops [.call (.open 0)] 100 heffect hfew
  have hgiven : (((Driver.ofDevices devices).run (ops ++ [.call (.close 100)])).step
      (.open 0)).reply.output.isSome = true := by decide +kernel
  refine ⟨by decide +kernel, ?_, ?_, ?_⟩
  · rcases hopen (ops ++ [.call (.close 100)]) 0 hfew with hrefused | ⟨handle, hreply, -, hgreater⟩
    · rw [hrefused] at hgiven
      cases hgiven
    · exact ⟨handle, hreply, hgreater 100 (by decide +kernel)⟩
  · rw [hcalls (.flush 100) rfl]
    decide +kernel
  · exact hcameras s "a" cam .drop (by decide +kernel) rfl

end Script

end CameraControl
