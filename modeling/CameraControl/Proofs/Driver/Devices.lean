import CameraControl.Proofs.Driver.Soundness

/-
  What is kept of every device.

  Devices change by writes, by commands, and by the acts of scripting that set up features. A
  property that these keep holds of every device after any run: `forall_devices_step` says so of a
  call, `forall_modifyDevice` of setting up. One such property is soundness, which needs no bound on
  the handles that are handed out, `devices_sound_of_run`.
-/

namespace CameraControl.Driver

variable {d : Driver} {P : Device → Prop}

theorem forall_setDevice (hd : ∀ device ∈ d.devices, P device) (i : Nat) {device : Device}
    (hdevice : P device) : ∀ device' ∈ (d.setDevice i device).devices, P device' := by
  intro device' hmem
  rcases List.mem_or_eq_of_mem_set hmem with hmem | rfl
  · exact hd device' hmem
  · exact hdevice

theorem forall_modifyDevice (hd : ∀ device ∈ d.devices, P device) (i : Nat) {f : Device → Device}
    (hf : ∀ device, P device → P (f device)) :
    ∀ device ∈ (d.modifyDevice i f).devices, P device := by
  intro device hmem
  obtain ⟨j, hj, rfl⟩ := List.mem_iff_getElem.mp hmem
  simp only [modifyDevice, List.getElem_modify]
  split
  · exact hf _ (hd _ (List.getElem_mem _))
  · exact hd _ (List.getElem_mem _)

/-- A call keeps of every device what it keeps of the one that it writes to or that runs its
    command. -/
theorem forall_devices_step (hd : ∀ device ∈ d.devices, P device) (c : Call)
    (hwrite : ∀ handle key w, c = .feature handle key (.write w) → ∀ device device',
      P device → device.write key w = .ok device' → P device')
    (hcommand : ∀ handle key, c = .feature handle key .command → ∀ device device',
      P device → device.command key = .ok device' → P device') :
    ∀ device ∈ (d.step c).driver.devices, P device := by
  rcases step_cases d c with ⟨code, -, hstep⟩ | ⟨e, he, hstep⟩
  · rw [hstep]
    exact hd
  · rw [hstep]
    cases he with
    | @wrote handle key w i device device' hopen hw =>
      have hdevice : P device := hd device (List.mem_of_getElem? (opened?_eq_ok hopen).2)
      exact forall_setDevice hd i (hwrite handle key w rfl device device' hdevice hw)
    | @commanded handle key i device device' hopen hc =>
      have hdevice : P device := hd device (List.mem_of_getElem? (opened?_eq_ok hopen).2)
      exact forall_setDevice hd i (hcommand handle key rfl device device' hdevice hc)
    | _ => exact hd

/-! ## Soundness -/

theorem devices_sound_lasting :
    Lasting (fun _ => True) fun d => ∀ device ∈ d.devices, device.Sound where
  step := fun hd c => forall_devices_step hd c
    (fun _ _ _ _ _ _ h hw => Device.sound_write h hw)
    fun _ _ _ _ _ h hc => Device.sound_command h hc
  script := by
    intro d act hd _
    cases act with
    | putKey i key content =>
      exact forall_modifyDevice hd i fun _ h => Device.sound_putKey h key content
    | putReadOnly i f content =>
      exact forall_modifyDevice hd i fun _ h => Device.sound_putReadOnly h f content
    | remove i f => exact forall_modifyDevice hd i fun _ h => Device.sound_remove h f
    | _ => exact hd

/-- Every device of every reachable state is sound, however many handles were handed out. -/
theorem devices_sound_of_run {devices : List Device} (hbuilt : ∀ device ∈ devices, device.Built)
    (ops : List Operation) : ∀ device ∈ ((ofDevices devices).run ops).devices, device.Sound :=
  devices_sound_lasting.run (d := ofDevices devices) (fun device h => (hbuilt device h).sound)
    fun _ _ => trivial

end CameraControl.Driver
