import CameraControl.Proofs.Camera.Looking
import CameraControl.Proofs.Camera.Uniform
import CameraControl.Proofs.Driver.Snapshot
import CameraControl.Proofs.World.Quiet

/-
  Applying settings as an overlay.

  Reading the settings of a camera finds those that its driver depicts, and applying settings writes
  over the features of the fields that are set. So after settings were applied, reading gives them
  laid over what was read before: `settings_overlay`. Read settings can be applied later, after any
  writes, to get back what was read.
-/

namespace CameraControl

/-! ## Reading -/

/-- Reads the value of a slot. -/
def Slot.get {α : Type} (slot : Slot α) (cam : Camera) : Action α := do
  let reply ← cam.read slot.feature slot.reading
  fun w => (slot.decode reply, w)

namespace Camera

open CameraControl.Action

variable {cam : Camera}

/-- The other kinds of values are read as their slots are by definition. -/
theorem choice_eq (f : Family) : cam.choice f = (Slot.choice f).get cam := by
  unfold choice enumIndex readWord Slot.get
  rw [bind_assoc]
  congr 1
  funext reply
  rw [pure_bind]
  -- both sides look the index up in the family
  unfold Slot.choice
  dsimp only
  cases Choice.ofIndex? f (reply.word 0) <;> rfl

/-- Reading a slot finds what the driver shows there. -/
theorem get_looks {α : Type} (slot : Slot α) (hf : slot.feature ≠ .deviceCount) (cam : Camera) :
    Looks (slot.get cam) fun d v => slot.Shown d cam.handle v := by
  have hdecode (reply : Reply) :
      Looks (fun w => (slot.decode reply, w) : Action α) fun _ v => slot.decode reply = .ok v :=
    ⟨fun _ => rfl, fun w => ⟨w.driver.log, rfl⟩, fun _ _ _ => Iff.rfl, fun _ _ _ _ => Iff.rfl⟩
  have hrequest := cam.request_looks slot.feature (r := .read slot.reading) rfl trivial ""
  refine (hrequest.bind hdecode).congr fun d hd v => ?_
  constructor
  · rintro ⟨reply, ⟨rfl, hstatus⟩, hv⟩
    obtain ⟨hgrant, hsystem, c, output, hholds, hread⟩ := Driver.read_of_success hd hf hstatus
    rw [Driver.reply_read hgrant hsystem hholds hread] at hv
    exact ⟨hgrant, hsystem, c, output, hholds, hread, hv⟩
  · rintro ⟨hgrant, hsystem, c, output, hholds, hread, hv⟩
    have hreply := Driver.reply_read hgrant hsystem hholds hread
    exact ⟨_, ⟨hreply, rfl⟩, hv⟩

/-- Reading a slot of a feature that the device may not have. -/
theorem finds_looks {α : Type} (slot : Slot α) (hf : slot.feature ≠ .deviceCount) (cam : Camera) :
    Looks (cam.readIf slot.feature (slot.get cam)) fun d o => d.Finds cam.handle slot o :=
  cam.readIf_looks slot.feature (get_looks slot hf cam)

theorem choiceIf_looks (f : Family) (hf : f.feature ≠ .deviceCount) (cam : Camera) :
    Looks (cam.choiceIf f) fun d o => d.Finds cam.handle (.choice f) o := by
  have hlooks := finds_looks (.choice f) hf cam
  rw [← choice_eq] at hlooks
  exact hlooks

theorem aoi_looks (cam : Camera) : Looks cam.aoi fun d a => d.ShowsAoi cam.handle a := by
  refine ((get_looks (.int .aoiLeft) (by decide) cam).bind fun left =>
    (get_looks (.int .aoiTop) (by decide) cam).bind fun top =>
    (get_looks (.int .aoiWidth) (by decide) cam).bind fun width =>
    (get_looks (.int .aoiHeight) (by decide) cam).bind fun height =>
    .pure (Aoi.mk left top width height)).congr fun d _ a => ?_
  constructor
  · rintro ⟨left, hleft, top, htop, width, hwidth, height, hheight, rfl⟩
    exact ⟨hleft, htop, hwidth, hheight⟩
  · rintro ⟨hleft, htop, hwidth, hheight⟩
    exact ⟨_, hleft, _, htop, _, hwidth, _, hheight, rfl⟩

/-- Reading the settings finds those that the driver depicts. -/
theorem settings_looks (cam : Camera) :
    Looks cam.settings fun d r => d.Depicts cam.handle r := by
  have hint (f : Feature) (hf : f ≠ .deviceCount) := finds_looks (.int f) hf cam
  have hfloat (f : Feature) (hf : f ≠ .deviceCount) := finds_looks (.float f) hf cam
  have hbool (f : Feature) (hf : f ≠ .deviceCount) := finds_looks (.bool f) hf cam
  have hchoice (f : Family) (hf : f.feature ≠ .deviceCount) := choiceIf_looks f hf cam
  refine ((cam.readIf_looks .aoiWidth cam.aoi_looks).bind fun aoi =>
    (hfloat .exposureTime (by decide)).bind fun exposureTime =>
    (hfloat .frameRate (by decide)).bind fun frameRate =>
    (hint .frameCount (by decide)).bind fun frameCount =>
    (hint .accumulateCount (by decide)).bind fun accumulateCount =>
    (hchoice .cycleMode (by decide)).bind fun cycleMode =>
    (hchoice .triggerMode (by decide)).bind fun triggerMode =>
    (hchoice .shutter (by decide)).bind fun shutter =>
    (hchoice .binning (by decide)).bind fun binning =>
    (hchoice .simplePreAmp (by decide)).bind fun simplePreAmp =>
    (hchoice .pixelReadoutRate (by decide)).bind fun pixelReadoutRate =>
    (hchoice .fanSpeed (by decide)).bind fun fanSpeed =>
    (hchoice .auxiliaryOutSource (by decide)).bind fun auxiliaryOutSource =>
    (hbool .sensorCooling (by decide)).bind fun sensorCooling =>
    (hbool .overlap (by decide)).bind fun overlap =>
    (hbool .spuriousNoiseFilter (by decide)).bind fun spuriousNoiseFilter =>
    (hbool .metadataEnable (by decide)).bind fun metadataEnable =>
    .pure (Settings.mk exposureTime frameRate frameCount accumulateCount cycleMode triggerMode
      shutter binning simplePreAmp pixelReadoutRate fanSpeed auxiliaryOutSource sensorCooling
      overlap spuriousNoiseFilter metadataEnable aoi)).congr fun d _ r => ?_
  constructor
  · rintro ⟨aoi, h1, exposureTime, h2, frameRate, h3, frameCount, h4, accumulateCount, h5,
      cycleMode, h6, triggerMode, h7, shutter, h8, binning, h9, simplePreAmp, h10,
      pixelReadoutRate, h11, fanSpeed, h12, auxiliaryOutSource, h13, sensorCooling, h14,
      overlap, h15, spuriousNoiseFilter, h16, metadataEnable, h17, rfl⟩
    exact ⟨h1, h2, h3, h4, h5, h6, h7, h8, h9, h10, h11, h12, h13, h14, h15, h16, h17⟩
  · intro h
    exact ⟨_, h.aoi, _, h.exposureTime, _, h.frameRate, _, h.frameCount, _, h.accumulateCount,
      _, h.cycleMode, _, h.triggerMode, _, h.shutter, _, h.binning, _, h.simplePreAmp,
      _, h.pixelReadoutRate, _, h.fanSpeed, _, h.auxiliaryOutSource, _, h.sensorCooling,
      _, h.overlap, _, h.spuriousNoiseFilter, _, h.metadataEnable, rfl⟩

/-! ## Writing -/

/-- A write that hands over no text is made by its call alone. -/
theorem write_eq (cam : Camera) (f : Feature) {w : Write} (hw : (Request.write w).Plain) :
    cam.write f w = (do
      let _ ← cam.request f (.write w) (" with value " ++ showWrite w)
      pure ()) := by
  cases w with
  | enumText | text => exact hw.elim
  | _ => rfl

/-- Writes one after another that all succeed write over their features. -/
theorem writeAll_exec (cam : Camera) {l : List (Feature × Write)}
    (hplain : ∀ p ∈ l, (Request.write p.2).Plain) (hnodup : (Entries.keys l).Nodup) {w w' : World}
    (hquiet : w.Quiet) (hhonest : w.driver.Honest) (h : (cam.writeAll l).exec w = (.ok (), w')) :
    w'.driver.Honest ∧ Driver.Overwritten cam.handle (Entries.get? l) w.driver w'.driver := by
  induction l generalizing w with
  | nil =>
    obtain rfl : w = w' := congrArg Prod.snd h
    exact ⟨hhonest, .refl _ _⟩
  | cons p rest ih =>
    obtain ⟨f, write⟩ := p
    have hfirst : (Request.write write).Plain := hplain (f, write) List.mem_cons_self
    have hportable := Call.plainCalls_portable.request cam.handle f hfirst
    have hcall := World.driver_call hquiet (Backend.pass?_eq w.backend hportable)
    rw [writeAll, write_eq cam f hfirst, request, bind_assoc, exec_bind, exec_call, hcall.1] at h
    by_cases hsuccess :
        (w.driver.step (.feature cam.handle f.key (.write write))).reply.status = Status.success
    · rw [if_pos hsuccess] at h
      have hhonest' : (w.call (.feature cam.handle f.key (.write write))).2.driver.Honest := by
        rw [hcall.2]
        exact Driver.honest_step hhonest _
      rw [Entries.keys_cons, List.nodup_cons] at hnodup
      obtain ⟨hlast, hover⟩ := ih (fun q hq => hplain q (List.mem_cons_of_mem _ hq)) hnodup.2
        (World.quiet_call hquiet _) hhonest' h
      rw [hcall.2] at hover
      exact ⟨hlast, hover.cons hhonest hsuccess hnodup.1⟩
    · rw [if_neg hsuccess] at h
      cases h

/-- Settings that were applied have written over the features of the fields that are set. -/
theorem apply_exec (cam : Camera) {s : Settings} {w w' : World} (hquiet : w.Quiet)
    (hhonest : w.driver.Honest) (h : (cam.apply s).exec w = (.ok (), w')) :
    w'.driver.Honest ∧ Driver.Overwritten cam.handle s.write? w.driver w'.driver := by
  have hover := cam.writeAll_exec (plain_of_mem_writes s) s.nodup_keys_writes hquiet hhonest h
  rw [s.get?_writes] at hover
  exact hover

end Camera

/-! ## Writes by anyone -/

/-- A write arrives at the driver as a write. -/
theorem Call.isSetter_of_pass? {b : Backend} {c c' : Call} (hc : c.isSetter = true)
    (h : b.pass? c = some c') : c'.isSetter = true := by
  rcases Backend.pass?_cases h with rfl | ⟨_, _, _, _, r, rfl, rfl, hr⟩
  · exact hc
  · rcases Library.passRequest?_cases hr with
      rfl | ⟨_, _, rfl, rfl, -⟩ | ⟨_, _, _, rfl, rfl⟩ | ⟨_, _, rfl, rfl⟩
    · cases r <;> exact hc
    · rfl
    · cases hc
    · cases hc

namespace World

/-- The world after calls that were made one after another. -/
def callAll (w : World) (l : List Call) : World := l.foldl (fun w c => (w.call c).2) w

variable {w : World}

/-- Writes by whomever change neither which features there are nor the orders to fail. -/
theorem akin_callAll (hquiet : w.Quiet) (hhonest : w.driver.Honest) {l : List Call}
    (hl : ∀ c ∈ l, c.isSetter = true) (handle : Int32) :
    (w.callAll l).Quiet ∧ (w.callAll l).driver.Honest ∧
      Driver.Akin handle w.driver (w.callAll l).driver := by
  induction l generalizing w with
  | nil => exact ⟨hquiet, hhonest, .refl _⟩
  | cons c rest ih =>
    have hfirst : (w.call c).2.driver.Honest ∧ Driver.Akin handle w.driver (w.call c).2.driver := by
      cases hpass : w.backend.pass? c with
      | none =>
        rw [call_of_refused hpass]
        exact ⟨hhonest, .refl _⟩
      | some c' =>
        rw [(driver_call hquiet hpass).2]
        have hsetter := Call.isSetter_of_pass? (hl c List.mem_cons_self) hpass
        exact ⟨Driver.honest_step hhonest c', Driver.akin_of_setter hsetter⟩
    obtain ⟨hquiet', hhonest', hakin⟩ := ih (quiet_call hquiet c) hfirst.1
      fun c' hc' => hl c' (List.mem_cons_of_mem _ hc')
    exact ⟨hquiet', hhonest', hfirst.2.trans hakin⟩

end World

namespace Camera

open CameraControl.Action

/-- Applying settings is laying them over what was read. Wherever no order to fail has the code of
    success and subscribers make no calls of their own: if the settings of a camera could be read,
    and others are then applied, reading gives those laid over what was read; and if what was read
    is applied after any writes to features, by whomever and of whichever device, reading gives the
    same as before. -/
theorem settings_overlay (cam : Camera) {w w₁ : World} {r : Settings}
    (hhonest : w.driver.Honest) (hquiet : w.Quiet) (hread : cam.settings.exec w = (.ok r, w₁)) :
    (∀ s w₂, (cam.apply s).exec w₁ = (.ok (), w₂) →
      (cam.settings.exec w₂).1 = .ok (s.onto r)) ∧
    (∀ setters w₂, (∀ c ∈ setters, c.isSetter = true) →
      (cam.apply r).exec (w₁.callAll setters) = (.ok (), w₂) →
      (cam.settings.exec w₂).1 = .ok r) := by
  have hlooks := cam.settings_looks
  -- reading has changed nothing but the log
  have hquiet₁ : w₁.Quiet := by
    have htokens := hlooks.tokens w
    rw [hread] at htokens
    unfold World.Quiet World.pendingCalls
    rw [htokens]
    exact hquiet
  obtain ⟨log, hlog⟩ := hlooks.still w
  rw [hread] at hlog
  have hhonest₁ : w₁.driver.Honest := by
    rw [hlog]
    exact ⟨hhonest.failures, hhonest.openFailures⟩
  have hdepicts : w₁.driver.Depicts cam.handle r := by
    rw [hlog, hlooks.steady _ hhonest, ← hlooks.finds w hhonest, hread]
  constructor
  · intro s w₂ happly
    obtain ⟨hhonest₂, hover⟩ := cam.apply_exec hquiet₁ hhonest₁ happly
    rw [hlooks.finds w₂ hhonest₂]
    exact hdepicts.overlay (.refl _) hover (.inr fun _ => rfl)
  · intro setters w₂ hsetters happly
    obtain ⟨hquiet', hhonest', hakin⟩ := World.akin_callAll hquiet₁ hhonest₁ hsetters cam.handle
    obtain ⟨hhonest₂, hover⟩ := cam.apply_exec hquiet' hhonest' happly
    rw [hlooks.finds w₂ hhonest₂]
    have hsame := hdepicts.overlay hakin hover (.inl rfl)
    rwa [r.onto_self] at hsame

/-- A frame count that is applied is read again, and applying what was read first brings that back
    after a write by someone else. -/
theorem settings_overlay_frameCount : ∃ (cam : Camera) (w w₁ : World) (r s : Settings),
    w.driver.Honest ∧ w.Quiet ∧ cam.settings.exec w = (.ok r, w₁) ∧ s.onto r ≠ r ∧
      (∃ w₂, (cam.apply s).exec w₁ = (.ok (), w₂) ∧ (cam.settings.exec w₂).1 = .ok (s.onto r)) ∧
      ∃ w₂, (cam.apply r).exec
          (w₁.callAll [.feature 100 Feature.frameCount.key (.write (.int 7))]) = (.ok (), w₂) ∧
        (cam.settings.exec w₂).1 = .ok r := by
  obtain ⟨cam, hcam⟩ : ∃ cam : Camera, cam = ⟨0, 0, 100, none⟩ := ⟨_, rfl⟩
  obtain ⟨r, hr⟩ : ∃ r : Settings, r = { frameCount := some 1 } := ⟨_, rfl⟩
  obtain ⟨s, hs⟩ : ∃ s : Settings, s = { frameCount := some 5 } := ⟨_, rfl⟩
  obtain ⟨w, hw⟩ : ∃ w : World, w = World.ofDriver .direct
      ((Driver.ofDevices [(Device.bare "A").put .frameCount (.int 1 1 10)]).run
        [.call (.open 0)]) := ⟨_, rfl⟩
  have hhonest : w.driver.Honest := by
    rw [hw]
    exact Driver.honest_step ⟨List.forall_mem_nil _, List.forall_mem_nil _⟩ (.open 0)
  have hquiet : w.Quiet := by
    rw [hw]
    decide +kernel
  -- an outcome with the world that the action leaves
  have hpair {α : Type} {a : Action α} {w : World} {x : α} (h : (a.exec w).1 = .ok x) :
      a.exec w = (.ok x, (a.exec w).2) := by rw [← h]
  have hread : cam.settings.exec w = (.ok r, (cam.settings.exec w).2) := by
    refine hpair ?_
    rw [hw, hcam, hr]
    decide +kernel
  have happly := hpair (a := cam.apply s) (w := (cam.settings.exec w).2) (x := ()) (by
    rw [hw, hcam, hs]
    decide +kernel)
  have happly' := hpair (a := cam.apply r) (w := (cam.settings.exec w).2.callAll
      [.feature 100 Feature.frameCount.key (.write (.int 7))]) (x := ()) (by
    rw [hw, hcam, hr]
    decide +kernel)
  obtain ⟨hover, hback⟩ := settings_overlay cam hhonest hquiet hread
  have hnew : s.onto r ≠ r := by
    rw [hs, hr]
    decide
  exact ⟨cam, w, _, r, s, hhonest, hquiet, hread, hnew, ⟨_, happly, hover s _ happly⟩,
    ⟨_, happly', hback _ _ (by simp [Call.isSetter]) happly'⟩⟩

end Camera

end CameraControl
