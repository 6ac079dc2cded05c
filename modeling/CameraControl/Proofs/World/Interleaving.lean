import CameraControl.Proofs.World.Locality

/-
  Calls on the handles of two devices, in any order.

  The calls that are made on one handle come to the same whatever calls are made on the handle of
  another device in between: `handles_do_not_interfere`. Step by step, the world in which all calls
  are made agrees for each of the two handles with the world in which its calls are made alone;
  `Apart` says so, and the two kinds of steps keep it for the same reason.
-/

namespace CameraControl

/-- A list made of all elements of two others, each of which keeps its order. -/
inductive Interleaving {α : Type} : List α → List α → List α → Prop where
  | nil : Interleaving [] [] []
  | left {x : α} {xs ys zs : List α} (h : Interleaving xs ys zs) :
      Interleaving (x :: xs) ys (x :: zs)
  | right {y : α} {xs ys zs : List α} (h : Interleaving xs ys zs) :
      Interleaving xs (y :: ys) (y :: zs)

theorem Interleaving.perm {α : Type} {xs ys zs : List α} (h : Interleaving xs ys zs) :
    zs.Perm (xs ++ ys) := by
  induction h with
  | nil => exact .nil
  | left _ ih => exact ih.cons _
  | right _ ih => exact (ih.cons _).trans List.perm_middle.symm

/-- The observations of calls on a handle. -/
def Observation.onHandle (handle : Int32) (l : List Observation) : List Observation :=
  l.filter fun o => o.call.handle? == some handle

namespace World

open Observation

/-- Makes calls one after another and gives what can be observed of each. -/
def observeAll (w : World) : List Call → List Observation × World
  | [] => ([], w)
  | c :: rest =>
    (w.observe c :: ((w.call c).2.observeAll rest).1, ((w.call c).2.observeAll rest).2)

variable {h₁ h₂ : Int32} {i₁ i₂ : Nat} {w w₁ w₂ : World}

/-- For each of two handles, the world agrees with one in which the other handle is left alone. -/
structure Apart (h₁ : Int32) (i₁ : Nat) (h₂ : Int32) (i₂ : Nat) (w w₁ w₂ : World) : Prop where
  agree₁ : Agree h₁ i₁ w w₁
  agree₂ : Agree h₂ i₂ w w₂
  zero : w.driver.zeroSizeWaits = 0
  quiet : w.Quiet
  quiet₁ : w₁.Quiet
  quiet₂ : w₂.Quiet

theorem Apart.symm (h : Apart h₁ i₁ h₂ i₂ w w₁ w₂) : Apart h₂ i₂ h₁ i₁ w w₂ w₁ :=
  ⟨h.agree₂, h.agree₁, h.zero, h.quiet, h.quiet₂, h.quiet₁⟩

/-- A call on the first handle is observed to do the same where the second one is left alone, and
    it makes no difference to the second one. -/
theorem Apart.call (h : Apart h₁ i₁ h₂ i₂ w w₁ w₂) (hne : h₁ ≠ h₂) (hindex : i₁ ≠ i₂) {c : Call}
    (hc : c.handle? = some h₁) :
    w.observe c = w₁.observe c ∧ Apart h₁ i₁ h₂ i₂ (w.call c).2 (w₁.call c).2 w₂ := by
  obtain ⟨hobserved, hagree⟩ := call_agree h.agree₁ h.quiet h.quiet₁ hc
  have hother : Agree h₂ i₂ (w.call c).2 w := call_agree_of_other h.agree₂.driver.bound
    h.agree₁.driver.bound hne hindex h.zero h.quiet hc
  refine ⟨hobserved, hagree, hother.trans h.agree₂, ?_, quiet_call h.quiet c,
    quiet_call h.quiet₁ c, h.quiet₂⟩
  exact hother.driver.zeroSizeWaits.trans h.zero

/-- Observations that begin with one of a call on the handle, or on another one. -/
theorem onHandle_cons_of_eq {o : Observation} (l : List Observation)
    (ho : o.call.handle? = some h₁) : onHandle h₁ (o :: l) = o :: onHandle h₁ l := by
  simp [onHandle, ho]

theorem onHandle_cons_of_ne {o : Observation} (l : List Observation)
    (ho : o.call.handle? = some h₁) (hne : h₁ ≠ h₂) : onHandle h₂ (o :: l) = onHandle h₂ l := by
  simp [onHandle, ho, hne]

/-- Each of two lists of calls is observed to do the same in every interleaving as alone, and in the
    end the worlds agree as before. -/
theorem Apart.observeAll (h : Apart h₁ i₁ h₂ i₂ w w₁ w₂) (hne : h₁ ≠ h₂) (hindex : i₁ ≠ i₂)
    {A B l : List Call} (hA : ∀ c ∈ A, c.handle? = some h₁) (hB : ∀ c ∈ B, c.handle? = some h₂)
    (hl : Interleaving A B l) :
    onHandle h₁ (w.observeAll l).1 = (w₁.observeAll A).1 ∧
      onHandle h₂ (w.observeAll l).1 = (w₂.observeAll B).1 ∧
      Apart h₁ i₁ h₂ i₂ (w.observeAll l).2 (w₁.observeAll A).2 (w₂.observeAll B).2 := by
  induction hl generalizing w w₁ w₂ with
  | nil => exact ⟨rfl, rfl, h⟩
  | @left c _ _ _ _ ih =>
    have hc : c.handle? = some h₁ := hA c List.mem_cons_self
    obtain ⟨hobserved, hcalled⟩ := h.call hne hindex hc
    obtain ⟨hfirst, hsecond, hlast⟩ :=
      ih hcalled (fun c' hc' => hA c' (List.mem_cons_of_mem _ hc')) hB
    refine ⟨?_, ?_, hlast⟩
    · rw [World.observeAll, onHandle_cons_of_eq _ hc, hfirst, hobserved, World.observeAll]
    · rw [World.observeAll, onHandle_cons_of_ne _ hc hne, hsecond]
  | @right c _ _ _ _ ih =>
    have hc : c.handle? = some h₂ := hB c List.mem_cons_self
    obtain ⟨hobserved, hcalled⟩ := h.symm.call hne.symm hindex.symm hc
    obtain ⟨hfirst, hsecond, hlast⟩ :=
      ih hcalled.symm hA fun c' hc' => hB c' (List.mem_cons_of_mem _ hc')
    refine ⟨?_, ?_, hlast⟩
    · rw [World.observeAll, onHandle_cons_of_ne _ hc hne.symm, hfirst]
    · rw [World.observeAll, onHandle_cons_of_eq _ hc, hsecond, hobserved, World.observeAll]

/-- The calls that arrive at the driver are counted, each once. -/
theorem callCount_observeAll (hw : w.Quiet) (l : List Call) (f : Function) :
    (w.observeAll l).2.driver.callCount f =
      w.driver.callCount f + ((l.filterMap w.backend.pass?).map Call.function).count f := by
  induction l generalizing w with
  | nil => rfl
  | cons c rest ih =>
    have hbackend : (w.call c).2.backend = w.backend := (call_frame w c).2.2.2
    have hrest := ih (quiet_call hw c)
    rw [callCount_call hw, hbackend] at hrest
    have hhead : (c :: rest).filterMap w.backend.pass? =
        (w.backend.pass? c).toList ++ rest.filterMap w.backend.pass? := by
      cases hpass : w.backend.pass? c with
      | none => rw [List.filterMap_cons_none hpass, Option.toList_none, List.nil_append]
      | some c' => rw [List.filterMap_cons_some hpass, Option.toList_some, List.singleton_append]
    rw [World.observeAll, hrest, hhead, List.map_append, List.count_append, Nat.add_assoc]

/-- Calls on the handles of different devices do not interfere. In every reachable state without
    frames to be reported without a size, and with subscribers that make no calls of their own, the
    calls on each of two open handles have the same replies, notify the same subscribers and cause
    the same to happen in every interleaving as they do alone, and they leave the same share of the
    driver to their handle; and the calls are counted as those of both. -/
theorem handles_do_not_interfere {devices : List Device} {ops : List Operation}
    {A B l : List Call} (hreach : w.driver = (Driver.ofDevices devices).run ops)
    (hzero : w.driver.zeroSizeWaits = 0) (hquiet : w.Quiet) (hne : h₁ ≠ h₂)
    (hopen₁ : w.driver.deviceIndex? h₁ = some i₁) (hopen₂ : w.driver.deviceIndex? h₂ = some i₂)
    (hA : ∀ c ∈ A, c.handle? = some h₁) (hB : ∀ c ∈ B, c.handle? = some h₂)
    (hl : Interleaving A B l) :
    onHandle h₁ (w.observeAll l).1 = (w.observeAll A).1 ∧
      onHandle h₂ (w.observeAll l).1 = (w.observeAll B).1 ∧
      (w.observeAll l).2.driver.share h₁ i₁ = (w.observeAll A).2.driver.share h₁ i₁ ∧
      (w.observeAll l).2.driver.share h₂ i₂ = (w.observeAll B).2.driver.share h₂ i₂ ∧
      ∀ f, (w.observeAll l).2.driver.callCount f + w.driver.callCount f =
        (w.observeAll A).2.driver.callCount f + (w.observeAll B).2.driver.callCount f := by
  -- two open handles are those of different devices
  have hindex : i₁ ≠ i₂ := by
    rintro rfl
    have hcoherent := Driver.coherent_of_run devices ops
    rw [← hreach] at hcoherent
    exact hne (hcoherent.handle_eq hopen₁ hopen₂)
  have hbound₁ : w.driver.Bound h₁ i₁ := fun i hi => Option.some.inj (hi.symm.trans hopen₁)
  have hbound₂ : w.driver.Bound h₂ i₂ := fun i hi => Option.some.inj (hi.symm.trans hopen₂)
  have hapart : Apart h₁ i₁ h₂ i₂ w w w :=
    ⟨.refl hbound₁, .refl hbound₂, hzero, hquiet, hquiet, hquiet⟩
  obtain ⟨hfirst, hsecond, hlast⟩ := hapart.observeAll hne hindex hA hB hl
  refine ⟨hfirst, hsecond, hlast.agree₁.driver.share, hlast.agree₂.driver.share, fun f => ?_⟩
  have hcount := ((hl.perm.filterMap w.backend.pass?).map Call.function).count_eq f
  rw [List.filterMap_append, List.map_append, List.count_append] at hcount
  rw [callCount_observeAll hquiet l, callCount_observeAll hquiet A, callCount_observeAll hquiet B,
    hcount]
  omega

/-- One device is subscribed to and closed while a frame is lent to the other. -/
theorem handles_do_not_interfere_closing :
    let d := (Driver.ofDevices [.bare "A", .bare "B"]).run [.call (.open 0), .call (.open 1)]
    let w := (((ofDriver .direct d).beginSession 101).issue
      ⟨"model", 0, 101, .cameraModel, [], none, false, 0⟩).modifyLive 0 (· ++ [0])
    let A : List Call := [.queue 100 4096 64, .wait 100 0]
    let B : List Call := [.feature 101 Feature.cameraModel.key (.subscribe 0), .close 101]
    let l : List Call := [.queue 100 4096 64,
      .feature 101 Feature.cameraModel.key (.subscribe 0), .close 101, .wait 100 0]
    Interleaving A B l ∧ onHandle 101 (w.observeAll l).1 = (w.observeAll B).1 ∧
      (w.observeAll l).2.driver.share 100 0 = (w.observeAll A).2.driver.share 100 0 := by
  intro d w A B l
  have hl : Interleaving A B l := .left (.right (.right (.left .nil)))
  have hreach : w.driver =
      (Driver.ofDevices [.bare "A", .bare "B"]).run [.call (.open 0), .call (.open 1)] := rfl
  have hopen₁ : w.driver.deviceIndex? 100 = some 0 := by decide +kernel
  have hopen₂ : w.driver.deviceIndex? 101 = some 1 := by decide +kernel
  have hall := handles_do_not_interfere hreach (by decide +kernel) (by decide +kernel) (by decide)
    hopen₁ hopen₂ (by decide +kernel) (by decide +kernel) hl
  exact ⟨hl, hall.2.1, hall.2.2.1⟩

end World

end CameraControl
