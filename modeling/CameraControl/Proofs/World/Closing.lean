import CameraControl.Proofs.Camera.Sessions

/-
  Who closes handles.

  The driver logs every call to close a handle. Subscribers make some of these calls, and the
  history has each of them once more when it has returned; `ownClosings` counts the others. No
  notification changes this number, whatever subscribers nest in it, so it goes up only where
  something else closes a handle. An enumeration closes as many handles as it opens.
-/

namespace CameraControl

/-- Whether a happening is a call to open a device that succeeded. -/
def Happening.isOpening : Happening → Bool
  | called (.open _) r => r.status == Status.success
  | _ => false

/-- Whether a happening is the return of a subscriber's own call to close a handle. -/
def Happening.isNestedClosing : Happening → Bool
  | event (.nested _ c _) => c.function == .close
  | _ => false

/-! ## Functions of calls -/

/-- Requests neither open a device nor close a handle. -/
theorem Request.function_ne (r : Request) : r.function ≠ .open ∧ r.function ≠ .close := by
  cases r with
  | ask c => cases c <;> decide
  | read r => cases r <;> decide
  | write w => cases w <;> exact ⟨nofun, nofun⟩
  | _ => exact ⟨nofun, nofun⟩

/-- A call arrives as one of the same function. -/
theorem Call.function_of_pass? {b : Backend} {c c' : Call} (h : b.pass? c = some c') :
    c'.function = c.function := by
  rcases Backend.pass?_cases h with rfl | ⟨_, _, _, _, _, rfl, rfl, hr⟩
  · rfl
  · rcases Library.passRequest?_cases hr with
      rfl | ⟨w, w', rfl, rfl, hw⟩ | ⟨_, _, _, rfl, rfl⟩ | ⟨_, _, rfl, rfl⟩
    · rfl
    · cases w with
      | enumText s | text s =>
        obtain ⟨s', -, rfl⟩ := Option.map_eq_some_iff.mp hw
        rfl
      | _ =>
        obtain rfl := Option.some.inj hw
        rfl
    · rfl
    · rfl

namespace World

variable (w : World)

/-- How many calls to open a device have succeeded. -/
def openings : Nat := w.history.countP Happening.isOpening

/-- How many calls to close a handle subscribers have made. -/
def nestedClosings : Nat := w.history.countP Happening.isNestedClosing

/-- How many calls to close a handle others than subscribers have made. -/
def ownClosings : Int := w.driver.callCount .close - w.nestedClosings

/-! ## Single happenings -/

theorem ownClosings_note {h : Happening} (hh : h.isNestedClosing = false) :
    (w.note h).ownClosings = w.ownClosings := by
  have hcount : (w.note h).nestedClosings = w.nestedClosings := by
    unfold nestedClosings note
    rw [List.countP_cons, hh]
    rfl
  unfold ownClosings
  rw [hcount]
  rfl

theorem ownClosings_take (c : Call) :
    (w.take c).ownClosings = w.ownClosings + if c.function = .close then 1 else 0 := by
  have hcount : (w.take c).nestedClosings = w.nestedClosings :=
    List.countP_cons_of_neg (by simp [Happening.isNestedClosing])
  have hlog : (w.take c).driver.callCount .close =
      w.driver.callCount .close + if c.function = .close then 1 else 0 :=
    Driver.callCount_step _ _ _
  unfold ownClosings
  rw [hcount, hlog]
  split <;> omega

/-- When a subscriber's own call returns, it is known to be one. -/
theorem ownClosings_returned (label : String) (c : Call) (r : Reply) :
    (w.record (.nested label c r)).ownClosings =
      w.ownClosings - if c.function = .close then 1 else 0 := by
  have hcount : (w.record (.nested label c r)).nestedClosings =
      w.nestedClosings + if c.function = .close then 1 else 0 := by
    unfold nestedClosings record note
    rw [List.countP_cons]
    simp [Happening.isNestedClosing]
  have hdriver : (w.record (.nested label c r)).driver = w.driver := rfl
  unfold ownClosings
  rw [hcount, hdriver]
  split <;> omega

/-! ## Notifications -/

theorem ownClosings_foldl {f : World → Notice → World}
    (hf : ∀ w n, (f w n).ownClosings = w.ownClosings) (notices : List Notice) :
    (notices.foldl f w).ownClosings = w.ownClosings := by
  induction notices generalizing w with
  | nil => rfl
  | cons n rest ih => rw [List.foldl_cons, ih, hf]

theorem ownClosings_dispatchWithin (depth token : Nat) (handle : Int32) (reported : String) :
    (dispatchWithin depth token handle reported w).2.ownClosings = w.ownClosings := by
  induction depth using Nat.strongRecOn generalizing token handle reported w with
  | ind depth ih =>
    have hheard (t : Token) :
        (w.hear token t handle reported).ownClosings = w.ownClosings := ownClosings_note _ rfl
    unfold dispatchWithin
    split
    · rfl
    · next t ht =>
      dsimp only
      split
      · exact hheard t
      · exact hheard t
      · exact hheard t
      · have hinvoked :
            ((w.hear token t handle reported).invoke token t).ownClosings = w.ownClosings :=
          (ownClosings_note _ rfl).trans (hheard t)
        split
        · split
          · next depth' c hnested =>
            -- the subscriber's call counts until it returns
            have hdelivered := ownClosings_foldl
              (((w.hear token t handle reported).invoke token t).take c)
              (f := fun w n =>
                (dispatchWithin depth' n.token n.handle (Text.Wide.scan (some n.reported)) w).2)
              (fun w n => ih depth' (Nat.lt_succ_self _) w _ _ _)
              (((w.hear token t handle reported).invoke token t).driver.step c).notices
            rw [ownClosings_returned, hdelivered, ownClosings_take, hinvoked]
            omega
          · exact hinvoked
        · exact hinvoked

theorem ownClosings_dispatch (token : Nat) (handle : Int32) (reported : String) :
    (w.dispatch token handle reported).2.ownClosings = w.ownClosings :=
  ownClosings_dispatchWithin w _ token handle reported

theorem ownClosings_deliverAll (notices : List Notice) :
    (w.deliverAll notices).2.ownClosings = w.ownClosings := by
  induction notices generalizing w with
  | nil => rfl
  | cons n rest ih =>
    have hfirst : (w.deliver n).2.ownClosings = w.ownClosings := ownClosings_dispatch w _ _ _
    exact (ih _).trans hfirst

/-! ## Calls -/

/-- A call counts if it is one to close a handle; such a call always gets to the driver. -/
theorem ownClosings_call (c : Call) :
    (w.call c).2.ownClosings = w.ownClosings + if c.function = .close then 1 else 0 := by
  cases hpass : w.backend.pass? c with
  | none =>
    have hc : c.function ≠ .close := by
      cases c with
      | feature handle key r => exact r.function_ne.2
      | close handle =>
        rw [Backend.pass?_eq _ (c := .close handle) trivial] at hpass
        cases hpass
      | _ => exact nofun
    rw [call_of_refused hpass, if_neg hc, Int.add_zero]
  | some c' =>
    rw [call_of_passed hpass, ownClosings_deliverAll, ownClosings_take,
      Call.function_of_pass? hpass]

theorem openings_take (c : Call) :
    (w.take c).openings =
      w.openings + if (Happening.called c (w.driver.step c).reply).isOpening then 1 else 0 :=
  List.countP_cons

theorem call_open (index : Int32) :
    w.call (.open index) = ((w.driver.step (.open index)).reply, w.take (.open index)) :=
  call_of_silent trivial rfl

theorem call_close (handle : Int32) :
    w.call (.close handle) = ((w.driver.step (.close handle)).reply, w.take (.close handle)) :=
  call_of_silent trivial rfl

/-- Whether a call to open a device counts is told by its status. -/
theorem openings_call_open (index : Int32) :
    (w.call (.open index)).2.openings =
      w.openings + if (w.call (.open index)).1.status = Status.success then 1 else 0 := by
  rw [call_open, openings_take]
  simp [Happening.isOpening]

end World

/-! ## Cameras -/

namespace Camera

open CameraControl.Action World

variable (w : World)

theorem ownClosings_afterOpening (index : Int32) :
    (afterOpening index w).ownClosings = w.ownClosings := by
  have hcall := ownClosings_call w (.open index)
  rw [if_neg (by exact nofun)] at hcall
  exact hcall.trans (by omega)

theorem openings_afterOpening {index : Int32}
    (hstatus : (w.call (.open index)).1.status = Status.success) :
    (afterOpening index w).openings = w.openings + 1 := by
  have hcall := openings_call_open w index
  rwa [if_pos hstatus] at hcall

/-- Giving a camera up closes its handle, whatever comes of it. -/
theorem ownClosings_drop (cam : Camera) :
    (cam.drop.exec w).2.ownClosings = w.ownClosings + 1 := by
  have hcall := ownClosings_call w (.close cam.handle)
  rwa [if_pos (by rfl)] at hcall

theorem openings_drop (cam : Camera) : (cam.drop.exec w).2.openings = w.openings := by
  show (w.call (.close cam.handle)).2.openings = _
  rw [call_close, openings_take]
  rfl

theorem driver_drop (cam : Camera) :
    (cam.drop.exec w).2.driver = (w.driver.step (.close cam.handle)).driver := by
  show (w.call (.close cam.handle)).2.driver = _
  rw [call_close]
  rfl

end Camera

/-! ## Enumeration -/

namespace Action

open World

variable {α β : Type}

/-- An action closes as many handles as it opens. -/
def Settles (a : Action α) : Prop :=
  ∀ w : World, (a.exec w).2.ownClosings - (a.exec w).2.openings = w.ownClosings - w.openings

theorem Settles.bind {a : Action α} {f : α → Action β} (ha : a.Settles)
    (hf : ∀ x, (f x).Settles) : (a >>= f).Settles := by
  intro w
  exact exec_bind_keeps
    (P := fun w' => w'.ownClosings - w'.openings = w.ownClosings - w.openings) (ha w)
    fun x w' hfirst => (hf x w').trans hfirst

/-- A request that only reads neither opens nor closes anything. -/
theorem settles_of_reading {handle : Int32} {f : Feature} {r : Request} (hr : r.isReading = true)
    (hportable : r.Portable) (description : String) :
    (Action.call (.feature handle f.key r) description).Settles := by
  intro w
  have hown : (w.take (.feature handle f.key r)).ownClosings = w.ownClosings := by
    rw [ownClosings_take, if_neg (by exact r.function_ne.2), Int.add_zero]
  have hopenings : (w.take (.feature handle f.key r)).openings = w.openings := by
    rw [openings_take]
    rfl
  rw [exec_call, call_reading w handle f r hr hportable]
  show (w.take _).ownClosings - (w.take _).openings = _
  rw [hown, hopenings]

theorem text_settles (cam : Camera) (f : Feature) : (cam.text f).Settles :=
  .bind (settles_of_reading (r := .text Camera.textBuffer) rfl Camera.textBuffer_fits _)
    fun _ _ => rfl

/-- A device that was opened to read its name is closed again. -/
theorem modelName_settles (index : Int32) : (Enumeration.modelName index).Settles := by
  intro w
  rcases Camera.modelName_exec index w with ⟨hstatus, hexec⟩ | ⟨hstatus, hexec⟩
  · have hopen := Camera.openings_afterOpening w hstatus
    have hown := Camera.ownClosings_afterOpening w index
    have hread := text_settles (Camera.opening index w) .cameraModel (Camera.afterOpening index w)
    rw [hexec, Camera.visiting, Camera.ownClosings_drop, Camera.openings_drop]
    omega
  · have hopen := openings_call_open w index
    rw [if_neg hstatus] at hopen
    have hown := ownClosings_call w (.open index)
    rw [if_neg nofun] at hown
    rw [hexec]
    omega

theorem modelNames_settles (index n : Nat) : (Enumeration.modelNames index n).Settles := by
  induction n generalizing index with
  | zero => exact fun _ => rfl
  | succ n ih =>
    exact .bind (modelName_settles _) fun name => .bind (ih _) fun names _ => rfl

theorem deviceCount_settles : Enumeration.deviceCount.Settles := by
  refine .bind (settles_of_reading (r := .read .int) rfl trivial _) fun reply w => ?_
  dsimp only
  split
  · rfl
  · split <;> rfl

theorem deviceNames_settles : Enumeration.deviceNames.Settles :=
  .bind deviceCount_settles fun n => modelNames_settles 0 n

end Action

end CameraControl
