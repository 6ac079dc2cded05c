import CameraControl.Camera.Overlay
import CameraControl.Proofs.Camera.Uses
import CameraControl.Proofs.Driver.Content
import CameraControl.Proofs.Driver.Locality
import CameraControl.Proofs.Library.Forwarding
import CameraControl.Proofs.World.Change

/-
  Actions that only look at the driver.

  Reading from a camera leaves the driver as it is, except for its log, and what it finds depends on
  the driver alone. `Looks` says so of an action and names what the action finds; it composes with
  the actions, so that what reading a value from a feature finds is known from what the requests for
  it find.
-/

namespace CameraControl

namespace Camera

open CameraControl.Action

/-- An action leaves the driver as it is, except for the log, and finds a value exactly where the
    driver shows it. -/
structure Looks {α : Type} (a : Action α) (P : Driver → α → Prop) : Prop where
  tokens : ∀ w : World, (a.exec w).2.tokens = w.tokens
  still : ∀ w : World, ∃ log, (a.exec w).2.driver = { w.driver with log := log }
  finds : ∀ w : World, w.driver.Honest → ∀ x, (a.exec w).1 = .ok x ↔ P w.driver x
  /-- The log does not count. -/
  steady : ∀ d : Driver, d.Honest → ∀ log x, P { d with log := log } x ↔ P d x

namespace Looks

variable {α β : Type} {a : Action α} {P P' : Driver → α → Prop}

theorem pure (x : α) : Looks (Pure.pure x : Action α) fun _ y => x = y where
  tokens := fun _ => rfl
  still := fun w => ⟨w.driver.log, rfl⟩
  finds := by
    intro w _ y
    rw [exec_pure]
    exact ⟨Except.ok.inj, congrArg Except.ok⟩
  steady := fun _ _ _ _ => Iff.rfl

/-- What is found may be said in another way. -/
theorem congr (h : Looks a P) (hP : ∀ d : Driver, d.Honest → ∀ x, P d x ↔ P' d x) :
    Looks a P' where
  tokens := h.tokens
  still := h.still
  finds := fun w hw x => (h.finds w hw x).trans (hP _ hw x)
  steady := by
    intro d hd log x
    have hlogged : ({ d with log := log } : Driver).Honest := ⟨hd.failures, hd.openFailures⟩
    rw [← hP _ hlogged x, ← hP d hd x]
    exact h.steady d hd log x

/-- What comes after looks at the same driver. -/
theorem bind {f : α → Action β} {Q : α → Driver → β → Prop} (ha : Looks a P)
    (hf : ∀ x, Looks (f x) (Q x)) : Looks (a >>= f) fun d y => ∃ x, P d x ∧ Q x d y where
  tokens := fun w => exec_bind_keeps (P := fun w' => w'.tokens = w.tokens) (ha.tokens w)
    fun x w' hfirst => ((hf x).tokens w').trans hfirst
  still := by
    intro w
    refine exec_bind_keeps (P := fun w' => ∃ log, w'.driver = { w.driver with log := log })
      (ha.still w) ?_
    rintro x w' ⟨log, hlog⟩
    obtain ⟨log', hlog'⟩ := (hf x).still w'
    exact ⟨log', by rw [hlog', hlog]⟩
  finds := by
    intro w hw y
    have hfinds := ha.finds w hw
    obtain ⟨log, hlog⟩ := ha.still w
    rw [exec_bind]
    split
    · next x w' hexec =>
      rw [hexec] at hfinds hlog
      have hw' : w'.driver.Honest := by
        rw [hlog]
        exact ⟨hw.failures, hw.openFailures⟩
      have hnext : ((f x).exec w').1 = .ok y ↔ Q x w.driver y := by
        rw [(hf x).finds w' hw' y, hlog]
        exact (hf x).steady w.driver hw log y
      rw [hnext]
      constructor
      · exact fun hy => ⟨x, (hfinds x).mp rfl, hy⟩
      · rintro ⟨x', hx', hy⟩
        obtain rfl := Except.ok.inj ((hfinds x').mpr hx')
        exact hy
    · next fault w' hexec =>
      rw [hexec] at hfinds
      constructor
      · exact fun hy => nomatch hy
      · rintro ⟨x, hx, -⟩
        exact nomatch (hfinds x).mpr hx
  steady := fun d hd log y => exists_congr fun x =>
    and_congr (ha.steady d hd log x) ((hf x).steady d hd log y)

end Looks

/-! ## Requests -/

/-- A request that only reads is made once, and causes nothing else. -/
theorem request_looks (cam : Camera) (f : Feature) {r : Request} (hr : r.isReading = true)
    (hportable : r.Portable) (detail : String) :
    Looks (cam.request f r detail) fun d reply =>
      (d.step (.feature cam.handle f.key r)).reply = reply ∧ reply.status = Status.success := by
  have hcall (w : World) := w.call_reading cam.handle f r hr hportable
  refine ⟨fun w => ?_, fun w => ?_, fun w _ reply => ?_, fun d _ log reply => ?_⟩
  · rw [request, exec_call, hcall]
    rfl
  · rw [request, exec_call, hcall]
    exact ⟨_, w.driver.step_reading cam.handle f.key hr⟩
  · rw [request, exec_call, hcall]
    dsimp only
    split
    · next hstatus =>
      constructor
      · intro h
        obtain rfl := Except.ok.inj h
        exact ⟨rfl, hstatus⟩
      · rintro ⟨rfl, -⟩
        rfl
    · next hstatus =>
      constructor
      · exact fun h => nomatch h
      · rintro ⟨rfl, h⟩
        exact absurd h hstatus
  · have hhandle : (Call.feature cam.handle f.key r).handle? = some cam.handle := rfl
    rw [d.reply_of_log log hhandle]

/-- Asking finds whether the device of the camera has a capability. -/
theorem can_looks (cam : Camera) (f : Feature) (c : Capability) :
    Looks (cam.can f c) fun d b => d.Grants cam.handle f (.ask c) ∧
      ∃ device, d.device? cam.handle = some device ∧ device.can f.key c = b := by
  have hask := cam.request_looks f (r := .ask c) rfl trivial ""
  refine (hask.bind fun reply => .pure reply.flag).congr fun d hd b => ?_
  constructor
  · rintro ⟨reply, ⟨rfl, hstatus⟩, rfl⟩
    obtain ⟨hgrant, device, hdevice⟩ := Driver.ask_of_success hd hstatus
    refine ⟨hgrant, device, hdevice, ?_⟩
    rw [Driver.reply_ask hgrant hdevice]
    cases device.can f.key c <;> rfl
  · rintro ⟨hgrant, device, hdevice, rfl⟩
    refine ⟨_, ⟨rfl, ?_⟩, ?_⟩
    · rw [Driver.reply_ask hgrant hdevice]
    · rw [Driver.reply_ask hgrant hdevice]
      cases device.can f.key c <;> rfl

/-- What is done next may depend on a truth value. -/
theorem Looks.ite {α : Type} {a a' : Action α} {P P' : Driver → α → Prop} (ha : Looks a P)
    (ha' : Looks a' P') (b : Bool) :
    Looks (if b = true then a else a') fun d x => if b = true then P d x else P' d x := by
  cases b with
  | true => exact ha
  | false => exact ha'

theorem has_looks (cam : Camera) (f : Feature) :
    Looks (cam.has f) fun d b => d.Has cam.handle f b := by
  refine ((cam.can_looks f .implemented).bind fun there =>
    Looks.ite (cam.can_looks f .readable) (.pure false) there).congr fun d _ b => ?_
  constructor
  · rintro ⟨there, ⟨himplemented, device, hdevice, rfl⟩, hnext⟩
    have hopen : (d.device? cam.handle).isSome = true := by rw [hdevice]; rfl
    cases hc : device.content? f.key with
    | none =>
      have hthere : device.can f.key .implemented = false := by rw [Device.can, hc]; rfl
      rw [hthere] at hnext
      obtain rfl : false = b := hnext
      exact ⟨himplemented, hopen, .inl (by rw [Driver.holds?, hdevice]; exact hc)⟩
    | some c =>
      have hthere : device.can f.key .implemented = true := by rw [Device.can, hc]; rfl
      rw [hthere] at hnext
      obtain ⟨hreadable, device', hdevice', hcan⟩ := hnext
      obtain rfl : device = device' := Option.some.inj (hdevice.symm.trans hdevice')
      have hholds : d.holds? cam.handle f = some c := by rw [Driver.holds?, hdevice]; exact hc
      have hb : b = !c.isCommand := by
        rw [← hcan, Device.can, hc, Content.isCommand]
        simp
      cases hkind : c.isCommand with
      | true =>
        rw [hkind] at hb
        subst hb
        exact ⟨himplemented, hopen, .inr ⟨hreadable, c, hholds, hkind⟩⟩
      | false =>
        rw [hkind] at hb
        subst hb
        exact ⟨himplemented, hreadable, c, hholds, hkind⟩
  · intro hhas
    cases b with
    | true =>
      obtain ⟨himplemented, hreadable, c, hholds, hkind⟩ := hhas
      obtain ⟨device, hdevice, hc⟩ := Option.bind_eq_some_iff.mp hholds
      refine ⟨true, ⟨himplemented, device, hdevice, by rw [Device.can, hc]; rfl⟩, ?_⟩
      refine ⟨hreadable, device, hdevice, ?_⟩
      rw [Device.can, hc]
      simpa [Content.isCommand] using hkind
    | false =>
      obtain ⟨himplemented, hopen, habsent | ⟨hreadable, c, hholds, hkind⟩⟩ := hhas
      · obtain ⟨device, hdevice⟩ := Option.isSome_iff_exists.mp hopen
        rw [Driver.holds?, hdevice, Option.bind_some] at habsent
        exact ⟨false, ⟨himplemented, device, hdevice, by rw [Device.can, habsent]; rfl⟩, rfl⟩
      · obtain ⟨device, hdevice, hc⟩ := Option.bind_eq_some_iff.mp hholds
        refine ⟨true, ⟨himplemented, device, hdevice, by rw [Device.can, hc]; rfl⟩, ?_⟩
        refine ⟨hreadable, device, hdevice, ?_⟩
        rw [Device.can, hc]
        simpa [Content.isCommand] using hkind

theorem readIf_looks (cam : Camera) (f : Feature) {α : Type} {a : Action α}
    {P : Driver → α → Prop} (ha : Looks a P) :
    Looks (cam.readIf f a) fun d o => d.IfHas cam.handle f (P d) o := by
  refine ((cam.has_looks f).bind fun there =>
    Looks.ite (ha.bind fun x => .pure (some x)) (.pure none) there).congr fun d _ o => ?_
  constructor
  · rintro ⟨there, hhas, hnext⟩
    cases there with
    | true =>
      obtain ⟨x, hx, rfl⟩ := hnext
      exact ⟨hhas, hx⟩
    | false =>
      obtain rfl : none = o := hnext
      exact hhas
  · intro ho
    cases o with
    | none => exact ⟨false, ho, rfl⟩
    | some x => exact ⟨true, ho.1, x, ho.2, rfl⟩

end Camera

end CameraControl
