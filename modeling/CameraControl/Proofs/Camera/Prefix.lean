import CameraControl.Proofs.Camera.Overlay
import CameraControl.Proofs.Camera.Refusal

/-
  How far applying settings comes.

  The writes for the fields that are set are made one after another until the first that fails. So
  applying settings makes the calls of a beginning of that list, all of it or up to and including
  the write that fails, and leaves the world as the single writes do: `apply_makes_prefix`. Nothing
  is assumed about the world; orders to fail and the calls that subscribers make of their own may
  come in between.
-/

namespace CameraControl

namespace World

/-- Calls made one after another all succeed. -/
inductive Accepts : World → List Call → Prop where
  | nil (w : World) : Accepts w []
  | cons {w : World} {c : Call} {rest : List Call}
      (hfirst : (w.call c).1.status = Status.success) (hrest : Accepts (w.call c).2 rest) :
      Accepts w (c :: rest)

theorem callAll_concat (w : World) (l : List Call) (c : Call) :
    w.callAll (l ++ [c]) = ((w.callAll l).call c).2 := by
  unfold callAll
  rw [List.foldl_concat]

/-- Of calls that all succeed, those after the first ones do too. -/
theorem Accepts.of_append {w : World} {l l' : List Call} (h : w.Accepts (l ++ l')) :
    (w.callAll l).Accepts l' := by
  induction l generalizing w with
  | nil => exact h
  | cons c rest ih =>
    cases h with
    | cons hfirst hrest => exact ih hrest

end World

namespace Settings

/-- What is written, for the fields that are set and no others. -/
theorem mem_writes {s : Settings} {f : Feature} {v : Write} :
    (f, v) ∈ s.writes ↔ s.write? f = some v := by
  constructor
  · intro h
    rw [writes_eq, writesOf, List.mem_flatMap] at h
    obtain ⟨g, -, hg⟩ := h
    obtain ⟨v', hv', hpair⟩ := Option.map_eq_some_iff.mp (Option.mem_toList.mp hg)
    cases hpair
    exact hv'
  · intro h
    rw [← get?_writes] at h
    exact Entries.mem_of_get? h

end Settings

namespace Camera

open CameraControl.Action

variable {cam : Camera}

/-- The call that writes to a feature. -/
def setter (cam : Camera) (p : Feature × Write) : Call := .feature cam.handle p.1.key (.write p.2)

/-- The fault that tells that a write failed. -/
def refusal (p : Feature × Write) (code : Status) : Fault :=
  .device (p.2.function.symbol ++ (" with value " ++ showWrite p.2) ++ " for feature \"" ++ p.1.key
    ++ "\" failed.") code

/-- The world after single writes that were made one after another, whatever comes of them. -/
def writeEach (cam : Camera) (w : World) (l : List (Feature × Write)) : World :=
  l.foldl (fun w p => ((cam.write p.1 p.2).exec w).2) w

/-- A write that hands over no text has none that ends early. -/
theorem unbroken_of_plain {v : Write} (h : (Request.write v).Plain) :
    (Request.write v).Unbroken := by
  intro s hs
  cases v with
  | enumText | text => exact h.elim
  | _ => cases hs

/-- A single write makes its call, and its fault tells the code of that call. -/
theorem write_exec (cam : Camera) {p : Feature × Write} (hp : (Request.write p.2).Unbroken)
    (w : World) :
    (cam.write p.1 p.2).exec w =
      (if (w.call (cam.setter p)).1.status = Status.success then .ok ()
        else .error (refusal p (w.call (cam.setter p)).1.status), (w.call (cam.setter p)).2) := by
  obtain ⟨f, write⟩ := p
  have hcall := exec_call (cam.setter (f, write))
    (write.function.symbol ++ (" with value " ++ showWrite write) ++ " for feature \"" ++ f.key
      ++ "\" failed.") w
  rw [cam.write_of_unbroken f hp]
  by_cases hstatus : (w.call (cam.setter (f, write))).1.status = Status.success
  · rw [if_pos hstatus] at hcall ⊢
    exact exec_bind_of_ok hcall
  · rw [if_neg hstatus] at hcall ⊢
    exact exec_bind_of_error hcall

theorem writeEach_eq_callAll (cam : Camera) {l : List (Feature × Write)}
    (hl : ∀ p ∈ l, (Request.write p.2).Plain) (w : World) :
    cam.writeEach w l = w.callAll (l.map cam.setter) := by
  induction l generalizing w with
  | nil => rfl
  | cons p rest ih =>
    obtain ⟨hp, hrest⟩ := List.forall_mem_cons.mp hl
    have hfirst : cam.writeEach w (p :: rest) =
        cam.writeEach ((cam.write p.1 p.2).exec w).2 rest := rfl
    rw [hfirst, write_exec cam (unbroken_of_plain hp), ih hrest]
    rfl

/-- The call of a write that hands over no text gets to the driver as it is. -/
theorem pass?_setter (cam : Camera) {p : Feature × Write} (hp : (Request.write p.2).Plain)
    (b : Backend) : b.pass? (cam.setter p) = some (cam.setter p) :=
  b.pass?_eq (Call.plainCalls_portable.request cam.handle p.1 hp)

/-- Writes one after another stop at the first that fails. -/
theorem writeAll_stops (cam : Camera) {l : List (Feature × Write)}
    (hl : ∀ p ∈ l, (Request.write p.2).Plain) (w : World) :
    (w.Accepts (l.map cam.setter) ∧
      (cam.writeAll l).exec w = (.ok (), w.callAll (l.map cam.setter))) ∨
    ∃ done p rest, l = done ++ p :: rest ∧ w.Accepts (done.map cam.setter) ∧
      ((w.callAll (done.map cam.setter)).call (cam.setter p)).1.status ≠ Status.success ∧
      (cam.writeAll l).exec w =
        (cam.write p.1 p.2).exec (w.callAll (done.map cam.setter)) := by
  induction l generalizing w with
  | nil => exact .inl ⟨.nil w, rfl⟩
  | cons p rest ih =>
    obtain ⟨hp, hrest⟩ := List.forall_mem_cons.mp hl
    have hwrite := write_exec cam (unbroken_of_plain hp) w
    have hall : cam.writeAll (p :: rest) = (cam.write p.1 p.2 >>= fun _ => cam.writeAll rest) :=
      rfl
    by_cases hstatus : (w.call (cam.setter p)).1.status = Status.success
    · rw [if_pos hstatus] at hwrite
      rw [hall, exec_bind_of_ok hwrite]
      rcases ih hrest (w.call (cam.setter p)).2 with ⟨haccepts, hexec⟩ |
        ⟨done, q, after, hsplit, haccepts, hfailed, hexec⟩
      · exact .inl ⟨.cons hstatus haccepts, hexec⟩
      · refine .inr ⟨p :: done, q, after, ?_, .cons hstatus haccepts, hfailed, hexec⟩
        rw [hsplit, List.cons_append]
    · refine .inr ⟨[], p, rest, rfl, .nil w, hstatus, ?_⟩
      show (cam.writeAll (p :: rest)).exec w = (cam.write p.1 p.2).exec w
      rw [if_neg hstatus] at hwrite
      rw [hall, exec_bind_of_error hwrite, hwrite]

/-- Writes one after another make the calls of a beginning of their list, and leave the world that
    the single writes leave. -/
theorem writeAll_makes_prefix (cam : Camera) {l : List (Feature × Write)}
    (hl : ∀ p ∈ l, (Request.write p.2).Plain) (w : World) :
    (((cam.writeAll l).exec w).1 = .ok () ↔ w.Accepts (l.map cam.setter)) ∧
    ∃ made rest, l = made ++ rest ∧
      ((cam.writeAll l).exec w).2 = w.callAll (made.map cam.setter) ∧
      ((cam.writeAll l).exec w).2 = cam.writeEach w made ∧
      (((cam.writeAll l).exec w).1 = .ok () ∧ rest = [] ∨
        ∃ done p code, made = done ++ [p] ∧ w.Accepts (done.map cam.setter) ∧
          ((w.callAll (done.map cam.setter)).call (cam.setter p)).1.status = code ∧
          code ≠ Status.success ∧
          ((cam.write p.1 p.2).exec (cam.writeEach w done)).1 = .error (refusal p code) ∧
          ((cam.writeAll l).exec w).1 = .error (refusal p code)) := by
  rcases writeAll_stops cam hl w with ⟨haccepts, hall⟩ |
    ⟨done, p, rest, rfl, haccepts, hfailed, hstopped⟩
  · rw [hall]
    refine ⟨iff_of_true rfl haccepts, l, [], (List.append_nil l).symm, rfl, ?_, .inl ⟨rfl, rfl⟩⟩
    exact (writeEach_eq_callAll cam hl w).symm
  · have hmade : ∀ q ∈ done ++ [p], (Request.write q.2).Plain := by
      intro q hq
      apply hl
      rw [List.append_cons]
      exact List.mem_append_left rest hq
    have hdone := writeEach_eq_callAll cam
      (fun q hq => hmade q (List.mem_append_left [p] hq)) w
    have hmap : (done ++ [p]).map cam.setter = done.map cam.setter ++ [cam.setter p] := by
      rw [List.map_append, List.map_singleton]
    have hwrite := write_exec cam (unbroken_of_plain (hmade p List.mem_concat_self))
      (w.callAll (done.map cam.setter))
    rw [if_neg hfailed] at hwrite
    rw [hstopped, hwrite]
    refine ⟨iff_of_false (fun h => by cases h) ?_, done ++ [p], rest, List.append_cons .., ?_, ?_,
      .inr ⟨done, p, _, rfl, haccepts, rfl, hfailed, ?_, rfl⟩⟩
    -- a list in which the failed call succeeds is not the one that was made
    · intro hall
      rw [List.map_append] at hall
      cases hall.of_append with
      | cons hsuccess => exact hfailed hsuccess
    · rw [hmap, World.callAll_concat]
    · rw [writeEach_eq_callAll cam hmade, hmap, World.callAll_concat]
    · rw [hdone, hwrite]

/-- Applying settings makes the calls that write the fields that are set, in the order of
    `Settings.writable`, one after another: all of them if they all succeed, otherwise those up to
    and including the first that fails. The world is then the one that the single writes leave, and
    the outcome is that of the last write that was made. -/
theorem apply_makes_prefix (cam : Camera) (s : Settings) (w : World) :
    s.writes = Settings.writesOf s.write? Settings.writable ∧
    (∀ f v, (f, v) ∈ s.writes ↔ s.write? f = some v) ∧
    (∀ p ∈ s.writes, ∀ b : Backend, b.pass? (cam.setter p) = some (cam.setter p)) ∧
    (((cam.apply s).exec w).1 = .ok () ↔ w.Accepts (s.writes.map cam.setter)) ∧
    ∃ made rest, s.writes = made ++ rest ∧
      ((cam.apply s).exec w).2 = w.callAll (made.map cam.setter) ∧
      ((cam.apply s).exec w).2 = cam.writeEach w made ∧
      (((cam.apply s).exec w).1 = .ok () ∧ rest = [] ∨
        ∃ done p code, made = done ++ [p] ∧ w.Accepts (done.map cam.setter) ∧
          ((w.callAll (done.map cam.setter)).call (cam.setter p)).1.status = code ∧
          code ≠ Status.success ∧
          ((cam.write p.1 p.2).exec (cam.writeEach w done)).1 = .error (refusal p code) ∧
          ((cam.apply s).exec w).1 = .error (refusal p code)) := by
  have hplain := plain_of_mem_writes s
  refine ⟨s.writes_eq, fun f v => Settings.mem_writes, fun p hp => cam.pass?_setter (hplain p hp),
    ?_⟩
  exact writeAll_makes_prefix cam hplain w

end Camera

end CameraControl
