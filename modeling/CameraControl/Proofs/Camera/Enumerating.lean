import CameraControl.Proofs.Camera.Sessions
import CameraControl.Proofs.Driver.Visit
import CameraControl.Proofs.World.Replay
import CameraControl.Proofs.World.Transcript

/-
  Enumerating the devices.

  A transcript is what was called in the course of an action, with the replies. Each device is
  visited in turn: it is opened, its model name is read, and it is closed. `Visited` tells the ways
  in which one visit ends, `Listed` those of all visits from an index on, and `deviceNames_complete`
  those of the enumeration: either all devices were visited and every call succeeded, or the first
  call that failed is told by the fault and no device comes after it. What the driver held open
  before stays as it was; a visit leaves a device open only where closing it failed.
-/

namespace CameraControl

/-! ## Texts -/

namespace Text

/-- A text as it is read into a buffer of 256 units: it ends before its first character of code 0,
    and after 255 characters. -/
def cut (s : String) : String :=
  String.ofList ((s.toList.take 255).takeWhile (· != Char.ofNat 0))

end Text

/-- A text that is read into the buffer of a camera comes out cut. -/
theorem Camera.bufferText_fill (s : String) :
    bufferText ⟨Status.success, some (.buffer (Text.Wide.fill s textBuffer))⟩ = Text.cut s := by
  have hlength : (Text.Wide.fill s textBuffer).length = 256 := by
    rw [Text.Wide.length_fill, length_textBuffer]
  have hset : (Text.Wide.fill s textBuffer).set 255 0 =
      (Text.Wide.fill s textBuffer).take 255 ++ [(0 : Int32)].take 1 := by
    rw [List.set_eq_take_append_cons_drop, if_pos (by omega), List.drop_of_length_le (by omega)]
    rfl
  rw [bufferText, Reply.buffer_of_length (Text.Wide.length_fill s textBuffer), Text.Wide.toText,
    hset, Text.Wide.takeWhile_append_zero, Text.Wide.takeWhile_fill, length_textBuffer,
    Text.Wide.decode_takeWhile_encode]
  rfl

namespace Camera

open CameraControl.Action World

variable {w w' : World}

/-! ## The calls of a visit -/

/-- The call that reads a text. -/
def reader (cam : Camera) (f : Feature) : Call := .feature cam.handle f.key (.text textBuffer)

/-- Reading a text is its call, and a fault tells the code of that call. -/
theorem text_exec (cam : Camera) (f : Feature) (w : World) :
    (cam.text f).exec w =
      (if (w.driver.step (cam.reader f)).reply.status = Status.success
        then .ok (bufferText (w.driver.step (cam.reader f)).reply)
        else .error (.device ("AT_GetString" ++ "" ++ " for feature \"" ++ f.key ++ "\" failed.")
          (w.driver.step (cam.reader f)).reply.status), w.take (cam.reader f)) := by
  have hcall := exec_call (cam.reader f)
    ("AT_GetString" ++ "" ++ " for feature \"" ++ f.key ++ "\" failed.") w
  rw [reader, call_reading w cam.handle f (.text textBuffer) rfl textBuffer_fits, ← reader] at hcall
  by_cases hstatus : (w.driver.step (cam.reader f)).reply.status = Status.success
  · rw [if_pos hstatus] at hcall ⊢
    exact exec_bind_of_ok hcall
  · rw [if_neg hstatus] at hcall ⊢
    exact exec_bind_of_error hcall

/-- Closing is its call and the end of the session. -/
theorem close_eq (cam : Camera) (w : World) :
    cam.close.exec w =
      (if (w.driver.step (.close cam.handle)).reply.status = Status.success then .ok ()
        else .error (.device s!"Failed to close Andor device with index {cam.deviceIndex}."
          (w.driver.step (.close cam.handle)).reply.status),
        (w.take (.close cam.handle)).endSession cam.session) := by
  unfold close
  rw [exec_bind_of_ok (exec_tryCall _ _), call_close]
  have hend : cam.endSession.exec (w.take (.close cam.handle)) =
      (.ok (), (w.take (.close cam.handle)).endSession cam.session) := rfl
  rw [exec_bind_of_ok hend]
  split <;> rfl

/-- Opening a device that can be opened begins a session on the fresh handle. -/
theorem openDevice_visit {index : Int32} {d : Driver}
    (hstep : w.driver.step (.open index) =
      ⟨d, ⟨Status.success, some (.word w.driver.nextHandle)⟩, []⟩) :
    (openDevice index).exec w = (.ok ⟨w.nextSession, index, w.driver.nextHandle, none⟩,
      (w.take (.open index)).beginSession w.driver.nextHandle) := by
  have hcall : (Action.call (.open index) s!"Failed to open Andor device with index {index}.").exec
      w = (.ok ⟨Status.success, some (.word w.driver.nextHandle)⟩, w.take (.open index)) := by
    rw [exec_call, call_open, hstep]
    rfl
  unfold openDevice
  rw [exec_bind_of_ok hcall]
  rfl

/-- A device that cannot be opened is left alone. -/
theorem openDevice_refused {index : Int32} {code : Status} {d : Driver}
    (hcode : code ≠ Status.success) (hstep : w.driver.step (.open index) = ⟨d, ⟨code, none⟩, []⟩) :
    (openDevice index).exec w =
      (.error (.device s!"Failed to open Andor device with index {index}." code),
        w.take (.open index)) := by
  have hcall : (Action.call (.open index) s!"Failed to open Andor device with index {index}.").exec
      w = (.error (.device s!"Failed to open Andor device with index {index}." code),
        w.take (.open index)) := by
    rw [exec_call, call_open, hstep]
    exact congrArg (·, w.take (.open index)) (if_neg hcode)
  unfold openDevice
  rw [exec_bind_of_error hcall]

end Camera

namespace Enumeration

open CameraControl.Action World

variable {w w' : World}

/-! ## Visits -/

/-- The transcript of a visit whose device could be opened. -/
def visit (index handle : Int32) (read close : Reply) : Transcript :=
  [(.open index, ⟨Status.success, some (.word handle)⟩),
   (.feature handle Feature.cameraModel.key (.text Camera.textBuffer), read),
   (.close handle, close)]

/-- The ways in which a visit to a device ends: with its model name, or with the fault of the first
    call that failed. Then the device may be left open. -/
inductive Visited (w w' : World) (index : Int32) : Except Fault String → Prop where
  | named {device : Device} {s : String} {l : Transcript}
      (hdevice : w.driver.devices[index.toInt.toNat]? = some device)
      (htext : device.content? Feature.cameraModel.key = some (.text s))
      (hcourse : Course w w' l []) (hindices : l.indices = [index])
      (hfunctions : l.functions = [.open, .getString, .close]) (hsucceeds : l.Succeeds) :
      Visited w w' index (.ok (Text.cut s))
  | failed {fault : Fault} {code : Status} {l : Transcript} {left : List (Int32 × Nat)}
      (hcourse : Course w w' l left) (hindices : l.indices = [index]) (hfails : l.FailsFirst code)
      (hfault : fault.deviceCode? = some code) (hleft : ∀ p ∈ left, p.2 = index.toInt.toNat) :
      Visited w w' index (.error fault)

/-- The course of a visit whose device could be opened. -/
theorem course_visit (w' : World) {index : Int32} {read close : Reply} {i : Nat}
    (hhistory : w'.history =
      (visit index w.driver.nextHandle read close).happenings.reverse ++ w.history)
    (hdriver : close.status = Status.success ∧
        w'.driver = w.driver.released [.close, .getString, .open] ∨
      close.status ≠ Status.success ∧
        w'.driver = w.driver.holding i [.close, .getString, .open]) :
    ∃ left, Course w w' (visit index w.driver.nextHandle read close) left ∧
      (close.status = Status.success → left = []) ∧ ∀ p ∈ left, p.2 = i := by
  have hclose : (Call.close w.driver.nextHandle, close) ∈
      visit index w.driver.nextHandle read close := by simp [visit]
  rcases hdriver with ⟨hstatus, hdriver⟩ | ⟨hstatus, hdriver⟩
  · refine ⟨[], ⟨hhistory, ?_, rfl, .inl ⟨rfl, ?_⟩⟩, fun _ => rfl, List.forall_mem_nil _⟩
    · rw [hdriver, List.append_nil]
      rfl
    · intro handle r hmem
      have heq : Call.close handle = .close w.driver.nextHandle ∧ r = close := by
        simpa [visit] using hmem
      rw [heq.2]
      exact hstatus
  · refine ⟨[(w.driver.nextHandle, i)], ⟨hhistory, ?_, rfl, .inr ⟨_, _, _, rfl, hclose, hstatus⟩⟩,
      fun h => absurd h hstatus, ?_⟩
    · rw [hdriver]
      rfl
    · intro p hp
      rw [List.mem_singleton.mp hp]

/-- How a visit ends whose device was opened and asked for its name, as the reply to closing it
    tells. -/
theorem closing_visit (hhonest : w.driver.Honest) (hfresh : w.driver.Fresh) {index : Int32}
    {read : Reply} {i : Nat} (hdriver : w'.driver = w.driver.holding i [.getString, .open])
    (hhistory : w'.history = .called (.feature w.driver.nextHandle Feature.cameraModel.key
        (.text Camera.textBuffer)) read ::
      .called (.open index) ⟨Status.success, some (.word w.driver.nextHandle)⟩ :: w.history)
    (session : Nat) :
    ∃ code left, (w'.driver.step (.close w.driver.nextHandle)).reply = ⟨code, none⟩ ∧
      Course w ((w'.take (.close w.driver.nextHandle)).endSession session)
        (visit index w.driver.nextHandle read ⟨code, none⟩) left ∧
      (code = Status.success → left = []) ∧ ∀ p ∈ left, p.2 = i := by
  have hcases := Driver.step_close_visit hhonest hfresh i [.getString, .open]
  rw [← hdriver] at hcases
  rcases hcases with ⟨code, hcode, hstep⟩ | hstep
  · obtain ⟨hdriver', hhistory'⟩ := take_of_step hstep
    rw [hhistory] at hhistory'
    obtain ⟨left, hcourse⟩ := course_visit
      ((w'.take (.close w.driver.nextHandle)).endSession session) hhistory'
      (.inr ⟨hcode, hdriver'⟩)
    exact ⟨code, left, congrArg Outcome.reply hstep, hcourse⟩
  · obtain ⟨hdriver', hhistory'⟩ := take_of_step hstep
    rw [hhistory] at hhistory'
    obtain ⟨left, hcourse⟩ := course_visit (i := i)
      ((w'.take (.close w.driver.nextHandle)).endSession session) hhistory' (.inl ⟨rfl, hdriver'⟩)
    exact ⟨Status.success, left, congrArg Outcome.reply hstep, hcourse⟩

/-- The course of a visit whose device could not be opened. -/
theorem course_unopened {index : Int32} {code : Status} (hcode : code ≠ Status.success)
    (hstep : w.driver.step (.open index) = ⟨w.driver.logged (.open index), ⟨code, none⟩, []⟩) :
    Course w (w.take (.open index)) [(.open index, ⟨code, none⟩)] [] := by
  obtain ⟨hdriver, hhistory⟩ := take_of_step hstep
  refine ⟨hhistory, ?_, ?_, .inl ⟨rfl, fun handle r hmem => by simp at hmem⟩⟩
  · rw [hdriver, List.append_nil]
    rfl
  · simp [Transcript.openings, Transcript.happenings, Transcript.functions, Happening.isOpening,
      Call.function, hcode]

/-- A device whose name was read is closed; its visit fails only if closing it does. -/
theorem named_visits (hhonest : w.driver.Honest) (hfresh : w.driver.Fresh) {index : Int32}
    {device : Device} {s : String} {cam : Camera} (hhandle : cam.handle = w.driver.nextHandle)
    (hdevice : w.driver.devices[index.toInt.toNat]? = some device)
    (htext : device.content? Feature.cameraModel.key = some (.text s))
    (hdriver : w'.driver = w.driver.holding index.toInt.toNat [.getString, .open])
    (hhistory : w'.history = .called (.feature w.driver.nextHandle Feature.cameraModel.key
        (.text Camera.textBuffer))
          ⟨Status.success, some (.buffer (Text.Wide.fill s Camera.textBuffer))⟩ ::
      .called (.open index) ⟨Status.success, some (.word w.driver.nextHandle)⟩ :: w.history) :
    Visited w ((cam.close >>= fun _ => pure (Text.cut s) : Action String).exec w').2 index
      ((cam.close >>= fun _ => pure (Text.cut s) : Action String).exec w').1 := by
  obtain ⟨code, left, hreply, hcourse, hnone, hleft⟩ :=
    closing_visit hhonest hfresh hdriver hhistory cam.session
  rw [exec_bind, Camera.close_eq, hhandle, hreply]
  by_cases hcode : code = Status.success
  · obtain rfl := hnone hcode
    rw [if_pos hcode]
    refine .named hdevice htext hcourse rfl rfl ?_
    intro p hp
    simp only [visit, List.mem_cons, List.not_mem_nil, or_false] at hp
    rcases hp with rfl | rfl | rfl
    · rfl
    · rfl
    · exact hcode
  · rw [if_neg hcode]
    refine .failed hcourse rfl ⟨hcode, [_, _], _, [], rfl, ?_⟩ rfl hleft
    exact List.forall_mem_cons.mpr ⟨rfl, List.forall_mem_singleton.mpr rfl⟩

/-- A device whose name could not be read is closed, whatever comes of that; the fault is that of
    the reading. -/
theorem unread_visits (hhonest : w.driver.Honest) (hfresh : w.driver.Fresh) {index : Int32}
    {code : Status} {fault : Fault} {cam : Camera} (hhandle : cam.handle = w.driver.nextHandle)
    (hcode : code ≠ Status.success) (hfault : fault.deviceCode? = some code)
    (hdriver : w'.driver = w.driver.holding index.toInt.toNat [.getString, .open])
    (hhistory : w'.history = .called (.feature w.driver.nextHandle Feature.cameraModel.key
        (.text Camera.textBuffer)) ⟨code, none⟩ ::
      .called (.open index) ⟨Status.success, some (.word w.driver.nextHandle)⟩ :: w.history) :
    Visited w ((cam.drop >>= fun _ => throw fault : Action String).exec w').2 index
      ((cam.drop >>= fun _ => throw fault : Action String).exec w').1 := by
  obtain ⟨closing, left, -, hcourse, -, hleft⟩ :=
    closing_visit hhonest hfresh hdriver hhistory cam.session
  rw [exec_bind_of_ok (Camera.drop_exec _ _), call_close, hhandle]
  exact .failed hcourse rfl ⟨hcode, [_], _, [_], rfl, List.forall_mem_singleton.mpr rfl⟩ hfault
    hleft

/-- A visit to a device in a driver whose next handle is fresh. -/
theorem modelName_visits (hhonest : w.driver.Honest) (hfresh : w.driver.Fresh) (index : Int32) :
    Visited w ((modelName index).exec w).2 index ((modelName index).exec w).1 := by
  unfold modelName
  rcases Driver.step_open_visit hhonest hfresh index with ⟨code, hcode, hstep⟩ |
    ⟨device, hdevice, hstep⟩
  · rw [exec_bind_of_error (Camera.openDevice_refused hcode hstep)]
    exact .failed (course_unopened hcode hstep) rfl ⟨hcode, [], _, [], rfl, List.forall_mem_nil _⟩
      rfl (List.forall_mem_nil _)
  -- the device is open; `w₁` is the world in which its name is read
  obtain ⟨hdriver, hhistory⟩ := take_of_step hstep
  have hopened := Camera.openDevice_visit hstep
  generalize hw₁ : (w.take (.open index)).beginSession w.driver.nextHandle = w₁ at hopened
  have hdriver₁ : w₁.driver = w.driver.holding index.toInt.toNat [.open] := by
    rw [← hw₁]
    exact hdriver
  have hhistory₁ : w₁.history =
      .called (.open index) ⟨Status.success, some (.word w.driver.nextHandle)⟩ :: w.history := by
    rw [← hw₁]
    exact hhistory
  have hreading := Driver.step_text_visit (Driver.honest_holding hhonest [.open])
    (Driver.device?_holding hfresh hdevice [.open]) .cameraModel Camera.textBuffer
  rw [← hdriver₁] at hreading
  rw [exec_bind_of_ok hopened, exec_bind_of_ok (exec_attempt _ _), Camera.text_exec, Camera.reader]
  rcases hreading with ⟨code, hcode, hread⟩ | ⟨s, htext, hread⟩
  · obtain ⟨hdriver₂, hhistory₂⟩ := take_of_step hread
    rw [hdriver₁] at hdriver₂
    rw [hhistory₁] at hhistory₂
    rw [hread, if_neg hcode]
    exact unread_visits hhonest hfresh rfl hcode rfl hdriver₂ hhistory₂
  · obtain ⟨hdriver₂, hhistory₂⟩ := take_of_step hread
    rw [hdriver₁] at hdriver₂
    rw [hhistory₁] at hhistory₂
    rw [hread, if_pos rfl, Camera.bufferText_fill]
    exact named_visits hhonest hfresh rfl hdevice htext hdriver₂ hhistory₂

/-! ## All visits -/

/-- What is computed from the result of an action does not concern the world. -/
theorem exec_bind_pure {α β : Type} (a : Action α) (f : α → β) (w : World) :
    (a >>= fun x => pure (f x)).exec w = ((a.exec w).1.map f, (a.exec w).2) := by
  rw [exec_bind]
  rcases a.exec w with ⟨outcome, w'⟩
  cases outcome <;> rfl

theorem modelName_turns (index : Int32) (w : World) : Turns w ((modelName index).exec w).2 := by
  rcases Camera.modelName_exec index w with ⟨-, hexec⟩ | ⟨-, hexec⟩
  · have hread : Turns (Camera.afterOpening index w)
        (((Camera.opening index w).text .cameraModel).exec (Camera.afterOpening index w)).2 := by
      rw [Camera.text_exec]
      exact .single (.change (.take trivial))
    rw [hexec]
    exact (Camera.afterOpening_turns index w).trans (hread.trans (Camera.drop_turns _ _))
  · rw [hexec]
    exact call_turns w _

theorem modelNames_turns (index n : Nat) (w : World) :
    Turns w ((modelNames index n).exec w).2 := by
  induction n generalizing index w with
  | zero => exact .refl
  | succ n ih =>
    refine exec_bind_keeps (modelName_turns _ w) fun name w₁ hfirst => ?_
    exact exec_bind_keeps (hfirst.trans (ih (index + 1) w₁)) fun names w₂ hrest => hrest

/-- The ways in which the visits to `n` devices from an index on end: with all their model names, or
    with the fault of the first call that failed, which belongs to the visit that is the last. -/
inductive Listed (w w' : World) (index n : Nat) : Except Fault (List String) → Prop where
  | complete {names : List String} {l : Transcript} (hcourse : Course w w' l [])
      (hindices : l.indices = (List.range' index n).map Int32.ofNat)
      (hfunctions : ∀ f, l.functions.count f = n * [.open, .getString, .close].count f)
      (hsucceeds : l.Succeeds) (hlength : names.length = n)
      (hnames : ∀ i < n, ∃ device s, w.driver.devices[index + i]? = some device ∧
        device.content? Feature.cameraModel.key = some (.text s) ∧
        names[i]? = some (Text.cut s)) : Listed w w' index n (.ok names)
  | failed {fault : Fault} {code : Status} {l : Transcript} {left : List (Int32 × Nat)} {i : Nat}
      (hi : i < n) (hcourse : Course w w' l left)
      (hindices : l.indices = (List.range' index (i + 1)).map Int32.ofNat)
      (hfails : l.FailsFirst code) (hfault : fault.deviceCode? = some code)
      (hleft : ∀ p ∈ left, p.2 = index + i) : Listed w w' index n (.error fault)

theorem toNat_ofNat {index : Nat} (hindex : index < 2147483648) :
    (Int32.ofNat index).toInt.toNat = index := by
  rw [Int32.toInt_ofNat_of_lt hindex]
  rfl

/-- A visit that failed is the last. -/
theorem listed_failed {index n : Nat} {fault : Fault} (hindex : index < 2147483648)
    (hfirst : Visited w w' (Int32.ofNat index) (.error fault)) :
    Listed w w' index (n + 1) (.error fault) := by
  cases hfirst with
  | failed hcourse hindices hfails hfault hleft =>
    rw [toNat_ofNat hindex] at hleft
    exact .failed (Nat.succ_pos n) hcourse hindices hfails hfault hleft

/-- A visit that gave a name, and those to the devices that follow. -/
theorem listed_cons {index n : Nat} {w₁ : World} {name : String}
    {outcome : Except Fault (List String)} (hindex : index < 2147483648)
    (hfirst : Visited w w₁ (Int32.ofNat index) (.ok name))
    (hrest : Listed w₁ w' (index + 1) n outcome) :
    Listed w w' index (n + 1) (outcome.map (name :: ·)) := by
  have hplace := toNat_ofNat hindex
  cases hfirst with
  | named hdevice htext hcourse hindices hfunctions hsucceeds =>
    rw [hplace] at hdevice
    cases hrest with
    | complete hcourse' hindices' hfunctions' hsucceeds' hlength hnames =>
      refine .complete (hcourse.trans hcourse') ?_ (fun f => ?_) (hsucceeds.append hsucceeds') ?_
        fun i hi => ?_
      · rw [Transcript.indices_append, hindices, hindices', List.range'_succ]
        rfl
      · rw [Transcript.functions_append, List.count_append, hfunctions, hfunctions', Nat.succ_mul,
          Nat.add_comm]
      · rw [List.length_cons, hlength]
      · cases i with
        | zero => exact ⟨_, _, hdevice, htext, rfl⟩
        | succ i =>
          obtain ⟨device, s, hdevice', htext', hname⟩ := hnames i (Nat.lt_of_succ_lt_succ hi)
          rw [hcourse.kept.1, Nat.add_assoc, Nat.add_comm 1 i] at hdevice'
          exact ⟨device, s, hdevice', htext', hname⟩
    | @failed fault code l left i hi hcourse' hindices' hfails hfault hleft =>
      refine .failed (Nat.succ_lt_succ hi) (hcourse.trans hcourse') ?_ (hsucceeds.failsFirst hfails)
        hfault fun p hp => ?_
      · rw [Transcript.indices_append, hindices, hindices',
          List.range'_succ (s := index) (n := i + 1)]
        rfl
      · rw [hleft p hp, Nat.add_assoc, Nat.add_comm 1 i]

/-- The visits in a world that was reached from the start. -/
theorem modelNames_listed {devices : List Device} (index n : Nat)
    (hplace : index + n ≤ 2147483648) (hreplays : w.Replays (Driver.ofDevices devices))
    (hhonest : w.driver.Honest)
    (hfew : (Driver.ofDevices devices).Few ((modelNames index n).exec w).2.operations) :
    Listed w ((modelNames index n).exec w).2 index n ((modelNames index n).exec w).1 := by
  induction n generalizing index w with
  | zero =>
    exact .complete (.refl w) rfl (fun f => (Nat.zero_mul _).symm) (List.forall_mem_nil _) rfl
      fun i hi => absurd hi (Nat.not_lt_zero i)
  | succ n ih =>
    have hnames : modelNames index (n + 1) = (modelName (Int32.ofNat index) >>= fun name =>
        modelNames (index + 1) n >>= fun names => pure (name :: names)) := rfl
    -- the bound covers the whole enumeration, so it covers what came before it
    have hfresh : w.driver.Fresh := by
      obtain ⟨later, hlater⟩ := (modelNames_turns index (n + 1) w).operations_grow
      rw [hlater] at hfew
      have hrun : w.driver = (Driver.ofDevices devices).run w.operations := hreplays
      rw [hrun]
      exact Driver.fresh_of_few hfew.of_append
    have hvisited := modelName_visits hhonest hfresh (Int32.ofNat index)
    have hturns := modelName_turns (Int32.ofNat index) w
    rw [hnames, exec_bind] at hfew ⊢
    rcases hexec : (modelName (Int32.ofNat index)).exec w with ⟨outcome, w₁⟩
    rw [hexec] at hvisited hfew hturns
    cases outcome with
    | error fault => exact listed_failed (by omega) hvisited
    | ok name =>
      have hhonest₁ : w₁.driver.Honest := by
        cases hvisited with
        | named hdevice htext hcourse => exact hcourse.honest hhonest
      dsimp only at hfew ⊢
      rw [exec_bind_pure] at hfew ⊢
      exact listed_cons (by omega) hvisited
        (ih (index + 1) (by omega) (hturns.replays hreplays) hhonest₁ hfew)

/-! ## The enumeration -/

/-- What the enumeration makes of a reported number of devices. -/
def counted (count : Int64) : Except Fault Nat :=
  if count < 0 then .error (.protocol (.negativeDeviceCount count))
  else if Int32.maxValue.toInt < count.toInt then .error (.protocol (.tooManyDevices count))
  else .ok count.toInt.toNat

/-- Counting is its call; a number that indices cannot tell apart is a fault. -/
theorem deviceCount_exec (hhonest : w.driver.Honest) :
    (∃ code, code ≠ Status.success ∧
      w.driver.step Driver.counter = ⟨w.driver.logged Driver.counter, ⟨code, none⟩, []⟩ ∧
      deviceCount.exec w =
        (.error (.device "Failed to get Andor device count." code), w.take Driver.counter)) ∨
    (w.driver.step Driver.counter =
        ⟨w.driver.logged Driver.counter, ⟨Status.success, some (.int w.driver.count)⟩, []⟩ ∧
      deviceCount.exec w = (counted w.driver.count, w.take Driver.counter)) := by
  have hcall := exec_call Driver.counter "Failed to get Andor device count." w
  rw [Driver.counter, call_reading w systemHandle .deviceCount (.read .int) rfl trivial,
    ← Driver.counter] at hcall
  rcases Driver.step_counter hhonest with ⟨code, hcode, hstep⟩ | hstep
  · refine .inl ⟨code, hcode, hstep, ?_⟩
    rw [hstep, if_neg hcode] at hcall
    exact exec_bind_of_error hcall
  · refine .inr ⟨hstep, ?_⟩
    rw [hstep, if_pos rfl] at hcall
    refine (exec_bind_of_ok hcall).trans ?_
    unfold counted
    dsimp only [Reply.int]
    split
    · rfl
    · split <;> rfl

/-- The course of a call that counts the devices. -/
theorem course_counter {r : Reply}
    (hstep : w.driver.step Driver.counter = ⟨w.driver.logged Driver.counter, r, []⟩) :
    Course w (w.take Driver.counter) [(Driver.counter, r)] [] := by
  obtain ⟨hdriver, hhistory⟩ := take_of_step hstep
  refine ⟨hhistory, ?_, rfl, .inl ⟨rfl, fun handle r hmem => ?_⟩⟩
  · rw [hdriver, List.append_nil]
    rfl
  · simp [Driver.counter] at hmem

/-- A number is that of devices if it is neither negative nor larger than all indices. -/
theorem counted_cases (count : Int64) :
    (∃ fault, counted count = .error fault ∧
      ((count.toInt < 0 ∧ fault = .protocol (.negativeDeviceCount count)) ∨
        (2147483647 < count.toInt ∧ fault = .protocol (.tooManyDevices count)))) ∨
    (0 ≤ count.toInt ∧ count.toInt ≤ 2147483647 ∧ counted count = .ok count.toInt.toNat) := by
  have hzero : count < 0 ↔ count.toInt < 0 := Int64.lt_iff_toInt_lt
  have hmax : Int32.maxValue.toInt = 2147483647 := rfl
  unfold counted
  rw [hmax]
  by_cases hnegative : count < 0
  · exact .inl ⟨_, if_pos hnegative, .inl ⟨hzero.mp hnegative, rfl⟩⟩
  · have hle : 0 ≤ count.toInt := Int.not_lt.mp fun h => hnegative (hzero.mpr h)
    rw [if_neg hnegative]
    by_cases hlarge : 2147483647 < count.toInt
    · exact .inl ⟨_, if_pos hlarge, .inr ⟨hlarge, rfl⟩⟩
    · exact .inr ⟨hle, Int.not_lt.mp hlarge, if_neg hlarge⟩

/-- What the outcome of an enumeration tells about its transcript and about the handles that are
    left open. -/
structure Enumerated (w : World) (outcome : Except Fault (List String)) (l : Transcript)
    (left : List (Int32 × Nat)) : Prop where
  /-- Every device that is reported was visited, every call succeeded, and the names are those of
      the devices in order. -/
  complete : ∀ names, outcome = .ok names →
    l.Succeeds ∧ left = [] ∧ 0 ≤ w.driver.count.toInt ∧ w.driver.count.toInt ≤ 2147483647 ∧
      names.length = w.driver.count.toInt.toNat ∧
      (∀ i < names.length, ∃ device s, w.driver.devices[i]? = some device ∧
        device.content? Feature.cameraModel.key = some (.text s) ∧
        names[i]? = some (Text.cut s)) ∧
      ∀ f ∈ [Function.open, .getString, .close], l.functions.count f = names.length
  /-- Either no device was to be opened, because they could not be counted or because there cannot
      be that many; or the first call that failed is told by the fault, and the device that it is
      about is the last that was to be opened and the only one that may be left open. -/
  stopped : ∀ fault, outcome = .error fault →
    (l.indices = [] ∧ left = [] ∧
      ((∃ code, l.FailsFirst code ∧ fault.deviceCode? = some code) ∨
        (w.driver.count.toInt < 0 ∧ fault = .protocol (.negativeDeviceCount w.driver.count)) ∨
        (2147483647 < w.driver.count.toInt ∧
          fault = .protocol (.tooManyDevices w.driver.count)))) ∨
    ∃ i code, i < w.driver.count.toInt.toNat ∧ w.driver.count.toInt ≤ 2147483647 ∧
      l.indices = (List.range (i + 1)).map Int32.ofNat ∧ l.FailsFirst code ∧
      fault.deviceCode? = some code ∧ ∀ p ∈ left, p.2 = i
  /-- The devices are counted first. -/
  counts : l.head? = some (Driver.counter, (w.driver.step Driver.counter).reply)
  /-- A negative number of devices is a fault of its own, and nothing else is called. -/
  negative : (w.driver.step Driver.counter).reply.status = Status.success →
    w.driver.count.toInt < 0 →
    outcome = .error (.protocol (.negativeDeviceCount w.driver.count)) ∧
      l = [(Driver.counter, (w.driver.step Driver.counter).reply)] ∧ left = []
  /-- So is a number of devices that is larger than all indices. -/
  tooMany : (w.driver.step Driver.counter).reply.status = Status.success →
    2147483647 < w.driver.count.toInt →
    outcome = .error (.protocol (.tooManyDevices w.driver.count)) ∧
      l = [(Driver.counter, (w.driver.step Driver.counter).reply)] ∧ left = []

/-- An enumeration that stops because counting failed. -/
theorem enumerated_failed {fault : Fault} {code : Status} (hcode : code ≠ Status.success)
    (hreply : (w.driver.step Driver.counter).reply = ⟨code, none⟩)
    (hfault : fault.deviceCode? = some code) :
    Enumerated w (.error fault) [(Driver.counter, (w.driver.step Driver.counter).reply)] [] where
  complete := fun names h => by cases h
  stopped := by
    intro fault' h
    cases h
    rw [hreply]
    exact .inl ⟨rfl, rfl, .inl ⟨code, ⟨hcode, [], _, [], rfl, List.forall_mem_nil _⟩, hfault⟩⟩
  counts := rfl
  negative := fun h => absurd ((congrArg Reply.status hreply).symm.trans h) hcode
  tooMany := fun h => absurd ((congrArg Reply.status hreply).symm.trans h) hcode

/-- An enumeration that stops because of the number of devices. -/
theorem enumerated_uncounted {fault : Fault}
    (hfault : (w.driver.count.toInt < 0 ∧
        fault = .protocol (.negativeDeviceCount w.driver.count)) ∨
      (2147483647 < w.driver.count.toInt ∧ fault = .protocol (.tooManyDevices w.driver.count))) :
    Enumerated w (.error fault) [(Driver.counter, (w.driver.step Driver.counter).reply)] [] where
  complete := fun names h => by cases h
  stopped := by
    intro fault' h
    cases h
    exact .inl ⟨rfl, rfl, .inr hfault⟩
  counts := rfl
  negative := by
    intro _ hnegative
    rcases hfault with ⟨-, rfl⟩ | ⟨hlarge, -⟩
    · exact ⟨rfl, rfl, rfl⟩
    · omega
  tooMany := by
    intro _ hlarge
    rcases hfault with ⟨hnegative, -⟩ | ⟨-, rfl⟩
    · omega
    · exact ⟨rfl, rfl, rfl⟩

/-- An enumeration that goes on to visit the devices. -/
theorem enumerated_listed {w₁ : World} {outcome : Except Fault (List String)}
    (hlow : 0 ≤ w.driver.count.toInt) (hhigh : w.driver.count.toInt ≤ 2147483647)
    (hsuccess : (w.driver.step Driver.counter).reply.status = Status.success)
    (hfirst : Course w w₁ [(Driver.counter, (w.driver.step Driver.counter).reply)] [])
    (hlisted : Listed w₁ w' 0 w.driver.count.toInt.toNat outcome) :
    ∃ l left, Course w w' l left ∧ Enumerated w outcome l left := by
  have hcounted : Transcript.Succeeds [(Driver.counter, (w.driver.step Driver.counter).reply)] :=
    List.forall_mem_singleton.mpr hsuccess
  cases hlisted with
  | @complete names l hcourse hindices hfunctions hsucceeds hlength hnames =>
    refine ⟨_, _, hfirst.trans hcourse, ⟨fun names' h => ?_, fun fault h => (by cases h), rfl,
      fun _ h => absurd hlow (Int.not_le.mpr h), fun _ h => absurd hhigh (Int.not_le.mpr h)⟩⟩
    cases h
    rw [hlength]
    refine ⟨hcounted.append hsucceeds, rfl, hlow, hhigh, rfl, fun i hi => ?_, fun f hf => ?_⟩
    · obtain ⟨device, s, hdevice, htext, hname⟩ := hnames i hi
      rw [hfirst.kept.1, Nat.zero_add] at hdevice
      exact ⟨device, s, hdevice, htext, hname⟩
    -- the call that counts the devices is of another function
    · rw [Transcript.functions_append, List.count_append, hfunctions]
      simp only [List.mem_cons, List.not_mem_nil, or_false] at hf
      rcases hf with rfl | rfl | rfl
      · exact (Nat.zero_add _).trans (Nat.mul_one _)
      · exact (Nat.zero_add _).trans (Nat.mul_one _)
      · exact (Nat.zero_add _).trans (Nat.mul_one _)
  | @failed fault code l left i hi hcourse hindices hfails hfault hleft =>
    refine ⟨_, _, hfirst.trans hcourse, ⟨fun names h => (by cases h), fun fault' h => .inr ?_, rfl,
      fun _ h => absurd hlow (Int.not_le.mpr h), fun _ h => absurd hhigh (Int.not_le.mpr h)⟩⟩
    cases h
    refine ⟨i, code, hi, hhigh, ?_, hcounted.failsFirst hfails, hfault, fun p hp => ?_⟩
    · rw [Transcript.indices_append, hindices, List.range_eq_range']
      rfl
    · rw [hleft p hp, Nat.zero_add]

/-- What an enumeration comes to in a world that was reached from the start, with any orders to fail
    but those with the code of success. -/
theorem deviceNames_complete {devices : List Device} {outcome : Except Fault (List String)}
    (hreplays : w.Replays (Driver.ofDevices devices)) (hhonest : w.driver.Honest)
    (hexec : deviceNames.exec w = (outcome, w'))
    (hfew : (Driver.ofDevices devices).Few w'.operations) :
    ∃ l left, Course w w' l left ∧ Enumerated w outcome l left ∧
      w'.driver.callCount .close + w.openings = w.driver.callCount .close + w'.openings ∧
      w'.driver.devices = w.driver.devices ∧ w'.driver.queues = w.driver.queues ∧
      w'.driver.subscriptions = w.driver.subscriptions ∧
      w'.driver.opened = w.driver.opened ++ left := by
  have hcourse : ∃ l left, Course w w' l left ∧ Enumerated w outcome l left := by
    have hnames : deviceNames = (deviceCount >>= fun n => modelNames 0 n) := rfl
    rw [hnames] at hexec
    -- counting may fail, and what was counted may be no number of devices to be visited
    rcases deviceCount_exec hhonest with ⟨code, hcode, hstep, hcount⟩ | ⟨hstep, hcount⟩
    · rw [exec_bind_of_error hcount] at hexec
      cases hexec
      have hreply := congrArg Outcome.reply hstep
      refine ⟨_, _, ?_, enumerated_failed hcode hreply rfl⟩
      rw [hreply]
      exact course_counter hstep
    have hreply := congrArg Outcome.reply hstep
    have hfirst : Course w (w.take Driver.counter)
        [(Driver.counter, (w.driver.step Driver.counter).reply)] [] := by
      rw [hreply]
      exact course_counter hstep
    rcases counted_cases w.driver.count with ⟨fault, heq, hfault⟩ | ⟨hlow, hhigh, heq⟩
    · rw [heq] at hcount
      rw [exec_bind_of_error hcount] at hexec
      cases hexec
      exact ⟨_, _, hfirst, enumerated_uncounted hfault⟩
    · rw [heq] at hcount
      rw [exec_bind_of_ok hcount] at hexec
      have hlisted := modelNames_listed 0 w.driver.count.toInt.toNat (by omega)
        (replays_take hreplays _) (hfirst.honest hhonest) (by rw [hexec]; exact hfew)
      rw [hexec] at hlisted
      exact enumerated_listed hlow hhigh (congrArg Reply.status hreply) hfirst hlisted
  obtain ⟨l, left, hcourse, henumerated⟩ := hcourse
  obtain ⟨hdevices, hsubscriptions, hqueues, hopened, -⟩ := hcourse.kept
  refine ⟨l, left, hcourse, henumerated, ?_, hdevices, hqueues, hsubscriptions, hopened⟩
  have hopenings : w'.openings = l.openings + w.openings := by
    unfold openings
    rw [hcourse.history, List.countP_append, List.countP_reverse]
    rfl
  rw [hcourse.callCount, hcourse.balance, hopenings]
  omega

/-- One of two devices is reported, and the other is open already; then more devices are reported
    than indices can tell apart. -/
theorem deviceNames_complete_one :
    let devices := [Device.bare "A\x00B", Device.bare "C"]
    let w := (((ofDriver .library (.ofDevices devices)).call (.open 1)).2).script (.deviceCount 1)
    (∃ w' l, deviceNames.exec w = (.ok ["A"], w') ∧ Course w w' l [] ∧ l.Succeeds ∧
      (∀ f ∈ [Function.open, .getString, .close], l.functions.count f = 1) ∧
      w'.driver.opened = [(100, 1)] ∧ w'.driver.devices = devices) ∧
    ∃ w' r, deviceNames.exec (w.script (.deviceCount 2147483648)) =
        (.error (.protocol (.tooManyDevices 2147483648)), w') ∧
      Course (w.script (.deviceCount 2147483648)) w' [(Driver.counter, r)] [] := by
  intro devices w
  have hreplays : w.Replays (Driver.ofDevices devices) :=
    replays_script ((call_turns _ _).replays (replays_ofDriver _ _)) _
  have hstart : (Driver.ofDevices devices).Honest := ⟨List.forall_mem_nil _, List.forall_mem_nil _⟩
  have hact (n : Int64) : (Scripting.deviceCount n).Honest := trivial
  have hhonest : w.driver.Honest :=
    Driver.honest_script (Driver.honest_step hstart (.open 1)) (hact 1)
  refine ⟨?_, ?_⟩
  · have hnames : (deviceNames.exec w).1 = .ok ["A"] := by decide +kernel
    have hexec : deviceNames.exec w = (.ok ["A"], (deviceNames.exec w).2) := by rw [← hnames]
    obtain ⟨l, left, hcourse, henumerated, -, hdevices, -, -, hopened⟩ :=
      deviceNames_complete hreplays hhonest hexec (by decide +kernel)
    obtain ⟨hsucceeds, rfl, -, -, -, -, hcounts⟩ := henumerated.complete ["A"] rfl
    have hbefore : w.driver.opened = [(100, 1)] := by decide +kernel
    refine ⟨_, l, hexec, hcourse, hsucceeds, hcounts, ?_, hdevices⟩
    rw [hopened, hbefore, List.append_nil]
  · have hcount : (w.script (.deviceCount 2147483648)).driver.count = 2147483648 := by
      decide +kernel
    obtain ⟨l, left, hcourse, henumerated, -⟩ :=
      deviceNames_complete (replays_script hreplays _)
        (Driver.honest_script hhonest (hact 2147483648)) (Prod.eta _).symm (by decide +kernel)
    obtain ⟨houtcome, rfl, rfl⟩ :=
      henumerated.tooMany (by decide +kernel) (by rw [hcount]; decide)
    rw [hcount] at houtcome
    exact ⟨_, _, Prod.ext houtcome rfl, hcourse⟩

end Enumeration

end CameraControl
