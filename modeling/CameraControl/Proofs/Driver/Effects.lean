import CameraControl.Driver.Step

/-
  What a call can do to the driver.

  `Effects` lists the ways in which a call takes effect, each with the conditions under which it
  does. `effects_of_attempt` says that there are no others, and `step_cases` that a call which does
  not take effect is logged and does nothing else. Properties of the driver are derived from these
  two; nothing else looks into the functions that serve calls.
-/

namespace CameraControl

/-- Requests that only read. -/
def Request.isReading : Request → Bool
  | ask _ | read _ | isIndexAvailable _ | isIndexImplemented _ | enumText _ _ | text _ => true
  | write _ | command | subscribe _ | unsubscribe _ => false

/-- Whether a call may notify subscribers. -/
def Call.notifies : Call → Bool
  | feature _ _ (.write _) | feature _ _ (.subscribe _) => true
  | _ => false

theorem Call.notifies_of_isReading (handle : Int32) (key : String) {r : Request}
    (hr : r.isReading = true) : (Call.feature handle key r).notifies = false := by
  cases r with
  | write => cases hr
  | subscribe => cases hr
  | _ => rfl

namespace Driver

/-- The ways in which a call takes effect. -/
inductive Effects (d : Driver) : Call → Effect → Prop where
  | opened {index : Int32} (hfail : Entries.get? d.openFailures index = none)
      (hrange : 0 ≤ index.toInt) (hlt : index.toInt.toNat < d.devices.length)
      (hfree : ∀ p ∈ d.opened, p.2 ≠ index.toInt.toNat) :
      d.Effects (.open index)
        ⟨{ d with
            nextHandle := d.nextHandle + 1
            opened := Entries.put d.opened d.nextHandle index.toInt.toNat },
          some (.word d.nextHandle), []⟩
  | closed {handle : Int32} {i : Nat} (hopen : d.deviceIndex? handle = some i) :
      d.Effects (.close handle)
        ⟨{ d with
            opened := Entries.erase d.opened handle
            subscriptions := d.subscriptions.filter fun s => s.handle != handle
            queues := Entries.erase d.queues handle },
          none, []⟩
  | answered {handle : Int32} {key : String} {r : Request} {output : Output}
      (hread : r.isReading = true) : d.Effects (.feature handle key r) ⟨d, some output, []⟩
  | wrote {handle : Int32} {key : String} {w : Write} {i : Nat} {device device' : Device}
      (hopen : d.opened? handle = .ok (i, device)) (hwrite : device.write key w = .ok device') :
      d.Effects (.feature handle key (.write w))
        ⟨d.setDevice i device', none, (d.setDevice i device').fire handle key⟩
  | commanded {handle : Int32} {key : String} {i : Nat} {device device' : Device}
      (hopen : d.opened? handle = .ok (i, device)) (hcommand : device.command key = .ok device') :
      d.Effects (.feature handle key .command) ⟨d.setDevice i device', none, []⟩
  | subscribed {handle : Int32} {key : String} {token i : Nat} {device : Device}
      {content : Content} (hopen : d.opened? handle = .ok (i, device))
      (hcontent : device.content? key = some content) :
      d.Effects (.feature handle key (.subscribe token))
        ⟨{ d with subscriptions := d.subscriptions ++ [⟨handle, Text.squeeze key, token⟩] },
          none, noticesFor [⟨handle, Text.squeeze key, token⟩] handle key⟩
  | unsubscribed {handle : Int32} {key : String} {token i : Nat} {device : Device}
      (hopen : d.opened? handle = .ok (i, device))
      (hmem : ⟨handle, Text.squeeze key, token⟩ ∈ d.subscriptions) :
      d.Effects (.feature handle key (.unsubscribe token))
        ⟨{ d with subscriptions := d.subscriptions.erase ⟨handle, Text.squeeze key, token⟩ },
          none, []⟩
  | queued {handle : Int32} {address : UInt64} {size : Int32} {i : Nat} {device : Device}
      (hopen : d.opened? handle = .ok (i, device)) (hsize : 0 < size) (haddress : address ≠ 0) :
      d.Effects (.queue handle address size)
        ⟨{ d with queues := Entries.put d.queues handle ((d.queue handle).push ⟨address, size⟩) },
          none, []⟩
  | waited {handle : Int32} {timeout : UInt32} {i : Nat} {device : Device} {frame : Frame}
      {rest : FrameQueue} (hopen : d.opened? handle = .ok (i, device))
      (hpop : (d.queue handle).pop? = some (frame, rest)) :
      d.Effects (.wait handle timeout)
        ⟨{ d with
            queues := Entries.put d.queues handle rest
            zeroSizeWaits := d.zeroSizeWaits - 1 },
          some (.frame frame.address (if 0 < d.zeroSizeWaits then 0 else frame.size)), []⟩
  | flushed {handle : Int32} {i : Nat} {device : Device}
      (hopen : d.opened? handle = .ok (i, device)) :
      d.Effects (.flush handle) ⟨{ d with queues := Entries.erase d.queues handle }, none, []⟩

/-! ## Inversion of attempts -/

/-- The two parts of a computation that succeeds in sequence. -/
theorem bind_eq_ok {α β : Type} {x : Except Status α} {f : α → Except Status β} {b : β}
    (h : x >>= f = .ok b) : ∃ a, x = .ok a ∧ f a = .ok b := by
  cases x with
  | error code => cases h
  | ok a => exact ⟨a, rfl, h⟩

theorem openDevice_effects {d : Driver} {index : Int32} {e : Effect}
    (h : d.openDevice index = .ok e) : d.Effects (.open index) e := by
  unfold openDevice at h
  split at h
  · cases h
  · next hfail =>
    split at h
    · next hrange =>
      split at h
      · cases h
      -- the device is in range and not open under any handle
      · next hused =>
        cases h
        refine .opened hfail hrange.1 hrange.2 fun p hp hindex => hused ?_
        exact List.any_eq_true.mpr ⟨p, hp, by simp [hindex]⟩
    · cases h

theorem closeDevice_effects {d : Driver} {handle : Int32} {e : Effect}
    (h : d.closeDevice handle = .ok e) : d.Effects (.close handle) e := by
  unfold closeDevice at h
  split at h
  · cases h
  · next hopen =>
    cases h
    exact .closed hopen

theorem contentOr_eq_ok {device : Device} {key : String} {c : Content}
    (h : device.contentOr key = .ok c) : device.content? key = some c := by
  unfold Device.contentOr at h
  split at h
  · next hc =>
    cases h
    exact hc
  · cases h

theorem serve_effects {d : Driver} {handle : Int32} {key : String} {r : Request} {e : Effect}
    (h : d.serve handle key r = .ok e) : d.Effects (.feature handle key r) e := by
  -- whatever is requested, the handle must be open
  unfold serve at h
  obtain ⟨⟨i, device⟩, hopen, h⟩ := bind_eq_ok h
  cases r with
  | ask c =>
    cases h
    exact .answered rfl
  | read reading =>
    obtain ⟨c, -, h⟩ := bind_eq_ok h
    split at h
    · cases h
      exact .answered rfl
    · cases h
  | isIndexAvailable | isIndexImplemented | enumText =>
    obtain ⟨c, -, h⟩ := bind_eq_ok h
    obtain ⟨s, -, h⟩ := bind_eq_ok h
    cases h
    exact .answered rfl
  | text buffer =>
    obtain ⟨c, -, h⟩ := bind_eq_ok h
    split at h
    · cases h
      exact .answered rfl
    · cases h
  | write w =>
    obtain ⟨device', hwrite, h⟩ := bind_eq_ok h
    cases h
    exact .wrote hopen hwrite
  | command =>
    obtain ⟨device', hcommand, h⟩ := bind_eq_ok h
    cases h
    exact .commanded hopen hcommand
  | subscribe token =>
    obtain ⟨c, hc, h⟩ := bind_eq_ok h
    cases h
    exact .subscribed hopen (contentOr_eq_ok hc)
  | unsubscribe token =>
    simp only [unsubscribe] at h
    split at h
    · next hmem =>
      cases h
      exact .unsubscribed hopen hmem
    · cases h

theorem request_effects {d : Driver} {handle : Int32} {key : String} {r : Request} {e : Effect}
    (h : d.request handle key r = .ok e) : d.Effects (.feature handle key r) e := by
  unfold request at h
  split at h
  · split at h
    · -- the handle of the system, which only counts devices
      unfold deviceCount at h
      split at h
      · cases h
        exact .answered rfl
      · cases h
    · exact serve_effects h
  · exact serve_effects h

theorem queueFrame_effects {d : Driver} {handle : Int32} {address : UInt64} {size : Int32}
    {e : Effect} (h : d.queueFrame handle address size = .ok e) :
    d.Effects (.queue handle address size) e := by
  unfold queueFrame at h
  obtain ⟨⟨i, device⟩, hopen, h⟩ := bind_eq_ok h
  split at h
  · cases h
  · next hbad =>
    cases h
    refine .queued hopen ?_ fun h0 => hbad (.inr h0)
    have hsize : ¬size ≤ 0 := fun hle => hbad (.inl hle)
    simpa [Int32.lt_iff_toInt_lt, Int32.le_iff_toInt_le] using hsize

theorem waitFrame_effects {d : Driver} {handle : Int32} {timeout : UInt32} {e : Effect}
    (h : d.waitFrame handle = .ok e) : d.Effects (.wait handle timeout) e := by
  unfold waitFrame at h
  obtain ⟨⟨i, device⟩, hopen, h⟩ := bind_eq_ok h
  split at h
  · cases h
  · next frame rest hpop =>
    cases h
    exact .waited hopen hpop

theorem flushFrames_effects {d : Driver} {handle : Int32} {e : Effect}
    (h : d.flushFrames handle = .ok e) : d.Effects (.flush handle) e := by
  unfold flushFrames at h
  obtain ⟨⟨i, device⟩, hopen, h⟩ := bind_eq_ok h
  cases h
  exact .flushed hopen

/-- Every attempt that takes effect does so in one of the ways listed. -/
theorem effects_of_attempt {d : Driver} {c : Call} {e : Effect} (h : d.attempt c = .ok e) :
    d.Effects c e := by
  cases c with
  | «open» index => exact openDevice_effects h
  | close handle => exact closeDevice_effects h
  | feature handle key r => exact request_effects h
  | queue handle address size => exact queueFrame_effects h
  | wait handle timeout => exact waitFrame_effects h
  | flush handle => exact flushFrames_effects h

/-! ## Calls -/

/-- A call that is ordered to fail is answered with the code, and only its count shows it. -/
theorem step_of_order {d : Driver} {c : Call} {code : Status}
    (h : d.orderedFailure? c = some code) : d.step c = ⟨d.logged c, ⟨code, none⟩, []⟩ := by
  -- the log has no part in the orders to fail
  have hlogged : (d.logged c).orderedFailure? c = some code := h
  simp only [step, hlogged]

theorem step_of_failedAttempt {d : Driver} {c : Call} {code : Status}
    (hgrant : d.orderedFailure? c = none) (hattempt : (d.logged c).attempt c = .error code) :
    d.step c = ⟨d.logged c, ⟨code, none⟩, []⟩ := by
  have hlogged : (d.logged c).orderedFailure? c = none := hgrant
  simp only [step, hlogged, hattempt]

theorem step_of_attempt {d : Driver} {c : Call} {e : Effect} (hgrant : d.orderedFailure? c = none)
    (hattempt : (d.logged c).attempt c = .ok e) :
    d.step c = ⟨e.driver, ⟨Status.success, e.output⟩, e.notices⟩ := by
  have hlogged : (d.logged c).orderedFailure? c = none := hgrant
  simp only [step, hlogged, hattempt]

/-- A call that is refused is logged and does nothing else; any other takes effect. -/
theorem step_cases (d : Driver) (c : Call) :
    (∃ code, (d.orderedFailure? c = some code ∨ (d.logged c).attempt c = .error code) ∧
      d.step c = ⟨d.logged c, ⟨code, none⟩, []⟩) ∨
    (∃ e, (d.logged c).Effects c e ∧
      d.step c = ⟨e.driver, ⟨Status.success, e.output⟩, e.notices⟩) := by
  cases hordered : d.orderedFailure? c with
  | some code => exact .inl ⟨code, .inl rfl, step_of_order hordered⟩
  | none =>
    cases hattempt : (d.logged c).attempt c with
    | error code => exact .inl ⟨code, .inr rfl, step_of_failedAttempt hordered hattempt⟩
    | ok e => exact .inr ⟨e, effects_of_attempt hattempt, step_of_attempt hordered hattempt⟩

/-- Nobody hears of calls other than writes and subscriptions. -/
theorem notices_eq_nil (d : Driver) {c : Call} (hc : c.notifies = false) :
    (d.step c).notices = [] := by
  rcases step_cases d c with ⟨code, -, hstep⟩ | ⟨e, he, hstep⟩
  · rw [hstep]
  · rw [hstep]
    cases he with
    | wrote => cases hc
    | subscribed => cases hc
    | _ => rfl

/-- Every call is logged once, whatever comes of it. -/
theorem log_step (d : Driver) (c : Call) : (d.step c).driver.log = c.function :: d.log := by
  rcases step_cases d c with ⟨code, -, hstep⟩ | ⟨e, he, hstep⟩
  · rw [hstep]
    rfl
  · rw [hstep]
    cases he <;> rfl

theorem callCount_step (d : Driver) (c : Call) (f : Function) :
    (d.step c).driver.callCount f = d.callCount f + if c.function = f then 1 else 0 := by
  unfold callCount
  rw [log_step, List.count_cons]
  simp only [beq_iff_eq]

end Driver

end CameraControl
