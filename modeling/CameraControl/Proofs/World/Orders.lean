import CameraControl.Proofs.Driver.Orders
import CameraControl.Proofs.Driver.Procedure
import CameraControl.Proofs.World.Quiet

/-
  Orders to fail, seen from outside.

  A call that an order is about is answered with its code and reaches nobody. A call that no order
  is about cannot tell whether there are any: `call_withOrders` says so of a call in a quiet world,
  with all that it makes subscribers do, and `ended_withOrders` of the functions of the driver run
  statement by statement. With the orders of a run found by `Ordered`, `orders_act_where_aimed` puts
  this together.
-/

namespace CameraControl

namespace World

variable {w : World}

/-- The world with other orders to fail. -/
def withOrders (w : World) (failures : List FailureOrder) (openFailures : List (Int32 × Status)) :
    World :=
  { w with driver := w.driver.withOrders failures openFailures }

/-! ## Notifications -/

/-- In a quiet world a notification has nothing to do with the driver. -/
theorem dispatch_withDriver (hw : w.Quiet) (d : Driver) (token : Nat) (handle : Int32)
    (reported : String) :
    ({ w with driver := d } : World).dispatch token handle reported =
      ((w.dispatch token handle reported).1,
        { (w.dispatch token handle reported).2 with driver := d }) := by
  have hw' : ({ w with driver := d } : World).Quiet := hw
  cases ht : w.tokens[token]? with
  | none =>
    have ht' : ({ w with driver := d } : World).tokens[token]? = none := ht
    rw [dispatch_of_none ht, dispatch_of_none ht']
  | some t =>
    have ht' : ({ w with driver := d } : World).tokens[token]? = some t := ht
    have hadmission : ({ w with driver := d } : World).admission token t handle reported =
        w.admission token t handle reported := rfl
    rw [dispatch_eq hw ht, dispatch_eq hw' ht']
    dsimp only
    rw [hadmission]
    cases w.admission token t handle reported <;> rfl

theorem deliverAll_withDriver (hw : w.Quiet) (d : Driver) (notices : List Notice) :
    ({ w with driver := d } : World).deliverAll notices =
      ((w.deliverAll notices).1, { (w.deliverAll notices).2 with driver := d }) := by
  induction notices generalizing w with
  | nil => rfl
  | cons n rest ih =>
    have hfirst := dispatch_withDriver hw d n.token n.handle (Text.Wide.scan (some n.reported))
    have hrest := ih (quiet_dispatch hw n.token n.handle (Text.Wide.scan (some n.reported)))
    simp only [deliverAll, deliver, hfirst, hrest]

/-! ## Calls -/

/-- A call that is ordered to fail is answered with the code. Nothing happens but that it is called,
    and nobody hears of it. -/
theorem call_of_ordered {d : Driver} {c c' : Call} {code : Status} (hw : w.driver = d)
    (hpass : w.backend.pass? c = some c') (h : d.step c' = ⟨d.logged c', ⟨code, none⟩, []⟩) :
    w.call c =
      (⟨code, none⟩,
        ({ w with driver := d.logged c' } : World).note (.called c' ⟨code, none⟩)) := by
  rw [call_of_passed hpass, take, hw, h]
  rfl

/-- A call that orders are not about comes to the same whatever they are. -/
theorem call_withOrders (hw : w.Quiet) {failures : List FailureOrder}
    {openFailures : List (Int32 × Status)} {c c' : Call} (hpass : w.backend.pass? c = some c')
    (hstep : (w.driver.withOrders failures openFailures).step c' =
      { w.driver.step c' with
        driver := (w.driver.step c').driver.withOrders failures openFailures }) :
    (w.withOrders failures openFailures).call c =
      ((w.call c).1, (w.call c).2.withOrders failures openFailures) := by
  have hpass' : (w.withOrders failures openFailures).backend.pass? c = some c' := hpass
  have htaken : (w.take c').Quiet := hw
  have htake : (w.withOrders failures openFailures).take c' =
      { w.take c' with driver := (w.driver.step c').driver.withOrders failures openFailures } := by
    unfold take withOrders
    dsimp only
    rw [hstep]
    rfl
  rw [call_of_passed hpass, call_of_passed hpass', htake]
  show ((Driver.step (w.driver.withOrders failures openFailures) c').reply,
    (World.deliverAll _ (Driver.step (w.driver.withOrders failures openFailures) c').notices).2) = _
  rw [hstep, deliverAll_withDriver htaken]
  dsimp only
  unfold withOrders
  rw [driver_deliverAll htaken]
  rfl

end World

/-! ## Functions of the driver -/

/-- The scene with other orders to fail. -/
def Scene.withOrders (s : Scene) (failures : List FailureOrder)
    (openFailures : List (Int32 × Status)) : Scene :=
  { s with driver := s.driver.withOrders failures openFailures }

/-- The function of a call that orders are not about ends in the same way whatever they are. -/
theorem Procedure.ended_withOrders {d : Driver} {c : Call} (hd : d.Coherent) (hplaced : d.Placed)
    {failures : List FailureOrder} {openFailures : List (Int32 × Status)}
    (hstep : (d.withOrders failures openFailures).step c =
      { d.step c with driver := (d.step c).driver.withOrders failures openFailures })
    (cell : Option Output) :
    ended c ⟨d.withOrders failures openFailures, cell, []⟩ =
      ((ended c ⟨d, cell, []⟩).1,
        (ended c ⟨d, cell, []⟩).2.withOrders failures openFailures) := by
  have hother : (d.withOrders failures openFailures).Coherent :=
    ⟨hd.indices_nodup, hd.subscription_open, hd.queue_open, hd.frame_proper⟩
  have hplaced' : (d.withOrders failures openFailures).Placed := hplaced
  rw [ended_eq (s := ⟨d, cell, []⟩) c hd hplaced,
    ended_eq (s := ⟨d.withOrders failures openFailures, cell, []⟩) c hother hplaced']
  dsimp only
  rw [hstep]
  rfl

/-! ## Calls and orders -/

/-- A call cannot tell a state of the driver from the same state with other orders to fail: its
    function ends with the same status, has written the same to the caller's variable and sent out
    the same notices, and what happens in a quiet world around the driver is the same. What it
    leaves differs by the orders alone, and these stay as they are. -/
structure Unaware (d : Driver) (c : Call) (failures : List FailureOrder)
    (openFailures : List (Int32 × Status)) : Prop where
  kept : (d.step c).driver.failures = d.failures ∧ (d.step c).driver.openFailures = d.openFailures
  ended (cell : Option Output) :
    Procedure.ended c ⟨d.withOrders failures openFailures, cell, []⟩ =
      ((Procedure.ended c ⟨d, cell, []⟩).1,
        (Procedure.ended c ⟨d, cell, []⟩).2.withOrders failures openFailures)
  called {w : World} {c₀ : Call} (hw : w.driver = d) (hquiet : w.Quiet)
    (hpass : w.backend.pass? c₀ = some c) :
    (w.withOrders failures openFailures).call c₀ =
      ((w.call c₀).1, (w.call c₀).2.withOrders failures openFailures)

/-- A call that no order is about is unaware of orders, in every state that a run leads to. -/
theorem unaware_of_step {devices : List Device} {ops : List Operation} {d : Driver} {c : Call}
    (hd : d = (Driver.ofDevices devices).run ops) {failures : List FailureOrder}
    {openFailures : List (Int32 × Status)}
    (hstep : (d.withOrders failures openFailures).step c =
      { d.step c with driver := (d.step c).driver.withOrders failures openFailures }) :
    Unaware d c failures openFailures where
  kept := ⟨d.failures_step c, d.openFailures_step c⟩
  ended := Procedure.ended_withOrders (hd ▸ Driver.coherent_of_run devices ops)
    (hd ▸ Driver.placed_of_run devices ops) hstep
  called hw hquiet hpass := by
    subst hw
    exact World.call_withOrders hquiet hpass hstep

namespace World

/-- Orders to fail act on the calls that they are about and on no others. In every state that the
    driver can get into, a call that the standing orders are about is answered with the code of the
    earliest of these; a call to open a device that none of them is about, with the code last
    ordered for the device. Either way it is counted, whatever the code, and that is all: the
    caller's variable stays as it was, and nobody is notified. A call that no order to fail is about
    does what it would do without these orders, and one that nothing is ordered about, what it would
    do without any. Once orders are withdrawn, only those given later count; without such, there are
    none. -/
theorem orders_act_where_aimed (devices : List Device) (ops : List Operation) (c : Call) :
    let d := (Driver.ofDevices devices).run ops
    let acts := Operation.standing ops
    (∀ code, Ordered acts c code →
      (∀ cell, Procedure.ended c ⟨d, cell, []⟩ = (code, ⟨d.logged c, cell, []⟩)) ∧
      ∀ (w : World) (c₀ : Call), w.driver = d → w.backend.pass? c₀ = some c →
        w.call c₀ =
          (⟨code, none⟩,
            ({ w with driver := d.logged c } : World).note (.called c ⟨code, none⟩))) ∧
    (Spares acts c → Unaware d c [] d.openFailures) ∧
    ((∀ code, ¬Ordered acts c code) → Unaware d c [] []) ∧
    ∀ earlier later, ops = earlier ++ .script .clearFailures :: later →
      (∀ code, Ordered acts c code ↔ Ordered (Operation.standing later) c code) ∧
      d = (((Driver.ofDevices devices).run earlier).withOrders [] []).run later ∧
      ((∀ act, .script act ∈ later → act.OrdersNothing) →
        (∀ code, ¬Ordered acts c code) ∧ d.withOrders [] [] = d) := by
  intro d acts
  have hd : d = (Driver.ofDevices devices).run ops := rfl
  have hfailures : d.failures = acts.filterMap Scripting.order? :=
    Driver.failures_run devices ops
  refine ⟨fun code hordered => ?_, fun hspared => ?_, fun hnone => ?_, fun earlier later hops => ?_⟩
  · have hstep := Driver.step_of_ordered hd hordered
    refine ⟨fun cell => ?_, fun w c₀ hw hpass => call_of_ordered hw hpass hstep⟩
    rw [Procedure.ended_eq (s := ⟨d, cell, []⟩) c (Driver.coherent_of_run devices ops)
      (Driver.placed_of_run devices ops)]
    dsimp only
    rw [hstep]
    rfl
  · exact unaware_of_step rfl (Driver.step_withOrders [] d.openFailures
      (Driver.orderedFailure?_of_spares hfailures hspared) rfl fun _ _ => rfl)
  · obtain ⟨hspared, hopen⟩ := Driver.unordered_cases hd hnone
    exact unaware_of_step rfl (Driver.step_withOrders [] []
      (Driver.orderedFailure?_of_spares hfailures hspared) rfl
      fun index hindex => (hopen index hindex).symm)
  · have hacts : acts = Operation.standing later := by
      rw [← Operation.standing_clear earlier later, ← hops]
    have hcleared : d = (((Driver.ofDevices devices).run earlier).withOrders [] []).run later := by
      rw [hd, hops, Driver.run_append]
      rfl
    refine ⟨fun code => hacts ▸ Iff.rfl, hcleared, fun hlater => ⟨?_, ?_⟩⟩
    · exact hacts ▸ not_ordered_of_ordersNothing fun act hact =>
        hlater act (Operation.mem_of_standing hact)
    · have hnone := Driver.noOrders_run hlater
        (d := ((Driver.ofDevices devices).run earlier).withOrders [] []) rfl rfl
      rw [← hcleared] at hnone
      exact Driver.withOrders_self hnone.1 hnone.2

/-- An order to answer with success is an order to fail like any other: the text is not read. -/
theorem orders_act_where_aimed_success :
    let later : List Operation :=
      [.script (.failForFeature .getString .cameraModel Status.success),
       .script (.fail .getString Status.timedOut), .script (.failOpen 0 Status.outOfRange),
       .script (.failOpen 0 Status.deviceInUse)]
    let ops : List Operation :=
      [.call (.open 0), .script (.fail .isReadable Status.timedOut), .script .clearFailures] ++
        later
    let d := (Driver.ofDevices [Device.bare "A"]).run ops
    let d' := (Driver.ofDevices [Device.bare "A"]).run (ops ++ [.script .clearFailures])
    let read : Call := .feature 100 "Camera  Model" (.text [7, 7])
    let ask : Call := .feature 100 "CameraModel" (.ask .readable)
    let w := World.ofDriver .library d
    (∀ cell, Procedure.ended read ⟨d, cell, []⟩ = (Status.success, ⟨d.logged read, cell, []⟩)) ∧
      w.call (.open 0) = (⟨Status.deviceInUse, none⟩,
        ({ w with driver := d.logged (.open 0) } : World).note
          (.called (.open 0) ⟨Status.deviceInUse, none⟩)) ∧
      Unaware d ask [] [] ∧ d'.withOrders [] [] = d' := by
  intro later ops d d' read ask w
  have hacts : Operation.standing ops =
      [.failForFeature .getString .cameraModel Status.success, .fail .getString Status.timedOut,
        .failOpen 0 Status.outOfRange] ++ [.failOpen 0 Status.deviceInUse] := by decide +kernel
  have hread : Ordered (Operation.standing ops) read Status.success := by
    rw [hacts, List.cons_append]
    have ho : (Scripting.failForFeature .getString .cameraModel Status.success).order? =
        some ⟨.getString, some Feature.cameraModel.key, Status.success⟩ := rfl
    exact .fail (List.nil_append _).symm ho ((FailureOrder.matches_iff _ _).mp (by decide +kernel))
      fun _ h => absurd h List.not_mem_nil
  have hopen : Ordered (Operation.standing ops) (.open 0) Status.deviceInUse := by
    rw [hacts]
    refine .failOpen ?_ rfl rfl fun _ => List.not_mem_nil
    simp [Spares, Scripting.order?, FailureOrder.Concerns, Call.function]
  have hspared : Spares (Operation.standing ops) ask := by
    rw [hacts]
    simp [Spares, Scripting.order?, FailureOrder.Concerns, ask, Call.function, Request.function,
      Capability.function]
  have hask (code : Status) : ¬Ordered (Operation.standing ops) ask code := by
    intro h
    generalize hc : ask = c at h
    cases h with
    | fail hacts ho hconcerns =>
      exact (hc ▸ hspared) _ (hacts ▸ List.mem_append_right _ List.mem_cons_self) _ ho hconcerns
    | failOpen _ hopen => exact Call.noConfusion (hc.trans hopen)
  obtain ⟨hordered, -, -, -⟩ := orders_act_where_aimed [Device.bare "A"] ops read
  obtain ⟨hordered', -, -, -⟩ := orders_act_where_aimed [Device.bare "A"] ops (.open 0)
  obtain ⟨-, -, hunaware, -⟩ := orders_act_where_aimed [Device.bare "A"] ops ask
  obtain ⟨-, -, -, hcleared⟩ :=
    orders_act_where_aimed [Device.bare "A"] (ops ++ [.script .clearFailures]) ask
  refine ⟨(hordered _ hread).1, (hordered' _ hopen).2 w _ rfl rfl, hunaware hask,
    ((hcleared ops [] rfl).2.2 fun _ h => absurd h List.not_mem_nil).2⟩

end World

end CameraControl
