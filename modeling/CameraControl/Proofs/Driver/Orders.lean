import CameraControl.Proofs.Driver.Closing
import CameraControl.Proofs.Driver.Spelling
import Mathlib.Data.List.Induction

/-
  Orders to fail.

  Which calls are ordered to fail is a matter of the run alone: `standing` are the acts of scripting
  since all orders were last withdrawn, and `Ordered` says what these make of a call. The earliest
  order about the call decides; if there is none, a call to open a device gets what was last ordered
  for that device. `failures_run` and `get?_openFailures_run` find the orders of a run in the state
  of the driver.

  To calls that they are not about orders make no difference: `step_withOrders`.
-/

namespace CameraControl

/-! ## Orders of a run -/

/-- The order to fail that an act of scripting gives, if it gives one. -/
def Scripting.order? : Scripting → Option FailureOrder
  | fail f code => some ⟨f, none, code⟩
  | failForFeature f feature code => some ⟨f, some feature.key, code⟩
  | _ => none

/-- The status that an act of scripting orders for opening a device. -/
def Scripting.openOrder? (index : Int32) : Scripting → Option Status
  | failOpen i code => if i = index then some code else none
  | _ => none

/-- An act of scripting that orders nothing to fail. -/
def Scripting.OrdersNothing : Scripting → Prop
  | fail _ _ | failForFeature _ _ _ | failOpen _ _ => False
  | _ => True

/-- The act of scripting that an operation is, if it is one. -/
def Operation.act? : Operation → Option Scripting
  | call _ => none
  | script act => some act

/-- The acts of scripting of a run since all orders were last withdrawn. -/
def Operation.standing (ops : List Operation) : List Scripting :=
  ((ops.filterMap act?).reverse.takeWhile (· ≠ .clearFailures)).reverse

namespace FailureOrder

/-- An order is about a call: it is about the function, and if it names a feature, the call has the
    key of this feature, up to blanks. -/
def Concerns (o : FailureOrder) (c : Call) : Prop :=
  o.function = c.function ∧
    ∀ key, o.key = some key → ∃ key', c.key? = some key' ∧ SameKey key key'

theorem matches_iff (o : FailureOrder) (c : Call) :
    o.matches c.function c.key? = true ↔ o.Concerns c := by
  obtain ⟨f, key, code⟩ := o
  cases key with
  | none => simp [FailureOrder.matches, Concerns]
  | some key =>
    cases hkey : c.key? with
    | none => simp [FailureOrder.matches, Concerns, hkey]
    | some key' =>
      simp [FailureOrder.matches, Concerns, hkey, keysMatch_iff_squeeze, SameKey]

end FailureOrder

/-- None of the orders among some acts of scripting is about a call. -/
def Spares (acts : List Scripting) (c : Call) : Prop :=
  ∀ act ∈ acts, ∀ o, act.order? = some o → ¬o.Concerns c

/-- What acts of scripting order a call to be answered with. -/
inductive Ordered (acts : List Scripting) (c : Call) : Status → Prop where
  /-- The earliest order about the call. -/
  | fail {earlier later : List Scripting} {act : Scripting} {o : FailureOrder}
      (hacts : acts = earlier ++ act :: later) (ho : act.order? = some o) (hc : o.Concerns c)
      (hfirst : Spares earlier c) : Ordered acts c o.code
  /-- Without such an order, the last one for the device that the call is to open. -/
  | failOpen {earlier later : List Scripting} {index : Int32} {code : Status}
      (hspared : Spares acts c) (hc : c = .open index)
      (hacts : acts = earlier ++ .failOpen index code :: later)
      (hlast : ∀ code', .failOpen index code' ∉ later) : Ordered acts c code

/-- Acts of scripting that order nothing order nothing of a call. -/
theorem not_ordered_of_ordersNothing {acts : List Scripting} {c : Call}
    (h : ∀ act ∈ acts, act.OrdersNothing) (code : Status) : ¬Ordered acts c code := by
  intro hordered
  cases hordered with
  | @fail _ _ act _ hacts ho =>
    have hact := h act (hacts ▸ List.mem_append_right _ List.mem_cons_self)
    cases act with
    | fail | failForFeature => exact hact
    | _ => cases ho
  | failOpen _ _ hacts => exact h _ (hacts ▸ List.mem_append_right _ List.mem_cons_self)

/-- Some order is about a call, and then one of them is the earliest, or none is. -/
theorem spares_or_first (acts : List Scripting) (c : Call) :
    Spares acts c ∨ ∃ earlier act later o, acts = earlier ++ act :: later ∧
      act.order? = some o ∧ o.Concerns c ∧ Spares earlier c := by
  induction acts with
  | nil => exact .inl fun _ h => absurd h List.not_mem_nil
  | cons act rest ih =>
    by_cases hact : ∃ o, act.order? = some o ∧ o.Concerns c
    · obtain ⟨o, ho, hc⟩ := hact
      exact .inr ⟨[], act, rest, o, rfl, ho, hc, fun _ h => absurd h List.not_mem_nil⟩
    have hspares {l : List Scripting} (hl : Spares l c) : Spares (act :: l) c := by
      intro act' hact' o ho hc
      rcases List.mem_cons.mp hact' with rfl | hact'
      · exact hact ⟨o, ho, hc⟩
      · exact hl act' hact' o ho hc
    rcases ih with hrest | ⟨earlier, act', later, o, rfl, ho, hc, hfirst⟩
    · exact .inl (hspares hrest)
    · exact .inr ⟨act :: earlier, act', later, o, rfl, ho, hc, hspares hfirst⟩

namespace Operation

theorem standing_call (ops : List Operation) (c : Call) :
    standing (ops ++ [.call c]) = standing ops := by
  simp [standing, act?]

theorem standing_script (ops : List Operation) (act : Scripting) :
    standing (ops ++ [.script act]) =
      if act = .clearFailures then [] else standing ops ++ [act] := by
  by_cases hact : act = .clearFailures
  · simp [standing, act?, hact]
  · simp [standing, act?, hact]

/-- Orders that were withdrawn do not stand. -/
theorem standing_clear (earlier later : List Operation) :
    standing (earlier ++ .script .clearFailures :: later) = standing later := by
  induction later using List.reverseRecOn with
  | nil => rw [standing_script, if_pos rfl]; rfl
  | append_singleton later op ih =>
    rw [← List.cons_append, ← List.append_assoc]
    cases op with
    | call c => rw [standing_call, standing_call, ih]
    | script act => rw [standing_script, standing_script, ih]

theorem mem_of_standing {ops : List Operation} {act : Scripting} (h : act ∈ standing ops) :
    .script act ∈ ops := by
  have hact := (List.takeWhile_sublist _).mem (List.mem_reverse.mp h)
  obtain ⟨op, hop, heq⟩ := List.mem_filterMap.mp (List.mem_reverse.mp hact)
  cases op with
  | call c => cases heq
  | script act' =>
    cases heq
    exact hop

end Operation

namespace Driver

variable {d : Driver} {c : Call} {acts : List Scripting}

/-! ## Orders in the state of the driver -/

theorem openFailures_step (d : Driver) (c : Call) :
    (d.step c).driver.openFailures = d.openFailures := by
  rcases step_cases d c with ⟨code, -, hstep⟩ | ⟨e, he, hstep⟩
  · rw [hstep]
    rfl
  · rw [hstep]
    cases he <;> rfl

/-- The driver has the orders of the run, the earliest first. -/
theorem failures_run (devices : List Device) (ops : List Operation) :
    ((ofDevices devices).run ops).failures =
      (Operation.standing ops).filterMap Scripting.order? := by
  induction ops using List.reverseRecOn with
  | nil => rfl
  | append_singleton ops op ih =>
    rw [run_append]
    cases op with
    | call c =>
      show (((ofDevices devices).run ops).step c).driver.failures = _
      rw [failures_step, ih, Operation.standing_call]
    | script act =>
      rw [Operation.standing_script]
      show (((ofDevices devices).run ops).script act).failures = _
      cases act with
      | clearFailures => rfl
      | fail f code =>
        show ((ofDevices devices).run ops).failures ++ _ = _
        rw [if_neg Scripting.noConfusion, List.filterMap_append, ih]
        rfl
      | failForFeature f feature code =>
        show ((ofDevices devices).run ops).failures ++ _ = _
        rw [if_neg Scripting.noConfusion, List.filterMap_append, ih]
        rfl
      | _ =>
        show ((ofDevices devices).run ops).failures = _
        rw [if_neg Scripting.noConfusion, List.filterMap_append, ih]
        exact (List.append_nil _).symm

/-- It has what was last ordered for opening each device. -/
theorem get?_openFailures_run (devices : List Device) (ops : List Operation) (index : Int32) :
    Entries.get? ((ofDevices devices).run ops).openFailures index =
      (Operation.standing ops).reverse.findSome? (Scripting.openOrder? index) := by
  induction ops using List.reverseRecOn with
  | nil => rfl
  | append_singleton ops op ih =>
    rw [run_append]
    cases op with
    | call c =>
      show Entries.get? (((ofDevices devices).run ops).step c).driver.openFailures index = _
      rw [openFailures_step, ih, Operation.standing_call]
    | script act =>
      rw [Operation.standing_script]
      show Entries.get? (((ofDevices devices).run ops).script act).openFailures index = _
      cases act with
      | clearFailures => rfl
      | failOpen i code =>
        show Entries.get? (Entries.put ((ofDevices devices).run ops).openFailures i code) index = _
        rw [if_neg Scripting.noConfusion, List.reverse_concat, List.findSome?_cons,
          Entries.get?_put, ih]
        by_cases hi : i = index
        · simp [Scripting.openOrder?, hi]
        · simp [Scripting.openOrder?, hi]
      | _ =>
        show Entries.get? ((ofDevices devices).run ops).openFailures index = _
        rw [if_neg Scripting.noConfusion, List.reverse_concat, List.findSome?_cons, ih]
        rfl

/-- A driver without orders that is ordered nothing stays without. -/
theorem noOrders_run {ops : List Operation} (hops : ∀ act, .script act ∈ ops → act.OrdersNothing)
    (hfailures : d.failures = []) (hopen : d.openFailures = []) :
    (d.run ops).failures = [] ∧ (d.run ops).openFailures = [] := by
  induction ops generalizing d with
  | nil => exact ⟨hfailures, hopen⟩
  | cons op rest ih =>
    have hrest (act : Scripting) (hact : .script act ∈ rest) : act.OrdersNothing :=
      hops act (List.mem_cons_of_mem op hact)
    cases op with
    | call c =>
      exact ih hrest ((d.failures_step c).trans hfailures) ((d.openFailures_step c).trans hopen)
    | script act =>
      have hact := hops act List.mem_cons_self
      cases act with
      | fail | failForFeature | failOpen => exact hact.elim
      | clearFailures => exact ih hrest rfl rfl
      | _ => exact ih hrest hfailures hopen

theorem find?_matches_of_spares (h : Spares acts c) :
    ((acts.filterMap Scripting.order?).find? fun o => o.matches c.function c.key?) = none := by
  refine List.find?_eq_none.mpr fun o ho hmatches => ?_
  obtain ⟨act, hact, horder⟩ := List.mem_filterMap.mp ho
  exact h act hact o horder ((o.matches_iff c).mp hmatches)

theorem orderedFailure?_of_spares (hfailures : d.failures = acts.filterMap Scripting.order?)
    (h : Spares acts c) : d.orderedFailure? c = none := by
  rw [orderedFailure?, hfailures, find?_matches_of_spares h]
  rfl

/-- The code that a call is ordered to fail with is that of the earliest order about it. -/
theorem orderedFailure?_of_first {earlier later : List Scripting} {act : Scripting}
    {o : FailureOrder}
    (hfailures : d.failures = (earlier ++ act :: later).filterMap Scripting.order?)
    (ho : act.order? = some o) (hc : o.Concerns c) (hfirst : Spares earlier c) :
    d.orderedFailure? c = some o.code := by
  rw [orderedFailure?, hfailures, List.filterMap_append, List.filterMap_cons_some ho,
    List.find?_append, find?_matches_of_spares hfirst, Option.none_or, List.find?_cons,
    (o.matches_iff c).mpr hc]
  rfl

/-! ## Calls that orders are about -/

/-- What the acts of scripting of a run order is what a call is answered with. -/
theorem step_of_ordered {devices : List Device} {ops : List Operation} {code : Status}
    (hd : d = (ofDevices devices).run ops) (h : Ordered (Operation.standing ops) c code) :
    d.step c = ⟨d.logged c, ⟨code, none⟩, []⟩ := by
  have hfailures : d.failures = (Operation.standing ops).filterMap Scripting.order? :=
    hd ▸ failures_run devices ops
  cases h with
  | fail hacts ho hc hfirst =>
    exact step_of_order (orderedFailure?_of_first (hacts ▸ hfailures) ho hc hfirst)
  | @failOpen earlier later index code hspared hc hacts hlast =>
    subst hc
    have hgrant : d.orderedFailure? (.open index) = none :=
      orderedFailure?_of_spares hfailures hspared
    -- the last order for the device is the one that is found first from the end
    have hlater : later.reverse.findSome? (Scripting.openOrder? index) = none := by
      refine List.findSome?_eq_none_iff.mpr fun act hact => ?_
      cases act with
      | failOpen i code' =>
        refine if_neg fun hi => ?_
        subst hi
        exact hlast code' (List.mem_reverse.mp hact)
      | _ => rfl
    have hfound : Entries.get? (d.logged (.open index)).openFailures index = some code := by
      show Entries.get? d.openFailures index = some code
      rw [hd, get?_openFailures_run, hacts, List.reverse_append, List.reverse_cons,
        List.append_assoc, List.findSome?_append, hlater, Option.none_or]
      simp [Scripting.openOrder?]
    have hattempt : (d.logged (.open index)).attempt (.open index) = .error code := by
      show (d.logged (.open index)).openDevice index = _
      unfold openDevice
      rw [hfound]
    exact step_of_failedAttempt hgrant hattempt

/-- A call that is ordered nothing is spared, and so is the device that it is to open. -/
theorem unordered_cases {devices : List Device} {ops : List Operation}
    (hd : d = (ofDevices devices).run ops)
    (h : ∀ code, ¬Ordered (Operation.standing ops) c code) :
    Spares (Operation.standing ops) c ∧
      ∀ index, c = .open index → Entries.get? d.openFailures index = none := by
  rcases spares_or_first (Operation.standing ops) c with
    hspared | ⟨earlier, act, later, o, hacts, ho, hc, hfirst⟩
  · refine ⟨hspared, fun index hindex => ?_⟩
    rw [hd, get?_openFailures_run]
    by_contra hsome
    obtain ⟨code, hcode⟩ := Option.ne_none_iff_exists'.mp hsome
    obtain ⟨later, act, earlier, hacts, horder, hlast⟩ := List.findSome?_eq_some_iff.mp hcode
    cases act with
    | failOpen i code' =>
      obtain ⟨rfl, rfl⟩ : i = index ∧ code' = code := by
        simpa [Scripting.openOrder?] using horder
      have hstanding : Operation.standing ops =
          earlier.reverse ++ .failOpen i code' :: later.reverse := by
        have hreversed := congrArg List.reverse hacts
        simpa using hreversed
      refine h code' (.failOpen hspared hindex hstanding fun code'' hmem => ?_)
      have hnone := hlast _ (List.mem_reverse.mp hmem)
      simp [Scripting.openOrder?] at hnone
    | _ => cases horder
  · exact absurd (.fail hacts ho hc hfirst) (h o.code)

/-! ## Calls that no order is about -/

/-- The driver with other orders to fail. -/
def withOrders (d : Driver) (failures : List FailureOrder)
    (openFailures : List (Int32 × Status)) : Driver :=
  { d with failures := failures, openFailures := openFailures }

theorem withOrders_self {failures : List FailureOrder} {openFailures : List (Int32 × Status)}
    (hfailures : d.failures = failures) (hopen : d.openFailures = openFailures) :
    d.withOrders failures openFailures = d := by
  subst hfailures hopen
  rfl

/-- Whatever the orders to fail are, a computation comes to the same up to them. -/
theorem bind_eq_map {α : Type} {x : Except Status α} {f g : α → Except Status Effect}
    {h : Effect → Effect} (hf : ∀ a, f a = (g a).map h) : x >>= f = (x >>= g).map h := by
  cases x with
  | error code => rfl
  | ok a => exact hf a

variable (failures : List FailureOrder) (openFailures : List (Int32 × Status))

theorem serve_withOrders (d : Driver) (handle : Int32) (key : String) (r : Request) :
    (d.withOrders failures openFailures).serve handle key r =
      (d.serve handle key r).map fun e =>
        { e with driver := e.driver.withOrders failures openFailures } := by
  refine bind_eq_map fun p => ?_
  cases r with
  | ask => rfl
  | read reading =>
    refine bind_eq_map fun content => ?_
    cases content.read? reading <;> rfl
  | isIndexAvailable | isIndexImplemented | enumText =>
    exact bind_eq_map fun content => bind_eq_map fun option => rfl
  | text buffer =>
    refine bind_eq_map fun content => ?_
    cases content <;> rfl
  | write w => exact bind_eq_map fun device => rfl
  | command => exact bind_eq_map fun device => rfl
  | subscribe token => exact bind_eq_map fun content => rfl
  | unsubscribe token =>
    show unsubscribe _ handle key token = (unsubscribe d handle key token).map _
    unfold unsubscribe withOrders
    dsimp only
    split <;> rfl

/-- Orders to fail play no part in an attempt, except for what is ordered for the device that is to
    be opened. -/
theorem attempt_withOrders (d : Driver)
    (hopen : ∀ index, c = .open index →
      Entries.get? openFailures index = Entries.get? d.openFailures index) :
    (d.withOrders failures openFailures).attempt c =
      (d.attempt c).map fun e =>
        { e with driver := e.driver.withOrders failures openFailures } := by
  cases c with
  | «open» index =>
    show openDevice _ index = (openDevice d index).map _
    unfold openDevice
    have hsame : Entries.get? (d.withOrders failures openFailures).openFailures index =
        Entries.get? d.openFailures index := hopen index rfl
    rw [hsame]
    cases Entries.get? d.openFailures index with
    | some code => rfl
    | none =>
      unfold withOrders
      dsimp only
      split
      · split <;> rfl
      · rfl
  | close handle =>
    show closeDevice _ handle = (closeDevice d handle).map _
    unfold closeDevice
    have hindex : (d.withOrders failures openFailures).deviceIndex? handle =
        d.deviceIndex? handle := rfl
    rw [hindex]
    cases d.deviceIndex? handle <;> rfl
  | feature handle key r =>
    show request _ handle key r = (request d handle key r).map _
    unfold request
    split
    · split
      · unfold deviceCount
        split <;> rfl
      · exact serve_withOrders failures openFailures d handle key _
    · exact serve_withOrders failures openFailures d handle key _
  | queue handle address size =>
    refine bind_eq_map fun p => ?_
    split <;> rfl
  | wait handle timeout =>
    refine bind_eq_map fun p => ?_
    have hqueue : (d.withOrders failures openFailures).queue handle = d.queue handle := rfl
    rw [hqueue]
    cases (d.queue handle).pop? <;> rfl
  | flush handle => exact bind_eq_map fun p => rfl

/-- A call that orders are not about has the same reply whatever they are, notifies the same
    subscribers and does the same. -/
theorem step_withOrders (hordered : d.orderedFailure? c = none)
    (hordered' : (d.withOrders failures openFailures).orderedFailure? c = none)
    (hopen : ∀ index, c = .open index →
      Entries.get? openFailures index = Entries.get? d.openFailures index) :
    (d.withOrders failures openFailures).step c =
      { d.step c with driver := (d.step c).driver.withOrders failures openFailures } := by
  have hsame : ((d.withOrders failures openFailures).logged c).attempt c =
      ((d.logged c).attempt c).map fun e =>
        { e with driver := e.driver.withOrders failures openFailures } :=
    attempt_withOrders failures openFailures (d.logged c) hopen
  cases hattempt : (d.logged c).attempt c with
  | error code =>
    rw [hattempt] at hsame
    rw [step_of_failedAttempt hordered' hsame, step_of_failedAttempt hordered hattempt]
    rfl
  | ok e =>
    rw [hattempt] at hsame
    rw [step_of_attempt hordered' hsame, step_of_attempt hordered hattempt]

end Driver

end CameraControl
