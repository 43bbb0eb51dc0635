/-
# The spelling of numbers in rules

Two snapshots of data that are equal by value, where a number may be written in
several ways, are the same to conditions and rules. A condition has one
evaluation on both, with the same clauses and errors. A rule that matches on one
matches on the other, writes alike values or fails alike, and so leaves data
that is equal by value again.

Key definitions: `AlikeState`, `RulesOutcome.Alike`.
Key theorems: `Scope.agree_resolve`, `Condition.evaluate_congr`,
`agree_performAll`, `RulesOutcome.Alike.run`, `RuleSet.apply_of_equal`.
-/
import PageFlow.Proofs.Json.Congruence
import PageFlow.Proofs.Rule.Run
import PageFlow.Proofs.Rule.Document

namespace PageFlow

variable {data data' : Dict Json} {context : Json}

/-! ### Conditions -/

/-- A path stands for alike values in alike data, or fails alike. -/
theorem Scope.agree_resolve (hcontext : context.Ordered)
    (h : Json.Alike (.object data) (.object data')) (path : Path) :
    Agree Json.Alike ((Scope.ofData data context).resolve path)
      ((Scope.ofData data' context).resolve path) := by
  unfold resolve
  split
  · exact .ok h
  · refine Agree.map (r := Option.Rel Json.Alike) ?_ fun _ _ => Json.alike_getD_null
    obtain ⟨raw, root, segments⟩ := path
    unfold lookup
    cases root with
    | data =>
      simp only [ofData]
      split
      · exact .ok .none
      · exact .ok h.at?
    | context => exact .ok (Json.Alike.refl hcontext).at?
    | response => exact .error _

theorem Operand.agree_resolve (hcontext : context.Ordered)
    (h : Json.Alike (.object data) (.object data')) (operand : Operand) :
    Agree Json.Interchangeable (operand.resolve (.ofData data context))
      (operand.resolve (.ofData data' context)) := by
  cases operand with
  | value v => exact .ok (.inl rfl)
  | path raw =>
    simp only [resolve]
    cases Path.parse raw with
    | error e => exact .error e
    | ok path =>
      have hpath := Scope.agree_resolve hcontext h path
      simp only [Except.bind]
      generalize (Scope.ofData data context).resolve path = x at hpath ⊢
      generalize (Scope.ofData data' context).resolve path = y at hpath ⊢
      cases hpath with
      | error e => exact .error e
      | ok hxy => exact .ok (.inr hxy)

theorem Json.Interchangeable.isNull_eq {x y : Json} (h : x.Interchangeable y) :
    x.isNull = y.isNull :=
  h.elim (fun h => by rw [h]) Alike.isNull_eq

theorem Comparison.evaluate_congr (hcontext : context.Ordered)
    (h : Json.Alike (.object data) (.object data')) (c : Comparison) :
    c.evaluate (.ofData data context) = c.evaluate (.ofData data' context) := by
  have hleft := Operand.agree_resolve hcontext h c.left
  unfold evaluate
  generalize c.left.resolve (.ofData data context) = l at hleft ⊢
  generalize c.left.resolve (.ofData data' context) = l' at hleft ⊢
  cases hleft with
  | error e => rfl
  | ok hl =>
    simp only [bind, Except.bind, hl.isNull_eq]
    split
    · rfl
    · cases c.right with
      | none => simp only [c.op.holds_congr hl (.inl rfl)]
      | some operand =>
        have hright := Operand.agree_resolve hcontext h operand
        simp only
        generalize operand.resolve (.ofData data context) = r at hright ⊢
        generalize operand.resolve (.ofData data' context) = r' at hright ⊢
        cases hright with
        | error e => rfl
        | ok hr => simp only [c.op.holds_congr hl hr]

namespace Condition

mutual

/-- A condition has one evaluation on alike data. -/
theorem evaluate_congr (hcontext : context.Ordered)
    (h : Json.Alike (.object data) (.object data')) : ∀ (condition : Condition) (id : String),
      condition.evaluate (.ofData data context) id = condition.evaluate (.ofData data' context) id
  | .all parts, id => by
    simp only [evaluate, evaluateParts_congr hcontext h parts id 0]
  | .any parts, id => by
    simp only [evaluate, evaluateParts_congr hcontext h parts id 0]
  | .not part, id => by
    simp only [evaluate, evaluate_congr hcontext h part (childId id 0)]
  | .compare c, id => by
    simp only [evaluate, c.evaluate_congr hcontext h]

theorem evaluateParts_congr (hcontext : context.Ordered)
    (h : Json.Alike (.object data) (.object data')) :
    ∀ (parts : List Condition) (id : String) (index : Nat),
      evaluateParts (.ofData data context) id index parts =
        evaluateParts (.ofData data' context) id index parts
  | [], _, _ => rfl
  | part :: rest, id, index => by
    simp only [evaluateParts, evaluate_congr hcontext h part (childId id index),
      evaluateParts_congr hcontext h rest id (index + 1)]

end

end Condition

/-! ### Actions -/

/-- Alike data, with the same events. -/
def AlikeState (state state' : Dict Json × List EmittedEvent) : Prop :=
  Json.Alike (.object state.1) (.object state'.1) ∧ state.2 = state'.2

theorem Action.agree_newValue (hcontext : context.Ordered)
    (h : Json.Alike (.object data) (.object data')) {value : Option Json}
    (hvalue : ∀ v ∈ value, v.Ordered) (valueFrom : Option String) :
    Agree Json.Alike (newValue data context value valueFrom)
      (newValue data' context value valueFrom) := by
  cases valueFrom with
  | none =>
    cases value with
    | none => exact .ok Json.alike_null
    | some v => exact .ok (.refl (hvalue v rfl))
  | some raw =>
    simp only [newValue]
    cases Path.parse raw with
    | error e => exact .error e
    | ok path => exact Scope.agree_resolve hcontext h path

theorem Action.agree_perform (hcontext : context.Ordered) (ruleId : String) {action : Action}
    (haction : action.Ordered) {state state' : Dict Json × List EmittedEvent}
    (h : AlikeState state state') :
    Agree AlikeState (action.perform ruleId context state)
      (action.perform ruleId context state') := by
  cases action with
  | emitEvent event payload => exact .ok ⟨h.1, by rw [h.2]⟩
  | setField path value valueFrom =>
    rw [perform_setField, perform_setField]
    cases Path.parseDataTarget path with
    | error e => exact .error e
    | ok target =>
      refine (agree_newValue hcontext h.1 haction valueFrom).bind fun new new' hnew => ?_
      exact (agree_write hnew h.1).map fun d d' hd => ⟨hd, h.2⟩

theorem agree_performAll (hcontext : context.Ordered) (ruleId : String) :
    ∀ {actions : List Action} {state state' : Dict Json × List EmittedEvent},
      (∀ action ∈ actions, action.Ordered) → AlikeState state state' →
        Agree AlikeState (performAll ruleId context actions state)
          (performAll ruleId context actions state')
  | [], _, _, _, h => .ok h
  | action :: rest, state, state', hactions, h => by
    rw [performAll_cons, performAll_cons]
    have hfirst := Action.agree_perform hcontext ruleId (hactions action List.mem_cons_self) h
    refine hfirst.bind fun next next' hnext => ?_
    exact agree_performAll hcontext ruleId
      (fun a ha => hactions a (List.mem_cons_of_mem _ ha)) hnext

/-! ### Rules -/

/-- Outcomes with alike data that are the same in everything else. -/
structure RulesOutcome.Alike (o o' : RulesOutcome) : Prop where
  data : Json.Alike (.object o.data) (.object o'.data)
  considered : o.considered = o'.considered
  matched : o.matched = o'.matched
  results : o.results = o'.results
  events : o.events = o'.events
  faults : o.faults = o'.faults

/-- One rule leaves alike outcomes of alike outcomes. -/
theorem RulesOutcome.Alike.run {before before' : RulesOutcome} (h : before.Alike before')
    (hcontext : context.Ordered) {rule : Rule} (hrule : ∀ action ∈ rule.actions, action.Ordered) :
    (rule.run context before).Alike (rule.run context before') := by
  obtain ⟨d, considered, matched, results, events, faults⟩ := before
  obtain ⟨d', _, _, _, _, _⟩ := before'
  obtain ⟨hdata, rfl, rfl, rfl, rfl, rfl⟩ := h
  have hperform : Agree AlikeState (performAll rule.ruleId context rule.actions (d, []))
      (performAll rule.ruleId context rule.actions (d', [])) :=
    agree_performAll hcontext rule.ruleId hrule ⟨hdata, rfl⟩
  unfold Rule.run
  simp only [rule.condition.evaluate_congr hcontext hdata rule.ruleId]
  split
  · exact ⟨hdata, rfl, rfl, rfl, rfl, rfl⟩
  · split
    · exact ⟨hdata, rfl, rfl, rfl, rfl, rfl⟩
    · generalize performAll rule.ruleId context rule.actions (d, []) = x at hperform ⊢
      generalize performAll rule.ruleId context rule.actions (d', []) = y at hperform ⊢
      cases hperform with
      | error e => exact ⟨hdata, rfl, rfl, rfl, rfl, rfl⟩
      | ok hstate => exact ⟨hstate.1, rfl, rfl, rfl, by simp only [hstate.2], rfl⟩

theorem RulesOutcome.Alike.foldl_run (hcontext : context.Ordered) :
    ∀ {rules : List Rule} {before before' : RulesOutcome}, before.Alike before' →
      (∀ rule ∈ rules, ∀ action ∈ rule.actions, action.Ordered) →
        (rules.foldl (Rule.run context) before).Alike (rules.foldl (Rule.run context) before')
  | [], _, _, h, _ => h
  | rule :: rest, _, _, h, hrules => by
    rw [List.foldl_cons, List.foldl_cons]
    exact foldl_run hcontext (h.run hcontext (hrules rule List.mem_cons_self))
      fun r hr => hrules r (List.mem_cons_of_mem _ hr)

theorem RuleSet.alike_apply {set : RuleSet} (hset : set.Ordered)
    (h : Json.Alike (.object data) (.object data')) (context : Context) :
    (set.apply data context).Alike (set.apply data' context) :=
  RulesOutcome.Alike.foldl_run (Json.ordered_canonical _) ⟨h, rfl, rfl, rfl, rfl, rfl⟩
    fun rule hrule => hset rule (mem_inOrder.mp hrule).1

/-- **The spelling of numbers never changes what rules do.** Of two snapshots that are equal by
value, however the numbers in them are written and at whatever depth they stand, a condition
under any id has the same value, clauses and errors. A set of rules considers and matches the
same rules, with the same results, events and errors, and leaves data equal by value. The
values are ordered, as all values are that are read, and so are those that the rules write. -/
theorem RuleSet.apply_of_equal {data data' : Dict Json} (hdata : (Json.object data).Ordered)
    (hdata' : (Json.object data').Ordered)
    (hequal : (Json.object data).equal (.object data') = true) (context : Context) :
    (∀ (condition : Condition) (id : String),
      condition.evaluate (.ofData data context.value) id =
        condition.evaluate (.ofData data' context.value) id) ∧
    ∀ set : RuleSet, set.Ordered →
      (set.apply data context).considered = (set.apply data' context).considered ∧
      (set.apply data context).matched = (set.apply data' context).matched ∧
      (set.apply data context).results = (set.apply data' context).results ∧
      (set.apply data context).events = (set.apply data' context).events ∧
      (set.apply data context).faults = (set.apply data' context).faults ∧
      (Json.object (set.apply data context).data).equal
        (.object (set.apply data' context).data) = true := by
  have halike : Json.Alike (.object data) (.object data') := ⟨hdata, hdata', hequal⟩
  refine ⟨fun condition id => ?_, fun set hset => ?_⟩
  · exact condition.evaluate_congr (Json.ordered_canonical _) halike id
  · obtain ⟨hdata, hconsidered, hmatched, hresults, hevents, hfaults⟩ :=
      alike_apply hset halike context
    exact ⟨hconsidered, hmatched, hresults, hevents, hfaults, hdata.equal⟩

/-- The number ten, written as an integer. -/
def Number.ten : Number := .integer 10 (by decide)

/-- A basket with a total. -/
def RuleSet.basket (total : Number) : Dict Json := [("basket", .object [("total", .number total)])]

/-- A rule that notes the total of a basket of at least ten. -/
def RuleSet.sending : RuleSet :=
  ⟨"1", [⟨"free", "", .zero false, none,
    .compare ⟨.gte, .path "data.basket.total", some (.value (.number .ten))⟩,
    [.setField "data.noted" none (some "data.basket.total")]⟩]⟩

/-- A total of `10` and one of `10.0` are sent alike, both of them free. -/
theorem RuleSet.apply_of_equal_basket :
    (Json.object (basket .ten)).equal (.object (basket (.float Number.ten.toBinary64))) = true ∧
      (sending.apply (basket .ten) .empty).matched = ["free"] ∧
      (sending.apply (basket .ten) .empty).matched =
        (sending.apply (basket (.float Number.ten.toBinary64)) .empty).matched ∧
      (Json.object (sending.apply (basket .ten) .empty).data).equal
        (.object (sending.apply (basket (.float Number.ten.toBinary64)) .empty).data) = true := by
  have hordered : ∀ total, (Json.object (basket total)).Ordered := fun total => by
    simp [basket, Json.Ordered, Json.OrderedFields, Dict.Sorted]
  have hsending : sending.Ordered := by simp [Ordered, sending, Action.Ordered]
  have hbasket : (Json.object (basket .ten)).equal
      (.object (basket (.float Number.ten.toBinary64))) = true := by decide +kernel
  obtain ⟨-, hmatched, -, -, -, hequal⟩ :=
    (apply_of_equal (hordered _) (hordered _) hbasket .empty).2 sending hsending
  exact ⟨hbasket, by decide +kernel, hmatched, hequal⟩

end PageFlow
