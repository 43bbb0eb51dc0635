/-
# The exits of actions and rules

An action that writes a field reads its target, then its value, then writes; it
fails with the first error of the three. A list of actions is carried out one
after the other, up to the first that fails.

A rule that is run is skipped for its id, does not match, carries out all of
its actions, or fails in one of them. Each exit fixes the whole outcome; only
the third changes the data and the events. The rules that are run are the rules
in scope, in another order.

Key definitions: `Action.newValue`, `Rule.evaluation`, `Rule.Runs`.
Key theorems: `Action.perform_setField`, `performAll_cons`, `performAll_eq_foldlM`,
`Rule.runs`, `perm_byPriority`, `RuleSet.mem_inOrder`.
-/
import PageFlow.Rule.Application

namespace PageFlow

/-! ### Actions -/

/-- The value that an action writes: the one a path leads to, or else the one given. -/
def Action.newValue (data : Dict Json) (context : Json) (value : Option Json) :
    Option String → Except PathError Json
  | some raw => (Path.parse raw).bind (Scope.ofData data context).resolve
  | none => .ok (value.getD .null)

theorem Action.perform_setField (ruleId : String) (context : Json)
    (state : Dict Json × List EmittedEvent) (path : String) (value : Option Json)
    (valueFrom : Option String) :
    (setField path value valueFrom).perform ruleId context state =
      (Path.parseDataTarget path).bind fun target =>
        (newValue state.1 context value valueFrom).bind fun new =>
          (write target new state.1).map fun data => (data, state.2) := by
  unfold perform
  simp only [bind]
  cases Path.parseDataTarget path with
  | error e => rfl
  | ok target =>
    cases valueFrom with
    | none =>
      simp only [Except.bind, newValue]
      cases write target (value.getD .null) state.1 <;> rfl
    | some raw =>
      simp only [Except.bind, newValue]
      cases Path.parse raw with
      | error e => rfl
      | ok source =>
        cases (Scope.ofData state.1 context).resolve source with
        | error e => rfl
        | ok new =>
          simp only []
          cases write target new state.1 <;> rfl

@[simp] theorem Action.perform_emitEvent (ruleId : String) (context : Json)
    (state : Dict Json × List EmittedEvent) (event : String) (payload : Option Json) :
    (emitEvent event payload).perform ruleId context state =
      .ok (state.1, state.2 ++ [⟨ruleId, event, payload⟩]) := rfl

@[simp] theorem performAll_nil (ruleId : String) (context : Json)
    (state : Dict Json × List EmittedEvent) : performAll ruleId context [] state = .ok state := rfl

theorem performAll_cons (ruleId : String) (context : Json) (action : Action) (rest : List Action)
    (state : Dict Json × List EmittedEvent) :
    performAll ruleId context (action :: rest) state =
      (action.perform ruleId context state).bind (performAll ruleId context rest) := by
  rw [performAll]
  cases action.perform ruleId context state <;> rfl

/-- A list of actions is the fold of its actions. -/
theorem performAll_eq_foldlM (ruleId : String) (context : Json) :
    ∀ (actions : List Action) (state : Dict Json × List EmittedEvent),
      performAll ruleId context actions state =
        actions.foldlM (Action.perform ruleId context) state
  | [], _ => rfl
  | action :: rest, state => by
    rw [performAll_cons, List.foldlM_cons]
    exact congrArg (Except.bind _) (funext (performAll_eq_foldlM ruleId context rest))

/-! ### Rules -/

/-- The evaluation of a rule's condition on some data. -/
def Rule.evaluation (rule : Rule) (data : Dict Json) (context : Json) : Evaluation :=
  rule.condition.evaluate (.ofData data context) rule.ruleId

/-- What a rule that is run leaves. -/
inductive Rule.Runs (context : Json) (before : RulesOutcome) (rule : Rule) : RulesOutcome → Prop
  /-- Its id is reserved. -/
  | reserved (hid : isReservedId rule.ruleId = true) :
    Runs context before rule
      { before with
        considered := before.considered ++ [rule.ruleId]
        faults := before.faults ++ [(rule.ruleId, .reservedId rule.ruleId)] }
  /-- Its condition does not hold. -/
  | unmatched (hid : isReservedId rule.ruleId = false)
      (hvalue : (rule.evaluation before.data context).value = false) :
    Runs context before rule
      { before with
        considered := before.considered ++ [rule.ruleId]
        results := before.results.insertAll (rule.evaluation before.data context).results
        faults := before.faults ++
          (rule.evaluation before.data context).errors.map fun e => (rule.ruleId, .clause e) }
  /-- All of its actions are carried out. -/
  | applied (hid : isReservedId rule.ruleId = false)
      (hvalue : (rule.evaluation before.data context).value = true)
      (data : Dict Json) (events : List EmittedEvent)
      (hperform : performAll rule.ruleId context rule.actions (before.data, []) =
        .ok (data, events)) :
    Runs context before rule
      { data
        considered := before.considered ++ [rule.ruleId]
        matched := before.matched ++ [rule.ruleId]
        results := before.results.insertAll (rule.evaluation before.data context).results
        events := before.events ++ events
        faults := before.faults ++
          (rule.evaluation before.data context).errors.map fun e => (rule.ruleId, .clause e) }
  /-- One of its actions fails. -/
  | failed (hid : isReservedId rule.ruleId = false)
      (hvalue : (rule.evaluation before.data context).value = true) (e : PathError)
      (hperform : performAll rule.ruleId context rule.actions (before.data, []) = .error e) :
    Runs context before rule
      { before with
        considered := before.considered ++ [rule.ruleId]
        matched := before.matched ++ [rule.ruleId]
        results := before.results.insertAll (rule.evaluation before.data context).results
        faults := before.faults ++
          ((rule.evaluation before.data context).errors.map fun e => (rule.ruleId, .clause e)) ++
            [(rule.ruleId, .action e)] }

theorem Rule.runs (context : Json) (before : RulesOutcome) (rule : Rule) :
    Runs context before rule (rule.run context before) := by
  unfold run
  dsimp only
  split
  · rename_i hid
    exact .reserved hid
  · rename_i hid
    have hid : isReservedId rule.ruleId = false := by simpa using hid
    split
    · rename_i hvalue
      exact .unmatched hid (by simpa [evaluation] using hvalue)
    · rename_i hvalue
      have hvalue : (rule.evaluation before.data context).value = true := by
        simpa [evaluation] using hvalue
      split
      · rename_i data events hperform
        exact .applied hid hvalue data events hperform
      · rename_i e hperform
        exact .failed hid hvalue e hperform

/-! ### The rules that are run -/

theorem perm_insertByPriority (rule : Rule) :
    ∀ rules : List Rule, (insertByPriority rule rules).Perm (rule :: rules)
  | [] => .refl _
  | next :: rest => by
    unfold insertByPriority
    split
    · exact ((perm_insertByPriority rule rest).cons next).trans (.swap rule next rest)
    · exact .refl _

theorem perm_byPriority : ∀ rules : List Rule, (byPriority rules).Perm rules
  | [] => .refl _
  | rule :: rest =>
    (perm_insertByPriority rule (byPriority rest)).trans ((perm_byPriority rest).cons rule)

theorem RuleSet.mem_inOrder {set : RuleSet} {context : Context} {rule : Rule} :
    rule ∈ set.inOrder context ↔ rule ∈ set.rules ∧ rule.inScope context = true := by
  unfold inOrder
  rw [(perm_byPriority _).mem_iff, List.mem_filter]

end PageFlow
