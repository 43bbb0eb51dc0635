/-
# Applying rules

The rules in scope run one after the other, those of higher priority first, and
each sees the data that the ones before it left. A rule whose condition holds
carries out all of its actions, or none of them if one fails. A failing rule
leaves an error and stops nothing.

Key definitions: `Binary64.below`, `RuleSet.inOrder`, `RuleFault`, `RulesOutcome`,
`Rule.run`, `RuleSet.apply`, `RulesOutcome.trace`.
-/
import PageFlow.Condition.Evaluation
import PageFlow.Path.Write
import PageFlow.Rule
import PageFlow.Trace

namespace PageFlow

/-- The order of priorities: by value, and minus zero below zero. -/
def Binary64.below (x y : Binary64) : Bool :=
  decide (x.units < y.units) || (x.isZero && y.isZero && x.negative && !y.negative)

/-- The rules with one more put in front of those it does not stand below. -/
def insertByPriority (rule : Rule) : List Rule → List Rule
  | [] => [rule]
  | next :: rest =>
    if rule.priority.below next.priority then next :: insertByPriority rule rest
    else rule :: next :: rest

/-- The rules by descending priority; rules of one priority keep their order. -/
def byPriority (rules : List Rule) : List Rule := rules.foldr insertByPriority []

/-- The rules for a context in the order in which they run. -/
def RuleSet.inOrder (set : RuleSet) (context : Context) : List Rule :=
  byPriority (set.rules.filter fun rule => rule.inScope context)

/-- Whether an id has one of the characters that separate the parts of clause
ids. A rule with such an id could take the clause ids of another rule. -/
def isReservedId (id : String) : Bool := id.toList.any fun c => c == '#' || c == '.'

/-- Why a rule failed. -/
inductive RuleFault where
  | reservedId (id : String)
  | clause (error : ClauseError)
  | action (error : PathError)
  deriving DecidableEq

/-- The wording of a rule fault. -/
def RuleFault.message : RuleFault → String
  | .reservedId id => "ruleId '" ++ id ++ "' must not contain '#' or '.'"
  | .clause e => e.message
  | .action e => e.message

/-- The data and what the rules did to it. -/
structure RulesOutcome where
  data : Dict Json
  considered : List String
  matched : List String
  results : Dict Bool
  events : List EmittedEvent
  faults : List (String × RuleFault)

/-- The outcome before any rule has run. -/
def RulesOutcome.start (data : Dict Json) : RulesOutcome := ⟨data, [], [], [], [], []⟩

/-- Carries out an action on the data and the events reported so far. -/
def Action.perform (ruleId : String) (context : Json) (state : Dict Json × List EmittedEvent) :
    Action → Except PathError (Dict Json × List EmittedEvent)
  | .setField path value valueFrom => do
    let target ← Path.parseDataTarget path
    let new ← match valueFrom with
      | some raw => (Path.parse raw).bind (Scope.ofData state.1 context).resolve
      | none => .ok (value.getD .null)
    let data ← write target new state.1
    return (data, state.2)
  | .emitEvent event payload => .ok (state.1, state.2 ++ [⟨ruleId, event, payload⟩])

/-- Carries out actions in order, up to the first that fails. -/
def performAll (ruleId : String) (context : Json) :
    List Action → Dict Json × List EmittedEvent →
      Except PathError (Dict Json × List EmittedEvent)
  | [], state => .ok state
  | action :: rest, state =>
    match action.perform ruleId context state with
    | .error e => .error e
    | .ok next => performAll ruleId context rest next

/-- Runs one rule on what the rules before it left. -/
def Rule.run (context : Json) (before : RulesOutcome) (rule : Rule) : RulesOutcome :=
  let considered := before.considered ++ [rule.ruleId]
  if isReservedId rule.ruleId then
    { before with
      considered
      faults := before.faults ++ [(rule.ruleId, .reservedId rule.ruleId)] }
  else
    let scope := Scope.ofData before.data context
    let evaluation := rule.condition.evaluate scope rule.ruleId
    let results := before.results.insertAll evaluation.results
    let faults := before.faults ++ evaluation.errors.map fun e => (rule.ruleId, .clause e)
    if !evaluation.value then { before with considered, results, faults }
    else
      let matched := before.matched ++ [rule.ruleId]
      match performAll rule.ruleId context rule.actions (before.data, []) with
      | .ok (data, events) =>
        { data, considered, matched, results, events := before.events ++ events, faults }
      | .error e =>
        { before with
          considered, matched, results
          faults := faults ++ [(rule.ruleId, .action e)] }

/-- Runs the rules for a context on some data. -/
def RuleSet.apply (set : RuleSet) (data : Dict Json) (context : Context) : RulesOutcome :=
  (set.inOrder context).foldl (Rule.run context.value) (.start data)

/-- The trace of what the rules did. -/
def RulesOutcome.trace (o : RulesOutcome) : RulesTrace :=
  { rulesConsidered := o.considered
    rulesMatched := o.matched
    conditionResults := o.results
    events := o.events
    errors := o.faults.map fun f => ⟨f.1, f.2.message⟩ }

end PageFlow
