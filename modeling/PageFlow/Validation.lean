/-
# Checking documents before use

The checks find what would go wrong in every session: states, calls and paths
that do not exist, ids that clash, expressions that cannot be read. All
problems are reported at once, in the order of the documents.

Key definitions: `Owner`, `Problem`, `Flow.problems`, `RuleSet.problems`,
`Bundle.problems`, `reportProblems`.
-/
import PageFlow.Bundle
import PageFlow.Mapping.Reference
import PageFlow.Rule.Application

namespace PageFlow

/-- The part of a document that reads a path. -/
inductive Owner where
  | transition (event state : String)
  | rule (id : String)
  | action (rule : String) (index : Nat)
  deriving DecidableEq

/-- How a problem names its owner. -/
def Owner.label : Owner → String
  | .transition event state => "flow: transition '" ++ event ++ "' from '" ++ state ++ "'"
  | .rule id => "rule '" ++ id ++ "'"
  | .action id index => "rule '" ++ id ++ "' action " ++ toString index

/-- An entry of a mapping. -/
structure EntryPlace where
  api : String
  area : String
  key : String
  deriving DecidableEq

/-- How a problem names an entry. -/
def EntryPlace.label (p : EntryPlace) : String :=
  "api '" ++ p.api ++ "' " ++ p.area ++ "." ++ p.key

/-- What is wrong with the documents of an application. -/
inductive Problem where
  | unknownInitialState (state : String)
  | unknownTarget (event state target : String)
  | emptyRuleId
  | duplicateRuleId (id : String)
  | reservedRuleId (id : String)
  | badPath (owner : Owner) (error : PathError)
  | responsePath (owner : Owner) (path : String)
  | duplicateApiId (id : String)
  | emptyEndpoint (api : String)
  | badTarget (place : EntryPlace) (error : PathError)
  | badReference (place : EntryPlace) (error : MappingError)
  | responseReference (place : EntryPlace) (reference : String)
  | badTransform (place : EntryPlace) (error : TransformError)
  | unknownApi (event state api : String)
  deriving DecidableEq

/-- The wording of a problem. -/
def Problem.message : Problem → String
  | .unknownInitialState state =>
    "flow: initialState '" ++ state ++ "' is not a declared state"
  | .unknownTarget event state target =>
    (Owner.transition event state).label ++ " targets unknown state '" ++ target ++ "'"
  | .emptyRuleId => "rule: empty ruleId"
  | .duplicateRuleId id => (Owner.rule id).label ++ ": duplicate ruleId"
  | .reservedRuleId id => "rule: " ++ (RuleFault.reservedId id).message
  | .badPath owner e => owner.label ++ ": " ++ e.message
  | .responsePath owner path =>
    owner.label ++ ": path '" ++ path ++
      "' refers to response, which is only available in response mapping"
  | .duplicateApiId id => "api '" ++ id ++ "': duplicate apiId"
  | .emptyEndpoint api => "api '" ++ api ++ "': empty endpoint"
  | .badTarget place e => place.label ++ ": " ++ e.message
  | .badReference place e => place.label ++ ": " ++ e.message
  | .responseReference place reference =>
    place.label ++ ": '" ++ reference ++
      "' refers to response, which is not available when building the request"
  | .badTransform place e => place.label ++ ": " ++ e.message
  | .unknownApi event state api =>
    (Owner.transition event state).label ++ " calls unknown apiId '" ++ api ++ "'"

/-- Checks a path that is read before there is a response. -/
def readProblems (owner : Owner) (raw : String) : List Problem :=
  match Path.parse raw with
  | .error e => [.badPath owner e]
  | .ok path => if path.root = .response then [.responsePath owner raw] else []

/-- Checks an operand. -/
def Operand.problems (owner : Owner) : Operand → List Problem
  | .path raw => readProblems owner raw
  | .value _ => []

/-- Checks both operands of a comparison. -/
def Comparison.problems (owner : Owner) (c : Comparison) : List Problem :=
  c.left.problems owner ++ (c.right.map (·.problems owner)).getD []

namespace Condition

mutual

/-- Checks all comparisons of a condition. -/
def problems (owner : Owner) : Condition → List Problem
  | .all parts => problemsOfList owner parts
  | .any parts => problemsOfList owner parts
  | .not part => problems owner part
  | .compare c => c.problems owner

/-- Checks all comparisons of some conditions. -/
def problemsOfList (owner : Owner) : List Condition → List Problem
  | [] => []
  | c :: rest => problems owner c ++ problemsOfList owner rest

end

end Condition

/-- All transitions of a flow with their states and events. -/
def Flow.transitions (flow : Flow) : List (String × String × Transition) :=
  flow.states.flatMap fun s => s.2.transitions.map fun t => (s.1, t.1, t.2)

/-- Checks a transition. -/
def Flow.transitionProblems (flow : Flow) (state event : String) (t : Transition) :
    List Problem :=
  (if (flow.state? t.target).isNone then [.unknownTarget event state t.target] else []) ++
    (t.guard.map (·.problems (.transition event state))).getD []

/-- Checks a flow. -/
def Flow.problems (flow : Flow) : List Problem :=
  (if (flow.state? flow.initialState).isNone then [.unknownInitialState flow.initialState]
    else []) ++
    flow.transitions.flatMap fun t => flow.transitionProblems t.1 t.2.1 t.2.2

/-- Checks an action. -/
def Action.problems (owner : Owner) : Action → List Problem
  | .setField path _ valueFrom =>
    (match Path.parseDataTarget path with
      | .error e => [.badPath owner e]
      | .ok _ => []) ++ (valueFrom.map (readProblems owner)).getD []
  | .emitEvent _ _ => []

/-- Checks actions, the first under the number `index`. -/
def actionProblems (ruleId : String) (index : Nat) : List Action → List Problem
  | [] => []
  | action :: rest =>
    action.problems (.action ruleId index) ++ actionProblems ruleId (index + 1) rest

/-- Checks an id against the ids before it. -/
def ruleIdProblems (seen : List String) (id : String) : List Problem :=
  (if id = "" then [.emptyRuleId]
    else if seen.contains id then [.duplicateRuleId id] else []) ++
    if isReservedId id then [.reservedRuleId id] else []

/-- Checks rules; `seen` are the ids of the rules before them. -/
def ruleProblems (seen : List String) : List Rule → List Problem
  | [] => []
  | rule :: rest =>
    ruleIdProblems seen rule.ruleId ++ rule.condition.problems (.rule rule.ruleId) ++
      actionProblems rule.ruleId 0 rule.actions ++ ruleProblems (rule.ruleId :: seen) rest

/-- Checks a rule set. -/
def RuleSet.problems (set : RuleSet) : List Problem := ruleProblems [] set.rules

/-- Checks the reference and the transform of an entry. -/
def MappingEntry.problems (place : EntryPlace) (responseAllowed : Bool) (entry : MappingEntry) :
    List Problem :=
  (match Reference.parse entry.source with
    | .error e => [.badReference place e]
    | .ok (.path path) =>
      if path.root = .response ∧ responseAllowed = false then
        [.responseReference place entry.source]
      else []
    | .ok (.literal _) => []) ++
    match entry.transform with
    | none => []
    | some expression =>
      match Transform.compile expression with
      | .error e => [.badTransform place e]
      | .ok _ => []

/-- Checks the entries of a section of a request. -/
def requestProblems (api area : String) (entries : Dict MappingEntry) : List Problem :=
  entries.flatMap fun e => e.2.problems ⟨api, area, e.1⟩ false

/-- Checks the entries of a section of a response, and their targets. -/
def responseProblems (api area : String) (parse : String → Except PathError Path)
    (entries : Dict MappingEntry) : List Problem :=
  entries.flatMap fun e =>
    (match parse e.1 with
      | .error error => [.badTarget ⟨api, area, e.1⟩ error]
      | .ok _ => []) ++ e.2.problems ⟨api, area, e.1⟩ true

/-- Checks a mapping. -/
def ApiMapping.problems (m : ApiMapping) : List Problem :=
  (if m.endpoint = "" then [.emptyEndpoint m.apiId] else []) ++
    requestProblems m.apiId "requestMap.query" m.requestMap.query ++
    requestProblems m.apiId "requestMap.headers" m.requestMap.headers ++
    requestProblems m.apiId "requestMap.body" m.requestMap.body ++
    responseProblems m.apiId "responseMap.data" Path.parseDataTarget m.responseMap.data ++
    responseProblems m.apiId "responseMap.context" Path.parseContextTarget m.responseMap.context

/-- Checks mappings; `seen` are the ids of the mappings before them. -/
def mappingProblems (seen : List String) : List ApiMapping → List Problem
  | [] => []
  | m :: rest =>
    (if seen.contains m.apiId then [.duplicateApiId m.apiId] else []) ++ m.problems ++
      mappingProblems (m.apiId :: seen) rest

/-- Checks that the call of a transition is mapped. -/
def callProblems (known : List String) (state event : String) (t : Transition) : List Problem :=
  match t.apiCall with
  | none => []
  | some call => if known.contains call.apiId then [] else [.unknownApi event state call.apiId]

/-- Checks a bundle. -/
def Bundle.problems (bundle : Bundle) : List Problem :=
  bundle.flow.problems ++ bundle.rules.problems ++ mappingProblems [] bundle.apiMappings ++
    bundle.flow.transitions.flatMap fun t =>
      callProblems (bundle.apiMappings.map (·.apiId)) t.1 t.2.1 t.2.2

/-- The report of problems that were found. -/
def reportProblems (problems : List Problem) : String :=
  toString problems.length ++ (if problems.length = 1 then " problem" else " problems") ++
    " found: " ++ "; ".intercalate (problems.map (·.message))

end PageFlow
