/-
# Evaluating a condition

Every node of a condition is evaluated, also where the outcome is settled, so
that the trace shows all of them. A node is named by the id of its owner and
the numbers of the branches that lead to it: `id`, `id#0`, `id#0.1`. A leaf
whose path cannot be read is false and leaves an error.

Key definitions: `Evaluation`, `Condition.evaluate`, `Evaluation.results`,
`Evaluation.messages`.
-/
import PageFlow.Condition
import PageFlow.Path.Scope

namespace PageFlow

/-- A path error at a leaf of a condition. -/
structure ClauseError where
  clause : String
  cause : PathError
  deriving DecidableEq

/-- The wording of an error at a leaf. -/
def ClauseError.message (e : ClauseError) : String := e.clause ++ ": " ++ e.cause.message

/-- The value of a condition, and what was met on the way: the value of each
node under its id, and the errors. -/
structure Evaluation where
  value : Bool
  clauses : List (String × Bool)
  errors : List ClauseError

namespace Evaluation

/-- The values of the nodes by id. -/
def results (e : Evaluation) : Dict Bool := Dict.ofList e.clauses

/-- The wordings of the errors. -/
def messages (e : Evaluation) : List String := e.errors.map (·.message)

end Evaluation

/-- The id of a branch of the node `parent`. -/
def childId (parent : String) (index : Nat) : String :=
  parent ++ (if parent.toList.contains '#' then "." else "#") ++ toString index

/-- The value of an operand; a path that leads nowhere gives `null`. -/
def Operand.resolve (scope : Scope) : Operand → Except PathError Json
  | .value v => .ok v
  | .path raw => (Path.parse raw).bind scope.resolve

/-- The value of a comparison. The right operand of `exists` is not looked at. -/
def Comparison.evaluate (scope : Scope) (c : Comparison) : Except PathError Bool := do
  let left ← c.left.resolve scope
  if c.op = .exists then return !left.isNull
  let right ← match c.right with
    | some operand => operand.resolve scope
    | none => .ok .null
  return c.op.holds left right

namespace Condition

mutual

/-- Evaluates the node `id`. -/
def evaluate (scope : Scope) (id : String) : Condition → Evaluation
  | .all parts =>
    let branches := evaluateParts scope id 0 parts
    let value := branches.all (·.value)
    ⟨value, branches.flatMap (·.clauses) ++ [(id, value)], branches.flatMap (·.errors)⟩
  | .any parts =>
    let branches := evaluateParts scope id 0 parts
    let value := branches.any (·.value)
    ⟨value, branches.flatMap (·.clauses) ++ [(id, value)], branches.flatMap (·.errors)⟩
  | .not part =>
    let branch := evaluate scope (childId id 0) part
    ⟨!branch.value, branch.clauses ++ [(id, !branch.value)], branch.errors⟩
  | .compare c =>
    match c.evaluate scope with
    | .ok value => ⟨value, [(id, value)], []⟩
    | .error e => ⟨false, [(id, false)], [⟨id, e⟩]⟩

/-- Evaluates the branches of the node `id`, the first under the number `index`. -/
def evaluateParts (scope : Scope) (id : String) (index : Nat) : List Condition → List Evaluation
  | [] => []
  | part :: rest =>
    evaluate scope (childId id index) part :: evaluateParts scope id (index + 1) rest

end

end Condition
end PageFlow
