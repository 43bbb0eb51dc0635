/-
# The errors of a condition

Without a response the errors of an evaluation can be told from the condition alone. A leaf
leaves one if a path that it looks at cannot be read: it is malformed, or starts at the
response. What the paths lead to does not matter. The check of a condition looks at more paths
than its evaluation does, so it has a problem for each error, and may have others.

Key definitions: `Path.fault?`, `Comparison.fault?`, `Problem.Foretells`.
Key theorems: `Comparison.error?_evaluate`, `Condition.collects_errors`,
`Condition.mem_errors_evaluate`, `Condition.foretold_errors`, `Condition.errors_static`.
-/
import PageFlow.Proofs.Condition.Clauses
import PageFlow.Proofs.Outcome
import PageFlow.Proofs.Path.Grammar
import PageFlow.Validation

namespace PageFlow

/-! ### Leaves -/

/-- Why a path cannot be read where there is no response, if it cannot. -/
def Path.fault? (raw : String) : Option PathError :=
  match Path.parse raw with
  | .error e => some e
  | .ok path => if path.root = .response then some (.rootUnavailable raw .response) else none

/-- Why an operand cannot be read where there is no response, if it cannot. -/
def Operand.fault? : Operand → Option PathError
  | .path raw => Path.fault? raw
  | .value _ => none

/-- Why a comparison cannot be evaluated where there is no response, if it cannot. The left
operand is read first, and the right one of `exists` is not. -/
def Comparison.fault? (c : Comparison) : Option PathError :=
  c.left.fault?.or (if c.op = .exists then none else c.right.bind Operand.fault?)

variable (data : Dict Json) (context : Json)

theorem Path.error?_resolve (raw : String) :
    error? ((parse raw).bind (Scope.ofData data context).resolve) = fault? raw := by
  unfold fault?
  cases hparse : parse raw with
  | error e => rfl
  | ok path =>
    obtain ⟨rfl, -⟩ := parse_eq_ok_iff.mp hparse
    by_cases hroot : path.root = .response
    · simp [Except.bind, Scope.resolve, Scope.lookup, hroot, Scope.ofData, Except.map, error?]
    · obtain ⟨value, hvalue⟩ := Scope.resolve_ofData data context hroot
      simp [Except.bind, hvalue, hroot, error?]

theorem Operand.error?_resolve (operand : Operand) :
    error? (operand.resolve (.ofData data context)) = operand.fault? := by
  cases operand with
  | path raw => exact Path.error?_resolve data context raw
  | value v => rfl

/-- Whether a comparison can be evaluated does not depend on the data. -/
theorem Comparison.error?_evaluate (c : Comparison) :
    error? (c.evaluate (.ofData data context)) = c.fault? := by
  obtain ⟨op, left, right⟩ := c
  rw [evaluate, fault?, ← Operand.error?_resolve data context]
  cases left.resolve (.ofData data context) with
  | error e => rfl
  | ok x =>
    dsimp only [bind, Except.bind, error?, Option.none_or]
    -- The left operand can be read, so it depends on whether the right one is looked at.
    by_cases hop : op = .exists
    · rw [if_pos hop, if_pos hop]
      rfl
    · rw [if_neg hop, if_neg hop]
      cases right with
      | none => rfl
      | some operand =>
        rw [Option.bind_some, ← Operand.error?_resolve data context]
        dsimp only
        cases operand.resolve (.ofData data context) <;> rfl

namespace Condition

/-! ### Trees -/

/-- The error that a node leaves itself. -/
def ownErrors : Condition → String → List ClauseError
  | .compare leaf, id => (leaf.fault?.map (ClauseError.mk id)).toList
  | _, _ => []

theorem mem_ownErrors {c : Condition} {id : String} {error : ClauseError} :
    error ∈ c.ownErrors id ↔
      ∃ leaf, c = .compare leaf ∧ leaf.fault? = some error.cause ∧ error.clause = id := by
  obtain ⟨clause, cause⟩ := error
  cases c with
  | compare leaf => simp [ownErrors, and_comm, eq_comm (a := id)]
  | all parts => simp [ownErrors]
  | any parts => simp [ownErrors]
  | not part => simp [ownErrors]

/-- A node leaves the errors of its branches, and then its own. -/
theorem collects_errors : Collects (.ofData data context) (·.errors) ownErrors := by
  intro c id
  dsimp only
  cases c with
  | all parts => simp only [evaluate, branches, ownErrors, List.append_nil]
  | any parts => simp only [evaluate, branches, ownErrors, List.append_nil]
  | not part => simp only [evaluate, branches, evaluateParts, ownErrors, List.flatMap_cons,
      List.flatMap_nil, List.append_nil]
  | compare leaf =>
    rw [evaluate, ownErrors, ← leaf.error?_evaluate data context]
    cases leaf.evaluate (.ofData data context) <;> rfl

/-- An evaluation has an error for each leaf below the node that looks at a path that cannot be
read, and no other. -/
theorem mem_errors_evaluate (c : Condition) (id : String) {error : ClauseError} :
    error ∈ (c.evaluate (.ofData data context) id).errors ↔ ∃ place leaf,
      c.node? place = some (.compare leaf) ∧ leaf.fault? = some error.cause ∧
        error.clause = nodeId id place := by
  rw [(collects_errors data context).mem_iff]
  constructor
  · rintro ⟨place, node, hnode, herror⟩
    obtain ⟨leaf, rfl, hfault, hclause⟩ := mem_ownErrors.mp herror
    exact ⟨place, leaf, hnode, hfault, hclause⟩
  · rintro ⟨place, leaf, hnode, hfault, hclause⟩
    exact ⟨place, .compare leaf, hnode, mem_ownErrors.mpr ⟨leaf, rfl, hfault, hclause⟩⟩

/-- A leaf leaves no second error. -/
theorem nodup_clause_errors (c : Condition) (id : String) :
    ((c.evaluate (.ofData data context) id).errors.map (·.clause)).Nodup := by
  refine Collects.nodup_map (fun c id => ?_) (collects_errors data context) c id
  cases c with
  | compare leaf => cases hfault : leaf.fault? <;> simp [ownErrors, hfault]
  | all parts => exact List.nil_sublist _
  | any parts => exact List.nil_sublist _
  | not part => exact List.nil_sublist _

end Condition

/-! ### The check -/

/-- Whether a problem with what `owner` reads says what an error says. -/
inductive Problem.Foretells (owner : Owner) : Problem → PathError → Prop
  | malformed (e : PathError) : Foretells owner (.badPath owner e) e
  | response (raw : String) :
    Foretells owner (.responsePath owner raw) (.rootUnavailable raw .response)

section Foretold

variable (owner : Owner)

theorem Path.foretold {raw : String} {e : PathError} (h : fault? raw = some e) :
    ∃ problem ∈ readProblems owner raw, problem.Foretells owner e := by
  unfold fault? at h
  unfold readProblems
  cases hparse : parse raw with
  | error e' =>
    rw [hparse] at h
    obtain rfl : e' = e := Option.some.inj h
    exact ⟨_, List.mem_singleton_self _, .malformed e'⟩
  | ok path =>
    rw [hparse] at h
    dsimp only at h ⊢
    by_cases hroot : path.root = .response
    · rw [if_pos hroot] at h ⊢
      obtain rfl := Option.some.inj h
      exact ⟨_, List.mem_singleton_self _, .response raw⟩
    · rw [if_neg hroot] at h
      exact nomatch h

theorem Operand.foretold {operand : Operand} {e : PathError} (h : operand.fault? = some e) :
    ∃ problem ∈ operand.problems owner, problem.Foretells owner e := by
  cases operand with
  | path raw => exact Path.foretold owner h
  | value v => exact nomatch h

theorem Comparison.foretold {c : Comparison} {e : PathError} (h : c.fault? = some e) :
    ∃ problem ∈ c.problems owner, problem.Foretells owner e := by
  rcases Option.or_eq_some_iff.mp h with hleft | ⟨-, hright⟩
  · obtain ⟨problem, hproblem, hsays⟩ := Operand.foretold owner hleft
    exact ⟨problem, List.mem_append_left _ hproblem, hsays⟩
  · obtain ⟨hop, hright⟩ : c.op ≠ .exists ∧ c.right.bind Operand.fault? = some e := by
      simpa using hright
    obtain ⟨operand, hoperand, hfault⟩ := Option.bind_eq_some_iff.mp hright
    obtain ⟨problem, hproblem, hsays⟩ := Operand.foretold owner hfault
    refine ⟨problem, List.mem_append_right _ ?_, hsays⟩
    rwa [hoperand]

namespace Condition

theorem problemsOfList_eq (parts : List Condition) :
    problemsOfList owner parts = parts.flatMap (problems owner) := by
  induction parts with
  | nil => rfl
  | cons part rest ih => rw [problemsOfList, ih, List.flatMap_cons]

theorem problems_branch {c part : Condition} (h : part ∈ c.branches) :
    part.problems owner ⊆ c.problems owner := by
  have hparts : c.problems owner = c.branches.flatMap (problems owner) := by
    cases c with
    | all parts => rw [problems, problemsOfList_eq, branches]
    | any parts => rw [problems, problemsOfList_eq, branches]
    | not part => rw [problems, branches, List.flatMap_singleton]
    | compare leaf => exact absurd h List.not_mem_nil
  rw [hparts]
  exact fun problem hproblem => List.mem_flatMap.mpr ⟨part, h, hproblem⟩

theorem problems_node? {node : Condition} : ∀ (place : List Nat) (c : Condition),
    c.node? place = some node → node.problems owner ⊆ c.problems owner
  | [], c, h => by
    rw [Option.some.inj h]
    exact List.Subset.refl _
  | i :: place, c, h => by
    obtain ⟨part, hpart, hnode⟩ := Option.bind_eq_some_iff.mp h
    exact List.Subset.trans (problems_node? place part hnode)
      (problems_branch owner (List.mem_of_getElem? hpart))

variable {data : Dict Json} {context : Json}

/-- Each error of an evaluation is foretold by a problem of the check. -/
theorem foretold_errors {c : Condition} {id : String} {error : ClauseError}
    (h : error ∈ (c.evaluate (.ofData data context) id).errors) :
    ∃ problem ∈ c.problems owner, problem.Foretells owner error.cause := by
  obtain ⟨place, leaf, hnode, hfault, -⟩ := (mem_errors_evaluate data context c id).mp h
  obtain ⟨problem, hproblem, hsays⟩ := leaf.foretold owner hfault
  have hleaf : problem ∈ problems owner (.compare leaf) := by rwa [problems]
  exact ⟨problem, problems_node? owner place c hnode hleaf, hsays⟩

end Condition
end Foretold

namespace Condition

/-- A condition without problems leaves no error. -/
theorem errors_evaluate {owner : Owner} (id : String) (c : Condition)
    (h : c.problems owner = []) : (c.evaluate (.ofData data context) id).errors = [] := by
  refine List.eq_nil_iff_forall_not_mem.mpr fun error herror => ?_
  obtain ⟨problem, hproblem, -⟩ := foretold_errors owner herror
  rw [h] at hproblem
  exact List.not_mem_nil hproblem

/-- **The errors of a condition are static.** Whatever the data and the context, an evaluation
has the same errors: one for each leaf that looks at a path that cannot be read, under the id
of the leaf, and no other. Where the check finds no problem there is none, and each one is
foretold by a problem. -/
theorem errors_static (c : Condition) (id : String) : ∃ errors : List ClauseError,
    (∀ data context, (c.evaluate (.ofData data context) id).errors = errors) ∧
      (errors.map (·.clause)).Nodup ∧
      (∀ error, error ∈ errors ↔ ∃ place leaf, c.node? place = some (.compare leaf) ∧
        leaf.fault? = some error.cause ∧ error.clause = nodeId id place) ∧
      (∀ place place', nodeId id place = nodeId id place' → place = place') ∧
      ∀ owner, (c.problems owner = [] → errors = []) ∧
        ∀ error ∈ errors, ∃ problem ∈ c.problems owner, problem.Foretells owner error.cause := by
  refine ⟨(c.evaluate (.ofData [] .null) id).errors, fun data context => ?_,
    nodup_clause_errors [] .null c id, fun _ => mem_errors_evaluate [] .null c id,
    fun _ _ => nodeId_inj, fun owner => ⟨errors_evaluate [] .null id c, fun error herror => ?_⟩⟩
  · exact (collects_errors data context).congr (collects_errors [] .null) c id
  · exact foretold_errors owner herror

/-- Who has no ticket and was not answered is let in. The path of the ticket on the right is
malformed, and there is no response. -/
def admission : Condition :=
  .not (.any [.compare ⟨.exists, .path "data.ticket", some (.path "ticket")⟩,
    .compare ⟨.neq, .path "response.status", some (.path "context.status")⟩])

/-- The check has a problem with both paths, and only the second one is looked at. -/
theorem errors_static_admission : ∃ errors : List ClauseError,
    (∀ data context, (admission.evaluate (.ofData data context) "gate").errors = errors) ∧
      errors = [⟨"gate#0.1", .rootUnavailable "response.status" .response⟩] ∧
      admission.problems (.rule "gate") = [.badPath (.rule "gate") (.unknownRoot "ticket"),
        .responsePath (.rule "gate") "response.status"] := by
  obtain ⟨errors, hsame, -⟩ := errors_static admission "gate"
  refine ⟨errors, hsame, ?_, by decide +kernel⟩
  rw [← hsame [] .null]
  decide +kernel

end Condition
end PageFlow
