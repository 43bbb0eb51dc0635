/-
# Looking no further than needed

The parts of `all` and `any` can be looked at in order, and no further than the first one
that settles the matter. Evaluating every node comes to the same: it has no effect but that
each node has a result. No result takes the place of another, and the results of a node and
of its branches fit together.

Key definitions: `Scope.under?`, `Operand.read?`, `Comparison.settle`, `Condition.Settles`,
`Condition.Combines`.
Key theorems: `Comparison.holds_eq_settle`, `Condition.settles_iff`,
`Condition.settled_evaluate`.
-/
import PageFlow.Proofs.Condition.Clauses

namespace PageFlow

/-! ### Leaves -/

/-- The value that the paths below a root lead into, if there is one. -/
def Scope.under? (scope : Scope) : Root → Option Json
  | .data => some (.object scope.data)
  | .context => some scope.context
  | .response => scope.response

/-- What an operand stands for, if it can be read. A path that leads nowhere stands for `null`. -/
def Operand.read? (scope : Scope) : Operand → Option Json
  | .value v => some v
  | .path raw => (Path.parse raw).toOption.bind fun path =>
    (scope.under? path.root).map fun value => (Json.at? path.segments value).getD .null

/-- What the right operand of a comparison stands for, if it can be read. One that is missing
stands for `null`, and so does that of `exists`, which is not looked at. -/
def Comparison.readRight? (scope : Scope) (c : Comparison) : Option Json :=
  if c.op = .exists then some .null else (c.right.getD (.value .null)).read? scope

/-- Whether a comparison holds: its operands can be read, and the operator holds between them. -/
def Comparison.settle (scope : Scope) (c : Comparison) : Bool :=
  match c.left.read? scope, c.readRight? scope with
  | some left, some right => c.op.holds left right
  | _, _ => false

theorem Scope.toOption_resolve (scope : Scope) (path : Path) : (scope.resolve path).toOption =
    (scope.under? path.root).map fun value => (Json.at? path.segments value).getD .null := by
  obtain ⟨raw, root, segments⟩ := path
  cases root with
  | data => cases segments <;> rfl
  | context => rfl
  | response =>
    simp only [resolve, lookup, under?]
    cases scope.response <;> rfl

theorem Operand.toOption_resolve (scope : Scope) (operand : Operand) :
    (operand.resolve scope).toOption = operand.read? scope := by
  cases operand with
  | value v => rfl
  | path raw =>
    rw [resolve, read?]
    cases Path.parse raw with
    | error e => rfl
    | ok path => exact scope.toOption_resolve path

/-- A comparison that is evaluated holds if it does when its operands are read. -/
theorem Comparison.holds_eq_settle (scope : Scope) (c : Comparison) :
    c.holds scope = c.settle scope := by
  obtain ⟨op, left, right⟩ := c
  rw [holds, settle, readRight?, ← Operand.toOption_resolve, ← Operand.toOption_resolve, evaluate]
  cases left.resolve scope with
  | error e => rfl
  | ok x =>
    dsimp only [bind, Except.bind, Except.toOption]
    by_cases hop : op = .exists
    · subst hop
      rfl
    · rw [if_neg hop, if_neg hop]
      cases right with
      | none => rfl
      | some operand =>
        dsimp only [Option.getD]
        cases operand.resolve scope <;> rfl

namespace Condition

/-! ### Trees -/

mutual

/-- What a condition comes to when its parts are looked at in order, and no further than
needed. -/
inductive Settles (scope : Scope) : Condition → Bool → Prop
  /-- The first part that fails settles `all`. -/
  | all {parts : List Condition} {value : Bool} (h : SettlesUntil scope false parts value) :
    Settles scope (.all parts) value
  /-- The first part that holds settles `any`. -/
  | any {parts : List Condition} {value : Bool} (h : SettlesUntil scope true parts value) :
    Settles scope (.any parts) value
  | not {part : Condition} {value : Bool} (h : Settles scope part value) :
    Settles scope (.not part) !value
  | compare (c : Comparison) : Settles scope (.compare c) (c.settle scope)

/-- What some parts come to when they are looked at until the first one with the value `stop`. -/
inductive SettlesUntil (scope : Scope) : Bool → List Condition → Bool → Prop
  | none (stop : Bool) : SettlesUntil scope stop [] !stop
  /-- The rest is not looked at. -/
  | stop {stop : Bool} {part : Condition} (h : Settles scope part stop) (rest : List Condition) :
    SettlesUntil scope stop (part :: rest) stop
  | next {stop value : Bool} {part : Condition} {rest : List Condition}
      (h : Settles scope part !stop) (hrest : SettlesUntil scope stop rest value) :
    SettlesUntil scope stop (part :: rest) value

end

mutual

theorem settles_holds (scope : Scope) : ∀ c : Condition, Settles scope c (c.holds scope)
  | .all parts => .all (settlesUntil_allHold scope parts)
  | .any parts => .any (settlesUntil_anyHolds scope parts)
  | .not part => .not (settles_holds scope part)
  | .compare c => by
    rw [holds, c.holds_eq_settle]
    exact .compare c

theorem settlesUntil_allHold (scope : Scope) :
    ∀ parts : List Condition, SettlesUntil scope false parts (allHold scope parts)
  | [] => .none false
  | part :: rest => by
    have hpart := settles_holds scope part
    rw [allHold]
    cases hvalue : holds scope part <;> rw [hvalue] at hpart
    · exact .stop hpart rest
    · exact .next hpart (settlesUntil_allHold scope rest)

theorem settlesUntil_anyHolds (scope : Scope) :
    ∀ parts : List Condition, SettlesUntil scope true parts (anyHolds scope parts)
  | [] => .none true
  | part :: rest => by
    have hpart := settles_holds scope part
    rw [anyHolds]
    cases hvalue : holds scope part <;> rw [hvalue] at hpart
    · exact .next hpart (settlesUntil_anyHolds scope rest)
    · exact .stop hpart rest

end

mutual

theorem holds_of_settles {scope : Scope} :
    ∀ {c : Condition} {value : Bool}, Settles scope c value → c.holds scope = value
  | .all parts, _, .all h => allHold_of_settlesUntil h
  | .any parts, _, .any h => anyHolds_of_settlesUntil h
  | .not part, _, .not h => by rw [holds, holds_of_settles h]
  | .compare c, _, .compare _ => c.holds_eq_settle scope

theorem allHold_of_settlesUntil {scope : Scope} : ∀ {parts : List Condition} {value : Bool},
    SettlesUntil scope false parts value → allHold scope parts = value
  | [], _, .none _ => rfl
  | part :: rest, _, .stop h _ => by rw [allHold, holds_of_settles h, Bool.false_and]
  | part :: rest, _, .next h hrest => by
    rw [allHold, holds_of_settles h, allHold_of_settlesUntil hrest, Bool.not_false, Bool.true_and]

theorem anyHolds_of_settlesUntil {scope : Scope} : ∀ {parts : List Condition} {value : Bool},
    SettlesUntil scope true parts value → anyHolds scope parts = value
  | [], _, .none _ => rfl
  | part :: rest, _, .stop h _ => by rw [anyHolds, holds_of_settles h, Bool.true_or]
  | part :: rest, _, .next h hrest => by
    rw [anyHolds, holds_of_settles h, anyHolds_of_settlesUntil hrest, Bool.not_true, Bool.false_or]

end

/-- A condition comes to one value, whichever way it is looked at. -/
theorem settles_iff {scope : Scope} {c : Condition} {value : Bool} :
    c.Settles scope value ↔ c.holds scope = value :=
  ⟨holds_of_settles, fun h => h ▸ settles_holds scope c⟩

/-! ### Results -/

theorem node?_append : ∀ (place more : List Nat) (c : Condition),
    c.node? (place ++ more) = (c.node? place).bind (·.node? more)
  | [], more, c => by
    cases more <;> rfl
  | i :: place, more, c => by
    rw [List.cons_append, node?, node?]
    cases c.branches[i]? with
    | none => rfl
    | some part => exact node?_append place more part

/-- How the value of a node is made of those of its branches. -/
def Combines : Condition → List Bool → Bool → Prop
  | .all _, values, value => value = values.all id
  | .any _, values, value => value = values.any id
  | .not _, values, value => values = [!value]
  | .compare _, values, _ => values = []

theorem allHold_eq (scope : Scope) : ∀ parts : List Condition,
    allHold scope parts = (parts.map (holds scope)).all id
  | [] => rfl
  | part :: rest => by rw [allHold, allHold_eq scope rest, List.map_cons, List.all_cons, id]

theorem anyHolds_eq (scope : Scope) : ∀ parts : List Condition,
    anyHolds scope parts = (parts.map (holds scope)).any id
  | [] => rfl
  | part :: rest => by rw [anyHolds, anyHolds_eq scope rest, List.map_cons, List.any_cons, id]

theorem combines_holds (scope : Scope) (c : Condition) :
    c.Combines (c.branches.map (holds scope)) (c.holds scope) := by
  cases c with
  | all parts => exact allHold_eq scope parts
  | any parts => exact anyHolds_eq scope parts
  | not part =>
    rw [Combines, holds, Bool.not_not]
    rfl
  | compare c => rfl

variable {scope : Scope}

theorem find?_results {c node : Condition} {place : List Nat} (id : String)
    (h : c.node? place = some node) :
    Dict.find? (nodeId id place) (c.evaluate scope id).results = some (node.holds scope) := by
  refine Dict.find?_of_mem (Evaluation.sorted_results _) ?_
  exact mem_results_evaluate.mpr ((c.mem_clauses_evaluate id).mpr ⟨place, node, h, rfl⟩)

theorem map_find?_results {c node : Condition} {place : List Nat} (id : String)
    (h : c.node? place = some node) :
    (List.range node.branches.length).map
        (fun i => Dict.find? (nodeId id (place ++ [i])) (c.evaluate scope id).results) =
      (node.branches.map (holds scope)).map some := by
  refine List.ext_getElem (by simp) fun i hi _ => ?_
  have hlt : i < node.branches.length := by simpa using hi
  have hbranch : c.node? (place ++ [i]) = some node.branches[i] := by
    rw [node?_append, h, Option.bind_some, node?, List.getElem?_eq_getElem hlt]
    rfl
  simpa using find?_results id hbranch

/-- **Evaluating every node changes nothing but that each has a result.** The value of an
evaluation is what the condition comes to when its parts are looked at no further than
needed. Its results have each node once, under an id of its own, with what the node comes to,
and nothing else. The result of each node is made of those of its branches. -/
theorem settled_evaluate (scope : Scope) (id : String) (c : Condition) :
    let evaluation := c.evaluate scope id
    let result? := fun place => Dict.find? (nodeId id place) evaluation.results
    (∀ value, c.Settles scope value ↔ evaluation.value = value) ∧
      (evaluation.clauses.Perm evaluation.results ∧ evaluation.results.keys.Nodup) ∧
      (∀ key value, (key, value) ∈ evaluation.results ↔ ∃ place node,
        c.node? place = some node ∧ key = nodeId id place ∧ node.Settles scope value) ∧
      (∀ place place', nodeId id place = nodeId id place' → place = place') ∧
      ∀ place node, c.node? place = some node → ∃ value values,
        result? place = some value ∧
          (List.range node.branches.length).map (fun i => result? (place ++ [i])) =
            values.map some ∧
          node.Combines values value := by
  intro evaluation result?
  have hkeys : (Dict.keys evaluation.clauses).Nodup := c.nodup_keys_clauses id
  have hresults : evaluation.results.keys.Nodup := evaluation.sorted_results.nodup_keys
  refine ⟨fun value => ?_, ⟨?_, hresults⟩, fun key value => ?_, fun _ _ => nodeId_inj, ?_⟩
  · rw [settles_iff, c.value_evaluate scope id]
  · exact (List.perm_ext_iff_of_nodup hkeys.of_map hresults.of_map).mpr
      fun _ => mem_results_evaluate.symm
  · simp only [evaluation, mem_results_evaluate, c.mem_clauses_evaluate, Prod.mk.injEq, settles_iff,
      eq_comm]
  · intro place node hnode
    exact ⟨node.holds scope, node.branches.map (holds scope), find?_results id hnode,
      map_find?_results id hnode, node.combines_holds scope⟩

/-- Who boards has a seat, or is no guest. Two paths cannot be read, and neither needs to be: the
one on the right of `exists`, and the one behind the part that settles the second branch. -/
def boarding : Condition :=
  .any [.compare ⟨.exists, .path "data.seat", some (.path "seat")⟩,
    .all [.not (.compare ⟨.exists, .path "data.guest", none⟩),
      .compare ⟨.eq, .path "guest", some (.value .null)⟩]]

/-- Every node has its result, also below an id that has a mark already. -/
theorem settled_evaluate_boarding :
    let scope := Scope.ofData [("guest", .string "g7")] (.object [])
    let results := (boarding.evaluate scope "gate#2").results
    boarding.Settles scope false ∧
      results = [("gate#2", false), ("gate#2.0", false), ("gate#2.1", false),
        ("gate#2.1.0", false), ("gate#2.1.0.0", true), ("gate#2.1.1", false)] ∧
      ("gate#2.1.0.0", true) ∈ results ∧ nodeId "gate#2" [1, 0, 0] = "gate#2.1.0.0" := by
  intro scope results
  have hresults : results = [("gate#2", false), ("gate#2.0", false), ("gate#2.1", false),
      ("gate#2.1.0", false), ("gate#2.1.0.0", true), ("gate#2.1.1", false)] := by decide +kernel
  have hsettled := settled_evaluate scope "gate#2" boarding
  refine ⟨(hsettled.1 false).mpr (by decide +kernel), hresults, ?_, by decide +kernel⟩
  refine (hsettled.2.2.1 _ true).mpr ⟨[1, 0, 0], .compare ⟨.exists, .path "data.guest", none⟩,
    rfl, by decide +kernel, settles_iff.mpr (by decide +kernel)⟩

end Condition
end PageFlow
