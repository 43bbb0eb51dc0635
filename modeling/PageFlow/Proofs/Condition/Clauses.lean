/-
# The clauses of a condition

A node of a condition is reached by the numbers of the branches that lead to
it. Evaluating the condition leaves one clause for each node: its value, under
the id of the condition and the numbers of its place. The place of a node can be
read off its id, so no two nodes share one. Where the condition has the id of an
owner without marks, the owner can be read off as well.

Key definitions: `Condition.branches`, `Condition.node?`, `Condition.holds`,
`Condition.Collects`, `nodeId`, `clauseId`.
Key theorems: `Condition.value_evaluate`, `nodeId_inj`, `clauseId_inj`,
`Condition.Collects.mem_iff`, `Condition.Collects.nodup_map`, `Condition.Collects.congr`,
`Condition.mem_clauses_evaluate`.
-/
import PageFlow.Condition.Evaluation
import PageFlow.Proofs.Dict
import PageFlow.Proofs.Text.Split

namespace PageFlow

/-! ### Nodes -/

/-- Whether a comparison holds; one that cannot be evaluated does not. -/
def Comparison.holds (scope : Scope) (c : Comparison) : Bool :=
  match c.evaluate scope with
  | .ok value => value
  | .error _ => false

namespace Condition

/-- The branches of a node, in order. -/
def branches : Condition → List Condition
  | .all parts => parts
  | .any parts => parts
  | .not part => [part]
  | .compare _ => []

/-- The node at a place: the numbers of the branches from the root down. -/
def node? : Condition → List Nat → Option Condition
  | c, [] => some c
  | c, i :: place => c.branches[i]?.bind (·.node? place)

mutual

/-- Whether a condition holds. -/
def holds (scope : Scope) : Condition → Bool
  | .all parts => allHold scope parts
  | .any parts => anyHolds scope parts
  | .not part => !holds scope part
  | .compare c => c.holds scope

/-- Whether all conditions hold. -/
def allHold (scope : Scope) : List Condition → Bool
  | [] => true
  | part :: rest => holds scope part && allHold scope rest

/-- Whether some condition holds. -/
def anyHolds (scope : Scope) : List Condition → Bool
  | [] => false
  | part :: rest => holds scope part || anyHolds scope rest

end

mutual

/-- A property of conditions that each node has if its branches have it. -/
theorem induct_branches {P : Condition → Prop}
    (step : ∀ c : Condition, (∀ part ∈ c.branches, P part) → P c) : ∀ c, P c
  | .all parts => step (.all parts) (induct_parts step parts)
  | .any parts => step (.any parts) (induct_parts step parts)
  | .not part => step (.not part) fun p hp => by
    rw [List.mem_singleton.mp hp]
    exact induct_branches step part
  | .compare c => step (.compare c) fun _ hp => absurd hp List.not_mem_nil

theorem induct_parts {P : Condition → Prop}
    (step : ∀ c : Condition, (∀ part ∈ c.branches, P part) → P c) :
    ∀ parts : List Condition, ∀ part ∈ parts, P part
  | first :: rest, part, hpart => by
    rcases List.mem_cons.mp hpart with heq | hpart
    · rw [heq]
      exact induct_branches step first
    · exact induct_parts step rest part hpart

end

/-! ### The value of a node -/

mutual

/-- The evaluation of a condition has the value of the condition. -/
theorem value_evaluate (scope : Scope) :
    ∀ (id : String) (c : Condition), (c.evaluate scope id).value = c.holds scope
  | id, .all parts => by
    rw [evaluate, holds]
    exact all_evaluateParts scope id 0 parts
  | id, .any parts => by
    rw [evaluate, holds]
    exact any_evaluateParts scope id 0 parts
  | id, .not part => by
    rw [evaluate, holds, ← value_evaluate scope (childId id 0) part]
  | id, .compare c => by
    rw [evaluate, holds, Comparison.holds]
    cases c.evaluate scope <;> rfl

theorem all_evaluateParts (scope : Scope) : ∀ (id : String) (index : Nat) (parts : List Condition),
    (evaluateParts scope id index parts).all (·.value) = allHold scope parts
  | _, _, [] => rfl
  | id, index, part :: rest => by
    rw [evaluateParts, allHold, List.all_cons, value_evaluate scope _ part,
      all_evaluateParts scope id (index + 1) rest]

theorem any_evaluateParts (scope : Scope) : ∀ (id : String) (index : Nat) (parts : List Condition),
    (evaluateParts scope id index parts).any (·.value) = anyHolds scope parts
  | _, _, [] => rfl
  | id, index, part :: rest => by
    rw [evaluateParts, anyHolds, List.any_cons, value_evaluate scope _ part,
      any_evaluateParts scope id (index + 1) rest]

end

/-- Whether an evaluation collects in each node what it does in the branches, and then what
is the node's own. -/
def Collects {α : Type} (scope : Scope) (f : Evaluation → List α)
    (own : Condition → String → List α) : Prop :=
  ∀ c id, f (evaluate scope id c) = (evaluateParts scope id 0 c.branches).flatMap f ++ own c id

/-- A node leaves the clauses of its branches, and then its own. -/
theorem collects_clauses (scope : Scope) :
    Collects scope (·.clauses) fun c id => [(id, c.holds scope)] := by
  intro c id
  have hvalue := c.value_evaluate scope id
  dsimp only
  cases c with
  | all parts => rw [← hvalue, evaluate, branches]
  | any parts => rw [← hvalue, evaluate, branches]
  | not part => simp only [← hvalue, evaluate, branches, evaluateParts, List.flatMap_cons,
      List.flatMap_nil, List.append_nil]
  | compare comparison =>
    rw [← hvalue, evaluate]
    cases comparison.evaluate scope <;> rfl

end Condition

/-! ### The ids of nodes -/

/-- The id of the node at a place of the condition of `owner`. -/
def clauseId (owner : String) : List Nat → String
  | [] => owner
  | place => owner ++ "#" ++ String.ofList (Text.joinWith '.' (place.map (Nat.toDigits 10)))

/-- The id of the node at a place, below the node `id`. -/
def nodeId (id : String) (place : List Nat) : String := place.foldl childId id

/-- What stands between the id of a node and the numbers behind it. -/
def branchMark (id : String) : Char := if '#' ∈ id.toList then '.' else '#'

theorem toList_childId (id : String) (i : Nat) :
    (childId id i).toList = id.toList ++ branchMark id :: Nat.toDigits 10 i := by
  unfold childId branchMark
  by_cases h : '#' ∈ id.toList <;> simp [h]

theorem branchMark_childId (id : String) (i : Nat) : branchMark (childId id i) = '.' := by
  have hmark : '#' ∈ (childId id i).toList := by
    rw [toList_childId, branchMark, List.mem_append]
    split
    · next h => exact .inl h
    · exact .inr List.mem_cons_self
  rw [branchMark, if_pos hmark]

theorem toList_nodeId : ∀ {place : List Nat} (id : String), place ≠ [] →
    (nodeId id place).toList =
      id.toList ++ branchMark id :: Text.joinWith '.' (place.map (Nat.toDigits 10))
  | [i], id, _ => toList_childId id i
  | i :: j :: place, id, _ => by
    have ih := toList_nodeId (childId id i) (List.cons_ne_nil j place)
    rw [branchMark_childId, toList_childId] at ih
    rw [nodeId, List.foldl_cons, ← nodeId, ih, List.append_assoc, List.cons_append]
    rfl

theorem toList_clauseId {place : List Nat} (owner : String) (h : place ≠ []) :
    (clauseId owner place).toList =
      owner.toList ++ '#' :: Text.joinWith '.' (place.map (Nat.toDigits 10)) := by
  cases place with
  | nil => exact absurd rfl h
  | cons i place => simp [clauseId]

/-- The nodes below an owner without a mark have the ids of its clauses. -/
theorem nodeId_eq_clauseId {owner : String} (howner : '#' ∉ owner.toList) (place : List Nat) :
    nodeId owner place = clauseId owner place := by
  cases place with
  | nil => rfl
  | cons i place =>
    rw [← String.toList_inj, toList_nodeId owner (List.cons_ne_nil i place),
      toList_clauseId owner (List.cons_ne_nil i place), branchMark, if_neg howner]

theorem toDigits_ten_inj {m n : Nat} (h : Nat.toDigits 10 m = Nat.toDigits 10 n) : m = n :=
  calc m = Nat.ofDigitChars 10 (Nat.toDigits 10 m) 0 := Nat.ofDigitChars_ten_toDigits.symm
    _ = Nat.ofDigitChars 10 (Nat.toDigits 10 n) 0 := by rw [h]
    _ = n := Nat.ofDigitChars_ten_toDigits

theorem dot_notMem_toDigits (n : Nat) : '.' ∉ Nat.toDigits 10 n := fun h => by
  have hdigit : Char.isDigit '.' = true := Nat.isDigit_of_mem_toDigits (by decide) (by decide) h
  exact absurd hdigit (by decide)

/-- Numbers with dots between them can be told apart. -/
theorem joinWith_toDigits_inj {place place' : List Nat} (hne : place ≠ []) (hne' : place' ≠ [])
    (h : Text.joinWith '.' (place.map (Nat.toDigits 10)) =
      Text.joinWith '.' (place'.map (Nat.toDigits 10))) : place = place' := by
  have hdots : ∀ place : List Nat, ∀ part ∈ place.map (Nat.toDigits 10), '.' ∉ part := by
    intro place part hpart
    obtain ⟨n, -, rfl⟩ := List.mem_map.mp hpart
    exact dot_notMem_toDigits n
  have hparts := Text.joinWith_inj (mt List.map_eq_nil_iff.mp hne) (mt List.map_eq_nil_iff.mp hne')
    (hdots place) (hdots place') h
  exact (List.map_inj_right fun _ _ => toDigits_ten_inj).mp hparts

/-- The place of a node below another can be read off its id. -/
theorem nodeId_inj {id : String} {place place' : List Nat}
    (h : nodeId id place = nodeId id place') : place = place' := by
  have hlonger : ∀ i rest, nodeId id (i :: rest) ≠ id := by
    intro i rest heq
    rw [← String.toList_inj, toList_nodeId id (List.cons_ne_nil i rest)] at heq
    exact List.cons_ne_nil _ _ (List.append_right_eq_self.mp heq)
  cases place with
  | nil =>
    cases place' with
    | nil => rfl
    | cons j rest => exact absurd h.symm (hlonger j rest)
  | cons i place =>
    cases place' with
    | nil => exact absurd h (hlonger i place)
    | cons j rest =>
      rw [← String.toList_inj, toList_nodeId id (List.cons_ne_nil i place),
        toList_nodeId id (List.cons_ne_nil j rest)] at h
      have hnumbers := (List.cons.inj (List.append_cancel_left h)).2
      exact joinWith_toDigits_inj (List.cons_ne_nil i place) (List.cons_ne_nil j rest) hnumbers

/-- The owner and the place of a node can be read off its id. -/
theorem clauseId_inj {owner owner' : String} (howner : '#' ∉ owner.toList)
    (howner' : '#' ∉ owner'.toList) {place place' : List Nat}
    (h : clauseId owner place = clauseId owner' place') : owner = owner' ∧ place = place' := by
  have hsame : owner = owner' := by
    -- The first mark, if there is one, ends the owner.
    have hhead : ∀ {owner : String}, '#' ∉ owner.toList → ∀ place,
        (Text.splitAt '#' (clauseId owner place).toList).head? = some owner.toList := by
      intro owner howner place
      cases place with
      | nil => rw [clauseId, Text.splitAt_of_notMem howner]; rfl
      | cons i place =>
        rw [toList_clauseId owner (List.cons_ne_nil i place), Text.splitAt_append howner]
        rfl
    have hlists := hhead howner place
    rw [h, hhead howner' place'] at hlists
    exact (String.toList_inj.mp (Option.some.inj hlists)).symm
  subst hsame
  rw [← nodeId_eq_clauseId howner, ← nodeId_eq_clauseId howner] at h
  exact ⟨rfl, nodeId_inj h⟩

/-! ### What is collected -/

namespace Condition

variable {α : Type} {scope : Scope} {f : Evaluation → List α} {own : Condition → String → List α}

theorem mem_flatMap_evaluateParts {x : α} (id : String) :
    ∀ {parts : List Condition} (index : Nat),
      (∀ part ∈ parts, ∀ id : String, x ∈ f (part.evaluate scope id) ↔
        ∃ place node, part.node? place = some node ∧ x ∈ own node (nodeId id place)) →
      (x ∈ (evaluateParts scope id index parts).flatMap f ↔
        ∃ i place node, parts[i]?.bind (·.node? place) = some node ∧
          x ∈ own node (nodeId id ((index + i) :: place)))
  | [], index, _ => by simp [evaluateParts]
  | part :: rest, index, h => by
    have hrest := mem_flatMap_evaluateParts id (index + 1)
      fun p hp => h p (List.mem_cons_of_mem _ hp)
    rw [evaluateParts, List.flatMap_cons, List.mem_append, h part List.mem_cons_self, hrest]
    have hindex : ∀ i, index + 1 + i = index + (i + 1) := fun i => by omega
    constructor
    · rintro (⟨place, node, hnode, hx⟩ | ⟨i, place, node, hnode, hx⟩)
      · exact ⟨0, place, node, hnode, hx⟩
      · exact ⟨i + 1, place, node, hnode, hindex i ▸ hx⟩
    · rintro ⟨i, place, node, hnode, hx⟩
      cases i with
      | zero => exact .inl ⟨place, node, hnode, hx⟩
      | succ i => exact .inr ⟨i, place, node, hnode, hindex i ▸ hx⟩

namespace Collects

/-- What is collected is what the nodes have of their own. -/
theorem mem_iff (h : Collects scope f own) {x : α} : ∀ (c : Condition) (id : String),
    x ∈ f (c.evaluate scope id) ↔
      ∃ place node, c.node? place = some node ∧ x ∈ own node (nodeId id place) := by
  refine induct_branches fun c ih id => ?_
  rw [h c id, List.mem_append, mem_flatMap_evaluateParts id 0 ih]
  constructor
  · rintro (⟨i, place, node, hnode, hx⟩ | hx)
    · exact ⟨i :: place, node, hnode, Nat.zero_add i ▸ hx⟩
    · exact ⟨[], c, rfl, hx⟩
  · rintro ⟨place, node, hnode, hx⟩
    cases place with
    | nil =>
      obtain rfl := Option.some.inj hnode
      exact .inr hx
    | cons i place => exact .inl ⟨i, place, node, hnode, by rwa [Nat.zero_add]⟩

section Keyed

variable {key : α → String} (hown : ∀ c id, ((own c id).map key).Sublist [id])

include hown

theorem key_of_own {c : Condition} {id : String} {x : α} (hx : x ∈ own c id) : key x = id :=
  List.mem_singleton.mp ((hown c id).subset (List.mem_map_of_mem hx))

/-- What is collected in branches can be told by the number of the branch. -/
theorem key_of_parts (h : Collects scope f own) {id : String} {parts : List Condition}
    {index : Nat} {x : α} (hx : x ∈ (evaluateParts scope id index parts).flatMap f) :
    ∃ i place, index ≤ i ∧ key x = nodeId id (i :: place) := by
  obtain ⟨i, place, node, -, hx⟩ :=
    (mem_flatMap_evaluateParts id index fun part _ id => h.mem_iff part id).mp hx
  exact ⟨index + i, place, Nat.le_add_right index i, key_of_own hown hx⟩

theorem nodup_map_parts (h : Collects scope f own) (id : String) :
    ∀ (parts : List Condition) (index : Nat),
      (∀ part ∈ parts, ∀ id, ((f (part.evaluate scope id)).map key).Nodup) →
      (((evaluateParts scope id index parts).flatMap f).map key).Nodup
  | [], _, _ => List.nodup_nil
  | part :: rest, index, hall => by
    have hrest := nodup_map_parts h id rest (index + 1)
      fun p hp => hall p (List.mem_cons_of_mem _ hp)
    rw [evaluateParts, List.flatMap_cons, List.map_append]
    refine List.nodup_append.mpr ⟨hall part List.mem_cons_self _, hrest, ?_⟩
    rintro k hk other hother rfl
    obtain ⟨x, hx, rfl⟩ := List.mem_map.mp hk
    obtain ⟨y, hy, heq⟩ := List.mem_map.mp hother
    obtain ⟨place, node, -, hx⟩ := (h.mem_iff part _).mp hx
    obtain ⟨i, place', hi, hplace'⟩ := key_of_parts hown h hy
    have hplace : key x = nodeId id (index :: place) := key_of_own hown hx
    obtain ⟨rfl, -⟩ := List.cons.inj (nodeId_inj (hplace'.symm.trans (heq.trans hplace)))
    exact absurd hi (Nat.not_succ_le_self i)

/-- Where a node has at most one thing of its own, and its id can be told from that, nothing
is collected twice. -/
theorem nodup_map (h : Collects scope f own) :
    ∀ (c : Condition) (id : String), ((f (c.evaluate scope id)).map key).Nodup := by
  refine induct_branches fun c ih id => ?_
  rw [h c id, List.map_append]
  refine List.nodup_append.mpr ⟨nodup_map_parts hown h id c.branches 0 ih,
    (hown c id).nodup (List.nodup_singleton id), ?_⟩
  rintro k hk other hother rfl
  obtain ⟨x, hx, rfl⟩ := List.mem_map.mp hk
  obtain ⟨i, place, -, hplace⟩ := key_of_parts hown h hx
  have hself : nodeId id (i :: place) = nodeId id [] :=
    hplace.symm.trans (List.mem_singleton.mp ((hown c id).subset hother))
  exact nomatch nodeId_inj hself

end Keyed

theorem congr_parts {scope' : Scope} (id : String) : ∀ (parts : List Condition) (index : Nat),
    (∀ part ∈ parts, ∀ id, f (part.evaluate scope id) = f (part.evaluate scope' id)) →
    (evaluateParts scope id index parts).flatMap f =
      (evaluateParts scope' id index parts).flatMap f
  | [], _, _ => rfl
  | part :: rest, index, hall => by
    rw [evaluateParts, evaluateParts, List.flatMap_cons, List.flatMap_cons,
      hall part List.mem_cons_self,
      congr_parts id rest (index + 1) fun p hp => hall p (List.mem_cons_of_mem _ hp)]

/-- Where the nodes have the same of their own in two scopes, the same is collected. -/
theorem congr {scope' : Scope} (h : Collects scope f own) (h' : Collects scope' f own) :
    ∀ (c : Condition) (id : String), f (c.evaluate scope id) = f (c.evaluate scope' id) := by
  refine induct_branches fun c ih id => ?_
  rw [h c id, h' c id, congr_parts id c.branches 0 ih]

end Collects
end Condition

/-! ### The clauses of an evaluation -/

theorem Evaluation.sorted_results (e : Evaluation) : Dict.Sorted e.results :=
  Dict.sorted_ofList e.clauses

namespace Condition

variable {scope : Scope}

/-- An evaluation has one clause for each node below it, and no other: the value
of the node under its id. -/
theorem mem_clauses_evaluate (c : Condition) (id : String) {clause : String × Bool} :
    clause ∈ (c.evaluate scope id).clauses ↔
      ∃ place node, c.node? place = some node ∧ clause = (nodeId id place, node.holds scope) := by
  simp only [(collects_clauses scope).mem_iff, List.mem_singleton]

/-- Each node leaves its clause once. -/
theorem nodup_keys_clauses (c : Condition) (id : String) :
    (Dict.keys (c.evaluate scope id).clauses).Nodup := by
  have hown : ∀ (c : Condition) (id : String), (Dict.keys [(id, c.holds scope)]).Sublist [id] :=
    fun _ id => .refl [id]
  exact Collects.nodup_map hown (collects_clauses scope) c id

theorem mem_results_evaluate {c : Condition} {id : String} {clause : String × Bool} :
    clause ∈ (c.evaluate scope id).results ↔ clause ∈ (c.evaluate scope id).clauses :=
  Dict.mem_ofList (c.nodup_keys_clauses id)

end Condition
end PageFlow
