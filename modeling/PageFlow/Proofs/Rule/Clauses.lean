/-
# The clauses of a run

Each rule that is run with an unreserved id leaves one clause for each node of
its condition, on the data that the rules before it left. If those rules have
different ids, no clause takes the place of another: the results of a run are
all of its clauses and nothing else, and a rule has matched exactly when the
clause under its own id is true.

Key definitions: `EvaluatedOn`, `RuleSet.ownerIds`.
Key theorems: `mem_results_foldl_run`, `mem_matched_foldl_run`, `RuleSet.complete_results`.
-/
import PageFlow.Proofs.Condition.Clauses
import PageFlow.Proofs.Dict
import PageFlow.Proofs.Rule.Atomicity

namespace PageFlow

variable {context : Json}

/-! ### One rule -/

theorem mark_notMem_of_unreserved {id : String} (h : isReservedId id = false) :
    '#' ∉ id.toList := by
  intro hmem
  rw [isReservedId, List.any_eq_false] at h
  exact h '#' hmem (by decide)

/-- The clauses of a rule: the value of each node of its condition under the id of the node. -/
theorem Rule.mem_clauses {rule : Rule} (hid : isReservedId rule.ruleId = false) (data : Dict Json)
    {clause : String × Bool} :
    clause ∈ (rule.evaluation data context).clauses ↔
      ∃ place node, rule.condition.node? place = some node ∧
        clause = (clauseId rule.ruleId place, node.holds (.ofData data context)) := by
  simp only [← nodeId_eq_clauseId (mark_notMem_of_unreserved hid)]
  exact rule.condition.mem_clauses_evaluate rule.ruleId

theorem Rule.results_run (before : RulesOutcome) (rule : Rule) :
    (rule.run context before).results =
      if isReservedId rule.ruleId then before.results
      else before.results.insertAll (rule.evaluation before.data context).results := by
  have hruns := rule.runs context before
  generalize rule.run context before = after at hruns
  cases hruns with
  | reserved hid => rw [if_pos hid]
  | unmatched hid hvalue => simp [hid]
  | applied hid hvalue data events hperform => simp [hid]
  | failed hid hvalue e hperform => simp [hid]

theorem Rule.mem_results_run {before : RulesOutcome} {rule : Rule}
    (hfree : isReservedId rule.ruleId = false →
      ∀ e ∈ before.results, ∀ place, e.1 ≠ clauseId rule.ruleId place)
    {clause : String × Bool} :
    clause ∈ (rule.run context before).results ↔ clause ∈ before.results ∨
      (isReservedId rule.ruleId = false ∧
        clause ∈ (rule.evaluation before.data context).clauses) := by
  rw [results_run]
  cases hid : isReservedId rule.ruleId with
  | true => simp
  | false =>
    have hresults : ∀ {e}, e ∈ (rule.evaluation before.data context).results ↔
        e ∈ (rule.evaluation before.data context).clauses := Condition.mem_results_evaluate
    have hfresh : ∀ a ∈ (rule.evaluation before.data context).results, ∀ b ∈ before.results,
        b.1 = a.1 → b.2 = a.2 := by
      intro a ha b hb heq
      obtain ⟨place, node, -, rfl⟩ := (rule.mem_clauses hid before.data).mp (hresults.mp ha)
      exact absurd heq (hfree hid b hb place)
    have hunique := Dict.value_unique
      (rule.evaluation before.data context).sorted_results.nodup_keys
    rw [if_neg Bool.false_ne_true, Dict.mem_insertAll hunique hfresh, hresults]
    simp

theorem Rule.mem_matched_run {before : RulesOutcome} {rule : Rule} {id : String} :
    id ∈ (rule.run context before).matched ↔ id ∈ before.matched ∨
      (isReservedId rule.ruleId = false ∧ id = rule.ruleId ∧
        rule.condition.holds (.ofData before.data context) = true) := by
  have hvalue : (rule.evaluation before.data context).value =
      rule.condition.holds (.ofData before.data context) := rule.condition.value_evaluate _ _
  have hruns := rule.runs context before
  generalize rule.run context before = after at hruns
  cases hruns with
  | reserved hid => simp [hid]
  | unmatched hid hfalse => simp [← hvalue, hfalse]
  | applied hid htrue data events hperform => simp [← hvalue, hid, htrue]
  | failed hid htrue e hperform => simp [← hvalue, hid, htrue]

/-! ### Rules one after the other -/

/-- A rule with an unreserved id that runs among others, and the data that the
rules before it left. -/
def EvaluatedOn (context : Json) (before : RulesOutcome) (rules : List Rule) (rule : Rule)
    (data : Dict Json) : Prop :=
  isReservedId rule.ruleId = false ∧ ∃ earlier later, rules = earlier ++ rule :: later ∧
    data = (earlier.foldl (Rule.run context) before).data

theorem not_evaluatedOn_nil {before : RulesOutcome} {rule : Rule} {data : Dict Json} :
    ¬ EvaluatedOn context before [] rule data := by
  rintro ⟨-, earlier, later, h, -⟩
  exact List.append_ne_nil_of_right_ne_nil earlier (List.cons_ne_nil rule later) h.symm

theorem evaluatedOn_cons {before : RulesOutcome} {first rule : Rule} {rest : List Rule}
    {data : Dict Json} :
    EvaluatedOn context before (first :: rest) rule data ↔
      (isReservedId first.ruleId = false ∧ rule = first ∧ data = before.data) ∨
        EvaluatedOn context (first.run context before) rest rule data := by
  constructor
  · rintro ⟨hid, earlier, later, hrules, rfl⟩
    cases earlier with
    | nil =>
      obtain ⟨rfl, rfl⟩ := List.cons.inj hrules
      exact .inl ⟨hid, rfl, rfl⟩
    | cons _ earlier =>
      obtain ⟨rfl, rfl⟩ := List.cons.inj hrules
      exact .inr ⟨hid, earlier, later, rfl, rfl⟩
  · rintro (⟨hid, rfl, rfl⟩ | ⟨hid, earlier, later, rfl, rfl⟩)
    · exact ⟨hid, [], rest, rfl, rfl⟩
    · exact ⟨hid, first :: earlier, later, rfl, rfl⟩

theorem mem_of_evaluatedOn {before : RulesOutcome} {rules : List Rule} {rule : Rule}
    {data : Dict Json} (h : EvaluatedOn context before rules rule data) : rule ∈ rules := by
  obtain ⟨-, earlier, later, rfl, -⟩ := h
  exact List.mem_append_right earlier List.mem_cons_self

/-- The ids of the rules whose conditions are evaluated. -/
def ownerIds (rules : List Rule) : List String :=
  (rules.filter fun rule => !isReservedId rule.ruleId).map (·.ruleId)

theorem ownerIds_cons (rule : Rule) (rest : List Rule) :
    ownerIds (rule :: rest) =
      if isReservedId rule.ruleId then ownerIds rest else rule.ruleId :: ownerIds rest := by
  cases hid : isReservedId rule.ruleId <;> simp [ownerIds, hid]

theorem mem_ownerIds {rules : List Rule} {rule : Rule} (hrule : rule ∈ rules)
    (hid : isReservedId rule.ruleId = false) : rule.ruleId ∈ ownerIds rules :=
  List.mem_map.mpr ⟨rule, List.mem_filter.mpr ⟨hrule, by simp [hid]⟩, rfl⟩

theorem nodup_ownerIds_tail {first : Rule} {rest : List Rule}
    (h : (ownerIds (first :: rest)).Nodup) : (ownerIds rest).Nodup := by
  rw [ownerIds_cons] at h
  split at h
  · exact h
  · exact (List.nodup_cons.mp h).2

theorem ruleId_ne_of_nodup {first rule : Rule} {rest : List Rule}
    (h : (ownerIds (first :: rest)).Nodup) (hfirst : isReservedId first.ruleId = false)
    (hrule : rule ∈ rest) (hid : isReservedId rule.ruleId = false) :
    first.ruleId ≠ rule.ruleId := by
  intro hsame
  rw [ownerIds_cons, if_neg (by simp [hfirst]), hsame] at h
  exact (List.nodup_cons.mp h).1 (mem_ownerIds hrule hid)

theorem EvaluatedOn.unique :
    ∀ {rules : List Rule} {before : RulesOutcome} {rule rule' : Rule} {data data' : Dict Json},
      (ownerIds rules).Nodup → EvaluatedOn context before rules rule data →
      EvaluatedOn context before rules rule' data' → rule.ruleId = rule'.ruleId →
      rule = rule' ∧ data = data'
  | [], _, _, _, _, _, _, h, _, _ => absurd h not_evaluatedOn_nil
  | first :: rest, before, rule, rule', data, data', hids, h, h', hsame => by
    rcases evaluatedOn_cons.mp h with ⟨hfirst, rfl, rfl⟩ | h
    · rcases evaluatedOn_cons.mp h' with ⟨-, rfl, rfl⟩ | h'
      · exact ⟨rfl, rfl⟩
      · exact absurd hsame (ruleId_ne_of_nodup hids hfirst (mem_of_evaluatedOn h') h'.1)
    · rcases evaluatedOn_cons.mp h' with ⟨hfirst, rfl, rfl⟩ | h'
      · exact absurd hsame.symm (ruleId_ne_of_nodup hids hfirst (mem_of_evaluatedOn h) h.1)
      · exact EvaluatedOn.unique (nodup_ownerIds_tail hids) h h' hsame

/-- The results of rules with different ids are the clauses of each of them, on
the data that the rules before it left. -/
theorem mem_results_foldl_run {clause : String × Bool} :
    ∀ {rules : List Rule} {before : RulesOutcome}, (ownerIds rules).Nodup →
      (∀ rule ∈ rules, isReservedId rule.ruleId = false →
        ∀ e ∈ before.results, ∀ place, e.1 ≠ clauseId rule.ruleId place) →
      (clause ∈ (rules.foldl (Rule.run context) before).results ↔ clause ∈ before.results ∨
        ∃ rule data, EvaluatedOn context before rules rule data ∧
          clause ∈ (rule.evaluation data context).clauses)
  | [], before, _, _ => by simp [not_evaluatedOn_nil]
  | first :: rest, before, hids, hfree => by
    have hrun : ∀ {e}, e ∈ (first.run context before).results ↔ _ :=
      Rule.mem_results_run (hfree first List.mem_cons_self)
    -- The ids of the later rules stay free: they are not the first rule's.
    have hfree' : ∀ rule ∈ rest, isReservedId rule.ruleId = false →
        ∀ e ∈ (first.run context before).results, ∀ place, e.1 ≠ clauseId rule.ruleId place := by
      intro rule hrule hid e he place heq
      rcases hrun.mp he with he | ⟨hfirst, he⟩
      · exact hfree rule (List.mem_cons_of_mem _ hrule) hid e he place heq
      · obtain ⟨place', node, -, rfl⟩ := (first.mem_clauses hfirst before.data).mp he
        have hsame := (clauseId_inj (mark_notMem_of_unreserved hfirst)
          (mark_notMem_of_unreserved hid) heq).1
        exact ruleId_ne_of_nodup hids hfirst hrule hid hsame
    rw [List.foldl_cons, mem_results_foldl_run (nodup_ownerIds_tail hids) hfree', hrun, or_assoc]
    refine or_congr_right ⟨?_, ?_⟩
    · rintro (⟨hid, hclause⟩ | ⟨rule, data, hevaluated, hclause⟩)
      · exact ⟨first, before.data, evaluatedOn_cons.mpr (.inl ⟨hid, rfl, rfl⟩), hclause⟩
      · exact ⟨rule, data, evaluatedOn_cons.mpr (.inr hevaluated), hclause⟩
    · rintro ⟨rule, data, hevaluated, hclause⟩
      rcases evaluatedOn_cons.mp hevaluated with ⟨hid, rfl, rfl⟩ | hevaluated
      · exact .inl ⟨hid, hclause⟩
      · exact .inr ⟨rule, data, hevaluated, hclause⟩

/-- The rules that match are those whose conditions hold on the data that the
rules before them left. -/
theorem mem_matched_foldl_run {id : String} :
    ∀ {rules : List Rule} {before : RulesOutcome},
      id ∈ (rules.foldl (Rule.run context) before).matched ↔ id ∈ before.matched ∨
        ∃ rule data, EvaluatedOn context before rules rule data ∧ id = rule.ruleId ∧
          rule.condition.holds (.ofData data context) = true
  | [], before => by simp [not_evaluatedOn_nil]
  | first :: rest, before => by
    rw [List.foldl_cons, mem_matched_foldl_run, Rule.mem_matched_run, or_assoc]
    refine or_congr_right ⟨?_, ?_⟩
    · rintro (⟨hid, hmatched⟩ | ⟨rule, data, hevaluated, hmatched⟩)
      · exact ⟨first, before.data, evaluatedOn_cons.mpr (.inl ⟨hid, rfl, rfl⟩), hmatched⟩
      · exact ⟨rule, data, evaluatedOn_cons.mpr (.inr hevaluated), hmatched⟩
    · rintro ⟨rule, data, hevaluated, hmatched⟩
      rcases evaluatedOn_cons.mp hevaluated with ⟨hid, rfl, rfl⟩ | hevaluated
      · exact .inl ⟨hid, hmatched⟩
      · exact .inr ⟨rule, data, hevaluated, hmatched⟩

theorem sorted_results_foldl_run :
    ∀ (rules : List Rule) {before : RulesOutcome}, Dict.Sorted before.results →
      Dict.Sorted (rules.foldl (Rule.run context) before).results
  | [], _, h => h
  | rule :: rest, before, h => by
    refine sorted_results_foldl_run rest ?_
    rw [Rule.results_run]
    split
    · exact h
    · exact h.insertAll _

/-! ### Rule sets -/

namespace RuleSet

/-- The nodes whose values a run shows: those of the conditions of the rules in
scope with unreserved ids, each with the data that its rule was evaluated on. -/
def Shows (set : RuleSet) (data : Dict Json) (context : Context) (rule : Rule)
    (place : List Nat) (node : Condition) (seen : Dict Json) : Prop :=
  EvaluatedOn context.value (.start data) (set.inOrder context) rule seen ∧
    rule.condition.node? place = some node

variable {set : RuleSet} {data : Dict Json} {context : Context}

theorem nodup_ownerIds_inOrder
    (h : (ownerIds (set.rules.filter fun rule => rule.inScope context)).Nodup) :
    (ownerIds (set.inOrder context)).Nodup := by
  have hperm := perm_byPriority (set.rules.filter fun rule => rule.inScope context)
  exact ((hperm.filter _).map _).nodup_iff.mpr h

theorem mem_results_apply (hids : (ownerIds (set.inOrder context)).Nodup) {id : String}
    {value : Bool} :
    (id, value) ∈ (set.apply data context).results ↔
      ∃ rule place node seen, set.Shows data context rule place node seen ∧
        id = clauseId rule.ruleId place ∧ value = node.holds (.ofData seen context.value) := by
  have hfree : ∀ rule ∈ set.inOrder context, isReservedId rule.ruleId = false →
      ∀ e ∈ (RulesOutcome.start data).results, ∀ place, e.1 ≠ clauseId rule.ruleId place :=
    fun _ _ _ _ he => absurd he List.not_mem_nil
  rw [apply, mem_results_foldl_run hids hfree]
  constructor
  · rintro (hstart | ⟨rule, seen, hevaluated, hclause⟩)
    · exact absurd hstart List.not_mem_nil
    · obtain ⟨place, node, hnode, heq⟩ := (rule.mem_clauses hevaluated.1 seen).mp hclause
      obtain ⟨hid, hvalue⟩ := Prod.mk.inj heq
      exact ⟨rule, place, node, seen, ⟨hevaluated, hnode⟩, hid, hvalue⟩
  · rintro ⟨rule, place, node, seen, ⟨hevaluated, hnode⟩, rfl, rfl⟩
    exact .inr ⟨rule, seen, hevaluated,
      (rule.mem_clauses hevaluated.1 seen).mpr ⟨place, node, hnode, rfl⟩⟩

theorem Shows.unique (hids : (ownerIds (set.inOrder context)).Nodup) {rule rule' : Rule}
    {place place' : List Nat} {node node' : Condition} {seen seen' : Dict Json}
    (h : set.Shows data context rule place node seen)
    (h' : set.Shows data context rule' place' node' seen')
    (hsame : clauseId rule.ruleId place = clauseId rule'.ruleId place') :
    rule = rule' ∧ place = place' ∧ seen = seen' := by
  obtain ⟨hid, hplace⟩ := clauseId_inj (mark_notMem_of_unreserved h.1.1)
    (mark_notMem_of_unreserved h'.1.1) hsame
  obtain ⟨hrule, hseen⟩ := h.1.unique hids h'.1 hid
  exact ⟨hrule, hplace, hseen⟩

/-- A rule with an unreserved id has matched exactly when the clause under its id is true. -/
theorem mem_matched_apply (hids : (ownerIds (set.inOrder context)).Nodup) {rule : Rule}
    (hid : isReservedId rule.ruleId = false) :
    rule.ruleId ∈ (set.apply data context).matched ↔
      (rule.ruleId, true) ∈ (set.apply data context).results := by
  rw [mem_results_apply hids, apply, mem_matched_foldl_run]
  constructor
  · rintro (hstart | ⟨other, seen, hevaluated, hsame, hholds⟩)
    · exact absurd hstart List.not_mem_nil
    · exact ⟨other, [], other.condition, seen, ⟨hevaluated, rfl⟩, hsame, hholds.symm⟩
  · rintro ⟨other, place, node, seen, ⟨hevaluated, hnode⟩, hsame, hholds⟩
    -- The id of a rule is the id of the root of a condition.
    have hroot : clauseId rule.ruleId [] = clauseId other.ruleId place := hsame
    obtain ⟨hother, rfl⟩ := clauseId_inj (mark_notMem_of_unreserved hid)
      (mark_notMem_of_unreserved hevaluated.1) hroot
    obtain rfl := Option.some.inj hnode
    exact .inr ⟨other, seen, hevaluated, hother, hholds.symm⟩

/-- **The results of a run are complete, and no result takes the place of
another.** If the rules in scope with unreserved ids have different ids, the trace
has each id once; its results are, under the id of each node of the condition of
each such rule, whether the node holds on the data that the rule was evaluated on,
and nothing else; different nodes have different ids. Each such rule is evaluated,
and has matched exactly when the result under its own id is true. -/
theorem complete_results (data : Dict Json)
    (hids : (ownerIds (set.rules.filter fun rule => rule.inScope context)).Nodup) :
    let trace := (set.apply data context).trace
    trace.rulesConsidered = (set.inOrder context).map (·.ruleId) ∧
      trace.conditionResults.keys.Nodup ∧
      (∀ id value, (id, value) ∈ trace.conditionResults ↔
        ∃ rule place node seen, set.Shows data context rule place node seen ∧
          id = clauseId rule.ruleId place ∧ value = node.holds (.ofData seen context.value)) ∧
      (∀ rule rule' place place' node node' seen seen',
        set.Shows data context rule place node seen →
        set.Shows data context rule' place' node' seen' →
        clauseId rule.ruleId place = clauseId rule'.ruleId place' →
        rule = rule' ∧ place = place' ∧ seen = seen') ∧
      ∀ rule ∈ set.inOrder context, isReservedId rule.ruleId = false →
        (∃ seen, ∀ place node, rule.condition.node? place = some node →
          set.Shows data context rule place node seen) ∧
        (rule.ruleId ∈ trace.rulesMatched ↔ (rule.ruleId, true) ∈ trace.conditionResults) := by
  have horder := nodup_ownerIds_inOrder hids
  have hsorted : Dict.Sorted (RulesOutcome.start data).results := trivial
  refine ⟨considered_foldl_run context.value (set.inOrder context) (.start data),
    (sorted_results_foldl_run _ hsorted).nodup_keys, fun _ _ => mem_results_apply horder,
    fun _ _ _ _ _ _ _ _ h h' => h.unique horder h', fun rule hrule hid => ⟨?_, ?_⟩⟩
  · obtain ⟨earlier, later, hsplit⟩ := List.append_of_mem hrule
    exact ⟨_, fun place node hnode => ⟨⟨hid, earlier, later, hsplit, rfl⟩, hnode⟩⟩
  · exact mem_matched_apply horder hid

/-- A rule that opens a form, a rule whose id is the id of a node of the first, and
a rule that reads what the first has written. -/
def opening : RuleSet := ⟨"1", [
  ⟨"open", "", .zero false, none, .all [.not (.any [])],
    [.setField "data.state" (some (.string "open")) none]⟩,
  ⟨"open#0", "", .zero false, none, .any [], []⟩,
  ⟨"send", "", .zero false, none, .any [.all [.compare ⟨.exists, .path "data.state", none⟩]], []⟩]⟩

/-- The node of the first rule has its own result, and the last rule matches on
what the first has written. -/
theorem complete_results_opening :
    let trace := (opening.apply [] .empty).trace
    (ownerIds (opening.rules.filter fun rule => rule.inScope .empty)).Nodup ∧
      ("open#0", true) ∈ trace.conditionResults ∧ ("send#0.0", true) ∈ trace.conditionResults ∧
      "send" ∈ trace.rulesMatched := by
  intro trace
  have hids : (ownerIds (opening.rules.filter fun rule => rule.inScope .empty)).Nodup := by
    decide +kernel
  obtain ⟨-, -, hresults, -, hrules⟩ := complete_results [] hids
  have hopen : EvaluatedOn Context.empty.value (.start []) (opening.inOrder .empty)
      opening.rules[0] [] := ⟨by decide, [], opening.rules.tail, rfl, rfl⟩
  have hsend : EvaluatedOn Context.empty.value (.start []) (opening.inOrder .empty)
      opening.rules[2] [("state", .string "open")] :=
    ⟨by decide, opening.rules.take 2, [], rfl, by rfl⟩
  refine ⟨hids, (hresults _ _).mpr ⟨_, [0], .not (.any []), _, ⟨hopen, rfl⟩, rfl, rfl⟩,
    (hresults _ _).mpr ⟨_, [0, 0], _, _, ⟨hsend, rfl⟩, rfl, rfl⟩, ?_⟩
  refine (hrules _ (mem_of_evaluatedOn hsend) hsend.1).2.mpr ?_
  exact (hresults _ _).mpr ⟨_, [], _, _, ⟨hsend, rfl⟩, rfl, rfl⟩

end RuleSet
end PageFlow
