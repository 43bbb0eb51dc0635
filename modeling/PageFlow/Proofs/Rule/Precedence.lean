/-
# The order in which rules are considered

The rules for a context are considered by descending priority, each as often as it is
declared, and no other rule is. Rules of one priority keep the order in which they are
declared: a rule is inserted in front of all rules that it does not stand below. Zero has
two forms, and minus zero stands below zero, so rules of priority zero are considered in
two groups, those of minus zero last, and each group keeps its order.

Key definitions: `Rule.IsFor`, `ofPriority`, `Ranked`.
Key theorems: `Rule.inScope_iff`, `filter_byPriority`, `filter_append_filter_not`,
`RuleSet.ranked_considered`, `RuleSet.not_ranked_zeros`.
-/
import PageFlow.Proofs.Rule.Atomicity
import PageFlow.Proofs.Rule.Order

namespace PageFlow

/-! ### Rules for a context -/

/-- A scope admits the contexts of its countries and roles. Without countries it admits
all countries, and without roles all roles. -/
def RuleScope.Admits (scope : RuleScope) (context : Context) : Prop :=
  (scope.countries = [] ∨ ∃ country ∈ context.country, country ∈ scope.countries) ∧
    (scope.roles = [] ∨ ∃ role ∈ scope.roles, context.role = some role ∨ role ∈ context.roles)

/-- A rule is for the contexts that its scope admits; without a scope it is for all. -/
def Rule.IsFor (rule : Rule) (context : Context) : Prop :=
  ∀ scope ∈ rule.scope, scope.Admits context

theorem RuleScope.admits_iff {scope : RuleScope} {context : Context} :
    scope.admits context = true ↔ scope.Admits context := by
  have hcountry : (context.country.any fun c => scope.countries.contains c) = true ↔
      ∃ country ∈ context.country, country ∈ scope.countries := by
    cases context.country <;> simp
  have hrole : context.hasAnyRole scope.roles = true ↔
      ∃ role ∈ scope.roles, context.role = some role ∨ role ∈ context.roles := by
    simp only [Context.hasAnyRole, List.any_eq_true, List.mem_append, Option.mem_toList,
      List.contains_iff_mem]
    exact exists_congr fun role => and_comm
  simp only [admits, Admits, Bool.and_eq_true, Bool.or_eq_true, List.isEmpty_iff, hcountry, hrole]

theorem Rule.inScope_iff {rule : Rule} {context : Context} :
    rule.inScope context = true ↔ rule.IsFor context := by
  unfold inScope IsFor
  cases rule.scope with
  | none => simp
  | some scope => simp [RuleScope.admits_iff]

instance (rule : Rule) (context : Context) : Decidable (rule.IsFor context) :=
  decidable_of_iff _ Rule.inScope_iff

/-! ### What sorting keeps -/

section Filter

variable {p : Rule → Bool} {rule : Rule}

theorem filter_insertByPriority_of_neg (h : p rule = false) (rules : List Rule) :
    (insertByPriority rule rules).filter p = rules.filter p := by
  induction rules with
  | nil => simp [insertByPriority, h]
  | cons next rest ih =>
    unfold insertByPriority
    split
    · rw [List.filter_cons, List.filter_cons, ih]
    · rw [List.filter_cons, if_neg (by simp [h])]

/-- A rule is inserted in front of all rules that it does not stand below. -/
theorem filter_insertByPriority_of_pos (h : p rule = true) {rules : List Rule}
    (habove : ∀ other ∈ rules, p other = true → rule.priority.below other.priority = false) :
    (insertByPriority rule rules).filter p = rule :: rules.filter p := by
  induction rules with
  | nil => simp [insertByPriority, h]
  | cons next rest ih =>
    obtain ⟨hnext, hrest⟩ := List.forall_mem_cons.mp habove
    unfold insertByPriority
    split
    · next hbelow =>
      have hskipped : p next = false := by
        by_contra hp
        simp [hnext (by simpa using hp)] at hbelow
      rw [List.filter_cons, List.filter_cons, hskipped, if_neg (by simp), if_neg (by simp),
        ih hrest]
    · rw [List.filter_cons, if_pos h]

/-- **Sorting keeps the order of rules none of which stands below another.** -/
theorem filter_byPriority {rules : List Rule}
    (h : ∀ a ∈ rules, ∀ b ∈ rules, p a = true → p b = true →
      a.priority.below b.priority = false) :
    (byPriority rules).filter p = rules.filter p := by
  induction rules with
  | nil => rfl
  | cons rule rest ih =>
    have hrest : (byPriority rest).filter p = rest.filter p :=
      ih fun a ha b hb => h a (List.mem_cons_of_mem _ ha) b (List.mem_cons_of_mem _ hb)
    show (insertByPriority rule (byPriority rest)).filter p = _
    by_cases hp : p rule = true
    · have habove : ∀ other ∈ byPriority rest, p other = true →
          rule.priority.below other.priority = false := fun other hother hpother =>
        h rule List.mem_cons_self other
          (List.mem_cons_of_mem _ ((perm_byPriority rest).mem_iff.mp hother)) hp hpother
      rw [filter_insertByPriority_of_pos hp habove, hrest, List.filter_cons, if_pos hp]
    · rw [filter_insertByPriority_of_neg (by simpa using hp), hrest, List.filter_cons, if_neg hp]

end Filter

/-- A list in which nothing with a property stands behind something without it falls into
two parts. -/
theorem filter_append_filter_not {α : Type} {q : α → Bool} {l : List α}
    (h : l.Pairwise fun a b => q b = true → q a = true) :
    l.filter q ++ l.filter (fun x => !q x) = l := by
  induction l with
  | nil => rfl
  | cons a rest ih =>
    obtain ⟨ha, hrest⟩ := List.pairwise_cons.mp h
    by_cases hq : q a = true
    · simp [hq, ih hrest]
    · have hnone : ∀ b ∈ rest, q b = false := by
        intro b hb
        by_contra hqb
        exact hq (ha b hb (by simpa using hqb))
      have hnothing : rest.filter q = [] := by simpa using hnone
      have hall : rest.filter (fun x => !q x) = rest := by simpa using hnone
      simp [hq, hnothing, hall]

/-! ### The order of the rules -/

namespace Binary64

/-- Whether this is zero without a minus sign. -/
def isPlusZero (x : Binary64) : Bool := x.isZero && !x.negative

/-- Whether this is zero with a minus sign. -/
def isMinusZero (x : Binary64) : Bool := x.isZero && x.negative

variable {x : Binary64}

theorem isPlusZero_iff : x.isPlusZero = true ↔ x.units = 0 ∧ x.negative = false := by
  simp [isPlusZero, units_eq_zero_iff]

theorem isMinusZero_iff : x.isMinusZero = true ↔ x.units = 0 ∧ x.negative = true := by
  simp [isMinusZero, units_eq_zero_iff]

theorem isMinusZero_eq (h : x.units = 0) : x.isMinusZero = !x.isPlusZero := by
  simp [isMinusZero, isPlusZero, (units_eq_zero_iff x).mp h]

end Binary64

/-- The rules whose priority has a value, which is counted in units of the least one. -/
def ofPriority (n : Int) (rules : List Rule) : List Rule :=
  rules.filter fun rule => rule.priority.units = n

/-- How rules are ranked that are declared in some order. -/
structure Ranked (declared order : List Rule) : Prop where
  /-- Each is there as often as it is declared, and no other is. -/
  perm : order.Perm declared
  /-- A later one has no higher priority. -/
  descending : order.Pairwise fun a b => b.priority.units ≤ a.priority.units
  /-- Those of one priority are in the order in which they are declared, at least if none
  of them is minus zero. -/
  tied : ∀ n, (n = 0 → ∀ rule ∈ declared, rule.priority.isMinusZero = false) →
    ofPriority n order = ofPriority n declared
  /-- Of those of priority zero, the ones of minus zero come last. -/
  zeros : ofPriority 0 order =
    (declared.filter fun rule => rule.priority.isPlusZero) ++
      declared.filter fun rule => rule.priority.isMinusZero

theorem ofPriority_byPriority {n : Int} {rules : List Rule}
    (h : n = 0 → ∀ rule ∈ rules, rule.priority.isMinusZero = false) :
    ofPriority n (byPriority rules) = ofPriority n rules := by
  apply filter_byPriority
  intro a ha b _ hpa hpb
  have hpa : a.priority.units = n := by simpa using hpa
  have hpb : b.priority.units = n := by simpa using hpb
  rw [← Bool.not_eq_true, Binary64.below_iff]
  rintro (hlt | ⟨hzero, -, hneg, -⟩)
  · omega
  · have hplus := h (hpa.symm.trans hzero) a ha
    simp [Binary64.isMinusZero, (Binary64.units_eq_zero_iff _).mp hzero, hneg] at hplus

theorem filter_sameSign_byPriority {q : Binary64 → Bool} {negative : Bool}
    (hq : ∀ x, q x = true → x.units = 0 ∧ x.negative = negative) (rules : List Rule) :
    (byPriority rules).filter (fun rule => q rule.priority) =
      rules.filter fun rule => q rule.priority := by
  apply filter_byPriority
  intro a _ b _ hpa hpb
  obtain ⟨hzero, hsign⟩ := hq _ hpa
  obtain ⟨hzero', hsign'⟩ := hq _ hpb
  rw [← Bool.not_eq_true, Binary64.below_iff]
  rintro (hlt | ⟨-, -, hneg, hpos⟩)
  · omega
  · rw [hsign] at hneg
    rw [hsign', hneg] at hpos
    cases hpos

theorem Descending.pairwise_zeros {rules : List Rule} (h : Descending rules) :
    (ofPriority 0 rules).Pairwise fun a b =>
      b.priority.isPlusZero = true → a.priority.isPlusZero = true := by
  refine (h.sublist List.filter_sublist).imp_of_mem fun {a b} ha _ hbelow hplus => ?_
  have hzero : a.priority.units = 0 := by simpa using (List.mem_filter.mp ha).2
  obtain ⟨hzero', hsign'⟩ := Binary64.isPlusZero_iff.mp hplus
  refine Binary64.isPlusZero_iff.mpr ⟨hzero, ?_⟩
  by_contra hsign
  have hminus : a.priority.below b.priority = true :=
    Binary64.below_iff.mpr (.inr ⟨hzero, hzero', by simpa using hsign, hsign'⟩)
  simp [hminus] at hbelow

theorem ofPriority_zero_byPriority (rules : List Rule) :
    ofPriority 0 (byPriority rules) =
      (rules.filter fun rule => rule.priority.isPlusZero) ++
        rules.filter fun rule => rule.priority.isMinusZero := by
  have hplus : (ofPriority 0 (byPriority rules)).filter (fun rule => rule.priority.isPlusZero) =
      rules.filter fun rule => rule.priority.isPlusZero := by
    rw [← filter_sameSign_byPriority (fun x => Binary64.isPlusZero_iff.mp) rules, ofPriority,
      List.filter_filter]
    congr 1
    funext rule
    by_cases hzero : rule.priority.isPlusZero = true
    · simp [hzero, (Binary64.isPlusZero_iff.mp hzero).1]
    · simp [hzero]
  have hminus : (ofPriority 0 (byPriority rules)).filter (fun rule => !rule.priority.isPlusZero) =
      rules.filter fun rule => rule.priority.isMinusZero := by
    rw [← filter_sameSign_byPriority (fun x => Binary64.isMinusZero_iff.mp) rules, ofPriority,
      List.filter_filter]
    congr 1
    funext rule
    by_cases hzero : rule.priority.units = 0
    · simp [hzero, Binary64.isMinusZero_eq hzero]
    · have hnone : rule.priority.isMinusZero = false := by
        by_contra hminus
        exact hzero (Binary64.isMinusZero_iff.mp (by simpa using hminus)).1
      simp [hzero, hnone]
  have hparts := filter_append_filter_not (descending_byPriority rules).pairwise_zeros
  rw [hplus, hminus] at hparts
  exact hparts.symm

theorem ranked_byPriority (rules : List Rule) : Ranked rules (byPriority rules) where
  perm := perm_byPriority rules
  descending := (descending_byPriority rules).imp Binary64.units_le_of_not_below
  tied _ h := ofPriority_byPriority h
  zeros := ofPriority_zero_byPriority rules

namespace RuleSet

/-- **The rules for a context are considered in the order of their priorities.** Each is
considered as often as it is declared, and no other rule is. Rules of one priority are
considered in the order in which they are declared; where some of them are of minus zero,
those of the other zero come first. -/
theorem ranked_considered (set : RuleSet) (data : Dict Json) (context : Context) :
    ∃ order, (set.apply data context).trace.rulesConsidered = order.map (·.ruleId) ∧
      Ranked (set.rules.filter fun rule => rule.IsFor context) order := by
  have hdeclared : (set.rules.filter fun rule => rule.IsFor context) =
      set.rules.filter fun rule => rule.inScope context := by
    congr 1
    funext rule
    rw [Bool.eq_iff_iff, decide_eq_true_iff, Rule.inScope_iff]
  rw [hdeclared]
  exact ⟨set.inOrder context,
    considered_foldl_run context.value (set.inOrder context) (.start data), ranked_byPriority _⟩

/-- Two rules of priority zero, the first of which is written with a minus sign. -/
def signedZeros : RuleSet :=
  ⟨"1", [⟨"first", "", .zero true, none, .all [], []⟩,
    ⟨"second", "", .zero false, none, .all [], []⟩]⟩

/-- The two are of one priority, but are not considered in the order in which they are
declared. -/
theorem not_ranked_zeros :
    (∀ rule ∈ signedZeros.rules, rule.IsFor .empty ∧ rule.priority.units = 0) ∧
      (signedZeros.apply [] .empty).trace.rulesConsidered = ["second", "first"] ∧
      signedZeros.rules.map (·.ruleId) = ["first", "second"] := by
  refine ⟨?_, by rfl, rfl⟩
  decide

end RuleSet
end PageFlow
