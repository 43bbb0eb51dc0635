/-
# The order of rules without ties

The rules for a context run by descending priority, where minus zero stands below
zero. Rules of different numbers leave no choice: their order is that of the numbers,
however they are declared, and rules that are not for the context have no part in it.
So what such rules do to some data, with all that the trace tells of it, depends only
on which rules there are for the context.

Key definitions: `Descending`, `WithoutTies`, `RuleSet.Rearranged`.
Key theorems: `descending_byPriority`, `byPriority_of_perm`, `RuleSet.apply_of_rearranged`.
-/
import Mathlib.Data.List.Nodup
import PageFlow.Proofs.Rule.Run

namespace PageFlow

namespace Binary64

/-! ### The order of priorities -/

theorem below_iff {x y : Binary64} :
    x.below y = true ↔ x.units < y.units ∨
      (x.units = 0 ∧ y.units = 0 ∧ x.negative = true ∧ y.negative = false) := by
  simp only [below, units_eq_zero_iff, Bool.or_eq_true, decide_eq_true_eq, Bool.and_eq_true,
    Bool.not_eq_true', and_assoc]

theorem units_le_of_not_below {x y : Binary64} (h : x.below y = false) : y.units ≤ x.units := by
  have hlt : ¬ x.units < y.units := fun hlt => by
    rw [below_iff.mpr (.inl hlt)] at h
    cases h
  omega

theorem below_asymm {x y : Binary64} (h : x.below y = true) : y.below x = false := by
  rw [← Bool.not_eq_true, below_iff]
  rcases below_iff.mp h with hlt | ⟨hx, hy, hneg, hpos⟩
  · rintro (hlt' | ⟨hy, hx, -, -⟩) <;> omega
  · rintro (hlt' | ⟨-, -, hneg', -⟩)
    · omega
    · rw [hpos] at hneg'
      cases hneg'

/-- To stand not below carries over: of the zeros only minus zero is below the other. -/
theorem not_below_trans {x y z : Binary64} (hxy : x.below y = false) (hyz : y.below z = false) :
    x.below z = false := by
  have hxy' := units_le_of_not_below hxy
  have hyz' := units_le_of_not_below hyz
  rw [← Bool.not_eq_true, below_iff] at hxy hyz ⊢
  rintro (hlt | ⟨hx, hz, hneg, hpos⟩)
  · omega
  · have hy : y.units = 0 := by omega
    cases hsign : y.negative with
    | true => exact hyz (.inr ⟨hy, hz, hsign, hpos⟩)
    | false => exact hxy (.inr ⟨hx, hy, hneg, hsign⟩)

end Binary64

/-! ### Sorting by priority -/

/-- In a list no rule stands below a later one. -/
def Descending (rules : List Rule) : Prop :=
  rules.Pairwise fun a b => a.priority.below b.priority = false

theorem descending_insertByPriority (rule : Rule) : ∀ {rules : List Rule}, Descending rules →
    Descending (insertByPriority rule rules)
  | [], _ => List.pairwise_singleton _ _
  | next :: rest, h => by
    obtain ⟨hnext, hrest⟩ := List.pairwise_cons.mp h
    unfold insertByPriority
    split
    · next hbelow =>
      refine List.pairwise_cons.mpr ⟨fun other hother => ?_, descending_insertByPriority rule hrest⟩
      rcases List.mem_cons.mp ((perm_insertByPriority rule rest).mem_iff.mp hother) with rfl | hmem
      · exact Binary64.below_asymm hbelow
      · exact hnext other hmem
    · next hbelow =>
      have hbelow : rule.priority.below next.priority = false := by simpa using hbelow
      refine List.pairwise_cons.mpr ⟨fun other hother => ?_, h⟩
      rcases List.mem_cons.mp hother with rfl | hmem
      · exact hbelow
      · exact Binary64.not_below_trans hbelow (hnext other hmem)

/-- **The rules are sorted by descending priority.** -/
theorem descending_byPriority : ∀ rules : List Rule, Descending (byPriority rules)
  | [] => .nil
  | rule :: rest => descending_insertByPriority rule (descending_byPriority rest)

/-- The priorities of the rules are pairwise different numbers. -/
def WithoutTies (rules : List Rule) : Prop :=
  rules.Pairwise fun a b => a.priority.units ≠ b.priority.units

theorem WithoutTies.eq_of_units_eq {rules : List Rule} (h : WithoutTies rules) {a b : Rule}
    (ha : a ∈ rules) (hb : b ∈ rules) (hunits : a.priority.units = b.priority.units) : a = b := by
  have hnodup : (rules.map fun rule => rule.priority.units).Nodup := List.pairwise_map.mpr h
  exact List.inj_on_of_nodup_map hnodup ha hb hunits

/-- **Without ties the sorted order is that of the numbers**, whatever the order was before. -/
theorem byPriority_of_perm {rules rules' : List Rule} (hties : WithoutTies rules)
    (hperm : rules.Perm rules') : byPriority rules = byPriority rules' := by
  have hsorted := perm_byPriority rules
  have hsorted' := perm_byPriority rules'
  refine List.Perm.eq_of_pairwise (fun a b ha hb hab hba => ?_) (descending_byPriority rules)
    (descending_byPriority rules') (hsorted.trans (hperm.trans hsorted'.symm))
  have hunits := Int.le_antisymm (Binary64.units_le_of_not_below hba)
    (Binary64.units_le_of_not_below hab)
  exact hties.eq_of_units_eq (hsorted.mem_iff.mp ha)
    (hperm.mem_iff.mpr (hsorted'.mem_iff.mp hb)) hunits

/-! ### Declared rules -/

namespace RuleSet

/-- The rules for a context, as they are declared. -/
def selected (set : RuleSet) (context : Context) : List Rule :=
  set.rules.filter fun rule => rule.inScope context

/-- Two sets declare the same rules for a context when one comes from the other by
other places for its rules, by rules that are not for the context, and by another
version. -/
inductive Rearranged (context : Context) : RuleSet → RuleSet → Prop
  | permuted {version version' : String} {rules rules' : List Rule} (h : rules.Perm rules') :
    Rearranged context ⟨version, rules⟩ ⟨version', rules'⟩
  | inserted (version : String) (before after : List Rule) {rule : Rule}
      (h : rule.inScope context = false) :
    Rearranged context ⟨version, before ++ after⟩ ⟨version, before ++ rule :: after⟩
  | removed (version : String) (before after : List Rule) {rule : Rule}
      (h : rule.inScope context = false) :
    Rearranged context ⟨version, before ++ rule :: after⟩ ⟨version, before ++ after⟩
  | trans {set middle set' : RuleSet} (h : Rearranged context set middle)
      (h' : Rearranged context middle set') : Rearranged context set set'

theorem Rearranged.perm_selected {context : Context} {set set' : RuleSet}
    (h : Rearranged context set set') : (set.selected context).Perm (set'.selected context) := by
  induction h with
  | permuted h => exact h.filter _
  | inserted version before after h =>
    simp only [selected, List.filter_append, List.filter_cons, h, Bool.false_eq_true, if_false]
    exact .refl _
  | removed version before after h =>
    simp only [selected, List.filter_append, List.filter_cons, h, Bool.false_eq_true, if_false]
    exact .refl _
  | trans _ _ ih ih' => exact ih.trans ih'

/-- **The place of a rule does not matter without ties.** Rules for a context whose
priorities are different numbers do the same to all data, wherever they and the rules
that are not for the context are declared: the data, the rules considered and matched,
the clause results, the events and the faults are the same, and so is the trace. -/
theorem apply_of_rearranged {set set' : RuleSet} {context : Context}
    (hties : WithoutTies (set.selected context)) (h : Rearranged context set set')
    (data : Dict Json) :
    set.apply data context = set'.apply data context ∧
      (set.apply data context).trace = (set'.apply data context).trace := by
  have horder : set.inOrder context = set'.inOrder context :=
    byPriority_of_perm hties h.perm_selected
  have happly : set.apply data context = set'.apply data context := by
    unfold apply
    rw [horder]
  exact ⟨happly, congrArg RulesOutcome.trace happly⟩

/-- A shop sets a price and then puts it on the label; another country has a price of
its own. The priorities are the two least numbers above zero. -/
def setPrice : Rule :=
  ⟨"price", "", { Binary64.zero false with
      mantissa := 2, mantissa_lt := by decide, normal := .inr rfl }, none, .all [],
    [.setField "data.price" (some (.string "9.50")) none]⟩

def putOnLabel : Rule :=
  ⟨"label", "", { Binary64.zero false with
      mantissa := 1, mantissa_lt := by decide, normal := .inr rfl }, none, .all [],
    [.setField "data.label" none (some "data.price")]⟩

def setForeignPrice : Rule :=
  ⟨"foreign", "", { Binary64.zero false with
      mantissa := 2, mantissa_lt := by decide, normal := .inr rfl }, some ⟨["FR"], []⟩, .all [],
    [.setField "data.price" (some (.string "8.90")) none]⟩

/-- The label shows the price also where it is declared first, with a tie between the
price and one that is not for the context. -/
theorem apply_of_rearranged_label :
    let set : RuleSet := ⟨"1", [putOnLabel, setForeignPrice, setPrice]⟩
    let set' : RuleSet := ⟨"2", [setPrice, putOnLabel]⟩
    WithoutTies (set.selected .empty) ∧ Rearranged .empty set set' ∧
      set.apply [] .empty = set'.apply [] .empty ∧
      (set'.apply [] .empty).data = [("label", .string "9.50"), ("price", .string "9.50")] := by
  intro set set'
  have hties : WithoutTies (set.selected .empty) :=
    show WithoutTies [putOnLabel, setPrice] by unfold WithoutTies; decide
  have hsame : Rearranged .empty set set' :=
    .trans (.removed "1" [putOnLabel] [setPrice] (by decide)) (.permuted (.swap _ _ _))
  exact ⟨hties, hsame, (apply_of_rearranged hties hsame []).1, by rfl⟩

end RuleSet
end PageFlow
