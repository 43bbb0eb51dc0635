/-
# The trace of rules that were read

The rules of a set that was read report events whose payloads are ordered and not
`null`, and their results are listed by id. So the trace of what they did reads
back.

Key theorems: `lasting_performAll`, `lasting_foldl_run`, `RuleSet.wellFormed_trace`.
-/
import PageFlow.Proofs.Rule.Run
import PageFlow.Proofs.Rule.Clauses
import PageFlow.Proofs.Rule.Document
import PageFlow.Proofs.Trace.Document

namespace PageFlow

variable {ruleId : String} {context : Json} {state next : Dict Json × List EmittedEvent}

/-- An action adds to the events at most one, with the payload that it gives. -/
theorem Action.Lasting.perform {action : Action} (h : action.Lasting)
    (hperform : action.perform ruleId context state = .ok next)
    (hstate : ∀ e ∈ state.2, e.Lasting) : ∀ e ∈ next.2, e.Lasting := by
  cases action with
  | setField path value valueFrom =>
    rw [Action.perform_setField] at hperform
    obtain ⟨target, -, hvalue⟩ := eq_ok_of_bind hperform
    obtain ⟨new, -, hwrite⟩ := eq_ok_of_bind hvalue
    obtain ⟨data, -, rfl⟩ := eq_ok_of_map hwrite
    exact hstate
  | emitEvent event payload =>
    rw [Action.perform_emitEvent] at hperform
    obtain rfl := Except.ok.inj hperform
    intro e he
    rcases List.mem_append.mp he with he | he
    · exact hstate e he
    · obtain rfl := List.mem_singleton.mp he
      exact h

theorem lasting_performAll : ∀ {actions : List Action} {state : Dict Json × List EmittedEvent},
    (∀ action ∈ actions, action.Lasting) →
      performAll ruleId context actions state = .ok next → (∀ e ∈ state.2, e.Lasting) →
      ∀ e ∈ next.2, e.Lasting
  | [], state, _, hperform, hstate => by
    obtain rfl := Except.ok.inj hperform
    exact hstate
  | action :: rest, state, h, hperform, hstate => by
    obtain ⟨haction, hrest⟩ := List.forall_mem_cons.mp h
    rw [performAll_cons] at hperform
    obtain ⟨middle, hfirst, hperform⟩ := eq_ok_of_bind hperform
    exact lasting_performAll hrest hperform (haction.perform hfirst hstate)

theorem Rule.lasting_run {rule : Rule} (h : ∀ action ∈ rule.actions, action.Lasting)
    {before : RulesOutcome} (hbefore : ∀ e ∈ before.events, e.Lasting) :
    ∀ e ∈ (rule.run context before).events, e.Lasting := by
  have hruns := rule.runs context before
  generalize rule.run context before = after at hruns ⊢
  cases hruns with
  | reserved hid => exact hbefore
  | unmatched hid hvalue => exact hbefore
  | failed hid hvalue e hperform => exact hbefore
  | applied hid hvalue data events hperform =>
    have hevents : ∀ e ∈ events, e.Lasting := lasting_performAll h hperform (by simp)
    intro e he
    rcases List.mem_append.mp he with he | he
    · exact hbefore e he
    · exact hevents e he

theorem lasting_foldl_run : ∀ {rules : List Rule} {before : RulesOutcome},
    (∀ rule ∈ rules, ∀ action ∈ rule.actions, action.Lasting) →
      (∀ e ∈ before.events, e.Lasting) →
      ∀ e ∈ (rules.foldl (Rule.run context) before).events, e.Lasting
  | [], _, _, hbefore => hbefore
  | rule :: rest, _, h, hbefore => by
    obtain ⟨hrule, hrest⟩ := List.forall_mem_cons.mp h
    rw [List.foldl_cons]
    exact lasting_foldl_run hrest (rule.lasting_run hrule hbefore)

/-- **The trace of rules that last is well formed.** -/
theorem RuleSet.wellFormed_trace {set : RuleSet}
    (h : ∀ rule ∈ set.rules, ∀ action ∈ rule.actions, action.Lasting) (data : Dict Json)
    (context : Context) : (set.apply data context).trace.WellFormed where
  sorted_results := sorted_results_foldl_run (set.inOrder context) trivial
  lasting_events :=
    lasting_foldl_run (fun rule hrule => h rule (mem_inOrder.mp hrule).1) (by simp [RulesOutcome.start])

end PageFlow
