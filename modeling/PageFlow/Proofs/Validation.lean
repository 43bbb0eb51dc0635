/-
# What the checks promise

Documents without problems meet at run time only errors that depend on the
data. A path that passes its check can be read and resolved, and a condition
that passes records no error. An action that passes fails only when its write
is refused by the shape of the data. The transitions of a flow that passes lead
to declared states, and each call of a bundle that passes has a mapping.

Key definitions: `RuleFault.RefusedWrite`, `Rule.Checked`.
Key theorems: `resolve_of_readProblems`, `byShape_of_perform`,
`RuleSet.refusedWrite_of_apply`, `Flow.checked_transition`,
`Bundle.isSome_mapping`.
-/
import PageFlow.Proofs.Condition.Errors
import PageFlow.Proofs.Dict
import PageFlow.Proofs.Path.Target
import PageFlow.Proofs.Rule.Run

namespace PageFlow

/-! ### Paths -/

/-- A path that is read without problems has a value. -/
theorem resolve_of_readProblems {owner : Owner} {raw : String} (data : Dict Json) (context : Json)
    (h : readProblems owner raw = []) :
    ∃ value, (Path.parse raw).bind (Scope.ofData data context).resolve = .ok value := by
  have hread := Path.error?_resolve data context raw
  cases hvalue : (Path.parse raw).bind (Scope.ofData data context).resolve with
  | ok value => exact ⟨value, rfl⟩
  | error e =>
    rw [hvalue] at hread
    obtain ⟨problem, hproblem, -⟩ := Path.foretold owner hread.symm
    rw [h] at hproblem
    exact absurd hproblem List.not_mem_nil

/-! ### Actions -/

/-- An action without problems fails only by the shape of the data. -/
theorem byShape_of_perform {owner : Owner} {ruleId : String} {context : Json}
    {state : Dict Json × List EmittedEvent} {e : PathError} :
    ∀ {action : Action}, action.problems owner = [] →
      action.perform ruleId context state = .error e → e.ByShape
  | .emitEvent _ _, _, h => by simp at h
  | .setField path value valueFrom, hp, h => by
    obtain ⟨htarget, hfrom⟩ := List.append_eq_nil_iff.mp hp
    rw [Action.perform_setField] at h
    cases ht : Path.parseDataTarget path with
    | error e' => simp [ht] at htarget
    | ok target =>
      have hnew : ∃ new, Action.newValue state.1 context value valueFrom = .ok new := by
        cases valueFrom with
        | none => exact ⟨_, rfl⟩
        | some raw => exact resolve_of_readProblems state.1 context hfrom
      obtain ⟨new, hnew⟩ := hnew
      simp only [ht, hnew, Except.bind] at h
      cases hw : write target new state.1 with
      | ok data => simp [hw, Except.map] at h
      | error e' =>
        simp only [hw, Except.map, Except.error.injEq] at h
        exact h ▸ byShape_of_write (Path.segments_ne_nil_of_parseTarget ht) hw

theorem byShape_of_performAll {ruleId : String} {context : Json} {e : PathError} :
    ∀ {index : Nat} {actions : List Action} {state : Dict Json × List EmittedEvent},
      actionProblems ruleId index actions = [] →
      performAll ruleId context actions state = .error e → e.ByShape
  | _, [], _, _, h => by simp at h
  | index, action :: rest, state, hp, h => by
    obtain ⟨hhead, hrest⟩ := List.append_eq_nil_iff.mp hp
    rw [performAll_cons] at h
    cases ha : action.perform ruleId context state with
    | error e' =>
      simp only [ha, Except.bind, Except.error.injEq] at h
      exact h ▸ byShape_of_perform hhead ha
    | ok next =>
      simp only [ha, Except.bind] at h
      exact byShape_of_performAll hrest h

/-! ### Rules -/

/-- Whether a fault is a write refused by the shape of the data. -/
def RuleFault.RefusedWrite : RuleFault → Prop
  | .action e => e.ByShape
  | _ => False

/-- What the checks say of a rule. -/
structure Rule.Checked (rule : Rule) : Prop where
  id : isReservedId rule.ruleId = false
  condition : rule.condition.problems (.rule rule.ruleId) = []
  actions : actionProblems rule.ruleId 0 rule.actions = []

theorem checked_of_ruleProblems :
    ∀ {seen : List String} {rules : List Rule}, ruleProblems seen rules = [] →
      ∀ rule ∈ rules, rule.Checked
  | _, [], _, rule, hr => absurd hr List.not_mem_nil
  | seen, first :: rest, h, rule, hr => by
    simp only [ruleProblems, List.append_eq_nil_iff] at h
    obtain ⟨⟨⟨hid, hcondition⟩, hactions⟩, hrest⟩ := h
    rcases List.mem_cons.mp hr with rfl | hr
    · refine ⟨?_, hcondition, hactions⟩
      simpa using (List.append_eq_nil_iff.mp hid).2
    · exact checked_of_ruleProblems hrest rule hr

/-- A checked rule adds at most a refused write to the faults. -/
theorem Rule.Checked.faults_run {rule : Rule} (h : rule.Checked) (context : Json)
    (before : RulesOutcome) (fault : String × RuleFault)
    (hf : fault ∈ (rule.run context before).faults) :
    fault ∈ before.faults ∨ fault.1 = rule.ruleId ∧ fault.2.RefusedWrite := by
  have herrors : (rule.evaluation before.data context).errors = [] :=
    Condition.errors_evaluate before.data context rule.ruleId rule.condition h.condition
  have hruns := rule.runs context before
  generalize rule.run context before = after at hf hruns
  revert hf
  cases hruns with
  | reserved hid => exact absurd hid (by simp [h.id])
  | unmatched hid hvalue =>
    simp only [herrors, List.map_nil, List.append_nil]
    exact Or.inl
  | applied hid hvalue data events hperform =>
    simp only [herrors, List.map_nil, List.append_nil]
    exact Or.inl
  | failed hid hvalue e hperform =>
    simp only [herrors, List.map_nil, List.append_nil, List.mem_append, List.mem_singleton]
    exact Or.imp_right fun hf => hf ▸ ⟨rfl, byShape_of_performAll h.actions hperform⟩

theorem faults_foldl_run {rules : List Rule} (context : Json) (hc : ∀ rule ∈ rules, rule.Checked) :
    ∀ (before : RulesOutcome) (fault : String × RuleFault),
      fault ∈ (rules.foldl (Rule.run context) before).faults →
      fault ∈ before.faults ∨ ∃ rule ∈ rules, fault.1 = rule.ruleId ∧ fault.2.RefusedWrite := by
  induction rules with
  | nil => exact fun before fault hf => Or.inl hf
  | cons rule rest ih =>
    intro before fault hf
    rcases ih (fun r hr => hc r (List.mem_cons_of_mem _ hr)) _ fault hf with hf | ⟨r, hr, h⟩
    · rcases (hc rule List.mem_cons_self).faults_run context before fault hf with hf | h
      · exact Or.inl hf
      · exact Or.inr ⟨rule, List.mem_cons_self, h⟩
    · exact Or.inr ⟨r, List.mem_cons_of_mem _ hr, h⟩

/-- The faults of checked rules are refused writes. -/
theorem RuleSet.refusedWrite_of_apply {set : RuleSet} (h : set.problems = []) (data : Dict Json)
    (context : Context) (fault : String × RuleFault)
    (hf : fault ∈ (set.apply data context).faults) :
    ∃ rule ∈ set.rules, fault.1 = rule.ruleId ∧ fault.2.RefusedWrite := by
  have hc : ∀ rule ∈ set.inOrder context, rule.Checked := fun rule hr =>
    checked_of_ruleProblems h rule (mem_inOrder.mp hr).1
  rcases faults_foldl_run context.value hc (.start data) fault hf with hf | ⟨rule, hr, hfault⟩
  · exact absurd hf List.not_mem_nil
  · exact ⟨rule, (mem_inOrder.mp hr).1, hfault⟩

/-! ### Flows -/

theorem Flow.isSome_initial {flow : Flow} (h : flow.problems = []) :
    (flow.state? flow.initialState).isSome := by
  have hstart := (List.append_eq_nil_iff.mp h).1
  cases hs : flow.state? flow.initialState with
  | none => simp [hs] at hstart
  | some state => rfl

theorem Flow.mem_transitions {flow : Flow} {state event : String} {here : FlowState}
    {t : Transition} (hstate : flow.state? state = some here)
    (ht : Dict.find? event here.transitions = some t) : (state, event, t) ∈ flow.transitions :=
  List.mem_flatMap.mpr ⟨(state, here), Dict.mem_of_find? hstate,
    List.mem_map.mpr ⟨(event, t), Dict.mem_of_find? ht, rfl⟩⟩

/-- A checked transition leads to a declared state, and its guard records no error. -/
theorem Flow.checked_transition {flow : Flow} (h : flow.problems = []) {state event : String}
    {here : FlowState} {t : Transition} (hstate : flow.state? state = some here)
    (ht : Dict.find? event here.transitions = some t) :
    (flow.state? t.target).isSome ∧
      ∀ guard ∈ t.guard, guard.problems (.transition event state) = [] := by
  have hall := List.flatMap_eq_nil_iff.mp (List.append_eq_nil_iff.mp h).2 _
    (mem_transitions hstate ht)
  obtain ⟨htarget, hguard⟩ := List.append_eq_nil_iff.mp hall
  refine ⟨?_, fun guard hg => ?_⟩
  · cases hs : flow.state? t.target with
    | none => simp [hs] at htarget
    | some there => rfl
  · rw [Option.mem_def] at hg
    simpa [hg] using hguard

/-! ### Bundles -/

theorem problems_of_mappingProblems :
    ∀ {seen : List String} {mappings : List ApiMapping}, mappingProblems seen mappings = [] →
      ∀ m ∈ mappings, m.problems = []
  | _, [], _, m, hm => absurd hm List.not_mem_nil
  | seen, first :: rest, h, m, hm => by
    simp only [mappingProblems, List.append_eq_nil_iff] at h
    rcases List.mem_cons.mp hm with rfl | hm
    · exact h.1.2
    · exact problems_of_mappingProblems h.2 m hm

theorem endpoint_of_mappingProblems {seen : List String} {mappings : List ApiMapping}
    (h : mappingProblems seen mappings = []) : ∀ m ∈ mappings, m.endpoint ≠ "" := by
  intro m hm
  have hempty := problems_of_mappingProblems h m hm
  simp only [ApiMapping.problems, List.append_eq_nil_iff] at hempty
  simpa using hempty.1.1.1.1.1

theorem Bundle.problems_eq_nil {bundle : Bundle} (h : bundle.problems = []) :
    bundle.flow.problems = [] ∧ bundle.rules.problems = [] ∧
      mappingProblems [] bundle.apiMappings = [] ∧
      ∀ t ∈ bundle.flow.transitions,
        callProblems (bundle.apiMappings.map (·.apiId)) t.1 t.2.1 t.2.2 = [] := by
  simp only [problems, List.append_eq_nil_iff, List.flatMap_eq_nil_iff] at h
  exact ⟨h.1.1.1, h.1.1.2, h.1.2, h.2⟩

/-- The call of a checked transition has a mapping. -/
theorem Bundle.isSome_mapping {bundle : Bundle} (h : bundle.problems = []) {state event : String}
    {here : FlowState} {t : Transition} {call : ApiCall}
    (hstate : bundle.flow.state? state = some here)
    (ht : Dict.find? event here.transitions = some t) (hcall : t.apiCall = some call) :
    (Dict.find? call.apiId bundle.mappingsById).isSome := by
  have hknown := (problems_eq_nil h).2.2.2 _ (Flow.mem_transitions hstate ht)
  simp only [callProblems, hcall] at hknown
  have hmem : call.apiId ∈ bundle.apiMappings.map (·.apiId) := by
    simpa using hknown
  obtain ⟨m, hm, hid⟩ := List.mem_map.mp hmem
  rw [← hid]
  exact Dict.isSome_find?_ofList (List.mem_map_of_mem (f := fun m => (m.apiId, m)) hm)

theorem Bundle.mem_apiMappings {bundle : Bundle} {id : String} {m : ApiMapping}
    (h : Dict.find? id bundle.mappingsById = some m) : m ∈ bundle.apiMappings := by
  rcases Dict.mem_of_mem_insertAll _ [] (Dict.mem_of_find? h) with hm | hm
  · obtain ⟨m', hm', he⟩ := List.mem_map.mp hm
    exact (Prod.mk.inj he).2 ▸ hm'
  · exact absurd hm List.not_mem_nil

end PageFlow
