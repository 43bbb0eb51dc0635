/-
# The exits of the resolver

An event is resolved in one of five ways. Each of them fixes all of the
resolution; the state changes in the last one only. At every exit the flow goes on in
the state that the trace says the event led to.

Key definitions: `Resolves`.
Key theorems: `Flow.resolves`, `Resolves.nextState_eq_toState`.
-/
import PageFlow.Flow.Resolution

namespace PageFlow

/-- How `event` is resolved in `state` under a scope. -/
inductive Resolves (flow : Flow) (state event : String) (scope : Scope) : Resolution → Prop
  /-- The state is not declared. -/
  | unknownState (hstate : flow.state? state = none) :
    Resolves flow state event scope
      ⟨state, event, state, state, none, .error, none, some (.unknownState state), none⟩
  /-- The state does not say where the event leads. -/
  | noTransition (here : FlowState) (hstate : flow.state? state = some here)
      (hnone : Dict.find? event here.transitions = none) :
    Resolves flow state event scope
      ⟨state, event, state, state, some here.uiPageId, .noTransition, none, none, none⟩
  /-- The guard of the transition does not hold. -/
  | guardFailed (here : FlowState) (t : Transition) (guard : Condition)
      (hstate : flow.state? state = some here)
      (ht : Dict.find? event here.transitions = some t) (hguard : t.guard = some guard)
      (hvalue : (guard.evaluate scope "guard").value = false) :
    Resolves flow state event scope
      ⟨state, event, state, state, some here.uiPageId, .guardFailed,
        some (guard.evaluate scope "guard"), none, none⟩
  /-- The transition leads to a state that is not declared. -/
  | unknownTarget (here : FlowState) (t : Transition)
      (hstate : flow.state? state = some here)
      (ht : Dict.find? event here.transitions = some t)
      (hguard : ∀ guard ∈ t.guard, (guard.evaluate scope "guard").value = true)
      (htarget : flow.state? t.target = none) :
    Resolves flow state event scope
      ⟨state, event, state, state, none, .error,
        t.guard.map fun guard => guard.evaluate scope "guard",
        some (.unknownTarget event state t.target), none⟩
  /-- The transition is taken. -/
  | taken (here there : FlowState) (t : Transition)
      (hstate : flow.state? state = some here)
      (ht : Dict.find? event here.transitions = some t)
      (hguard : ∀ guard ∈ t.guard, (guard.evaluate scope "guard").value = true)
      (htarget : flow.state? t.target = some there) :
    Resolves flow state event scope
      ⟨t.target, event, state, t.target, some there.uiPageId, .ok,
        t.guard.map fun guard => guard.evaluate scope "guard", none, some t⟩

/-- The flow goes on in the state that its trace names. -/
theorem Resolves.nextState_eq_toState {flow : Flow} {state event : String} {scope : Scope}
    {r : Resolution} (h : Resolves flow state event scope r) : r.nextState = r.toState := by
  cases h <;> rfl

/-- An event is resolved in one of these ways. -/
theorem Flow.resolves (flow : Flow) (state event : String) (scope : Scope) :
    Resolves flow state event scope (flow.resolve state event scope) := by
  unfold resolve
  cases hstate : flow.state? state with
  | none => exact .unknownState hstate
  | some here =>
    cases ht : Dict.find? event here.transitions with
    | none =>
      simp only [ht]
      exact .noTransition here hstate ht
    | some t =>
      simp only [ht]
      by_cases hguard : ∀ guard ∈ t.guard, (guard.evaluate scope "guard").value = true
      · have hpass :
            ((t.guard.map (Condition.evaluate scope "guard")).any fun g => !g.value) = false := by
          cases hg : t.guard with
          | none => rfl
          | some guard => simp [hguard guard hg]
        simp only [hpass, Bool.false_eq_true, if_false]
        cases htarget : flow.state? t.target with
        | none => exact .unknownTarget here t hstate ht hguard htarget
        | some there => exact .taken here there t hstate ht hguard htarget
      · cases hg : t.guard with
        | none => simp [hg] at hguard
        | some guard =>
          have hvalue : (guard.evaluate scope "guard").value = false := by simpa [hg] using hguard
          simp only [Option.map_some, Option.any_some, hvalue, Bool.not_false, if_true]
          exact .guardFailed here t guard hstate ht hg hvalue

end PageFlow
