/-
# Resolving an event

An event in a state is resolved by the transition that the state declares for
it. The state changes only if there is one, its guard holds on the data and
context as they are, and its target exists.

Key definitions: `FlowFault`, `Resolution`, `Flow.resolve`, `Resolution.trace`.
-/
import PageFlow.Condition.Evaluation
import PageFlow.Flow
import PageFlow.Trace

namespace PageFlow

/-- Why an event cannot be resolved. -/
inductive FlowFault where
  | unknownState (state : String)
  | unknownTarget (event state target : String)
  deriving DecidableEq

/-- The wording of a flow fault. -/
def FlowFault.message : FlowFault → String
  | .unknownState state => "unknown state '" ++ state ++ "'"
  | .unknownTarget event state target =>
    "transition '" ++ event ++ "' from '" ++ state ++ "' targets unknown state '" ++ target ++ "'"

/-- How an event was resolved: the state to go on in, what the trace is to say (the
state it leads to, its page if known and the guard's evaluation if there was a
guard), and the transition that was taken. -/
structure Resolution where
  nextState : String
  event : String
  fromState : String
  toState : String
  page : Option String
  reason : FlowReason
  guard : Option Evaluation
  fault : Option FlowFault
  transition : Option Transition

/-- Resolves an event in a state. -/
def Flow.resolve (flow : Flow) (state event : String) (scope : Scope) : Resolution :=
  let stay (page : Option String) (reason : FlowReason) (guard : Option Evaluation)
      (fault : Option FlowFault) : Resolution :=
    ⟨state, event, state, state, page, reason, guard, fault, none⟩
  match flow.state? state with
  | none => stay none .error none (some (.unknownState state))
  | some here =>
    match Dict.find? event here.transitions with
    | none => stay (some here.uiPageId) .noTransition none none
    | some transition =>
      let guard := transition.guard.map (Condition.evaluate scope "guard")
      if guard.any fun g => !g.value then stay (some here.uiPageId) .guardFailed guard none
      else
        match flow.state? transition.target with
        | none => stay none .error guard (some (.unknownTarget event state transition.target))
        | some there =>
          ⟨transition.target, event, state, transition.target, some there.uiPageId, .ok, guard,
            none, some transition⟩

/-- The trace of a resolution. -/
def Resolution.trace (r : Resolution) : FlowTrace :=
  { event := r.event
    fromStateId := r.fromState
    toStateId := r.toState
    uiPageId := r.page
    reason := r.reason
    guardResult := r.guard.map (·.value)
    conditionResults := (r.guard.map (·.results)).getD []
    conditionErrors := (r.guard.map (·.messages)).getD []
    errorMessage := r.fault.map (·.message) }

end PageFlow
