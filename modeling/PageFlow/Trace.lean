/-
# Traces

A trace tells all that a step decided: the transition it took, the rules it
considered and matched, the call it made and every error on the way. Traces are
documents of their own; they are written, kept and read again.

Two traces without their times are equal if they say the same otherwise.

Key definitions: `FlowReason`, `FlowTrace`, `RulesTrace`, `ApiTrace`, `Trace`,
`Trace.withoutTiming`, `Trace.SameButTiming`.
Key theorems: `Trace.withoutTiming_eq_iff`.
-/
import PageFlow.Json

namespace PageFlow

/-- When something began and how long it took. -/
structure Timing where
  startedAt : String
  durationMs : Nat
  deriving DecidableEq

/-- The timing that says nothing. -/
def Timing.none : Timing := ⟨"", 0⟩

/-- How an event was resolved. -/
inductive FlowReason where
  | ok
  | noTransition
  | guardFailed
  | error
  deriving DecidableEq

namespace FlowReason

/-- The name of a reason. -/
def name : FlowReason → String
  | .ok => "ok"
  | .noTransition => "no_transition"
  | .guardFailed => "guard_failed"
  | .error => "error"

/-- The reasons under their names. -/
def named : List (String × FlowReason) :=
  [("ok", .ok), ("no_transition", .noTransition), ("guard_failed", .guardFailed),
    ("error", .error)]

end FlowReason

/-- What became of an event. -/
structure FlowTrace where
  event : String
  fromStateId : String
  toStateId : String
  uiPageId : Option String
  reason : FlowReason
  guardResult : Option Bool
  conditionResults : Dict Bool
  conditionErrors : List String
  errorMessage : Option String

/-- An event that a rule reported. -/
structure EmittedEvent where
  ruleId : String
  event : String
  payload : Option Json

/-- An error of a rule. -/
structure RuleError where
  ruleId : String
  message : String
  deriving DecidableEq

/-- What the rules did. -/
structure RulesTrace where
  rulesConsidered : List String
  rulesMatched : List String
  conditionResults : Dict Bool
  events : List EmittedEvent
  errors : List RuleError

/-- What a request carried. -/
structure ApiRequestTrace where
  query : Dict String
  headers : Dict String
  body : Option Json

/-- What a response carried. -/
structure ApiResponseTrace where
  status : Nat
  body : Json

/-- What became of a call. -/
structure ApiTrace where
  apiId : String
  method : String
  endpoint : String
  url : String
  request : ApiRequestTrace
  response : Option ApiResponseTrace
  error : Option String
  errors : List String
  timing : Timing

/-- What a step did. -/
structure Trace where
  timing : Timing
  flow : FlowTrace
  rules : Option RulesTrace
  api : Option ApiTrace

/-- The trace with every time and duration cleared. -/
def Trace.withoutTiming (trace : Trace) : Trace :=
  { trace with
    timing := Timing.none
    api := trace.api.map fun api => { api with timing := Timing.none } }

/-- What two calls are told to have done is the same, but not when. -/
structure ApiTrace.SameButTiming (a b : ApiTrace) : Prop where
  apiId : a.apiId = b.apiId
  method : a.method = b.method
  endpoint : a.endpoint = b.endpoint
  url : a.url = b.url
  request : a.request = b.request
  response : a.response = b.response
  error : a.error = b.error
  errors : a.errors = b.errors

/-- Two traces tell the same, but not when. -/
structure Trace.SameButTiming (a b : Trace) : Prop where
  flow : a.flow = b.flow
  rules : a.rules = b.rules
  api : Option.Rel ApiTrace.SameButTiming a.api b.api

theorem ApiTrace.withoutTiming_eq_iff {a b : ApiTrace} :
    { a with timing := Timing.none } = { b with timing := Timing.none } ↔ a.SameButTiming b := by
  constructor
  · intro h
    obtain ⟨hid, hmethod, hendpoint, hurl, hrequest, hresponse, herror, herrors, -⟩ :=
      ApiTrace.mk.inj h
    exact ⟨hid, hmethod, hendpoint, hurl, hrequest, hresponse, herror, herrors⟩
  · rintro ⟨hid, hmethod, hendpoint, hurl, hrequest, hresponse, herror, herrors⟩
    rw [hid, hmethod, hendpoint, hurl, hrequest, hresponse, herror, herrors]

/-- Without their times two traces are equal exactly if they agree in every other part. -/
theorem Trace.withoutTiming_eq_iff {a b : Trace} :
    a.withoutTiming = b.withoutTiming ↔ a.SameButTiming b := by
  obtain ⟨timing, flow, rules, api⟩ := a
  obtain ⟨timing', flow', rules', api'⟩ := b
  constructor
  · intro h
    obtain ⟨-, hflow, hrules, hapi⟩ := Trace.mk.inj h
    refine ⟨hflow, hrules, ?_⟩
    cases api <;> cases api'
    · exact .none
    · simp at hapi
    · simp at hapi
    · exact .some (ApiTrace.withoutTiming_eq_iff.mp (Option.some.inj hapi))
  · rintro ⟨hflow, hrules, hapi⟩
    obtain rfl : flow = flow' := hflow
    obtain rfl : rules = rules' := hrules
    cases hapi with
    | none => rfl
    | some hsame =>
      simp only [withoutTiming, Option.map_some, ApiTrace.withoutTiming_eq_iff.mpr hsame]

/-- The times of the step and of its call are cleared, and no other part is. -/
theorem Trace.withoutTiming_clears (trace : Trace) :
    trace.withoutTiming.timing = .none ∧
      (∀ api ∈ trace.withoutTiming.api, api.timing = .none) ∧
      trace.withoutTiming.SameButTiming trace := by
  refine ⟨rfl, fun api hapi => ?_, withoutTiming_eq_iff.mp ?_⟩
  · obtain ⟨_, -, rfl⟩ := Option.map_eq_some_iff.mp hapi
    rfl
  · unfold withoutTiming
    rw [Option.map_map]
    rfl

end PageFlow
