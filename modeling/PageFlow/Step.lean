/-
# Steps

A step takes one event through an application: the flow resolves it, the rules
run on the data, and the transition that was taken may make a call. The rules
run unless the event could not be resolved; the call is made only if a
transition was taken. A step never fails: what goes wrong is in its trace.

Key definitions: `Application`, `Situation`, `ApiResult`, `StepRun`,
`Application.run`, `StepOutcome`, `StepRun.outcome`, `StepOutcome.fingerprint`.
-/
import PageFlow.Bundle
import PageFlow.Call
import PageFlow.Flow.Resolution
import PageFlow.Rule.Application
import PageFlow.Text.Sha256
import PageFlow.Trace.Document

namespace PageFlow
open Document

/-- The documents that steps are taken by. -/
structure Application where
  flow : Flow
  uiSchemas : Dict Json
  rules : RuleSet
  mappings : Dict ApiMapping

/-- The application of a bundle. -/
def Bundle.application (bundle : Bundle) : Application :=
  ⟨bundle.flow, bundle.uiSchemas, bundle.rules, bundle.mappingsById⟩

/-- Where a step starts: the state, or none for the initial one, the context and
the data. -/
structure Situation where
  state : Option String
  context : Context
  data : Dict Json

/-- What became of the call of a transition. -/
inductive ApiResult where
  | called (mapping : ApiMapping) (outcome : ApiOutcome)
  | unknown (apiId : String)

/-- What the phases of a step did. -/
structure StepRun where
  resolution : Resolution
  rules : Option RulesOutcome
  api : Option ApiResult
  context : Context
  data : Dict Json
  uiSchema : Option Json

/-- The call that a resolved event asks for. -/
def Resolution.apiId? (r : Resolution) : Option String :=
  r.transition.bind fun t => t.apiCall.map (·.apiId)

/-- Makes the call with an id, if there is a mapping for it. -/
def Application.callApi (app : Application) (apiId : String) (context : Context)
    (data : Dict Json) (transport : Transport) : ApiResult :=
  match Dict.find? apiId app.mappings with
  | some mapping => .called mapping (mapping.call context data transport)
  | none => .unknown apiId

/-- Takes a step. -/
def Application.run (app : Application) (here : Situation) (event : String)
    (transport : Transport) : StepRun :=
  let state := here.state.getD app.flow.initialState
  let resolution := app.flow.resolve state event (.ofData here.data here.context.value)
  let rules :=
    if resolution.reason = .error then none else some (app.rules.apply here.data here.context)
  let data := (rules.map (·.data)).getD here.data
  let api := resolution.apiId?.map fun apiId =>
    app.callApi apiId here.context data transport
  let uiSchema := resolution.page.bind fun page => Dict.find? page app.uiSchemas
  match api with
  | some (.called _ outcome) =>
    ⟨resolution, rules, api, outcome.context, outcome.data, uiSchema⟩
  | _ => ⟨resolution, rules, api, here.context, data, uiSchema⟩

/-- The requests that a step sent. -/
def StepRun.requests (run : StepRun) : List HttpRequest :=
  match run.api with
  | some (.called _ outcome) => [outcome.request]
  | _ => []

/-- The result of a step as a document. -/
structure StepOutcome where
  nextStateId : String
  updatedContext : Context
  updatedData : Dict Json
  uiSchema : Option Json
  trace : Trace

/-- The times of a step and of its call. -/
structure StepTiming where
  step : Timing
  call : Timing

/-- The times that say nothing. -/
def StepTiming.none : StepTiming := ⟨.none, .none⟩

/-- The trace of a call. -/
def ApiResult.trace (timing : Timing) : ApiResult → ApiTrace
  | .called mapping outcome => outcome.trace mapping timing
  | .unknown apiId => unknownApiTrace apiId timing

/-- The document of a step that took the given times. -/
def StepRun.outcome (run : StepRun) (timing : StepTiming) : StepOutcome :=
  { nextStateId := run.resolution.nextState
    updatedContext := run.context
    updatedData := run.data
    uiSchema := run.uiSchema
    trace :=
      { timing := timing.step
        flow := run.resolution.trace
        rules := run.rules.map (·.trace)
        api := run.api.map (ApiResult.trace timing.call) } }

namespace StepOutcome

/-- The outcome in a document. A page without a known schema shows as `null`. -/
def json (o : StepOutcome) : Json :=
  .object [("nextStateId", .string o.nextStateId), ("updatedContext", o.updatedContext.json),
    ("updatedData", .object o.updatedData), ("uiSchema", o.uiSchema.getD .null),
    ("trace", o.trace.json)]

/-- What a fingerprint covers: all that does not depend on times. -/
def fingerprinted (o : StepOutcome) : Json :=
  .object [("nextStateId", .string o.nextStateId), ("updatedContext", o.updatedContext.json),
    ("updatedData", .object o.updatedData), ("trace", o.trace.withoutTiming.json)]

/-- The digest that equal steps have in common. -/
def fingerprint (o : StepOutcome) : String :=
  Sha256.hexDigest (Text.utf8Bytes o.fingerprinted.compactChars)

end StepOutcome

/-- Reads the outcome of a step. -/
def decodeStepOutcome : Decoder StepOutcome :=
  decodeRecord "struct StepOutcome"
    ["nextStateId", "updatedContext", "updatedData", "uiSchema", "trace"]
    fun origin fields =>
      StepOutcome.mk <$> fields.required "nextStateId" (decodeText origin)
        <*> fields.required "updatedContext" (decodeContext origin)
        <*> fields.required "updatedData" (decodeDict decodeJson origin)
        <*> fields.nullable "uiSchema" (decodeJson origin)
        <*> fields.required "trace" (decodeTrace origin)

end PageFlow
