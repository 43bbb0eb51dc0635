/-
# Traces in documents

The spelling of traces. Parts that are absent, and lists of clause results and
errors that are empty, are left out.

Key definitions: `Trace.json`, `decodeTrace`.
-/
import PageFlow.Document.Record
import PageFlow.Trace

namespace PageFlow
open Document

-- Powers are those of the core library, whatever else is imported.
attribute [local instance (2000)] instPowNat

/-- A field that is left out when its list is empty. -/
def Json.fieldUnlessEmpty {α : Type} (key : String) (list : List α) (value : Json) :
    Option (String × Json) :=
  if list.isEmpty then none else some (key, value)

/-- Clause results in a document. -/
def clauseResultsJson (results : Dict Bool) : Json := .object (results.mapValues .bool)

/-- The trace of an event in a document. -/
def FlowTrace.json (t : FlowTrace) : Json :=
  .ofFields [Json.field "event" (.string t.event),
    Json.field "fromStateId" (.string t.fromStateId),
    Json.field "toStateId" (.string t.toStateId),
    Json.fieldIfSome "uiPageId" (t.uiPageId.map .string),
    Json.field "reason" (.string t.reason.name),
    Json.fieldIfSome "guardResult" (t.guardResult.map .bool),
    Json.fieldUnlessEmpty "conditionResults" t.conditionResults
      (clauseResultsJson t.conditionResults),
    Json.fieldUnlessEmpty "conditionErrors" t.conditionErrors (Json.ofTexts t.conditionErrors),
    Json.fieldIfSome "errorMessage" (t.errorMessage.map .string)]

/-- A reported event in a document. -/
def EmittedEvent.json (e : EmittedEvent) : Json :=
  .ofFields [Json.field "ruleId" (.string e.ruleId), Json.field "event" (.string e.event),
    Json.fieldIfSome "payload" e.payload]

/-- An error of a rule in a document. -/
def RuleError.json (e : RuleError) : Json :=
  .object [("ruleId", .string e.ruleId), ("message", .string e.message)]

/-- The trace of the rules in a document. -/
def RulesTrace.json (t : RulesTrace) : Json :=
  .object [("rulesConsidered", Json.ofTexts t.rulesConsidered),
    ("rulesMatched", Json.ofTexts t.rulesMatched),
    ("conditionResults", clauseResultsJson t.conditionResults),
    ("events", .array (t.events.map (·.json))),
    ("errors", .array (t.errors.map (·.json)))]

/-- The trace of a request in a document. -/
def ApiRequestTrace.json (t : ApiRequestTrace) : Json :=
  .ofFields [Json.field "query" (.object (t.query.mapValues .string)),
    Json.field "headers" (.object (t.headers.mapValues .string)),
    Json.fieldIfSome "body" t.body]

/-- The trace of a response in a document. -/
def ApiResponseTrace.json (t : ApiResponseTrace) : Json :=
  .object [("status", .ofNat t.status), ("body", t.body)]

/-- The trace of a call in a document. -/
def ApiTrace.json (t : ApiTrace) : Json :=
  .ofFields [Json.field "apiId" (.string t.apiId), Json.field "method" (.string t.method),
    Json.field "endpoint" (.string t.endpoint), Json.field "url" (.string t.url),
    Json.field "request" t.request.json,
    Json.fieldIfSome "response" (t.response.map (·.json)),
    Json.fieldIfSome "error" (t.error.map .string),
    Json.fieldUnlessEmpty "errors" t.errors (Json.ofTexts t.errors),
    Json.field "startedAt" (.string t.timing.startedAt),
    Json.field "durationMs" (.ofNat t.timing.durationMs)]

/-- The trace of a step in a document. -/
def Trace.json (t : Trace) : Json :=
  .ofFields [Json.field "startedAt" (.string t.timing.startedAt),
    Json.field "durationMs" (.ofNat t.timing.durationMs),
    Json.field "flow" t.flow.json,
    Json.fieldIfSome "rules" (t.rules.map (·.json)),
    Json.fieldIfSome "api" (t.api.map (·.json))]

/-- Reads clause results. -/
def decodeClauseResults : Decoder (Dict Bool) := decodeDict decodeBool

/-- Reads a list of texts. -/
def decodeTexts : Decoder (List String) := decodeList decodeText

/-- Reads texts by name. -/
def decodeTextDict : Decoder (Dict String) := decodeDict decodeText

/-- Reads a duration. -/
def decodeMillis : Decoder Nat := decodeNat "u64" (2 ^ (64 : Nat))

/-- Reads the trace of an event. -/
def decodeFlowTrace : Decoder FlowTrace :=
  decodeRecord "struct FlowTrace"
    ["event", "fromStateId", "toStateId", "uiPageId", "reason", "guardResult",
      "conditionResults", "conditionErrors", "errorMessage"]
    fun origin fields =>
      FlowTrace.mk <$> fields.required "event" (decodeText origin)
        <*> fields.required "fromStateId" (decodeText origin)
        <*> fields.required "toStateId" (decodeText origin)
        <*> fields.optional "uiPageId" (decodeText origin)
        <*> fields.required "reason" (decodeOneOf FlowReason.named origin)
        <*> fields.optional "guardResult" (decodeBool origin)
        <*> fields.defaulted "conditionResults" [] (decodeClauseResults origin)
        <*> fields.defaulted "conditionErrors" [] (decodeTexts origin)
        <*> fields.optional "errorMessage" (decodeText origin)

/-- Reads a reported event. -/
def decodeEmittedEvent : Decoder EmittedEvent :=
  decodeRecord "struct EmittedEvent" ["ruleId", "event", "payload"] fun origin fields =>
    EmittedEvent.mk <$> fields.required "ruleId" (decodeText origin)
      <*> fields.required "event" (decodeText origin)
      <*> fields.optional "payload" (decodeJson origin)

/-- Reads an error of a rule. -/
def decodeRuleError : Decoder RuleError :=
  decodeRecord "struct RuleError" ["ruleId", "message"] fun origin fields =>
    RuleError.mk <$> fields.required "ruleId" (decodeText origin)
      <*> fields.required "message" (decodeText origin)

/-- Reads the trace of the rules. -/
def decodeRulesTrace : Decoder RulesTrace :=
  decodeRecord "struct RulesTrace"
    ["rulesConsidered", "rulesMatched", "conditionResults", "events", "errors"]
    fun origin fields =>
      RulesTrace.mk <$> fields.required "rulesConsidered" (decodeTexts origin)
        <*> fields.required "rulesMatched" (decodeTexts origin)
        <*> fields.required "conditionResults" (decodeClauseResults origin)
        <*> fields.required "events" (decodeList decodeEmittedEvent origin)
        <*> fields.required "errors" (decodeList decodeRuleError origin)

/-- Reads the trace of a request. -/
def decodeApiRequestTrace : Decoder ApiRequestTrace :=
  decodeRecord "struct ApiRequestTrace" ["query", "headers", "body"] fun origin fields =>
    ApiRequestTrace.mk <$> fields.required "query" (decodeTextDict origin)
      <*> fields.required "headers" (decodeTextDict origin)
      <*> fields.optional "body" (decodeJson origin)

/-- Reads the trace of a response. -/
def decodeApiResponseTrace : Decoder ApiResponseTrace :=
  decodeRecord "struct ApiResponseTrace" ["status", "body"] fun origin fields =>
    ApiResponseTrace.mk <$> fields.required "status" (decodeNat "u16" (2 ^ (16 : Nat)) origin)
      <*> fields.required "body" (decodeJson origin)

/-- Reads the trace of a call. -/
def decodeApiTrace : Decoder ApiTrace :=
  decodeRecord "struct ApiTrace"
    ["apiId", "method", "endpoint", "url", "request", "response", "error", "errors",
      "startedAt", "durationMs"]
    fun origin fields =>
      (fun apiId method endpoint url request response error errors startedAt durationMs =>
          ApiTrace.mk apiId method endpoint url request response error errors
            ⟨startedAt, durationMs⟩)
        <$> fields.required "apiId" (decodeText origin)
        <*> fields.required "method" (decodeText origin)
        <*> fields.required "endpoint" (decodeText origin)
        <*> fields.required "url" (decodeText origin)
        <*> fields.required "request" (decodeApiRequestTrace origin)
        <*> fields.optional "response" (decodeApiResponseTrace origin)
        <*> fields.optional "error" (decodeText origin)
        <*> fields.defaulted "errors" [] (decodeTexts origin)
        <*> fields.required "startedAt" (decodeText origin)
        <*> fields.required "durationMs" (decodeMillis origin)

/-- Reads the trace of a step. -/
def decodeTrace : Decoder Trace :=
  decodeRecord "struct RuntimeTrace" ["startedAt", "durationMs", "flow", "rules", "api"]
    fun origin fields =>
      (fun startedAt durationMs flow rules api =>
          Trace.mk ⟨startedAt, durationMs⟩ flow rules api)
        <$> fields.required "startedAt" (decodeText origin)
        <*> fields.required "durationMs" (decodeMillis origin)
        <*> fields.required "flow" (decodeFlowTrace origin)
        <*> fields.optional "rules" (decodeRulesTrace origin)
        <*> fields.optional "api" (decodeApiTrace origin)

end PageFlow
