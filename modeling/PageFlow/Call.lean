/-
# Calls

A call sends one request and folds the response back into data and context.
Every value of the response is mapped on the data and context from before the
call. The entries are written in key order; one that cannot be written, or
would make the context invalid, has no effect and is reported. A call that
fails leaves data and context as they were.

Key definitions: `CallFault`, `ApiOutcome`, `ApiMapping.foldResponse`,
`ApiMapping.call`, `unknownApiTrace`.
-/
import PageFlow.Call.Request
import PageFlow.Context
import PageFlow.Trace

namespace PageFlow
open Document

/-- Why a call failed. -/
inductive CallFault where
  | transport (error : TransportError)
  | status (status : Nat)
  | badBody (error : DecodeError) (body : String)

/-- The wording of a call fault. -/
def CallFault.message : CallFault → String
  | .transport e => e.message
  | .status n => "HTTP " ++ toString n
  | .badBody e body => "response body is not valid JSON: " ++ e.message body.toList

/-- An error of a call that succeeded: one of its entries, or the context. -/
inductive CallError where
  | entry (error : EntryError)
  | context (complaint : Complaint)

/-- The wording of a call error. -/
def CallError.message : CallError → String
  | .entry e => e.message
  | .context c => "responseMap.context: invalid context: " ++ c.message

/-- The value of a response body; a blank one is `null`. -/
def parseBody (body : String) : Decoded Json :=
  if (Text.trim body.toList).isEmpty then .ok .null else parseJson body.toList

mutual

/-- Whether two values are the same, the two zeros of binary floating point
being one. -/
def Json.same : Json → Json → Bool
  | .null, .null => true
  | .bool a, .bool b => a == b
  | .number (.integer a _), .number (.integer b _) => a == b
  | .number (.float a), .number (.float b) => a.units == b.units
  | .string a, .string b => a == b
  | .array a, .array b => Json.sameItems a b
  | .object a, .object b => Json.sameFields a b
  | _, _ => false

/-- Whether two lists of items are the same. -/
def Json.sameItems : List Json → List Json → Bool
  | [], [] => true
  | x :: xs, y :: ys => Json.same x y && Json.sameItems xs ys
  | _, _ => false

/-- Whether two lists of fields are the same. -/
def Json.sameFields : List (String × Json) → List (String × Json) → Bool
  | [], [] => true
  | (k, x) :: xs, (l, y) :: ys => k == l && Json.same x y && Json.sameFields xs ys
  | _, _ => false

end

/-- Reads a context from its fields. -/
def contextOfFields (fields : Dict Json) : Except Complaint Context :=
  (decodeContext .value (Node.ofJson (.object fields))).mapError (·.complaint)

/-- Writes a value into the fields of a context, if a context remains. -/
def writeContext (key : String) (value : Json) (fields : Dict Json) :
    Except EntryFault (Dict Json) :=
  match (Path.parseContextTarget key).bind fun target => write target value fields with
  | .error e => .error (.path e)
  | .ok next =>
    match contextOfFields next with
    | .error c => .error (.contextValue c)
    | .ok _ => .ok next

/-- Writes values into the fields of a context one after the other. -/
def writeEachContext : Dict Json → Dict Json → Dict Json × List (String × EntryFault)
  | [], fields => (fields, [])
  | (key, value) :: rest, fields =>
    match writeContext key value fields with
    | .ok next => writeEachContext rest next
    | .error e =>
      let (final, errors) := writeEachContext rest fields
      (final, (key, e) :: errors)

/-- The fields of the context as paths read it. -/
def Context.fields (context : Context) : Dict Json :=
  match context.value with
  | .object fields => fields
  | _ => []

/-- Folds mapped values into a context. -/
def foldContext (values : Dict Json) (context : Context) : Context × List CallError :=
  if values.isEmpty then (context, [])
  else
    let (fields, refused) := writeEachContext values context.fields
    let errors := refused.map fun e => .entry ⟨"responseMap.context", e.1, e.2⟩
    match contextOfFields fields with
    | .ok next => (if next.value.same context.value then context else next, errors)
    | .error c => (context, errors ++ [.context c])

/-- Data, context and errors after a response was folded in. -/
structure Folded where
  data : Dict Json
  context : Context
  errors : List CallError

/-- Folds a response into data and context. -/
def ApiMapping.foldResponse (mapping : ApiMapping) (response : Json) (data : Dict Json)
    (context : Context) : Folded :=
  let scope : Scope := ⟨data, context.value, some response⟩
  let sections := mapping.responseMap
  let (nextData, refused) :=
    writeEach Path.parseDataTarget (mappedValues scope sections.data) data
  let (nextContext, contextErrors) := foldContext (mappedValues scope sections.context) context
  { data := nextData
    context := nextContext
    errors :=
      (entryErrors "responseMap.data" scope sections.data ++
          refused.map (fun e => EntryError.mk "responseMap.data" e.1 (.path e.2)) ++
          entryErrors "responseMap.context" scope sections.context).map .entry ++
        contextErrors }

/-- What became of a call. -/
structure ApiOutcome where
  data : Dict Json
  context : Context
  built : BuiltRequest
  request : HttpRequest
  answer : TransportAnswer
  errors : List CallError
  fault : Option CallFault

/-- Makes a call. -/
def ApiMapping.call (mapping : ApiMapping) (context : Context) (data : Dict Json)
    (transport : Transport) : ApiOutcome :=
  let built := mapping.buildRequest (.ofData data context.value)
  let request := mapping.httpRequest built
  let answer := transport request
  let failed (fault : CallFault) : ApiOutcome :=
    ⟨data, context, built, request, answer, built.errors.map .entry, some fault⟩
  match answer with
  | .error e => failed (.transport e)
  | .ok response =>
    if !response.isSuccess then failed (.status response.status)
    else
      match parseBody response.body with
      | .error e => failed (.badBody e response.body)
      | .ok value =>
        let folded := mapping.foldResponse value data context
        ⟨folded.data, folded.context, built, request, answer,
          built.errors.map .entry ++ folded.errors, none⟩

/-- The trace of a response: its body as JSON, or as text if it is none. -/
def HttpResponse.trace (response : HttpResponse) : ApiResponseTrace :=
  ⟨response.status,
    match parseBody response.body with
    | .ok value => value
    | .error _ => .string response.body⟩

namespace ApiOutcome

/-- The wordings of all errors, a failure of the whole call last. -/
def messages (o : ApiOutcome) : List String :=
  o.errors.map (·.message) ++ (o.fault.map (·.message)).toList

/-- The error that stands for all: the failure of the call, or else the first. -/
def error? (o : ApiOutcome) : Option String :=
  (o.fault.map (·.message)).or (o.errors.map (·.message)).head?

/-- The trace of a call. -/
def trace (o : ApiOutcome) (mapping : ApiMapping) (timing : Timing) : ApiTrace :=
  { apiId := mapping.apiId
    method := o.request.method
    endpoint := mapping.endpoint
    url := o.request.url
    request := ⟨o.built.query, o.built.headers, o.built.body⟩
    response := match o.answer with
      | .ok response => some response.trace
      | .error _ => none
    error := o.error?
    errors := o.messages
    timing }

end ApiOutcome

/-- The trace of a call to an API that has no mapping. Nothing is sent. -/
def unknownApiTrace (apiId : String) (timing : Timing) : ApiTrace :=
  let message := "unknown apiId '" ++ apiId ++ "'"
  { apiId
    method := ""
    endpoint := ""
    url := ""
    request := ⟨[], [], none⟩
    response := none
    error := some message
    errors := [message]
    timing }

end PageFlow
