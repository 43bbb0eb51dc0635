/-
# Traces that are printed and read again

Of a trace that is printed and read again all is kept but for numbers in the
payloads of events, in the body of the request and in the body of the response. In an
outcome the context, the data and the schema may have other numbers, too.

Key definitions: `Trace.reread`, `StepOutcome.reread`.
Key theorems: `Trace.reread_json`, `Trace.WellFormed.reread`, `StepOutcome.reread_json`,
`StepOutcome.WellFormed.reread`.
-/
import PageFlow.Proofs.Json.Reread
import PageFlow.Proofs.Step.Outcome

namespace PageFlow

/-! ### What is read -/

/-- An event as it is read of its text. -/
def EmittedEvent.reread (e : EmittedEvent) : EmittedEvent :=
  { e with payload := e.payload.map Json.reread }

/-- The trace of the rules as it is read of its text. -/
def RulesTrace.reread (t : RulesTrace) : RulesTrace :=
  { t with events := t.events.map EmittedEvent.reread }

/-- The trace of a request as it is read of its text. -/
def ApiRequestTrace.reread (t : ApiRequestTrace) : ApiRequestTrace :=
  { t with body := t.body.map Json.reread }

/-- The trace of a response as it is read of its text. -/
def ApiResponseTrace.reread (t : ApiResponseTrace) : ApiResponseTrace :=
  { t with body := t.body.reread }

/-- The trace of a call as it is read of its text. -/
def ApiTrace.reread (t : ApiTrace) : ApiTrace :=
  { t with request := t.request.reread, response := t.response.map ApiResponseTrace.reread }

/-- A trace as it is read of its text. -/
def Trace.reread (t : Trace) : Trace :=
  { t with rules := t.rules.map RulesTrace.reread, api := t.api.map ApiTrace.reread }

/-- A context as it is read of its text. -/
def Context.reread (context : Context) : Context :=
  { context with extra := context.extra.mapValues Json.reread }

/-- An outcome as it is read of its text. -/
def StepOutcome.reread (o : StepOutcome) : StepOutcome :=
  { o with
    updatedContext := o.updatedContext.reread
    updatedData := o.updatedData.mapValues Json.reread
    uiSchema := o.uiSchema.map Json.reread
    trace := o.trace.reread }

/-! ### It is what is written of it -/

theorem reread_clauseResultsJson (results : Dict Bool) :
    (clauseResultsJson results).reread = clauseResultsJson results :=
  Json.reread_mapValues Json.reread_bool results

theorem FlowTrace.reread_json (t : FlowTrace) : t.json.reread = t.json := by
  rw [json, Json.reread_ofFields]
  simp [reread_clauseResultsJson]

theorem EmittedEvent.reread_json (e : EmittedEvent) : e.json.reread = e.reread.json := by
  rw [json, Json.reread_ofFields]
  simp [json, reread]

theorem RuleError.reread_json (e : RuleError) : e.json.reread = e.json := rfl

theorem RulesTrace.reread_json (t : RulesTrace) : t.json.reread = t.reread.json := by
  have hevents : (Json.array (t.events.map (·.json))).reread =
      .array ((t.events.map EmittedEvent.reread).map (·.json)) :=
    Json.reread_array_map EmittedEvent.reread_json t.events
  have herrors : (Json.array (t.errors.map (·.json))).reread =
      .array (t.errors.map (·.json)) := by
    have h := Json.reread_array_map (f := id) RuleError.reread_json t.errors
    rwa [List.map_id] at h
  simp only [json, reread, Json.reread_object, Json.rereadFields, Json.reread_ofTexts, hevents,
    herrors, reread_clauseResultsJson]

theorem ApiRequestTrace.reread_json (t : ApiRequestTrace) : t.json.reread = t.reread.json := by
  rw [json, Json.reread_ofFields]
  simp [json, reread, Json.reread_mapValues Json.reread_string]

theorem ApiResponseTrace.reread_json (t : ApiResponseTrace) : t.json.reread = t.reread.json := by
  simp only [json, reread, Json.reread_object, Json.rereadFields, Json.reread_ofNat]

theorem ApiTrace.reread_json (t : ApiTrace) : t.json.reread = t.reread.json := by
  have hresponse : (t.response.map (·.json)).map Json.reread =
      (t.response.map ApiResponseTrace.reread).map (·.json) := by
    cases t.response with
    | none => rfl
    | some response => exact congrArg some response.reread_json
  have herror : (t.error.map Json.string).map Json.reread = t.error.map .string := by
    rw [Option.map_map, Json.reread_comp_string]
  rw [json, Json.reread_ofFields]
  simp only [List.map_cons, List.map_nil, Json.rereadField_field, Json.rereadField_fieldIfSome,
    Json.rereadField_fieldUnlessEmpty, Json.reread_string, Json.reread_ofTexts, Json.reread_ofNat,
    ApiRequestTrace.reread_json, hresponse, herror]
  rfl

/-- **What is read of the text of a trace is what is written of the trace as it is read.** -/
theorem Trace.reread_json (t : Trace) : t.json.reread = t.reread.json := by
  have hrules : (t.rules.map (·.json)).map Json.reread =
      (t.rules.map RulesTrace.reread).map (·.json) := by
    cases t.rules with
    | none => rfl
    | some rules => exact congrArg some rules.reread_json
  have hapi : (t.api.map (·.json)).map Json.reread = (t.api.map ApiTrace.reread).map (·.json) := by
    cases t.api with
    | none => rfl
    | some api => exact congrArg some api.reread_json
  rw [json, Json.reread_ofFields]
  simp only [List.map_cons, List.map_nil, Json.rereadField_field, Json.rereadField_fieldIfSome,
    Json.reread_string, Json.reread_ofNat, FlowTrace.reread_json, hrules, hapi]
  rfl

theorem Context.reread_json (context : Context) : context.json.reread = context.reread.json := by
  have happend : ∀ a b : Dict Json,
      Json.rereadFields (a ++ b) = Json.rereadFields a ++ Json.rereadFields b := fun a b => by
    simp only [Json.rereadFields_eq_mapValues, Dict.mapValues, List.map_append]
  rw [json, Json.reread_object, happend, Json.rereadFields_filterMap,
    Json.rereadFields_eq_mapValues context.extra]
  simp only [knownFields, List.map_cons, List.map_nil, Json.rereadField_field,
    Json.rereadField_fieldIfSome, Json.reread_string, Json.reread_ofTexts, Option.map_map,
    Json.reread_comp_string, Json.reread_mapValues Json.reread_bool]
  rfl

/-- The same of an outcome. -/
theorem StepOutcome.reread_json (o : StepOutcome) : o.json.reread = o.reread.json := by
  have hschema : (o.uiSchema.getD .null).reread = (o.uiSchema.map Json.reread).getD .null := by
    cases o.uiSchema <;> rfl
  simp only [json, reread, Json.reread_object, Json.rereadFields, Json.reread_string,
    Context.reread_json, Trace.reread_json, hschema, Json.rereadFields_eq_mapValues]

/-! ### It is well formed -/

theorem RulesTrace.WellFormed.reread {t : RulesTrace} (h : t.WellFormed) : t.reread.WellFormed where
  sorted_results := h.sorted_results
  lasting_events := by
    intro e he
    obtain ⟨event, hevent, rfl⟩ := List.mem_map.mp he
    intro payload hpayload
    obtain ⟨value, hvalue, rfl⟩ := Option.map_eq_some_iff.mp hpayload
    obtain ⟨hordered, hnull⟩ := h.lasting_events event hevent value hvalue
    exact ⟨Json.ordered_reread hordered, Json.reread_ne_null hnull⟩

theorem ApiRequestTrace.WellFormed.reread {t : ApiRequestTrace} (h : t.WellFormed) :
    t.reread.WellFormed where
  sorted_query := h.sorted_query
  sorted_headers := h.sorted_headers
  lasting_body := by
    intro body hbody
    obtain ⟨value, hvalue, rfl⟩ := Option.map_eq_some_iff.mp hbody
    obtain ⟨hordered, hnull⟩ := h.lasting_body value hvalue
    exact ⟨Json.ordered_reread hordered, Json.reread_ne_null hnull⟩

theorem ApiTrace.WellFormed.reread {t : ApiTrace} (h : t.WellFormed) : t.reread.WellFormed where
  request := h.request.reread
  response := by
    intro response hresponse
    obtain ⟨r, hr, rfl⟩ := Option.map_eq_some_iff.mp hresponse
    exact ⟨(h.response r hr).status_lt, Json.ordered_reread (h.response r hr).ordered_body⟩
  timing := h.timing

/-- A well-formed trace stays well formed when it is read again. -/
theorem Trace.WellFormed.reread {t : Trace} (h : t.WellFormed) : t.reread.WellFormed where
  timing := h.timing
  flow := h.flow
  rules := by
    intro rules hrules
    obtain ⟨r, hr, rfl⟩ := Option.map_eq_some_iff.mp hrules
    exact (h.rules r hr).reread
  api := by
    intro api hapi
    obtain ⟨a, ha, rfl⟩ := Option.map_eq_some_iff.mp hapi
    exact (h.api a ha).reread

theorem Context.WellFormed.reread {context : Context} (h : context.WellFormed) :
    context.reread.WellFormed where
  sorted_flags := h.sorted_flags
  sorted_extra := h.sorted_extra.mapValues Json.reread
  ordered_extra := by
    intro e he
    obtain ⟨field, hfield, rfl⟩ := List.mem_map.mp he
    exact Json.ordered_reread (h.ordered_extra field hfield)
  unnamed_extra := by
    intro e he
    obtain ⟨field, hfield, rfl⟩ := List.mem_map.mp he
    exact h.unnamed_extra field hfield

/-- So does a well-formed outcome. -/
theorem StepOutcome.WellFormed.reread {o : StepOutcome} (h : o.WellFormed) :
    o.reread.WellFormed where
  context := h.context.reread
  data := by
    have hdata := Json.ordered_reread h.data
    rwa [Json.reread_object, Json.rereadFields_eq_mapValues] at hdata
  schema := by
    intro schema hschema
    obtain ⟨s, hs, rfl⟩ := Option.map_eq_some_iff.mp hschema
    exact Json.ordered_reread (h.schema s hs)
  trace := h.trace.reread

end PageFlow
