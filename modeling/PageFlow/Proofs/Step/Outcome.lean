/-
# Outcomes that are read back

The outcome of a step by documents that were read is well formed: its context and
its trace are, and its data and its schema are ordered. Such an outcome reads back
from what is written of it, but for a schema that is `null`: it is written like a
page without a known schema, and read back as one.

Key definitions: `Application.Read`, `Situation.Read`, `StepOutcome.Arises`,
`StepOutcome.WellFormed`.
Key theorems: `StepOutcome.WellFormed.readsBack`, `StepOutcome.Arises.wellFormed`,
`StepOutcome.Arises.decode_outcome`.
-/
import PageFlow.Proofs.Call.Trace
import PageFlow.Proofs.Rule.Spelling
import PageFlow.Proofs.Rule.Trace
import PageFlow.Proofs.Session.Context

namespace PageFlow
open Document

/-! ### Steps by documents that were read -/

/-- The documents of the application were read. -/
structure Application.Read (app : Application) : Prop where
  flow : decodeFlow.Reads app.flow
  rules : decodeRuleSet.Reads app.rules
  mappings : ∀ e ∈ app.mappings, decodeApiMapping.Reads e.2
  schemas : (decodeDict decodeJson).Reads app.uiSchemas

/-- The context and the data were read. -/
structure Situation.Read (here : Situation) : Prop where
  context : decodeContext.Reads here.context
  data : (decodeDict decodeJson).Reads here.data

/-- Both durations have 64 bits. -/
structure StepTiming.InRange (timing : StepTiming) : Prop where
  step : timing.step.InRange
  call : timing.call.InRange

/-- The outcomes of steps by documents that were read, with any transport. -/
inductive StepOutcome.Arises : StepOutcome → Prop
  | step {app : Application} {here : Situation} {transport : Transport} {timing : StepTiming}
      (happ : app.Read) (hhere : here.Read) (event : String) (htransport : transport.InRange)
      (htiming : timing.InRange) : Arises ((app.run here event transport).outcome timing)

/-! ### Well-formed outcomes -/

structure StepOutcome.WellFormed (o : StepOutcome) : Prop where
  context : o.updatedContext.WellFormed
  data : (Json.object o.updatedData).Ordered
  schema : ∀ s ∈ o.uiSchema, s.Ordered
  trace : o.trace.WellFormed

/-- A schema that is `null` is written like none. -/
theorem getD_filter_not_isNull (o : Option Json) :
    (o.filter fun s => !s.isNull).getD .null = o.getD .null := by
  rcases o with _ | _ | _ <;> rfl

/-- A well-formed outcome reads back, but for a schema that is `null`. -/
theorem StepOutcome.WellFormed.readsBack {o : StepOutcome} (h : o.WellFormed) :
    decodeStepOutcome.ReadsBack o.json
      { o with uiSchema := o.uiSchema.filter fun s => !s.isNull } := by
  have hschema : ∀ origin, ∀ s ∈ o.uiSchema.filter fun s => !s.isNull,
      id s ≠ .null ∧ decodeJson origin (Node.ofJson (id s).canonical) = .ok s := by
    intro origin s hs
    obtain ⟨hs, hnull⟩ := Option.filter_eq_some_iff.mp hs
    refine ⟨?_, readsBack_decodeJson (h.schema s hs) origin⟩
    rintro rfl
    exact absurd hnull (by decide)
  refine readsBack_decodeRecord [("nextStateId", some (.string o.nextStateId)),
    ("updatedContext", some o.updatedContext.json), ("updatedData", some (.object o.updatedData)),
    ("uiSchema", some (o.uiSchema.getD .null)), ("trace", some o.trace.json)]
    rfl rfl (by decide) ?_
  rintro origin found ⟨hnext, hcontext, hdata, hfound, htrace⟩
  have hfound : found.Holds "uiSchema"
      (some (((o.uiSchema.filter fun s => !s.isNull).map id).getD .null)) := by
    rwa [Option.map_id, id, getD_filter_not_isNull]
  rw [hnext.required (readsBack_decodeText o.nextStateId origin),
    hcontext.required (h.context.readsBack origin),
    hdata.required (readsBack_decodeFields h.data origin), hfound.nullable (hschema origin),
    htrace.required (h.trace.readsBack origin)]
  rfl

/-! ### What steps leave -/

theorem Resolution.wellFormed_trace (r : Resolution) : r.trace.WellFormed where
  sorted_results := by
    show Dict.Sorted ((r.guard.map (·.results)).getD [])
    cases r.guard with
    | none => trivial
    | some guard => exact Dict.sorted_ofList guard.clauses

namespace Application

variable {app : Application} {here : Situation}

theorem Read.ordered_ruledData (happ : app.Read) (hdata : (Json.object here.data).Ordered)
    (event : String) (transport : Transport) :
    (Json.object ((app.run here event transport).ruledData here)).Ordered := by
  unfold StepRun.ruledData
  rw [run_rules]
  split
  · exact hdata
  · have hrules := RuleSet.ordered_of_decode.of_reads happ.rules
    exact (RuleSet.alike_apply hrules (.refl hdata) here.context).data.left

theorem Read.sorted_of_called (happ : app.Read) {event : String} {transport : Transport}
    {mapping : ApiMapping} {outcome : ApiOutcome}
    (h : (app.run here event transport).api = some (.called mapping outcome)) :
    mapping.Sorted ∧ outcome =
      mapping.call here.context ((app.run here event transport).ruledData here) transport := by
  rw [run_api, Option.map_eq_some_iff] at h
  obtain ⟨apiId, -, hcall⟩ := h
  unfold callApi at hcall
  split at hcall
  · next found hfound =>
    obtain ⟨rfl, rfl⟩ := ApiResult.called.inj hcall
    have hmem := Dict.mem_of_find? hfound
    exact ⟨ApiMapping.sorted_of_decode.of_reads (happ.mappings _ hmem), rfl⟩
  · exact nomatch hcall

theorem Read.ordered_data (happ : app.Read) (hdata : (Json.object here.data).Ordered)
    (event : String) (transport : Transport) :
    (Json.object (app.run here event transport).data).Ordered := by
  have hruled := happ.ordered_ruledData hdata event transport
  rw [run_data]
  split
  · next mapping outcome hcalled =>
    obtain ⟨-, rfl⟩ := happ.sorted_of_called hcalled
    exact mapping.ordered_call hruled here.context transport
  · exact hruled

theorem Read.wellFormed_rules (happ : app.Read) (event : String) (transport : Transport) :
    ∀ trace ∈ (app.run here event transport).rules.map (·.trace), trace.WellFormed := by
  intro trace htrace
  obtain ⟨rules, hrules, rfl⟩ := Option.map_eq_some_iff.mp htrace
  rw [run_rules] at hrules
  split at hrules
  · exact nomatch hrules
  · obtain rfl := Option.some.inj hrules
    have hlasting := RuleSet.lasting_of_decode.of_reads happ.rules
    exact RuleSet.wellFormed_trace hlasting here.data here.context

theorem Read.wellFormed_api (happ : app.Read) (hdata : (Json.object here.data).Ordered)
    (event : String) {transport : Transport} (htransport : transport.InRange) {timing : Timing}
    (htiming : timing.InRange) :
    ∀ trace ∈ (app.run here event transport).api.map (ApiResult.trace timing),
      trace.WellFormed := by
  intro trace htrace
  obtain ⟨result, hresult, rfl⟩ := Option.map_eq_some_iff.mp htrace
  cases result with
  | unknown apiId => exact wellFormed_unknownApiTrace apiId htiming
  | called mapping outcome =>
    obtain ⟨hsorted, rfl⟩ := happ.sorted_of_called hresult
    exact hsorted.wellFormed_trace (happ.ordered_ruledData hdata event transport) here.context
      htransport htiming

theorem Read.ordered_uiSchema (happ : app.Read) (event : String) (transport : Transport) :
    ∀ schema ∈ (app.run here event transport).uiSchema, schema.Ordered := by
  intro schema hschema
  rw [run_uiSchema] at hschema
  obtain ⟨page, -, hfind⟩ := Option.bind_eq_some_iff.mp hschema
  have hschemas := ordered_of_decodeFields.of_reads happ.schemas
  exact Json.orderedFields_iff.mp hschemas.2 _ (Dict.mem_of_find? hfind)

end Application

namespace StepOutcome

/-- The outcome of a step by documents that were read is well formed. -/
theorem Arises.wellFormed {o : StepOutcome} (h : o.Arises) : o.WellFormed := by
  obtain ⟨happ, hhere, event, htransport, htiming⟩ := h
  have hcontext := gives_decodeContext.of_reads hhere.context
  have hdata := ordered_of_decodeFields.of_reads hhere.data
  exact
    { context := Application.wellFormed_run _ hcontext event _
      data := happ.ordered_data hdata event _
      schema := happ.ordered_uiSchema event _
      trace :=
        { timing := htiming.step
          flow := Resolution.wellFormed_trace _
          rules := happ.wellFormed_rules event _
          api := happ.wellFormed_api hdata event htransport htiming.call } }

/-- **An outcome is read back with all its parts**, but for a schema that is `null`:
the page is then read as one without a known schema. -/
theorem Arises.decode_outcome {o : StepOutcome} (h : o.Arises) (origin : Origin) :
    decodeStepOutcome origin (Node.ofJson o.json.canonical) =
      .ok { o with uiSchema := o.uiSchema.filter fun s => !s.isNull } :=
  h.wellFormed.readsBack origin

/-- An application with one page, which greets when it is opened and then asks for
a call that no mapping describes. -/
def greeting (schema : Json) : Application where
  flow := ⟨"door", [("door", ⟨"door-page", [("open", ⟨"door", none, some ⟨"visit"⟩⟩)]⟩)]⟩
  uiSchemas := [("door-page", schema)]
  rules := ⟨"", [⟨"greet", "", .zero false, none, .all [],
    [.emitEvent "greeted" (some (.bool true))]⟩]⟩
  mappings := []

/-- The first step of the application, with a call that nothing answers. -/
def greeted (schema : Json) (event : String) : StepOutcome :=
  ((greeting schema).run ⟨none, .empty, []⟩ event fun _ => .error (.task "down")).outcome .none

theorem arises_greeted {schema : Json} {event : String} (h : schema.Ordered) :
    (greeted schema event).Arises := by
  have hschemas : (Json.object (greeting schema).uiSchemas).Ordered :=
    ⟨⟨by simp, trivial⟩, h, trivial⟩
  have happ : (greeting schema).Read :=
    { flow := ⟨.value, Node.ofJson (greeting schema).flow.json, by rfl⟩
      rules := ⟨.value, Node.ofJson (greeting schema).rules.json, by rfl⟩
      mappings := by simp [greeting]
      schemas := ⟨.value, _, readsBack_decodeFields hschemas .value⟩ }
  have hhere : Situation.Read ⟨none, .empty, []⟩ :=
    ⟨⟨.value, Node.ofJson (.object []), by rfl⟩, ⟨.value, Node.ofJson (.object []), by rfl⟩⟩
  exact .step happ hhere event (fun _ _ hanswer => nomatch hanswer)
    ⟨Timing.inRange_none, Timing.inRange_none⟩

/-- The outcome of a page whose schema is `null` is not read back. -/
theorem not_decode_outcome_null :
    (greeted .null "open").Arises ∧
      decodeStepOutcome .value (Node.ofJson (greeted .null "open").json.canonical) ≠
        .ok (greeted .null "open") := by
  have harises : (greeted .null "open").Arises := arises_greeted trivial
  refine ⟨harises, fun hsame => ?_⟩
  have hread := Except.ok.inj ((harises.wellFormed.readsBack .value).symm.trans hsame)
  have hschema : (greeted .null "open").uiSchema = some .null := by rfl
  have hnone := congrArg StepOutcome.uiSchema hread
  rw [hschema] at hnone
  exact nomatch hnone

/-- With a schema the outcome is read back, with the event and the error of the call. -/
theorem decode_outcome_greeted :
    let o := greeted (.string "Welcome") "open"
    o.Arises ∧ o.trace.rules.map (fun rules => rules.events.map (·.event)) = some ["greeted"] ∧
      o.trace.api.bind (·.error) = some "unknown apiId 'visit'" ∧
      decodeStepOutcome .value (Node.ofJson o.json.canonical) = .ok o := by
  intro o
  have harises : o.Arises := arises_greeted trivial
  exact ⟨harises, by rfl, by rfl, (harises.decode_outcome .value).trans (by rfl)⟩

end StepOutcome
end PageFlow
