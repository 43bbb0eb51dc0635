/-
# Traces that are read back

A trace is well formed when its dictionaries are sorted, the values in it are
ordered, the values that may be absent are not `null`, and its numbers are in
range. A well-formed trace reads back from what is written of it, with all its
parts.

Key definitions: `FlowTrace.WellFormed`, `RulesTrace.WellFormed`, `ApiTrace.WellFormed`,
`Trace.WellFormed`.
Key theorems: `FlowTrace.WellFormed.readsBack`, `RulesTrace.WellFormed.readsBack`,
`ApiTrace.WellFormed.readsBack`, `Trace.WellFormed.readsBack`.
-/
import PageFlow.Proofs.Document.RoundTrip
import PageFlow.Trace.Document

namespace PageFlow
open Document

-- Powers are those of the core library, whatever else is imported.
attribute [local instance (2000)] instPowNat

/-! ### Well-formed traces -/

/-- Clause results are listed by id. -/
structure FlowTrace.WellFormed (t : FlowTrace) : Prop where
  sorted_results : Dict.Sorted t.conditionResults

/-- The payload of an event is ordered and not `null`. -/
def EmittedEvent.Lasting (e : EmittedEvent) : Prop := ∀ p ∈ e.payload, p.Ordered ∧ p ≠ .null

/-- Clause results are listed by id, and all events last. -/
structure RulesTrace.WellFormed (t : RulesTrace) : Prop where
  sorted_results : Dict.Sorted t.conditionResults
  lasting_events : ∀ e ∈ t.events, e.Lasting

/-- Parameters are listed by name, and the body is ordered and not `null`. -/
structure ApiRequestTrace.WellFormed (t : ApiRequestTrace) : Prop where
  sorted_query : Dict.Sorted t.query
  sorted_headers : Dict.Sorted t.headers
  lasting_body : ∀ b ∈ t.body, b.Ordered ∧ b ≠ .null

/-- The status has 16 bits, and the body is ordered. -/
structure ApiResponseTrace.WellFormed (t : ApiResponseTrace) : Prop where
  status_lt : t.status < 2 ^ (16 : Nat)
  ordered_body : t.body.Ordered

/-- The duration has 64 bits. -/
def Timing.InRange (t : Timing) : Prop := t.durationMs < 2 ^ (64 : Nat)

theorem Timing.inRange_none : Timing.none.InRange := Nat.two_pow_pos 64

structure ApiTrace.WellFormed (t : ApiTrace) : Prop where
  request : t.request.WellFormed
  response : ∀ r ∈ t.response, r.WellFormed
  timing : t.timing.InRange

structure Trace.WellFormed (t : Trace) : Prop where
  timing : t.timing.InRange
  flow : t.flow.WellFormed
  rules : ∀ r ∈ t.rules, r.WellFormed
  api : ∀ a ∈ t.api, a.WellFormed

/-! ### Parts -/

theorem Json.fieldUnlessEmpty_eq {α : Type} (key : String) (list : List α) (value : Json) :
    fieldUnlessEmpty key list value =
      (if list.isEmpty then none else some value).map fun v => (key, v) := by
  rw [fieldUnlessEmpty]
  split <;> rfl

theorem readsBack_decodeNat {expected : String} {n limit : Nat} (hn : n < limit)
    (hlimit : limit ≤ 2 ^ (64 : Nat)) : (decodeNat expected limit).ReadsBack (.ofNat n) n := by
  have hfits : leastInteger ≤ (n : Int) ∧ (n : Int) < integerLimit := by
    rw [leastInteger, integerLimit]
    omega
  have hwritten : Json.ofNat n = .number (.integer n hfits) := by
    rw [Json.ofNat, Number.ofInt?, dif_pos hfits]
    rfl
  intro origin
  rw [hwritten]
  show (if 0 ≤ (n : Int) ∧ (n : Int) < limit then Except.ok (n : Int).toNat else _) = _
  rw [if_pos ⟨Int.natCast_nonneg n, Int.ofNat_lt.mpr hn⟩, Int.toNat_natCast]

theorem Timing.InRange.readsBack {t : Timing} (h : t.InRange) :
    decodeMillis.ReadsBack (.ofNat t.durationMs) t.durationMs :=
  readsBack_decodeNat h (Nat.le_refl _)

theorem readsBack_decodeReason (reason : FlowReason) :
    (decodeOneOf FlowReason.named).ReadsBack (.string reason.name) reason :=
  fun origin => by cases origin <;> cases reason <;> rfl

theorem readsBack_decodeClauseResults {results : Dict Bool} (h : Dict.Sorted results) :
    decodeClauseResults.ReadsBack (clauseResultsJson results) results :=
  readsBack_decodeDict h fun e _ => readsBack_decodeBool e.2

theorem readsBack_decodeTextList (texts : List String) :
    decodeTexts.ReadsBack (Json.ofTexts texts) texts := readsBack_decodeTexts texts

theorem readsBack_decodeTextDict {texts : Dict String} (h : Dict.Sorted texts) :
    decodeTextDict.ReadsBack (.object (texts.mapValues .string)) texts :=
  readsBack_decodeDict h fun e _ => readsBack_decodeText e.2

/-! ### Events -/

theorem FlowTrace.WellFormed.readsBack {t : FlowTrace} (h : t.WellFormed) :
    decodeFlowTrace.ReadsBack t.json t := by
  refine readsBack_decodeRecord [("event", some (.string t.event)),
    ("fromStateId", some (.string t.fromStateId)), ("toStateId", some (.string t.toStateId)),
    ("uiPageId", t.uiPageId.map .string), ("reason", some (.string t.reason.name)),
    ("guardResult", t.guardResult.map .bool),
    ("conditionResults", if t.conditionResults.isEmpty then none
      else some (clauseResultsJson t.conditionResults)),
    ("conditionErrors", if t.conditionErrors.isEmpty then none
      else some (Json.ofTexts t.conditionErrors)),
    ("errorMessage", t.errorMessage.map .string)] ?_ rfl (by decide) ?_
  · rw [FlowTrace.json, Json.fieldUnlessEmpty_eq, Json.fieldUnlessEmpty_eq]
    rfl
  · rintro origin found ⟨hevent, hfrom, hto, hpage, hreason, hguard, hresults, herrors, hmessage⟩
    rw [hevent.required (readsBack_decodeText t.event origin),
      hfrom.required (readsBack_decodeText t.fromStateId origin),
      hto.required (readsBack_decodeText t.toStateId origin), hpage.optional_text,
      hreason.required (readsBack_decodeReason t.reason origin),
      hguard.optional fun b _ => ⟨nofun, readsBack_decodeBool b origin⟩,
      hresults.defaulted_list (readsBack_decodeClauseResults h.sorted_results origin),
      herrors.defaulted_list (readsBack_decodeTextList t.conditionErrors origin),
      hmessage.optional_text]
    rfl

/-! ### Rules -/

theorem EmittedEvent.Lasting.readsBack {e : EmittedEvent} (h : e.Lasting) :
    decodeEmittedEvent.ReadsBack e.json e := by
  refine readsBack_decodeRecord [("ruleId", some (.string e.ruleId)),
    ("event", some (.string e.event)), ("payload", e.payload)] rfl rfl (by decide) ?_
  rintro origin found ⟨hid, hevent, hpayload⟩
  rw [hid.required (readsBack_decodeText e.ruleId origin),
    hevent.required (readsBack_decodeText e.event origin), hpayload.optional_json h]
  rfl

theorem readsBack_decodeRuleError (e : RuleError) : decodeRuleError.ReadsBack e.json e := by
  refine readsBack_decodeRecord [("ruleId", some (.string e.ruleId)),
    ("message", some (.string e.message))] rfl rfl (by decide) ?_
  rintro origin found ⟨hid, hmessage⟩
  rw [hid.required (readsBack_decodeText e.ruleId origin),
    hmessage.required (readsBack_decodeText e.message origin)]
  rfl

theorem RulesTrace.WellFormed.readsBack {t : RulesTrace} (h : t.WellFormed) :
    decodeRulesTrace.ReadsBack t.json t := by
  have hevents : (decodeList decodeEmittedEvent).ReadsBack
      (.array (t.events.map (·.json))) t.events :=
    readsBack_decodeList fun e he => (h.lasting_events e he).readsBack
  have herrors : (decodeList decodeRuleError).ReadsBack (.array (t.errors.map (·.json))) t.errors :=
    readsBack_decodeList fun e _ => readsBack_decodeRuleError e
  refine readsBack_decodeRecord [("rulesConsidered", some (Json.ofTexts t.rulesConsidered)),
    ("rulesMatched", some (Json.ofTexts t.rulesMatched)),
    ("conditionResults", some (clauseResultsJson t.conditionResults)),
    ("events", some (.array (t.events.map (·.json)))),
    ("errors", some (.array (t.errors.map (·.json))))] rfl rfl (by decide) ?_
  rintro origin found ⟨hconsidered, hmatched, hresults, hfoundEvents, hfoundErrors⟩
  rw [hconsidered.required (readsBack_decodeTextList t.rulesConsidered origin),
    hmatched.required (readsBack_decodeTextList t.rulesMatched origin),
    hresults.required (readsBack_decodeClauseResults h.sorted_results origin),
    hfoundEvents.required (hevents origin), hfoundErrors.required (herrors origin)]
  rfl

/-! ### Calls -/

theorem ApiRequestTrace.WellFormed.readsBack {t : ApiRequestTrace} (h : t.WellFormed) :
    decodeApiRequestTrace.ReadsBack t.json t := by
  refine readsBack_decodeRecord [("query", some (.object (t.query.mapValues .string))),
    ("headers", some (.object (t.headers.mapValues .string))), ("body", t.body)]
    rfl rfl (by decide) ?_
  rintro origin found ⟨hquery, hheaders, hbody⟩
  rw [hquery.required (readsBack_decodeTextDict h.sorted_query origin),
    hheaders.required (readsBack_decodeTextDict h.sorted_headers origin),
    hbody.optional_json h.lasting_body]
  rfl

theorem ApiResponseTrace.WellFormed.readsBack {t : ApiResponseTrace} (h : t.WellFormed) :
    decodeApiResponseTrace.ReadsBack t.json t := by
  refine readsBack_decodeRecord [("status", some (.ofNat t.status)), ("body", some t.body)]
    rfl rfl (by decide) ?_
  rintro origin found ⟨hstatus, hbody⟩
  rw [hstatus.required (readsBack_decodeNat h.status_lt (by decide) origin),
    hbody.required (readsBack_decodeJson h.ordered_body origin)]
  rfl

theorem ApiTrace.WellFormed.readsBack {t : ApiTrace} (h : t.WellFormed) :
    decodeApiTrace.ReadsBack t.json t := by
  refine readsBack_decodeRecord [("apiId", some (.string t.apiId)),
    ("method", some (.string t.method)), ("endpoint", some (.string t.endpoint)),
    ("url", some (.string t.url)), ("request", some t.request.json),
    ("response", t.response.map (·.json)), ("error", t.error.map .string),
    ("errors", if t.errors.isEmpty then none else some (Json.ofTexts t.errors)),
    ("startedAt", some (.string t.timing.startedAt)),
    ("durationMs", some (.ofNat t.timing.durationMs))] ?_ rfl (by decide) ?_
  · rw [ApiTrace.json, Json.fieldUnlessEmpty_eq]
    rfl
  · rintro origin found
      ⟨hid, hmethod, hendpoint, hurl, hrequest, hresponse, herror, herrors, hstarted, hduration⟩
    rw [hid.required (readsBack_decodeText t.apiId origin),
      hmethod.required (readsBack_decodeText t.method origin),
      hendpoint.required (readsBack_decodeText t.endpoint origin),
      hurl.required (readsBack_decodeText t.url origin),
      hrequest.required (h.request.readsBack origin),
      hresponse.optional fun r hr => ⟨nofun, (h.response r hr).readsBack origin⟩,
      herror.optional_text, herrors.defaulted_list (readsBack_decodeTextList t.errors origin),
      hstarted.required (readsBack_decodeText t.timing.startedAt origin),
      hduration.required (h.timing.readsBack origin)]
    rfl

/-! ### Steps -/

/-- **A well-formed trace reads back** from what is written of it. -/
theorem Trace.WellFormed.readsBack {t : Trace} (h : t.WellFormed) :
    decodeTrace.ReadsBack t.json t := by
  refine readsBack_decodeRecord [("startedAt", some (.string t.timing.startedAt)),
    ("durationMs", some (.ofNat t.timing.durationMs)), ("flow", some t.flow.json),
    ("rules", t.rules.map (·.json)), ("api", t.api.map (·.json))] rfl rfl (by decide) ?_
  rintro origin found ⟨hstarted, hduration, hflow, hrules, hapi⟩
  rw [hstarted.required (readsBack_decodeText t.timing.startedAt origin),
    hduration.required (h.timing.readsBack origin), hflow.required (h.flow.readsBack origin),
    hrules.optional fun r hr => ⟨nofun, (h.rules r hr).readsBack origin⟩,
    hapi.optional fun a ha => ⟨nofun, (h.api a ha).readsBack origin⟩]
  rfl

theorem Trace.WellFormed.withoutTiming {t : Trace} (h : t.WellFormed) :
    t.withoutTiming.WellFormed where
  timing := Timing.inRange_none
  flow := h.flow
  rules := h.rules
  api a ha := by
    obtain ⟨api, hapi, rfl⟩ := Option.map_eq_some_iff.mp ha
    exact ⟨(h.api api hapi).request, (h.api api hapi).response, Timing.inRange_none⟩

end PageFlow
