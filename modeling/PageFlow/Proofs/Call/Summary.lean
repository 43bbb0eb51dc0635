/-
# The error of a call

The trace of a call has a list of errors and one that stands for all of them: the reason why
the answer makes the call fail, or else the first one. The call reports every entry that
fails, so there is no error exactly when the answer can be used and each entry of the five
areas takes effect. The entries of the response have no part in a call that fails.

Key definitions: `TransportAnswer.FailsWith`, `Area.Completes`.
Key theorems: `ApiMapping.entry_mem_errors_iff`, `ApiMapping.error?_eq_none_iff`,
`ApiMapping.summarized_call`.
-/
import PageFlow.Proofs.Call.Entries

namespace PageFlow
open Document

/-! ### Answers -/

/-- Why an answer makes the call fail. -/
inductive TransportAnswer.FailsWith : TransportAnswer → String → Prop
  /-- There is no response. -/
  | unanswered (e : TransportError) : FailsWith (.error e) e.message
  /-- The response does not report success. -/
  | unsuccessful (response : HttpResponse)
      (hstatus : ¬ (200 ≤ response.status ∧ response.status < 300)) :
    FailsWith (.ok response) ("HTTP " ++ toString response.status)
  /-- The body of the response is neither blank nor JSON. -/
  | unreadable (response : HttpResponse)
      (hstatus : 200 ≤ response.status ∧ response.status < 300)
      (hblank : ¬ (Text.trim response.body.toList).isEmpty) (e : DecodeError)
      (hbody : parseJson response.body.toList = .error e) :
    FailsWith (.ok response) ("response body is not valid JSON: " ++ e.message response.body.toList)

theorem TransportAnswer.usable_or_failsWith (answer : TransportAnswer) :
    (∃ response, answer = .ok response ∧ response.Usable) ∨
      ∃ message, FailsWith answer message := by
  cases answer with
  | error e => exact .inr ⟨_, .unanswered e⟩
  | ok response =>
    by_cases hstatus : 200 ≤ response.status ∧ response.status < 300
    · by_cases hblank : (Text.trim response.body.toList).isEmpty
      · exact .inl ⟨response, rfl, hstatus, .inl hblank⟩
      · cases hbody : parseJson response.body.toList with
        | error e => exact .inr ⟨_, .unreadable response hstatus hblank e hbody⟩
        | ok value => exact .inl ⟨response, rfl, hstatus, .inr ⟨value, hbody⟩⟩
    · exact .inr ⟨_, .unsuccessful response hstatus⟩

theorem TransportAnswer.FailsWith.not_usable {response : HttpResponse} {message : String}
    (h : FailsWith (.ok response) message) : ¬ response.Usable := by
  rintro ⟨hstatus, hbody⟩
  cases h with
  | unsuccessful _ hother => exact hother hstatus
  | unreadable _ _ hblank e herror =>
    rcases hbody with hbody | ⟨value, hvalue⟩
    · exact hblank hbody
    · exact nomatch hvalue.symm.trans herror

/-! ### The error that stands for all -/

namespace ApiOutcome

variable (o : ApiOutcome)

theorem isSome_error?_iff : o.error?.isSome ↔ o.messages ≠ [] := by
  unfold error? messages
  cases o.fault <;> cases o.errors <;> simp

/-- The error of a call that failed is the failure, and comes last. -/
theorem error?_of_failed {fault : CallFault} (h : o.fault = some fault) :
    o.error? = some fault.message ∧ o.messages.getLast? = some fault.message := by
  rw [error?, messages, h]
  exact ⟨rfl, by simp⟩

theorem error?_of_unfailed (h : o.fault = none) : o.error? = o.messages.head? := by
  rw [error?, messages, h]
  simp

end ApiOutcome

/-! ### Values for the context -/

/-- Where values are written and none is refused, a context can be read back. -/
theorem exists_of_writeEachContext : ∀ {values fields : Dict Json}, values ≠ [] →
    (writeEachContext values fields).2 = [] →
      ∃ next, contextOfFields (writeEachContext values fields).1 = .ok next
  | (key, value) :: rest, fields, _, h => by
    rw [writeEachContext] at h ⊢
    cases hwrite : writeContext key value fields with
    | error e =>
      rw [hwrite] at h
      exact absurd h (List.cons_ne_nil _ _)
    | ok after =>
      rw [hwrite] at h
      dsimp only at h ⊢
      -- Each value is checked when it is written, so the last one leaves a context.
      cases rest with
      | nil =>
        obtain ⟨-, next, -, -, hread⟩ := exists_of_writeContext hwrite
        exact ⟨next, hread⟩
      | cons second rest => exact exists_of_writeEachContext (List.cons_ne_nil second rest) h

theorem mem_foldContext_of_refused {values : Dict Json} {context : Context}
    {e : String × EntryFault} (h : e ∈ (writeEachContext values context.fields).2) :
    .entry ⟨"responseMap.context", e.1, e.2⟩ ∈ (foldContext values context).2 := by
  have hentry : CallError.entry ⟨"responseMap.context", e.1, e.2⟩ ∈
      (writeEachContext values context.fields).2.map fun e =>
        CallError.entry ⟨"responseMap.context", e.1, e.2⟩ := List.mem_map_of_mem h
  unfold foldContext
  split
  · next hempty =>
    obtain rfl := List.isEmpty_iff.mp hempty
    exact absurd h List.not_mem_nil
  · dsimp only
    split
    · exact hentry
    · exact List.mem_append_left _ hentry

theorem foldContext_of_unrefused {values : Dict Json} {context : Context}
    (h : (writeEachContext values context.fields).2 = []) :
    (foldContext values context).2 = [] := by
  unfold foldContext
  split
  · rfl
  · next hne =>
    have hvalues : values ≠ [] := fun hnil => hne (List.isEmpty_iff.mpr hnil)
    obtain ⟨next, hread⟩ := exists_of_writeEachContext hvalues h
    dsimp only
    rw [hread, h]
    rfl

/-! ### Entries -/

namespace Area

/-- Each entry of an area takes effect. -/
def Completes (area : Area) (scope : Scope) (entries : Dict MappingEntry)
    (fields : Dict Json) : Prop :=
  ∀ front key entry back, entries = front ++ (key, entry) :: back →
    ∃ value, area.TakesEffect scope fields front key entry value

theorem Completes.faultless {area : Area} {scope : Scope} {entries : Dict MappingEntry}
    {fields : Dict Json} (h : area.Completes scope entries fields) :
    (area.fold scope entries fields).2 = [] := by
  refine List.eq_nil_iff_forall_not_mem.mpr fun fault hfault => ?_
  obtain ⟨front, entry, back, hentries, hfails⟩ := failsAt_of_mem hfault
  obtain ⟨value, htakes⟩ := h front fault.1 entry back hentries
  exact htakes.not_failsAt fault.2 hfails

theorem mem_errors_of_failsAt {area : Area} {scope : Scope} {fields : Dict Json}
    {front : Dict MappingEntry} {key : String} {entry : MappingEntry} {fault : EntryFault}
    (h : area.FailsAt scope fields front key entry fault) (back : Dict MappingEntry) :
    ⟨area.name, key, fault⟩ ∈
      area.errors (area.fold scope (front ++ (key, entry) :: back) fields).2 := by
  obtain ⟨-, before, after, hfull, -⟩ := fold_without h back
  rw [hfull, errors]
  exact List.mem_map_of_mem (f := fun fault => EntryError.mk area.name fault.1 fault.2)
    (List.mem_append_right before List.mem_cons_self)

end Area

namespace ApiMapping

variable {mapping : ApiMapping} {context : Context} {data : Dict Json} {transport : Transport}

/-- The answer alone makes a call fail. -/
theorem exists_fault_of_failsWith {answer : TransportAnswer} {message : String}
    (h : answer.FailsWith message) : ∃ fault : CallFault, fault.message = message ∧
      ∀ (mapping : ApiMapping) (context : Context) (data : Dict Json) (transport : Transport),
        transport (mapping.requestFor context data) = answer →
          mapping.call context data transport = mapping.failed context data answer fault := by
  cases h with
  | unanswered e =>
    exact ⟨.transport e, rfl, fun mapping context data transport hanswer =>
      mapping.eq_of_ends context data (.unanswered e hanswer)⟩
  | unsuccessful response hstatus =>
    have hsuccess : response.isSuccess = false :=
      Bool.eq_false_iff.mpr fun hok => hstatus (HttpResponse.isSuccess_iff.mp hok)
    exact ⟨.status response.status, rfl, fun mapping context data transport hanswer =>
      mapping.eq_of_ends context data (.unsuccessful response hanswer hsuccess)⟩
  | unreadable response hstatus hblank e hbody =>
    have hread : parseBody response.body = .error e := by rw [parseBody, if_neg hblank, hbody]
    exact ⟨.badBody e response.body, rfl, fun mapping context data transport hanswer =>
      mapping.eq_of_ends context data
        (.unreadable response hanswer (HttpResponse.isSuccess_iff.mpr hstatus) e hread)⟩

theorem isSome_response (mapping : ApiMapping) (context : Context) (data : Dict Json)
    (transport : Transport) (timing : Timing) :
    ((mapping.call context data transport).trace mapping timing).response.isSome ↔
      ∃ response, transport (mapping.requestFor context data) = .ok response := by
  rw [call_response]
  cases transport (mapping.requestFor context data) <;> simp [Except.toOption]

theorem mem_errors_of_mem_built {e : EntryError}
    (h : e ∈ (mapping.buildRequest (.ofData data context.value)).errors) :
    .entry e ∈ (mapping.call context data transport).errors := by
  have hmem := List.mem_map_of_mem (f := CallError.entry) h
  rcases mapping.failed_or_succeeded context data transport with
    ⟨fault, hcall⟩ | ⟨response, value, -, -, -, hcall⟩
  · rw [hcall]
    exact hmem
  · rw [hcall]
    exact List.mem_append_left _ hmem

theorem mem_errors_of_mem_area {area : Area} {scope : Scope}
    (hscope : mapping.MapsIn context data transport area scope) {e : EntryError}
    (h : e ∈ area.errors (area.fold scope (mapping.entries area) (area.start context data)).2) :
    .entry e ∈ (mapping.call context data transport).errors := by
  have hbuilt := mapping.buildRequest_eq (.ofData data context.value)
  cases hscope with
  | query =>
    refine mem_errors_of_mem_built ?_
    rw [hbuilt]
    exact List.mem_append_left _ (List.mem_append_left _ h)
  | headers =>
    refine mem_errors_of_mem_built ?_
    rw [hbuilt]
    exact List.mem_append_left _ (List.mem_append_right _ h)
  | body =>
    refine mem_errors_of_mem_built ?_
    rw [hbuilt]
    exact List.mem_append_right _ h
  | data hfolds =>
    obtain ⟨response, hcall⟩ := hfolds.call_eq
    rw [hcall, succeeded, foldResponse_data]
    refine List.mem_append_right _ (List.mem_append_left _ (List.mem_map_of_mem ?_))
    exact List.mem_append_left _ h
  | context hfolds =>
    obtain ⟨response, hcall⟩ := hfolds.call_eq
    rw [hcall, succeeded, foldResponse_data]
    refine List.mem_append_right _ ?_
    rw [Area.errors, Area.fold, Area.putAll_context, List.map_append] at h
    rcases List.mem_append.mp h with h | h
    · refine List.mem_append_left _ (List.mem_map_of_mem (List.mem_append_right _ ?_))
      rwa [List.map_map] at h
    · obtain ⟨refused, hrefused, rfl⟩ := List.mem_map.mp h
      exact List.mem_append_right _ (mem_foldContext_of_refused hrefused)

theorem mem_errors_of_failsAt {area : Area} {scope : Scope}
    (hscope : mapping.MapsIn context data transport area scope) {front back : Dict MappingEntry}
    {key : String} {entry : MappingEntry} {fault : EntryFault}
    (hentries : mapping.entries area = front ++ (key, entry) :: back)
    (hfails : area.FailsAt scope (area.start context data) front key entry fault) :
    .entry ⟨area.name, key, fault⟩ ∈ (mapping.call context data transport).errors :=
  mem_errors_of_mem_area hscope (hentries ▸ Area.mem_errors_of_failsAt hfails back)

theorem Folds.errors_eq_nil {value : Json} (hfolds : mapping.Folds context data transport value)
    (h : ∀ area scope, mapping.MapsIn context data transport area scope →
      area.Completes scope (mapping.entries area) (area.start context data)) :
    (mapping.call context data transport).errors = [] := by
  have hfaultless : ∀ {area scope}, mapping.MapsIn context data transport area scope →
      (area.fold scope (mapping.entries area) (area.start context data)).2 = [] :=
    fun hscope => (h _ _ hscope).faultless
  have hquery := hfaultless .query
  have hheaders := hfaultless .headers
  have hbody := hfaultless .body
  have hdata := hfaultless (.data hfolds)
  have hcontext := hfaultless (.context hfolds)
  simp only [Area.start] at hquery hheaders hbody hdata hcontext
  -- The context is folded from the mapped values, apart from the errors of mapping them.
  rw [Area.fold, Area.putAll_context] at hcontext
  obtain ⟨hmapped, hwritten⟩ := List.append_eq_nil_iff.mp hcontext
  have hunmapped := List.map_eq_nil_iff.mp hmapped
  obtain ⟨response, hcall⟩ := hfolds.call_eq
  rw [hcall, succeeded, buildRequest_eq, foldResponse_data]
  simp only [hquery, hheaders, hbody, hdata, entryErrors, hunmapped,
    foldContext_of_unrefused hwritten, Area.errors, List.map_nil, List.append_nil]

theorem Folds.fault_call {value : Json} (h : mapping.Folds context data transport value) :
    (mapping.call context data transport).fault = none := by
  obtain ⟨response, hcall⟩ := h.call_eq
  rw [hcall]
  rfl

/-- A call whose response is folded in has no error exactly when each entry takes effect. -/
theorem Folds.error?_eq_none_iff {value : Json}
    (hfolds : mapping.Folds context data transport value) :
    (mapping.call context data transport).error? = none ↔
      ∀ area scope, mapping.MapsIn context data transport area scope →
        area.Completes scope (mapping.entries area) (area.start context data) := by
  have hnone : (mapping.call context data transport).error? = none ↔
      (mapping.call context data transport).errors = [] := by
    rw [ApiOutcome.error?, hfolds.fault_call]
    simp
  rw [hnone]
  refine ⟨fun h area scope hscope front key entry back hentries => ?_, hfolds.errors_eq_nil⟩
  rcases area.failsAt_or_takesEffect scope (area.start context data) front key entry with
    ⟨fault, hfails⟩ | htakes
  · have hmem := mem_errors_of_failsAt hscope hentries hfails
    rw [h] at hmem
    exact absurd hmem List.not_mem_nil
  · exact htakes

/-- What a call that fails reports of entries is reported of those of the request. -/
theorem area_of_failsWith {message : String}
    (h : (transport (mapping.requestFor context data)).FailsWith message) {error : CallError}
    (herror : error ∈ (mapping.call context data transport).errors) :
    ∃ area key fault, area ≠ Area.data ∧ area ≠ Area.context ∧
      error = .entry ⟨area.name, key, fault⟩ := by
  -- The areas of the response are mapped only if it is folded in.
  have hfolds : ∀ value, ¬ mapping.Folds context data transport value := by
    intro value hfolds
    obtain ⟨response, hanswer, husable⟩ := hfolds.usable
    rw [hanswer] at h
    exact h.not_usable husable
  cases mapping.reports_of_mem herror with
  | context hscope hread =>
    cases hscope with
    | context hvalue => exact absurd hvalue (hfolds _)
  | @entry area _ _ _ key _ fault hscope hentries hfails =>
    refine ⟨area, key, fault, ?_, ?_, rfl⟩
    · rintro rfl
      cases hscope with
      | data hvalue => exact hfolds _ hvalue
    · rintro rfl
      cases hscope with
      | context hvalue => exact hfolds _ hvalue

theorem call_withResponseMap {message : String}
    (h : (transport (mapping.requestFor context data)).FailsWith message)
    (responseMap : ResponseMap) :
    { mapping with responseMap }.call context data transport =
      mapping.call context data transport := by
  obtain ⟨fault, -, hcall⟩ := exists_fault_of_failsWith h
  rw [hcall mapping context data transport rfl,
    hcall { mapping with responseMap } context data transport rfl]
  rfl

theorem error_of_failsWith {message : String}
    (h : (transport (mapping.requestFor context data)).FailsWith message) :
    (mapping.call context data transport).error? = some message ∧
      (mapping.call context data transport).messages.getLast? = some message := by
  obtain ⟨fault, rfl, hcall⟩ := exists_fault_of_failsWith h
  rw [hcall mapping context data transport rfl]
  exact ApiOutcome.error?_of_failed _ rfl

theorem error_of_not_failsWith
    (h : ∀ message, ¬ (transport (mapping.requestFor context data)).FailsWith message) :
    (mapping.call context data transport).error? =
      (mapping.call context data transport).messages.head? := by
  rcases (transport (mapping.requestFor context data)).usable_or_failsWith with
    ⟨response, hanswer, husable⟩ | ⟨message, hfails⟩
  · obtain ⟨value, hfolds⟩ := folds_of_usable hanswer husable
    exact ApiOutcome.error?_of_unfailed _ hfolds.fault_call
  · exact absurd hfails (h message)

/-- **There is no error when everything takes effect**, and only then. -/
theorem error?_eq_none_iff : (mapping.call context data transport).error? = none ↔
    (∃ response, transport (mapping.requestFor context data) = .ok response ∧ response.Usable) ∧
      ∀ area scope, mapping.MapsIn context data transport area scope →
        area.Completes scope (mapping.entries area) (area.start context data) := by
  constructor
  · intro hnone
    rcases (transport (mapping.requestFor context data)).usable_or_failsWith with
      ⟨response, hanswer, husable⟩ | ⟨message, hfails⟩
    · obtain ⟨value, hfolds⟩ := folds_of_usable hanswer husable
      exact ⟨⟨response, hanswer, husable⟩, hfolds.error?_eq_none_iff.mp hnone⟩
    · exact nomatch hnone.symm.trans (error_of_failsWith hfails).1
  · rintro ⟨⟨response, hanswer, husable⟩, hcompletes⟩
    obtain ⟨value, hfolds⟩ := folds_of_usable hanswer husable
    exact hfolds.error?_eq_none_iff.mpr hcompletes

/-- **The entries that are reported are those that fail.** -/
theorem entry_mem_errors_iff {e : EntryError} :
    .entry e ∈ (mapping.call context data transport).errors ↔
      mapping.Reports context data transport (.entry e) := by
  refine ⟨reports_of_mem, fun h => ?_⟩
  cases h with
  | entry hscope hentries hfails => exact mem_errors_of_failsAt hscope hentries hfails

/-- **The error of a call stands for all of them.** There is one exactly when there are errors.
It is the reason why the answer makes the call fail, which is then the last of the errors, and
else the first of them. There is none exactly when the answer can be used, and each entry of
the five areas is mapped and its value put where its key says; each one that fails is reported.
What stands in an area behind an entry is what putting its value gave, and the request, the data
and the context of the call hold what stands in the areas at their end.
The trace has a response exactly when the transport gave one. In a call that fails the entries
of the response are not looked at, and none of the errors is theirs. -/
theorem summarized_call (mapping : ApiMapping) (context : Context) (data : Dict Json)
    (transport : Transport) (timing : Timing) :
    let answer := transport (mapping.requestFor context data)
    let outcome := mapping.call context data transport
    let trace := outcome.trace mapping timing
    (trace.error.isSome ↔ trace.errors ≠ []) ∧
      (trace.response.isSome ↔ ∃ response, answer = .ok response) ∧
      (trace.error = none ↔ (∃ response, answer = .ok response ∧ response.Usable) ∧
        ∀ area scope, mapping.MapsIn context data transport area scope →
          area.Completes scope (mapping.entries area) (area.start context data)) ∧
      (mapping.Makes context data transport outcome ∧
        ∀ (area : Area) scope front key entry value,
          let fields := area.start context data
          area.TakesEffect scope fields front key entry value →
            area.put key value (area.fold scope front fields).1 =
              .ok (area.fold scope (front ++ [(key, entry)]) fields).1) ∧
      (∀ e, .entry e ∈ outcome.errors ↔ mapping.Reports context data transport (.entry e)) ∧
      ((∀ message, ¬ answer.FailsWith message) → trace.error = trace.errors.head?) ∧
      ∀ message, answer.FailsWith message →
        trace.error = some message ∧ trace.errors.getLast? = some message ∧
          (∀ error ∈ outcome.errors, ∃ area key fault, area ≠ Area.data ∧ area ≠ Area.context ∧
            error = .entry ⟨area.name, key, fault⟩) ∧
          ∀ responseMap, { mapping with responseMap }.call context data transport = outcome := by
  intro answer outcome trace
  have hsome : trace.error.isSome ↔ trace.errors ≠ [] := outcome.isSome_error?_iff
  have hfailed : ∀ message, answer.FailsWith message →
      trace.error = some message ∧ trace.errors.getLast? = some message ∧
        (∀ error ∈ outcome.errors, ∃ area key fault, area ≠ Area.data ∧ area ≠ Area.context ∧
          error = .entry ⟨area.name, key, fault⟩) ∧
        ∀ responseMap, { mapping with responseMap }.call context data transport = outcome := by
    intro message h
    obtain ⟨herror, hlast⟩ := error_of_failsWith h
    exact ⟨herror, hlast, fun error => area_of_failsWith h, call_withResponseMap h⟩
  exact ⟨hsome, mapping.isSome_response context data transport timing, error?_eq_none_iff,
    ⟨mapping.makes_call context data transport, fun _ _ _ _ _ _ => Area.TakesEffect.put_eq⟩,
    fun _ => entry_mem_errors_iff, error_of_not_failsWith, hfailed⟩

/-- A call with a path that cannot be read before there is a response, and a key that names no
field. -/
def searching : ApiMapping where
  apiId := "search"
  method := "GET"
  endpoint := "/people"
  requestMap := ⟨[("name", ⟨"response.name", none⟩)], [], []⟩
  responseMap := ⟨[("data", ⟨"response.people", none⟩)], []⟩

/-- Where the call fails only the first is reported, before the failure. -/
theorem summarized_call_people :
    let refused := (searching.call .empty [] fun _ => .ok ⟨503, "later"⟩).trace searching .none
    let folded := (searching.call .empty [] fun _ => .ok ⟨200, " "⟩).trace searching .none
    let unreadable := "requestMap.query.name: path 'response.name' refers to response, " ++
      "which is not available here"
    (refused.error = some "HTTP 503" ∧ refused.errors = [unreadable, "HTTP 503"]) ∧
      folded.errors = [unreadable,
        "responseMap.data.data: path 'data' does not name a field to write"] ∧
      folded.error = folded.errors.head? := by
  intro refused folded unreadable
  obtain ⟨-, -, -, -, -, -, hfailed⟩ :=
    summarized_call searching .empty [] (fun _ => .ok ⟨503, "later"⟩) .none
  obtain ⟨herror, -⟩ := hfailed "HTTP 503" (.unsuccessful ⟨503, "later"⟩ (by decide))
  obtain ⟨-, -, -, -, -, hfirst, -⟩ :=
    summarized_call searching .empty [] (fun _ => .ok ⟨200, " "⟩) .none
  have husable : HttpResponse.Usable ⟨200, " "⟩ := ⟨by decide, .inl (by decide)⟩
  exact ⟨⟨herror, by decide +kernel⟩, by decide +kernel,
    hfirst fun message hfails => hfails.not_usable husable⟩

end ApiMapping
end PageFlow
