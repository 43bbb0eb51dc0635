/-
# The trace of calls of mappings that were read

A call of a sorted mapping on ordered data sends parameters by name and an ordered
body, and leaves ordered data. With a status in range its trace reads back.

Key definitions: `Transport.InRange`.
Key theorems: `ApiMapping.ordered_call`, `ApiMapping.wellFormed_request`,
`ApiMapping.wellFormed_trace`.
-/
import PageFlow.Proofs.Call.Exits
import PageFlow.Proofs.Mapping.Document
import PageFlow.Proofs.Mapping.Ordered
import PageFlow.Proofs.Trace.Document

namespace PageFlow

-- Powers are those of the core library, whatever else is imported.
attribute [local instance (2000)] instPowNat

/-- The status of every response has 16 bits. -/
def Transport.InRange (transport : Transport) : Prop :=
  ∀ request response, transport request = .ok response → response.status < 2 ^ (16 : Nat)

theorem ordered_of_parseBody {body : String} {value : Json} (h : parseBody body = .ok value) :
    value.Ordered := by
  unfold parseBody at h
  split at h
  · exact Except.ok.inj h ▸ trivial
  · exact ordered_of_parseJson h

/-- The trace of a response is well formed, also if its body is no JSON. -/
theorem HttpResponse.wellFormed_trace {response : HttpResponse}
    (h : response.status < 2 ^ (16 : Nat)) : response.trace.WellFormed where
  status_lt := h
  ordered_body := by
    unfold HttpResponse.trace
    dsimp only
    split
    · next hparse => exact ordered_of_parseBody hparse
    · trivial

namespace ApiMapping

variable {mapping : ApiMapping} {data : Dict Json}

theorem ordered_scope (hdata : (Json.object data).Ordered) (context : Context)
    {response : Option Json} (hresponse : ∀ v ∈ response, v.Ordered) :
    Scope.Ordered ⟨data, context.value, response⟩ :=
  ⟨hdata, Json.ordered_canonical _, hresponse⟩

theorem ordered_foldResponse (mapping : ApiMapping) (hdata : (Json.object data).Ordered)
    (context : Context) {response : Json} (hresponse : response.Ordered) :
    (Json.object (mapping.foldResponse response data context).data).Ordered := by
  have hscope : Scope.Ordered ⟨data, context.value, some response⟩ :=
    ordered_scope hdata context fun v hv => Option.some.inj hv ▸ hresponse
  exact ordered_writeEach _ (ordered_of_mem_mappedValues hscope) hdata

/-- A call on ordered data leaves ordered data. -/
theorem ordered_call (mapping : ApiMapping) (hdata : (Json.object data).Ordered)
    (context : Context) (transport : Transport) :
    (Json.object (mapping.call context data transport).data).Ordered := by
  rcases mapping.failed_or_succeeded context data transport with
    ⟨fault, hcall⟩ | ⟨response, value, -, -, hbody, hcall⟩
  · rw [hcall]
    exact hdata
  · rw [hcall]
    exact mapping.ordered_foldResponse hdata context (ordered_of_parseBody hbody)

theorem sorted_withContentType {headers : Dict String} (h : Dict.Sorted headers) :
    Dict.Sorted (withContentType headers) := by
  unfold withContentType
  split
  · exact h
  · exact h.insert _

/-- The request of a sorted mapping on ordered data has a well-formed trace. -/
theorem Sorted.wellFormed_request (h : mapping.Sorted) (hdata : (Json.object data).Ordered)
    (context : Context) :
    let built := mapping.buildRequest (.ofData data context.value)
    ApiRequestTrace.WellFormed ⟨built.query, built.headers, built.body⟩ := by
  intro built
  let scope := Scope.ofData data context.value
  have hscope : scope.Ordered := ordered_scope hdata context (by simp)
  have hheaders : Dict.Sorted (parameters (mappedValues scope mapping.requestMap.headers)) :=
    sorted_parameters (sorted_mappedValues scope h.request.headers)
  have hbuilt : built.headers =
      if built.body.isSome then
        withContentType (parameters (mappedValues scope mapping.requestMap.headers))
      else parameters (mappedValues scope mapping.requestMap.headers) := rfl
  refine ⟨sorted_parameters (sorted_mappedValues scope h.request.query), ?_, ?_⟩
  · show Dict.Sorted built.headers
    rw [hbuilt]
    split
    · exact sorted_withContentType hheaders
    · exact hheaders
  · intro body hbody
    have hfields : (Json.object (writeEach bodyPath
        (mappedValues scope mapping.requestMap.body) []).1).Ordered :=
      ordered_writeEach bodyPath (ordered_of_mem_mappedValues hscope) ⟨trivial, trivial⟩
    have hbody : (if _ then none else some (Json.object _)) = some body := hbody
    split at hbody
    · exact nomatch hbody
    · obtain rfl := Option.some.inj hbody
      exact ⟨hfields, nofun⟩

/-- **The trace of a call of a sorted mapping is well formed.** -/
theorem Sorted.wellFormed_trace (h : mapping.Sorted) (hdata : (Json.object data).Ordered)
    (context : Context) {transport : Transport} (htransport : transport.InRange) {timing : Timing}
    (htiming : timing.InRange) :
    ((mapping.call context data transport).trace mapping timing).WellFormed := by
  refine ⟨?_, ?_, htiming⟩
  · rw [ApiOutcome.trace, call_built]
    exact h.wellFormed_request hdata context
  · rw [ApiOutcome.trace, call_answer]
    intro response hresponse
    cases hanswer : transport (mapping.requestFor context data) with
    | error e => simp [hanswer] at hresponse
    | ok r =>
      obtain rfl : r.trace = response := by simpa [hanswer] using hresponse
      exact HttpResponse.wellFormed_trace (htransport _ r hanswer)

end ApiMapping

theorem wellFormed_unknownApiTrace (apiId : String) {timing : Timing} (h : timing.InRange) :
    (unknownApiTrace apiId timing).WellFormed where
  request := ⟨trivial, trivial, by simp [unknownApiTrace]⟩
  response := by simp [unknownApiTrace]
  timing := h

end PageFlow
