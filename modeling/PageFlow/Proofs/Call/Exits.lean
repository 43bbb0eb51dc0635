/-
# The exits of a call

A call asks the transport for one request and ends in one of four ways: the
transport fails, the response does not report success, its body cannot be read,
or it is folded in. Each exit fixes the whole outcome; only the last one changes
data and context.

Key definitions: `HttpResponse.Usable`, `ApiMapping.requestFor`, `ApiMapping.Ends`.
Key theorems: `ApiMapping.ends`, `ApiMapping.failed_or_succeeded`,
`ApiMapping.call_congr_transport`, `ApiMapping.call_of_not_usable`.
-/
import PageFlow.Call

namespace PageFlow
open Document

/-- A response that is folded in: it reports success, and its body is blank or JSON. -/
def HttpResponse.Usable (response : HttpResponse) : Prop :=
  (200 ≤ response.status ∧ response.status < 300) ∧
    ((Text.trim response.body.toList).isEmpty = true ∨
      ∃ value, parseJson response.body.toList = .ok value)

theorem HttpResponse.isSuccess_iff {response : HttpResponse} :
    response.isSuccess = true ↔ 200 ≤ response.status ∧ response.status < 300 := by
  simp [isSuccess]

theorem HttpResponse.usable_of_parseBody {response : HttpResponse} {value : Json}
    (hstatus : response.isSuccess = true) (h : parseBody response.body = .ok value) :
    response.Usable := by
  refine ⟨isSuccess_iff.mp hstatus, ?_⟩
  unfold parseBody at h
  split at h
  · next hblank => exact .inl hblank
  · exact .inr ⟨value, h⟩

theorem HttpResponse.Usable.exists_parseBody {response : HttpResponse} (h : response.Usable) :
    ∃ value, parseBody response.body = .ok value := by
  unfold parseBody
  split
  · exact ⟨_, rfl⟩
  · next hblank => exact h.2.resolve_left hblank

namespace ApiMapping

variable (mapping : ApiMapping) (context : Context) (data : Dict Json)

/-- The request that a call sends. -/
def requestFor : HttpRequest :=
  mapping.httpRequest (mapping.buildRequest (.ofData data context.value))

/-- The outcome of a call that failed. -/
def failed (answer : TransportAnswer) (fault : CallFault) : ApiOutcome :=
  { data
    context
    built := mapping.buildRequest (.ofData data context.value)
    request := mapping.requestFor context data
    answer
    errors := (mapping.buildRequest (.ofData data context.value)).errors.map .entry
    fault := some fault }

/-- The outcome of a call whose response was folded in. -/
def succeeded (response : HttpResponse) (value : Json) : ApiOutcome :=
  { data := (mapping.foldResponse value data context).data
    context := (mapping.foldResponse value data context).context
    built := mapping.buildRequest (.ofData data context.value)
    request := mapping.requestFor context data
    answer := .ok response
    errors := (mapping.buildRequest (.ofData data context.value)).errors.map .entry ++
      (mapping.foldResponse value data context).errors
    fault := none }

/-- How a call ends. -/
inductive Ends (transport : Transport) : ApiOutcome → Prop
  /-- There is no response. -/
  | unanswered (e : TransportError)
      (hanswer : transport (mapping.requestFor context data) = .error e) :
    Ends transport (mapping.failed context data (.error e) (.transport e))
  /-- The response does not report success. -/
  | unsuccessful (response : HttpResponse)
      (hanswer : transport (mapping.requestFor context data) = .ok response)
      (hstatus : response.isSuccess = false) :
    Ends transport (mapping.failed context data (.ok response) (.status response.status))
  /-- The body of the response cannot be read. -/
  | unreadable (response : HttpResponse)
      (hanswer : transport (mapping.requestFor context data) = .ok response)
      (hstatus : response.isSuccess = true) (e : DecodeError)
      (hbody : parseBody response.body = .error e) :
    Ends transport (mapping.failed context data (.ok response) (.badBody e response.body))
  /-- The response is folded in. -/
  | folded (response : HttpResponse)
      (hanswer : transport (mapping.requestFor context data) = .ok response)
      (hstatus : response.isSuccess = true) (value : Json)
      (hbody : parseBody response.body = .ok value) :
    Ends transport (mapping.succeeded context data response value)

/-- There is no other way. -/
theorem ends (transport : Transport) :
    Ends mapping context data transport (mapping.call context data transport) := by
  unfold call
  dsimp only
  split
  · next e hanswer =>
    rw [hanswer]
    exact .unanswered e hanswer
  · next response hanswer =>
    rw [hanswer]
    split
    · next hstatus => exact .unsuccessful response hanswer (by simpa using hstatus)
    · next hstatus =>
      have hstatus : response.isSuccess = true := by simpa using hstatus
      split
      · next e hbody => exact .unreadable response hanswer hstatus e hbody
      · next value hbody => exact .folded response hanswer hstatus value hbody

theorem eq_of_ends {transport : Transport} {outcome : ApiOutcome}
    (h : Ends mapping context data transport outcome) :
    mapping.call context data transport = outcome := by
  unfold call
  dsimp only
  cases h with
  | unanswered e hanswer =>
    rw [requestFor] at hanswer
    rw [hanswer]
    rfl
  | unsuccessful response hanswer hstatus =>
    rw [requestFor] at hanswer
    rw [hanswer]
    dsimp only
    rw [hstatus]
    rfl
  | unreadable response hanswer hstatus e hbody =>
    rw [requestFor] at hanswer
    rw [hanswer]
    dsimp only
    rw [hstatus, hbody]
    rfl
  | folded response hanswer hstatus value hbody =>
    rw [requestFor] at hanswer
    rw [hanswer]
    dsimp only
    rw [hstatus, hbody]
    rfl

/-- A call fails, or its response is folded in. -/
theorem failed_or_succeeded (transport : Transport) :
    (∃ fault, mapping.call context data transport = mapping.failed context data
        (transport (mapping.requestFor context data)) fault) ∨
      ∃ response value, transport (mapping.requestFor context data) = .ok response ∧
        response.isSuccess = true ∧ parseBody response.body = .ok value ∧
        mapping.call context data transport = mapping.succeeded context data response value := by
  have hends := mapping.ends context data transport
  generalize mapping.call context data transport = outcome at hends
  cases hends with
  | unanswered e hanswer => exact .inl ⟨_, by rw [hanswer]⟩
  | unsuccessful response hanswer hstatus => exact .inl ⟨_, by rw [hanswer]⟩
  | unreadable response hanswer hstatus e hbody => exact .inl ⟨_, by rw [hanswer]⟩
  | folded response hanswer hstatus value hbody =>
    exact .inr ⟨response, value, hanswer, hstatus, hbody, rfl⟩

theorem call_built (transport : Transport) :
    (mapping.call context data transport).built =
      mapping.buildRequest (.ofData data context.value) := by
  rcases mapping.failed_or_succeeded context data transport with
    ⟨fault, hcall⟩ | ⟨response, value, -, -, -, hcall⟩
  all_goals
    rw [hcall]
    rfl

theorem call_request (transport : Transport) :
    (mapping.call context data transport).request = mapping.requestFor context data := by
  rcases mapping.failed_or_succeeded context data transport with
    ⟨fault, hcall⟩ | ⟨response, value, -, -, -, hcall⟩
  all_goals
    rw [hcall]
    rfl

theorem call_answer (transport : Transport) :
    (mapping.call context data transport).answer =
      transport (mapping.requestFor context data) := by
  rcases mapping.failed_or_succeeded context data transport with
    ⟨fault, hcall⟩ | ⟨response, value, hanswer, -, -, hcall⟩
  · rw [hcall]
    rfl
  · rw [hcall, hanswer]
    rfl

/-- The response in the trace of a call is the one that the transport gave. -/
theorem call_response (transport : Transport) (timing : Timing) :
    ((mapping.call context data transport).trace mapping timing).response =
      (transport (mapping.requestFor context data)).toOption.map HttpResponse.trace := by
  rw [ApiOutcome.trace, call_answer]
  cases transport (mapping.requestFor context data) <;> rfl

theorem call_error?_of_unanswered {transport : Transport} {e : TransportError}
    (h : transport (mapping.requestFor context data) = .error e) :
    (mapping.call context data transport).error? = some e.message := by
  rw [mapping.eq_of_ends context data (.unanswered e h)]
  rfl

/-- A call asks the transport for its one request only. -/
theorem call_congr_transport {transport transport' : Transport}
    (h : transport' (mapping.requestFor context data) =
      transport (mapping.requestFor context data)) :
    mapping.call context data transport' = mapping.call context data transport := by
  unfold requestFor at h
  unfold call
  dsimp only
  rw [h]

/-- A call whose answer cannot be used changes neither data nor context. -/
theorem call_of_not_usable {transport : Transport}
    (h : ∀ response, transport (mapping.requestFor context data) = .ok response →
      ¬ response.Usable) :
    (mapping.call context data transport).data = data ∧
      (mapping.call context data transport).context = context := by
  rcases mapping.failed_or_succeeded context data transport with
    ⟨fault, hcall⟩ | ⟨response, value, hanswer, hstatus, hbody, -⟩
  · rw [hcall]
    exact ⟨rfl, rfl⟩
  · exact absurd (HttpResponse.usable_of_parseBody hstatus hbody) (h response hanswer)

end ApiMapping
end PageFlow
