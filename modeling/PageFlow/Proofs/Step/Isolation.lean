/-
# Isolation of a step's phases

The phases of a step do not interfere. Where a step leads depends on the flow
alone, what the rules do on the rules alone, and both on the data and context
that came in. The transport is asked at most once, what it is asked and what it
answers are in the trace, and an answer that cannot be used changes nothing.

Key definitions: `Application.Calls`.
Key theorems: `Application.mem_requests`, `Application.answered_of_called`,
`Application.run_congr_transport`, `Application.run_of_not_usable`,
`Application.isolated_run`.
-/
import PageFlow.Proofs.Call.Exits
import PageFlow.Proofs.Flow.Resolution
import PageFlow.Proofs.Step.Phases

namespace PageFlow
open Document

/-! ### The call of a step -/

theorem Resolves.transition_eq_some {flow : Flow} {state event : String} {scope : Scope}
    {r : Resolution} (h : Resolves flow state event scope r) (t : Transition) :
    r.transition = some t ↔ r.reason = .ok ∧
      ∃ source, flow.state? state = some source ∧
        Dict.find? event source.transitions = some t := by
  cases h with
  | unknownState hstate => simp
  | noTransition source hstate hnone => simp
  | guardFailed source t' guard hstate ht hguard hvalue => simp
  | unknownTarget source t' hstate ht hguard htarget => simp
  | taken source there t' hstate ht hguard htarget =>
    constructor
    · rintro ⟨rfl⟩
      exact ⟨rfl, source, hstate, ht⟩
    · rintro ⟨-, source', hstate', ht'⟩
      obtain rfl : source = source' := by simpa [hstate] using hstate'
      simpa [ht] using ht'

namespace Application

/-- The event takes a transition whose call has this mapping. -/
def Calls (app : Application) (here : Situation) (event : String) (mapping : ApiMapping) : Prop :=
  (app.flow.resolve (app.stateOf here) event (.ofData here.data here.context.value)).reason = .ok ∧
    ∃ source t call,
      app.flow.state? (app.stateOf here) = some source ∧
      Dict.find? event source.transitions = some t ∧
      t.apiCall = some call ∧ Dict.find? call.apiId app.mappings = some mapping

variable (app : Application) (here : Situation) (event : String) (transport : Transport)

theorem outcome_flow (timing : StepTiming) :
    ((app.run here event transport).outcome timing).nextStateId =
        (app.flow.resolve (app.stateOf here) event (.ofData here.data here.context.value)).nextState ∧
      ((app.run here event transport).outcome timing).trace.flow =
        (app.flow.resolve (app.stateOf here) event
          (.ofData here.data here.context.value)).trace := by
  simp only [StepRun.outcome, run_resolution, and_self]

theorem isSome_rules : (app.run here event transport).rules.isSome ↔
    (app.flow.resolve (app.stateOf here) event
      (.ofData here.data here.context.value)).reason ≠ .error := by
  rw [run_rules, run_resolution]
  split <;> simp_all

theorem rules_of_mem {rules : RulesOutcome} (h : rules ∈ (app.run here event transport).rules) :
    rules = app.rules.apply here.data here.context := by
  rw [run_rules] at h
  split at h
  · exact nomatch h
  · exact (Option.some.inj h).symm

theorem rules_congr {app' : Application} (hsame : app'.rules = app.rules) (state' : Option String)
    (event' : String) (transport' : Transport)
    (h' : (app'.run ⟨state', here.context, here.data⟩ event' transport').rules.isSome)
    (h : (app.run here event transport).rules.isSome) :
    (app'.run ⟨state', here.context, here.data⟩ event' transport').rules =
      (app.run here event transport).rules := by
  obtain ⟨rules', hrules'⟩ := Option.isSome_iff_exists.mp h'
  obtain ⟨rules, hrules⟩ := Option.isSome_iff_exists.mp h
  rw [hrules, hrules', app.rules_of_mem here event transport hrules,
    app'.rules_of_mem _ event' transport' hrules', hsame]

theorem run_called (mapping : ApiMapping) :
    (∃ outcome, (app.run here event transport).api = some (.called mapping outcome)) ↔
      app.Calls here event mapping := by
  have hresolves := app.flow.resolves (app.stateOf here) event
    (.ofData here.data here.context.value)
  rw [run_api, run_resolution]
  unfold Resolution.apiId? Calls
  constructor
  · rintro ⟨outcome, h⟩
    obtain ⟨apiId, hid, hcall⟩ := Option.map_eq_some_iff.mp h
    obtain ⟨t, ht, hapi⟩ := Option.bind_eq_some_iff.mp hid
    obtain ⟨call, hcalled, rfl⟩ := Option.map_eq_some_iff.mp hapi
    obtain ⟨hreason, source, hsource, htransition⟩ := (hresolves.transition_eq_some t).mp ht
    refine ⟨hreason, source, t, call, hsource, htransition, hcalled, ?_⟩
    unfold callApi at hcall
    split at hcall
    · next found hfound =>
      obtain ⟨rfl, -⟩ := ApiResult.called.inj hcall
      exact hfound
    · exact nomatch hcall
  · rintro ⟨hreason, source, t, call, hsource, htransition, hcalled, hfound⟩
    have ht := (hresolves.transition_eq_some t).mpr ⟨hreason, source, hsource, htransition⟩
    simp only [ht, hcalled, Option.bind_some, Option.map_some,
      callApi_of_some app transport _ _ hfound]
    exact ⟨_, rfl⟩

theorem outcome_of_called {mapping : ApiMapping} {outcome : ApiOutcome}
    (h : (app.run here event transport).api = some (.called mapping outcome)) :
    outcome = mapping.call here.context ((app.run here event transport).ruledData here)
      transport := by
  rw [run_api] at h
  obtain ⟨apiId, -, hcall⟩ := Option.map_eq_some_iff.mp h
  unfold callApi at hcall
  split at hcall
  · obtain ⟨rfl, rfl⟩ := ApiResult.called.inj hcall
    rfl
  · exact nomatch hcall

/-- A step sends the request of the call that it makes and no other. -/
theorem mem_requests (request : HttpRequest) :
    request ∈ (app.run here event transport).requests ↔
      ∃ mapping, app.Calls here event mapping ∧ request =
        mapping.requestFor here.context ((app.run here event transport).ruledData here) := by
  constructor
  · intro h
    unfold StepRun.requests at h
    split at h
    · next mapping outcome hapi =>
      refine ⟨mapping, (app.run_called here event transport mapping).mp ⟨outcome, hapi⟩, ?_⟩
      rw [List.mem_singleton.mp h, app.outcome_of_called here event transport hapi]
      exact mapping.call_request here.context _ transport
    · exact nomatch h
  · rintro ⟨mapping, hcalls, rfl⟩
    obtain ⟨outcome, hapi⟩ := (app.run_called here event transport mapping).mpr hcalls
    simp only [StepRun.requests, hapi, List.mem_singleton]
    rw [app.outcome_of_called here event transport hapi, mapping.call_request]

/-- What a called API is recorded to have answered is the answer of the transport to the
one request of the step. -/
theorem answered_of_called {mapping : ApiMapping} {outcome : ApiOutcome}
    (h : (app.run here event transport).api = some (.called mapping outcome)) :
    (app.run here event transport).requests = [outcome.request] ∧
      outcome.answer = transport outcome.request := by
  refine ⟨by simp only [StepRun.requests, h], ?_⟩
  rw [app.outcome_of_called here event transport h, mapping.call_answer, mapping.call_request]

theorem requests_length_le : (app.run here event transport).requests.length ≤ 1 := by
  unfold StepRun.requests
  split <;> simp

theorem requests_length_eq_one :
    (app.run here event transport).requests.length = 1 ↔
      ∃ mapping, app.Calls here event mapping := by
  constructor
  · intro hlength
    obtain ⟨request, hrequest⟩ := List.length_eq_one_iff.mp hlength
    have hmem : request ∈ (app.run here event transport).requests := by simp [hrequest]
    obtain ⟨mapping, hcalls, -⟩ := (app.mem_requests here event transport request).mp hmem
    exact ⟨mapping, hcalls⟩
  · rintro ⟨mapping, hcalls⟩
    have hmem := (app.mem_requests here event transport _).mpr ⟨mapping, hcalls, rfl⟩
    have hpos := List.length_pos_of_mem hmem
    have hle := app.requests_length_le here event transport
    omega

theorem rules_congr_transport (transport' : Transport) :
    (app.run here event transport').rules = (app.run here event transport).rules := by
  rw [run_rules, run_rules, run_resolution, run_resolution]

theorem ruledData_congr_transport (transport' : Transport) :
    (app.run here event transport').ruledData here =
      (app.run here event transport).ruledData here := by
  rw [StepRun.ruledData, StepRun.ruledData, app.rules_congr_transport here event transport]

theorem api_congr_transport {transport' : Transport}
    (h : ∀ request ∈ (app.run here event transport).requests,
      transport' request = transport request) :
    (app.run here event transport').api = (app.run here event transport).api := by
  have hdata := app.ruledData_congr_transport here event transport transport'
  have hcall := app.run_api here event transport
  rw [run_api, run_resolution, hdata, hcall, run_resolution]
  cases hid : Resolution.apiId? _ with
  | none => rfl
  | some apiId =>
    simp only [Option.map_some, Option.some.injEq]
    cases hfound : Dict.find? apiId app.mappings with
    | none => rw [callApi_of_none _ _ _ _ hfound, callApi_of_none _ _ _ _ hfound]
    | some mapping =>
      rw [run_resolution, hid, Option.map_some, callApi_of_some _ _ _ _ hfound] at hcall
      rw [callApi_of_some _ _ _ _ hfound, callApi_of_some _ _ _ _ hfound,
        mapping.call_congr_transport]
      refine h _ ((app.mem_requests here event transport _).mpr ⟨mapping, ?_, rfl⟩)
      exact (app.run_called here event transport mapping).mp ⟨_, hcall⟩

/-- A step does not ask the transport for anything but the requests that it sends. -/
theorem run_congr_transport {transport' : Transport}
    (h : ∀ request ∈ (app.run here event transport).requests,
      transport' request = transport request) :
    app.run here event transport' = app.run here event transport := by
  have hapi := app.api_congr_transport here event transport h
  have hdata := app.ruledData_congr_transport here event transport transport'
  have hresolution : (app.run here event transport').resolution =
      (app.run here event transport).resolution := by
    rw [run_resolution, run_resolution]
  refine StepRun.ext hresolution (app.rules_congr_transport here event transport transport') hapi
    ?_ ?_ ?_
  · rw [run_context, run_context, hapi]
  · rw [run_data, run_data, hapi, hdata]
  · rw [run_uiSchema, run_uiSchema, hresolution]

/-- A step whose answer cannot be used leaves the context, and the data as the
rules left it. -/
theorem run_of_not_usable
    (h : ∀ request ∈ (app.run here event transport).requests, ∀ response,
      transport request = .ok response → ¬ response.Usable) :
    (app.run here event transport).context = here.context ∧
      (app.run here event transport).data = (app.run here event transport).ruledData here := by
  rw [run_context, run_data]
  split
  · next mapping outcome hapi =>
    rw [app.outcome_of_called here event transport hapi]
    refine (mapping.call_of_not_usable here.context _ fun response hresponse => ?_).symm
    refine h _ ((app.mem_requests here event transport _).mpr ⟨mapping, ?_, rfl⟩) response hresponse
    exact (app.run_called here event transport mapping).mp ⟨outcome, hapi⟩
  · exact ⟨rfl, rfl⟩

/-- The request that a step sent is the one in its trace, beside the answer to it. -/
theorem traced_of_mem_requests {request : HttpRequest} (timing : StepTiming)
    (h : request ∈ (app.run here event transport).requests) :
    ∃ api, ((app.run here event transport).outcome timing).trace.api = some api ∧
      api.method = request.method ∧ api.url = request.url ∧
      api.request.headers = request.headers ∧
      api.request.body.map Json.compact = request.body ∧
      api.response = (transport request).toOption.map HttpResponse.trace ∧
      ∀ failure, transport request = .error failure → api.error = some failure.message := by
  obtain ⟨mapping, hcalls, rfl⟩ := (app.mem_requests here event transport request).mp h
  obtain ⟨outcome, hapi⟩ := (app.run_called here event transport mapping).mpr hcalls
  refine ⟨outcome.trace mapping timing.call, ?_, ?_⟩
  · simp only [StepRun.outcome, hapi, Option.map_some, ApiResult.trace]
  · obtain rfl := app.outcome_of_called here event transport hapi
    refine ⟨?_, ?_, ?_, ?_, ?_, fun failure hfailure => ?_⟩
    · rw [ApiOutcome.trace, mapping.call_request]
    · rw [ApiOutcome.trace, mapping.call_request]
    · rw [ApiOutcome.trace, mapping.call_built]
      rfl
    · rw [ApiOutcome.trace, mapping.call_built]
      rfl
    · exact mapping.call_response _ _ transport timing.call
    · exact mapping.call_error?_of_unanswered _ _ hfailure

/-- **The phases of a step are isolated.** The flow alone says where the step leads
and the rules alone what they do, both on the data and context that came in. The
transport gets the request of the taken transition's call, as it is in the trace,
and nothing else, and its answer is the one that is recorded. An answer that cannot be
used changes nothing. -/
theorem isolated_run (timing : StepTiming) :
    let run := app.run here event transport
    let resolution :=
      app.flow.resolve (app.stateOf here) event (.ofData here.data here.context.value)
    (((run.outcome timing).nextStateId = resolution.nextState ∧
        (run.outcome timing).trace.flow = resolution.trace) ∧
      ∀ (app' : Application) (transport' : Transport) (timing' : StepTiming),
        app'.flow = app.flow →
        let run' := app'.run here event transport'
        (run'.outcome timing').nextStateId = (run.outcome timing).nextStateId ∧
          (run'.outcome timing').trace.flow = (run.outcome timing).trace.flow) ∧
    ((run.rules.isSome ↔ resolution.reason ≠ .error) ∧
      (∀ rules ∈ run.rules, rules = app.rules.apply here.data here.context) ∧
      ∀ (app' : Application) (state' : Option String) (event' : String) (transport' : Transport),
        app'.rules = app.rules →
        let run' := app'.run ⟨state', here.context, here.data⟩ event' transport'
        run'.rules.isSome → run.rules.isSome → run'.rules = run.rules) ∧
    (run.requests.length ≤ 1 ∧
      (run.requests.length = 1 ↔ ∃ mapping, app.Calls here event mapping) ∧
      (∀ request ∈ run.requests, ∃ api, (run.outcome timing).trace.api = some api ∧
        api.method = request.method ∧ api.url = request.url ∧
        api.request.headers = request.headers ∧
        api.request.body.map Json.compact = request.body ∧
        api.response = (transport request).toOption.map HttpResponse.trace ∧
        ∀ failure, transport request = .error failure → api.error = some failure.message) ∧
      (∀ mapping outcome, run.api = some (.called mapping outcome) →
        run.requests = [outcome.request] ∧ outcome.answer = transport outcome.request) ∧
      ∀ transport' : Transport, (∀ request ∈ run.requests, transport' request = transport request) →
        app.run here event transport' = run) ∧
    ((∀ request ∈ run.requests, ∀ response,
        transport request = .ok response → ¬ response.Usable) →
      (run.outcome timing).updatedContext = here.context ∧
      (run.outcome timing).updatedData =
        if resolution.reason = .error then here.data
        else (app.rules.apply here.data here.context).data) := by
  refine ⟨⟨app.outcome_flow here event transport timing, ?_⟩, ⟨?_, ?_, ?_⟩,
    ⟨?_, ?_, ?_, ?_, ?_⟩, ?_⟩
  · intro app' transport' timing' hflow
    simp only [outcome_flow, stateOf, hflow, and_self]
  · exact app.isSome_rules here event transport
  · exact fun rules => app.rules_of_mem here event transport
  · exact fun app' state' event' transport' hsame =>
      app.rules_congr here event transport hsame state' event' transport'
  · exact app.requests_length_le here event transport
  · exact app.requests_length_eq_one here event transport
  · exact fun request => app.traced_of_mem_requests here event transport timing
  · exact fun mapping outcome => app.answered_of_called here event transport
  · exact fun transport' => app.run_congr_transport here event transport
  · intro hunusable
    obtain ⟨hcontext, hdata⟩ := app.run_of_not_usable here event transport hunusable
    refine ⟨hcontext, hdata.trans ?_⟩
    rw [StepRun.ruledData, run_rules, run_resolution]
    split <;> rfl

/-- An order form that is sent to an API. -/
def ordering : Application where
  flow :=
    { initialState := "form"
      states :=
        [("form", ⟨"form-page", [("send", ⟨"sent", none, some ⟨"place"⟩⟩)]⟩),
          ("sent", ⟨"sent-page", []⟩)] }
  uiSchemas := []
  rules := ⟨"1", []⟩
  mappings := [("place", ⟨"place", "POST", "/orders", ⟨[], [], []⟩, ⟨[], []⟩⟩)]

/-- An order is sent once, and nothing comes back from an API that is out of order but its
status, which is recorded. -/
theorem isolated_run_ordering :
    let run := ordering.run ⟨none, .empty, [("order", .bool true)]⟩ "send"
      fun _ => .ok ⟨503, "[]"⟩
    run.requests.length = 1 ∧ (run.outcome .none).updatedContext = .empty ∧
      (run.outcome .none).updatedData =
        (ordering.rules.apply [("order", .bool true)] .empty).data ∧
      ∃ api, (run.outcome .none).trace.api = some api ∧
        api.response.map (·.status) = some 503 := by
  obtain ⟨-, -, ⟨-, hone, htraced, -⟩, hkept⟩ := ordering.isolated_run
    ⟨none, .empty, [("order", .bool true)]⟩ "send" (fun _ => .ok ⟨503, "[]"⟩) .none
  obtain ⟨hcontext, hdata⟩ := hkept fun request _ response hresponse husable => by
    obtain rfl := Except.ok.inj hresponse
    exact absurd husable.1.2 (by decide)
  have hcalled := hone.mpr ⟨_, rfl, _, _, _, rfl, rfl, rfl, rfl⟩
  obtain ⟨request, hrequest⟩ := List.length_eq_one_iff.mp hcalled
  obtain ⟨api, hapi, -, -, -, -, hresponse, -⟩ :=
    htraced request (hrequest ▸ List.mem_singleton_self request)
  exact ⟨hcalled, hcontext, hdata.trans (if_neg (by decide)), api, hapi, by rw [hresponse]; rfl⟩

end Application
end PageFlow
