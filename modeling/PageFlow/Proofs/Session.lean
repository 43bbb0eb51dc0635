/-
# Sessions

A session takes one step after the other: each starts where the one before it
ended, after the host has set some keys at the top of the data. What holds
where a session starts and is kept by every turn holds at every step of it.

With a bundle that passes its checks a session stays in declared states, and
its traces show no error that the documents are to blame for: what is left are
writes that the shape of the data refuses.

Key definitions: `Turn`, `Application.session`, `StepRun.Orderly`.
Key theorems: `Application.forall_session`, `Bundle.orderly_run`,
`Bundle.orderly_session`.
-/
import PageFlow.Proofs.Flow.Resolution
import PageFlow.Proofs.Step.Phases
import PageFlow.Proofs.Validation

namespace PageFlow

/-- What the host does for one step: the keys it sets at the top of the data,
the event and what answers requests. -/
structure Turn where
  set : List (String × Json)
  event : String
  transport : Transport

namespace Application

/-- The step of a turn. -/
def turn (app : Application) (here : Situation) (t : Turn) : StepRun :=
  app.run { here with data := here.data.insertAll t.set } t.event t.transport

/-- The steps of a session. -/
def session (app : Application) : Situation → List Turn → List StepRun
  | _, [] => []
  | here, t :: rest =>
    let run := app.turn here t
    run :: app.session ⟨some run.resolution.nextState, run.context, run.data⟩ rest

/-- An invariant of the situations carries what each step has from it through a
session. -/
theorem forall_session (app : Application) (Inv : Situation → Prop) {P : StepRun → Prop}
    (hstep : ∀ here t, Inv here → P (app.turn here t) ∧
      Inv ⟨some (app.turn here t).resolution.nextState, (app.turn here t).context,
        (app.turn here t).data⟩) :
    ∀ (turns : List Turn) (here : Situation), Inv here → ∀ run ∈ app.session here turns, P run
  | [], _, _, run, hr => absurd hr List.not_mem_nil
  | t :: rest, here, hi, run, hr => by
    rcases List.mem_cons.mp hr with rfl | hr
    · exact (hstep here t hi).1
    · exact forall_session app Inv hstep rest _ (hstep here t hi).2 run hr

end Application

/-! ### Checked bundles -/

/-- A step that shows no error that the documents are to blame for. -/
structure StepRun.Orderly (bundle : Bundle) (run : StepRun) (timing : StepTiming) : Prop where
  fromState : (bundle.flow.state? (run.outcome timing).trace.flow.fromStateId).isSome
  toState : (bundle.flow.state? (run.outcome timing).nextStateId).isSome
  reason : (run.outcome timing).trace.flow.reason ≠ .error
  conditionErrors : (run.outcome timing).trace.flow.conditionErrors = []
  /-- Each fault of a rule is a write that the shape of the data refuses. -/
  faults : ∀ rules, run.rules = some rules → ∀ fault ∈ rules.faults,
    ∃ rule ∈ bundle.rules.rules, fault.1 = rule.ruleId ∧ fault.2.RefusedWrite
  /-- Each error of a rule in the trace has the wording of such a refusal. -/
  errors : ∀ rules, (run.outcome timing).trace.rules = some rules → ∀ error ∈ rules.errors,
    ∃ path segment, error.message = (PathError.notAContainer path segment).message ∨
      error.message = (PathError.indexOutOfBounds path segment).message
  api : ∀ trace, (run.outcome timing).trace.api = some trace →
    ∀ apiId timing', trace ≠ unknownApiTrace apiId timing'

theorem RuleFault.RefusedWrite.message : ∀ {fault : RuleFault}, fault.RefusedWrite →
    ∃ path segment, fault.message = (PathError.notAContainer path segment).message ∨
      fault.message = (PathError.indexOutOfBounds path segment).message
  | .action (.notAContainer path segment), _ => ⟨path, segment, Or.inl rfl⟩
  | .action (.indexOutOfBounds path segment), _ => ⟨path, segment, Or.inr rfl⟩

namespace Bundle

variable {bundle : Bundle}

/-- In a declared state an event is resolved without an error, to a declared state. -/
theorem declared_of_resolves (h : bundle.problems = []) {state event : String} {data : Dict Json}
    {context : Json} {r : Resolution} (hstate : (bundle.flow.state? state).isSome)
    (hr : Resolves bundle.flow state event (.ofData data context) r) :
    (bundle.flow.state? r.fromState).isSome ∧ (bundle.flow.state? r.nextState).isSome ∧
      r.reason ≠ .error ∧ r.trace.conditionErrors = [] := by
  have hflow := (problems_eq_nil h).1
  have herrors : ∀ {here t} (_ : bundle.flow.state? state = some here)
      (_ : Dict.find? event here.transitions = some t), ∀ guard ∈ t.guard,
        (guard.evaluate (.ofData data context) "guard").messages = [] := by
    intro here t hhere ht guard hguard
    have := Condition.errors_evaluate data context "guard" guard
      ((Flow.checked_transition hflow hhere ht).2 guard hguard)
    rw [Evaluation.messages, this, List.map_nil]
  cases hr with
  | unknownState hnone => simp [hnone] at hstate
  | noTransition here hhere hnone => exact ⟨hstate, hstate, by simp, rfl⟩
  | guardFailed here t guard hhere ht hguard hvalue =>
    exact ⟨hstate, hstate, by simp, herrors hhere ht guard hguard⟩
  | unknownTarget here t hhere ht hguard htarget =>
    have := (Flow.checked_transition hflow hhere ht).1
    simp [htarget] at this
  | taken here there t hhere ht hguard htarget =>
    refine ⟨hstate, by simp [htarget], by simp, ?_⟩
    cases hg : t.guard with
    | none => simp [Resolution.trace]
    | some guard => exact herrors hhere ht guard hg

theorem mapping_of_resolves (h : bundle.problems = []) {state event apiId : String} {scope : Scope}
    {r : Resolution} (hr : Resolves bundle.flow state event scope r) (hid : r.apiId? = some apiId) :
    ∃ mapping, Dict.find? apiId bundle.mappingsById = some mapping ∧ mapping.endpoint ≠ "" := by
  cases hr with
  | unknownState _ => simp [Resolution.apiId?] at hid
  | noTransition _ _ _ => simp [Resolution.apiId?] at hid
  | guardFailed _ _ _ _ _ _ _ => simp [Resolution.apiId?] at hid
  | unknownTarget _ _ _ _ _ _ => simp [Resolution.apiId?] at hid
  | taken here there t hhere ht hguard htarget =>
    obtain ⟨call, hcall, rfl⟩ : ∃ call, t.apiCall = some call ∧ call.apiId = apiId := by
      simpa [Resolution.apiId?] using hid
    obtain ⟨mapping, hm⟩ := Option.isSome_iff_exists.mp (isSome_mapping h hhere ht hcall)
    exact ⟨mapping, hm, endpoint_of_mappingProblems (problems_eq_nil h).2.2.1 mapping
      (mem_apiMappings hm)⟩

theorem errors_of_rules (h : bundle.problems = []) (data : Dict Json) (context : Context)
    (error : RuleError) (he : error ∈ (bundle.rules.apply data context).trace.errors) :
    ∃ path segment, error.message = (PathError.notAContainer path segment).message ∨
      error.message = (PathError.indexOutOfBounds path segment).message := by
  obtain ⟨fault, hfault, rfl⟩ := List.mem_map.mp he
  obtain ⟨-, -, -, hrefused⟩ :=
    RuleSet.refusedWrite_of_apply (problems_eq_nil h).2.1 data context fault hfault
  exact hrefused.message

/-- The calls that a checked bundle asks for are made. -/
theorem called_of_run (h : bundle.problems = []) {here : Situation} {event : String}
    {transport : Transport} {result : ApiResult}
    (hapi : (bundle.application.run here event transport).api = some result) :
    ∃ mapping outcome, result = .called mapping outcome ∧ mapping.endpoint ≠ "" := by
  have hr := bundle.flow.resolves (bundle.application.stateOf here) event
    (.ofData here.data here.context.value)
  rw [Application.run_api, Option.map_eq_some_iff] at hapi
  obtain ⟨apiId, hid, rfl⟩ := hapi
  rw [Application.run_resolution] at hid
  obtain ⟨mapping, hm, hendpoint⟩ := mapping_of_resolves h hr hid
  exact ⟨mapping, _, bundle.application.callApi_of_some transport here.context _ hm, hendpoint⟩

theorem orderly_run (h : bundle.problems = []) (here : Situation)
    (hstate : ∀ state ∈ here.state, (bundle.flow.state? state).isSome) (event : String)
    (transport : Transport) (timing : StepTiming) :
    (bundle.application.run here event transport).Orderly bundle timing := by
  have hdeclared : (bundle.flow.state? (bundle.application.stateOf here)).isSome := by
    unfold Application.stateOf
    cases hs : here.state with
    | none => exact Flow.isSome_initial (problems_eq_nil h).1
    | some state => exact hstate state hs
  have hresolution := bundle.application.run_resolution here event transport
  have hrules := bundle.application.run_rules here event transport
  obtain ⟨hfrom, hto, hreason, herrors⟩ := declared_of_resolves h hdeclared
    (hresolution ▸ bundle.flow.resolves (bundle.application.stateOf here) event
      (.ofData here.data here.context.value))
  rw [if_neg hreason] at hrules
  refine ⟨hfrom, hto, hreason, herrors, fun rules hr fault hfault => ?_,
    fun rules hr error he => ?_, fun trace ha apiId timing' => ?_⟩
  · rw [hrules, Option.some.injEq] at hr
    exact RuleSet.refusedWrite_of_apply (problems_eq_nil h).2.1 here.data here.context fault
      (hr ▸ hfault)
  · simp only [StepRun.outcome, hrules, Option.map_some, Option.some.injEq] at hr
    exact errors_of_rules h here.data here.context error (hr ▸ he)
  · obtain ⟨result, hresult, rfl⟩ := Option.map_eq_some_iff.mp ha
    obtain ⟨mapping, outcome, rfl, hendpoint⟩ := called_of_run h hresult
    -- The trace of a call that was made names the endpoint, the other one has none.
    exact fun heq => hendpoint (congrArg ApiTrace.endpoint heq)

/-- **Checked bundles meet no errors of their own.** Whatever the data, the
context, the events and the answers are, each step of a session is orderly. -/
theorem orderly_session (h : bundle.problems = []) (state : Option String)
    (hstate : ∀ s ∈ state, (bundle.flow.state? s).isSome) (context : Context) (data : Dict Json)
    (turns : List Turn) (timing : StepTiming) :
    ∀ run ∈ bundle.application.session ⟨state, context, data⟩ turns, run.Orderly bundle timing := by
  refine bundle.application.forall_session
    (fun here => ∀ s ∈ here.state, (bundle.flow.state? s).isSome) (fun here t hi => ?_)
    turns ⟨state, context, data⟩ hstate
  have horderly := orderly_run h { here with data := here.data.insertAll t.set } hi
    t.event t.transport timing
  exact ⟨horderly, fun s hs => Option.some.inj hs ▸ horderly.toState⟩

/-- An order form: sending it needs a customer and places the order, and a rule
fills in the state of the order. -/
def orderForm : Bundle where
  flow :=
    { initialState := "form"
      states :=
        [("form", ⟨"form-page", [("send",
            ⟨"sent", some (.compare ⟨.exists, .path "data.customer", none⟩), some ⟨"place"⟩⟩)]⟩),
          ("sent", ⟨"sent-page", []⟩)] }
  rules := ⟨"1", [⟨"open", "", .zero false, none,
    .compare ⟨.neq, .path "data.order.state", some (.value (.string "closed"))⟩,
    [.setField "data.order.state" (some (.string "open")) none]⟩]⟩
  apiMappings := [⟨"place", "POST", "/orders", ⟨[], [], [("order", ⟨"data.order", none⟩)]⟩,
    ⟨[("order.id", ⟨"response.id", none⟩)], []⟩⟩]
  uiSchemas := []

/-- The form stays orderly also where the order is a scalar that no rule can write into. -/
theorem orderly_session_orderForm :
    orderForm.problems = [] ∧
      ∀ run ∈ orderForm.application.session ⟨none, .empty, [("order", .bool true)]⟩
        [⟨[], "send", fun _ => .error (.task "down")⟩,
          ⟨[("customer", .string "c7")], "send", fun _ => .ok ⟨200, "7"⟩⟩],
        run.Orderly orderForm .none :=
  ⟨by decide, orderly_session (by decide) none (by simp) .empty [("order", .bool true)] _ .none⟩

end Bundle
end PageFlow
