/-
# The states of a session

A session that starts in a declared state stays in declared states, whatever its flow
looks like. The state changes only when the event is resolved, and then to the target
of the transition that is declared for the event, whose guard holds on the data and
the context as the step finds them. A transition that leads nowhere leaves all as it
was.

Key definitions: `Stop`, `Application.stops`, `StepOutcome.Follows`.
Key theorems: `Application.session_eq_map_stops`, `Application.forall_stops`,
`Application.follows_run`, `Application.follows_session`.
-/
import PageFlow.Proofs.Session

namespace PageFlow

/-! ### The stops of a session -/

/-- A step of a session before it is taken: where it starts, once the host has set its
keys, the event and what answers requests. -/
structure Stop where
  here : Situation
  event : String
  transport : Transport

namespace Application

/-- The step that is taken at a stop. -/
def runAt (app : Application) (stop : Stop) : StepRun :=
  app.run stop.here stop.event stop.transport

/-- The stops of a session. Each starts where the step at the one before it ended. -/
def stops (app : Application) : Situation → List Turn → List Stop
  | _, [] => []
  | here, t :: rest =>
    let stop : Stop := ⟨{ here with data := here.data.insertAll t.set }, t.event, t.transport⟩
    let run := app.runAt stop
    stop :: app.stops ⟨some run.resolution.nextState, run.context, run.data⟩ rest

/-- The steps of a session are those that are taken at its stops. -/
theorem session_eq_map_stops (app : Application) : ∀ (here : Situation) (turns : List Turn),
    app.session here turns = (app.stops here turns).map app.runAt
  | _, [] => rfl
  | _, _ :: rest => congrArg (_ :: ·) (session_eq_map_stops app _ rest)

/-- An invariant of the situations, which the keys of the host do not touch, holds at
every stop. -/
theorem forall_stops (app : Application) (Inv : Situation → Prop)
    (hset : ∀ (here : Situation) (set : List (String × Json)), Inv here →
      Inv { here with data := here.data.insertAll set })
    (hstep : ∀ stop : Stop, Inv stop.here →
      Inv ⟨some (app.runAt stop).resolution.nextState, (app.runAt stop).context,
        (app.runAt stop).data⟩) :
    ∀ (turns : List Turn) (here : Situation), Inv here →
      ∀ stop ∈ app.stops here turns, Inv stop.here
  | [], _, _, stop, hmem => absurd hmem List.not_mem_nil
  | t :: rest, here, hinv, stop, hmem => by
    have hstart := hset here t.set hinv
    rcases List.mem_cons.mp hmem with rfl | hmem
    · exact hstart
    · exact forall_stops app Inv hset hstep rest _ (hstep _ hstart) stop hmem

end Application

/-! ### Steps from declared states -/

/-- The outcome of a step in a declared state that follows the flow. -/
structure StepOutcome.Follows (app : Application) (stop : Stop) (o : StepOutcome) : Prop where
  source : o.trace.flow.fromStateId = app.stateOf stop.here
  declared : (app.flow.state? (app.stateOf stop.here)).isSome
  declared_next : (app.flow.state? o.nextStateId).isSome
  traced : o.nextStateId = o.trace.flow.toStateId
  /-- The state changes only when the event is resolved. -/
  moved : o.nextStateId ≠ app.stateOf stop.here → o.trace.flow.reason = .ok
  /-- It is then the target of the declared transition, whose guard holds before the rules run. -/
  taken : o.trace.flow.reason = .ok → ∃ state transition,
    app.flow.state? (app.stateOf stop.here) = some state ∧
      Dict.find? stop.event state.transitions = some transition ∧
      o.nextStateId = transition.target ∧
      ∀ guard ∈ transition.guard,
        (guard.evaluate (.ofData stop.here.data stop.here.context.value) "guard").value = true
  /-- A step that cannot be resolved leaves all as it was. -/
  stalled : o.trace.flow.reason = .error →
    o.nextStateId = app.stateOf stop.here ∧ o.updatedData = stop.here.data ∧
      o.updatedContext = stop.here.context ∧ o.trace.rules = none ∧ o.trace.api = none

namespace Resolves

variable {flow : Flow} {state event : String} {scope : Scope} {r : Resolution}

theorem fromState_eq (h : Resolves flow state event scope r) : r.fromState = state := by
  cases h <;> rfl

/-- An event that is not resolved leaves the state as it is. -/
theorem nextState_eq (h : Resolves flow state event scope r) (hreason : r.reason ≠ .ok) :
    r.nextState = state := by
  cases h with
  | taken here there t hhere ht hguard htarget => exact absurd rfl hreason
  | _ => rfl

theorem apiId?_eq_none (h : Resolves flow state event scope r) (hreason : r.reason ≠ .ok) :
    r.apiId? = none := by
  cases h with
  | taken here there t hhere ht hguard htarget => exact absurd rfl hreason
  | _ => rfl

theorem exists_transition (h : Resolves flow state event scope r) (hreason : r.reason = .ok) :
    ∃ here transition, flow.state? state = some here ∧
      Dict.find? event here.transitions = some transition ∧ r.nextState = transition.target ∧
      (∀ guard ∈ transition.guard, (guard.evaluate scope "guard").value = true) ∧
      (flow.state? transition.target).isSome := by
  cases h with
  | taken here there t hhere ht hguard htarget =>
    exact ⟨here, t, hhere, ht, rfl, hguard, htarget ▸ rfl⟩
  | _ => exact nomatch hreason

theorem declared_nextState (h : Resolves flow state event scope r)
    (hstate : (flow.state? state).isSome) : (flow.state? r.nextState).isSome := by
  by_cases hreason : r.reason = .ok
  · obtain ⟨here, t, -, -, hto, -, htarget⟩ := h.exists_transition hreason
    rwa [hto]
  · rwa [h.nextState_eq hreason]

end Resolves

namespace Application

variable (app : Application) (stop : Stop)

theorem resolves_runAt : Resolves app.flow (app.stateOf stop.here) stop.event
    (.ofData stop.here.data stop.here.context.value) (app.runAt stop).resolution := by
  rw [runAt, run_resolution]
  exact app.flow.resolves _ _ _

/-- A step that cannot be resolved runs no rules, makes no call and changes nothing. -/
theorem unchanged_of_error {stop : Stop} (h : (app.runAt stop).resolution.reason = .error) :
    (app.runAt stop).rules = none ∧ (app.runAt stop).api = none ∧
      (app.runAt stop).data = stop.here.data ∧ (app.runAt stop).context = stop.here.context := by
  have hid : (app.runAt stop).resolution.apiId? = none :=
    (app.resolves_runAt stop).apiId?_eq_none (by rw [h]; decide)
  have hrules : (app.runAt stop).rules = none := (app.run_rules _ _ _).trans (if_pos h)
  have hapi : (app.runAt stop).api = none :=
    (app.run_api _ _ _).trans (congrArg (Option.map _) hid)
  refine ⟨hrules, hapi, ?_, ?_⟩
  · have hdata := app.run_data stop.here stop.event stop.transport
    rw [← runAt, hapi] at hdata
    rw [hdata, StepRun.ruledData, hrules]
    rfl
  · have hcontext := app.run_context stop.here stop.event stop.transport
    rwa [← runAt, hapi] at hcontext

/-- **A step from a declared state follows the flow.** -/
theorem follows_run {stop : Stop} (hstate : (app.flow.state? (app.stateOf stop.here)).isSome)
    (timing : StepTiming) : ((app.runAt stop).outcome timing).Follows app stop := by
  have hresolves := app.resolves_runAt stop
  exact
    { source := hresolves.fromState_eq
      declared := hstate
      declared_next := hresolves.declared_nextState hstate
      traced := hresolves.nextState_eq_toState
      moved := fun hmoved => Decidable.not_not.mp fun hreason =>
        hmoved (hresolves.nextState_eq hreason)
      taken := fun hreason => by
        obtain ⟨state, t, hstate, ht, hto, hguard, -⟩ := hresolves.exists_transition hreason
        exact ⟨state, t, hstate, ht, hto, hguard⟩
      stalled := fun hreason => by
        have hreason : (app.runAt stop).resolution.reason = .error := hreason
        obtain ⟨hrules, hapi, hdata, hcontext⟩ := app.unchanged_of_error hreason
        exact ⟨hresolves.nextState_eq (by rw [hreason]; decide), hdata, hcontext,
          congrArg (Option.map _) hrules, congrArg (Option.map _) hapi⟩ }

/-- **A session from a declared state follows its flow**, checked or not: each step starts
in a declared state and ends in one, and changes the state only by the declared
transition whose guard holds. -/
theorem follows_session {here : Situation} (hstate : (app.flow.state? (app.stateOf here)).isSome)
    (turns : List Turn) :
    app.session here turns = (app.stops here turns).map app.runAt ∧
      ∀ stop ∈ app.stops here turns, ∀ timing : StepTiming,
        ((app.runAt stop).outcome timing).Follows app stop := by
  refine ⟨app.session_eq_map_stops here turns, fun stop hmem timing => ?_⟩
  refine app.follows_run (app.forall_stops
    (fun here => (app.flow.state? (app.stateOf here)).isSome) ?_ ?_ turns here hstate stop hmem) timing
  · exact fun here set hdeclared => hdeclared
  · exact fun stop hdeclared => (app.follows_run hdeclared .none).declared_next

/-- A queue at a counter: a number is called once a rule has seen a ticket, and the
counter can close only towards a state that nobody declared. -/
def counter : Application where
  flow :=
    { initialState := "waiting"
      states :=
        [("waiting", ⟨"number-page", [("call",
            ⟨"served", some (.compare ⟨.eq, .path "data.seen", some (.value (.bool true))⟩), none⟩),
            ("close", ⟨"closed", none, some ⟨"notify"⟩⟩)]⟩),
          ("served", ⟨"desk-page", []⟩)] }
  uiSchemas := []
  rules := ⟨"1", [⟨"see", "", .zero false, none, .compare ⟨.exists, .path "data.ticket", none⟩,
    [.setField "data.seen" (some (.bool true)) none]⟩]⟩
  mappings := []

/-- A morning at the counter, without a line to anybody else. -/
def morning : List Turn :=
  [⟨[("ticket", .string "a1")], "close", fun _ => .error (.task "down")⟩,
    ⟨[], "call", fun _ => .error (.task "down")⟩, ⟨[], "call", fun _ => .error (.task "down")⟩,
    ⟨[], "close", fun _ => .error (.task "down")⟩]

/-- The guard does not see yet what the rules of its step write: the second call moves
on. To close is no way out, neither before nor behind. -/
theorem follows_session_counter :
    (counter.flow.state? (counter.stateOf ⟨none, .empty, []⟩)).isSome ∧
      (counter.session ⟨none, .empty, []⟩ morning).map (·.resolution.reason) =
        [.error, .guardFailed, .ok, .noTransition] ∧
      counter.session ⟨none, .empty, []⟩ morning =
        (counter.stops ⟨none, .empty, []⟩ morning).map counter.runAt ∧
      ∀ stop ∈ counter.stops ⟨none, .empty, []⟩ morning, ∀ timing : StepTiming,
        ((counter.runAt stop).outcome timing).Follows counter stop :=
  have hstate : (counter.flow.state? (counter.stateOf ⟨none, .empty, []⟩)).isSome := by decide
  ⟨hstate, by decide +kernel, counter.follows_session hstate morning⟩

end Application
end PageFlow
