/-
# The phases of a step

What each phase of a step starts from and what it leaves: the resolution and
the rules start from the data and context of the step, the call from the data
that the rules left and the same context. Only a call that was made changes the
context.

Key definitions: `Application.stateOf`, `StepRun.ruledData`.
Key theorems: `Application.run_resolution`, `Application.run_rules`,
`Application.run_api`, `Application.run_data`, `Application.run_context`.
-/
import PageFlow.Step

namespace PageFlow

attribute [ext] StepRun

/-- The state that a step starts in. -/
def Application.stateOf (app : Application) (here : Situation) : String :=
  here.state.getD app.flow.initialState

/-- The data that the rules of a step left; without rules the data it started with. -/
def StepRun.ruledData (run : StepRun) (here : Situation) : Dict Json :=
  (run.rules.map (·.data)).getD here.data

namespace Application

variable (app : Application) (here : Situation) (event : String) (transport : Transport)

theorem run_resolution : (app.run here event transport).resolution =
    app.flow.resolve (app.stateOf here) event (.ofData here.data here.context.value) := by
  unfold run
  dsimp only
  split <;> rfl

theorem run_rules : (app.run here event transport).rules =
    if (app.run here event transport).resolution.reason = .error then none
    else some (app.rules.apply here.data here.context) := by
  rw [run_resolution]
  unfold run
  dsimp only
  split <;> rfl

theorem run_api : (app.run here event transport).api =
    (app.run here event transport).resolution.apiId?.map fun apiId =>
      app.callApi apiId here.context ((app.run here event transport).ruledData here) transport := by
  unfold StepRun.ruledData
  rw [run_rules, run_resolution]
  unfold run
  dsimp only
  split <;> rfl

theorem run_context : (app.run here event transport).context =
    match (app.run here event transport).api with
    | some (.called _ outcome) => outcome.context
    | _ => here.context := by
  unfold run
  dsimp only
  generalize Option.map _ (Resolution.apiId? _) = api
  rcases api with _ | ⟨_, _⟩ | _ <;> rfl

theorem run_data : (app.run here event transport).data =
    match (app.run here event transport).api with
    | some (.called _ outcome) => outcome.data
    | _ => (app.run here event transport).ruledData here := by
  unfold StepRun.ruledData
  rw [run_rules, run_resolution]
  unfold run
  dsimp only
  generalize Option.map _ (Resolution.apiId? _) = api
  rcases api with _ | ⟨_, _⟩ | _ <;> rfl

theorem run_uiSchema : (app.run here event transport).uiSchema =
    (app.run here event transport).resolution.page.bind fun page =>
      Dict.find? page app.uiSchemas := by
  rw [run_resolution]
  unfold run
  dsimp only
  split <;> rfl

theorem callApi_of_some {apiId : String} {mapping : ApiMapping} (context : Context)
    (data : Dict Json) (h : Dict.find? apiId app.mappings = some mapping) :
    app.callApi apiId context data transport =
      .called mapping (mapping.call context data transport) := by
  simp only [callApi, h]

theorem callApi_of_none {apiId : String} (context : Context) (data : Dict Json)
    (h : Dict.find? apiId app.mappings = none) :
    app.callApi apiId context data transport = .unknown apiId := by
  simp only [callApi, h]

end Application
end PageFlow
