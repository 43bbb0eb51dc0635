/-
# The page of a step

A step ends in a state and shows a page. When the state is declared, the page is the
one of that state, with the schema stored under it, whether the event moved the flow,
was blocked by a guard or has no transition. There is one exception: a transition that
leads to a state nobody declared leaves the flow in its state, and that state's page is
not shown.

Key definitions: `Flow.LeadsNowhere`.
Key theorems: `Resolves.page_eq`, `Application.page_run`.
-/
import PageFlow.Proofs.Flow.Resolution
import PageFlow.Proofs.Step.Phases

namespace PageFlow

/-- The event has a transition whose guard holds and whose target is not declared. -/
def Flow.LeadsNowhere (flow : Flow) (state event : String) (scope : Scope) : Prop :=
  ∃ here transition, flow.state? state = some here ∧
    Dict.find? event here.transitions = some transition ∧
    (∀ guard ∈ transition.guard, (guard.evaluate scope "guard").value = true) ∧
    flow.state? transition.target = none

namespace Resolves

variable {flow : Flow} {state event : String} {scope : Scope} {r : Resolution} {there : FlowState}

/-- An event that does not lead nowhere shows the page of the resulting state. -/
theorem page_eq (h : Resolves flow state event scope r)
    (hthere : flow.state? r.nextState = some there)
    (hleads : ¬ flow.LeadsNowhere state event scope) : r.page = some there.uiPageId := by
  cases h with
  | unknownState hstate => exact nomatch hstate.symm.trans hthere
  | noTransition here hstate hnone =>
    obtain rfl := Option.some.inj (hstate.symm.trans hthere)
    rfl
  | guardFailed here t guard hstate ht hguard hvalue =>
    obtain rfl := Option.some.inj (hstate.symm.trans hthere)
    rfl
  | unknownTarget here t hstate ht hguard htarget =>
    exact absurd ⟨here, t, hstate, ht, hguard, htarget⟩ hleads
  | taken here target t hstate ht hguard htarget =>
    obtain rfl := Option.some.inj (htarget.symm.trans hthere)
    rfl

/-- An event that leads nowhere is an error in the state as it is, without a page. -/
theorem of_leadsNowhere (h : Resolves flow state event scope r)
    (hleads : flow.LeadsNowhere state event scope) :
    r.reason = .error ∧ r.nextState = state ∧ r.page = none := by
  obtain ⟨here, t, hstate, ht, hguard, htarget⟩ := hleads
  cases h with
  | unknownState hnone => exact nomatch hnone.symm.trans hstate
  | noTransition here' hstate' hnone =>
    obtain rfl := Option.some.inj (hstate.symm.trans hstate')
    exact nomatch hnone.symm.trans ht
  | guardFailed here' t' guard hstate' ht' hguard' hvalue =>
    obtain rfl := Option.some.inj (hstate.symm.trans hstate')
    obtain rfl := Option.some.inj (ht.symm.trans ht')
    exact nomatch hvalue.symm.trans (hguard guard hguard')
  | unknownTarget here' t' hstate' ht' hguard' htarget' => exact ⟨rfl, rfl, rfl⟩
  | taken here' there t' hstate' ht' hguard' htarget' =>
    obtain rfl := Option.some.inj (hstate.symm.trans hstate')
    obtain rfl := Option.some.inj (ht.symm.trans ht')
    exact nomatch htarget.symm.trans htarget'

end Resolves

namespace Application

/-- **A step shows the page of the state that it ends in**, and hands over the schema
that is stored under the page, unless the event leads to a state that is not declared:
then there is no page, although the state is declared and did not change. -/
theorem page_run (app : Application) (here : Situation) (event : String) (transport : Transport)
    (timing : StepTiming) {there : FlowState}
    (hthere : app.flow.state? ((app.run here event transport).outcome timing).nextStateId =
      some there) :
    let o := (app.run here event transport).outcome timing
    let scope := Scope.ofData here.data here.context.value
    (¬ app.flow.LeadsNowhere (app.stateOf here) event scope →
      o.trace.flow.uiPageId = some there.uiPageId ∧
        o.uiSchema = Dict.find? there.uiPageId app.uiSchemas) ∧
    (app.flow.LeadsNowhere (app.stateOf here) event scope →
      o.trace.flow.reason = .error ∧ o.nextStateId = app.stateOf here ∧
        o.trace.flow.uiPageId = none ∧ o.uiSchema = none) := by
  intro o scope
  have hresolves : Resolves app.flow (app.stateOf here) event scope
      (app.run here event transport).resolution := by
    rw [run_resolution]
    exact app.flow.resolves _ _ _
  have hschema : o.uiSchema = (app.run here event transport).resolution.page.bind fun page =>
      Dict.find? page app.uiSchemas := app.run_uiSchema here event transport
  refine ⟨fun hleads => ?_, fun hleads => ?_⟩
  · have hpage := hresolves.page_eq hthere hleads
    exact ⟨hpage, by rw [hschema, hpage, Option.bind_some]⟩
  · obtain ⟨hreason, hto, hpage⟩ := hresolves.of_leadsNowhere hleads
    exact ⟨hreason, hto, hpage, by rw [hschema, hpage, Option.bind_none]⟩

/-- A shop whose checkout leads to a state that was not written yet. -/
def shop : Application where
  flow :=
    { initialState := "cart"
      states :=
        [("cart", ⟨"cart-page", [("pay", ⟨"payment", none, none⟩),
            ("keep", ⟨"saved", none, none⟩)]⟩),
          ("saved", ⟨"saved-page", []⟩)] }
  uiSchemas := [("cart-page", .string "Cart"), ("saved-page", .string "Saved")]
  rules := .empty
  mappings := []

/-- The step of the shop for an event. -/
def shopping (event : String) : StepOutcome :=
  (shop.run ⟨none, .empty, []⟩ event fun _ => .error (.task "down")).outcome .none

/-- To pay leaves the customer at the cart, which is declared, without its page. -/
theorem not_page_shop :
    ∃ there, shop.flow.state? (shopping "pay").nextStateId = some there ∧
      (shopping "pay").trace.flow.uiPageId ≠ some there.uiPageId ∧
      (shopping "pay").uiSchema.isSome ≠ (Dict.find? there.uiPageId shop.uiSchemas).isSome :=
  ⟨⟨"cart-page", [("pay", ⟨"payment", none, none⟩), ("keep", ⟨"saved", none, none⟩)]⟩,
    by rfl, by decide, by decide⟩

/-- To keep the cart shows the page of the saved cart, with its schema. -/
theorem page_run_shop :
    shop.flow.state? (shopping "keep").nextStateId = some ⟨"saved-page", []⟩ ∧
      ¬ shop.flow.LeadsNowhere "cart" "keep" (.ofData [] Context.empty.value) ∧
      (shopping "keep").trace.flow.uiPageId = some "saved-page" ∧
      (shopping "keep").uiSchema = some (.string "Saved") := by
  have hthere : shop.flow.state? (shopping "keep").nextStateId = some ⟨"saved-page", []⟩ := by rfl
  have hleads : ¬ shop.flow.LeadsNowhere "cart" "keep" (.ofData [] Context.empty.value) := by
    rintro ⟨here, t, hstate, ht, -, htarget⟩
    obtain rfl := Option.some.inj hstate
    obtain rfl := Option.some.inj ht
    exact nomatch htarget
  exact ⟨hthere, hleads, (shop.page_run ⟨none, .empty, []⟩ "keep" _ .none hthere).1 hleads⟩

end Application
end PageFlow
