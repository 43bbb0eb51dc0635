/-
# What a step leaves alone

A step writes at the targets of the rules that matched and succeeded, and at
those of the response that was folded in. At every path that overlaps none of
them the data stays as it was. Writes that were staged by a failing rule, the
parents that a write creates and the values that are copied do not matter.

Key definitions: `Action.WritesAt`, `Rule.WritesAt`, `ApiMapping.WritesAt`,
`Application.WritesAt`.
Key theorems: `RuleSet.at?_apply`, `ApiMapping.at?_call`, `Application.framed_run`.
-/
import PageFlow.Proofs.Call.Sequence
import PageFlow.Proofs.Dict
import PageFlow.Proofs.Rule.Atomicity
import PageFlow.Proofs.Step.Isolation

namespace PageFlow

variable {q : List String}

/-! ### Rules -/

/-- The target of an action that writes a field. -/
inductive Action.WritesAt : Action → Path → Prop
  | setField {path : String} {value : Option Json} {valueFrom : Option String} {target : Path}
      (htarget : Path.parseDataTarget path = .ok target) :
    WritesAt (.setField path value valueFrom) target

/-- The targets of the actions of a rule. -/
def Rule.WritesAt (rule : Rule) (target : Path) : Prop :=
  ∃ action ∈ rule.actions, action.WritesAt target

theorem Action.at?_perform {ruleId : String} {context : Json}
    {state next : Dict Json × List EmittedEvent} {action : Action}
    (hbeside : ∀ target, action.WritesAt target → ¬ Overlap target.segments q)
    (h : action.perform ruleId context state = .ok next) :
    Json.at? q (.object next.1) = Json.at? q (.object state.1) := by
  cases action with
  | emitEvent event payload =>
    obtain rfl := Except.ok.inj h
    rfl
  | setField path value valueFrom =>
    rw [perform_setField] at h
    obtain ⟨target, htarget, h⟩ := eq_ok_of_bind h
    obtain ⟨new, -, h⟩ := eq_ok_of_bind h
    obtain ⟨data, hwrite, rfl⟩ := eq_ok_of_map h
    exact at?_of_write (hbeside target (.setField htarget)) hwrite

theorem at?_performAll {ruleId : String} {context : Json} :
    ∀ {actions : List Action} {state next : Dict Json × List EmittedEvent},
      (∀ action ∈ actions, ∀ target, action.WritesAt target → ¬ Overlap target.segments q) →
      performAll ruleId context actions state = .ok next →
      Json.at? q (.object next.1) = Json.at? q (.object state.1)
  | [], _, _, _, h => by
    obtain rfl := Except.ok.inj h
    rfl
  | action :: rest, state, next, hbeside, h => by
    rw [performAll_cons] at h
    obtain ⟨middle, haction, hrest⟩ := eq_ok_of_bind h
    have hfirst := Action.at?_perform (hbeside action List.mem_cons_self) haction
    have hothers := at?_performAll (fun a ha => hbeside a (List.mem_cons_of_mem _ ha)) hrest
    exact hothers.trans hfirst

theorem at?_performEach {context : Json} :
    ∀ {rules : List Rule} {state next : Dict Json × List EmittedEvent},
      (∀ rule ∈ rules, ∀ target, rule.WritesAt target → ¬ Overlap target.segments q) →
      performEach context rules state = .ok next →
      Json.at? q (.object next.1) = Json.at? q (.object state.1)
  | [], _, _, _, h => by
    obtain rfl := Except.ok.inj h
    rfl
  | rule :: rest, state, next, hbeside, h => by
    obtain ⟨middle, hrule, hrest⟩ := eq_ok_of_bind h
    have hfirst := at?_performAll
      (fun action ha target ht => hbeside rule List.mem_cons_self target ⟨action, ha, ht⟩) hrule
    have hothers := at?_performEach (fun r hr => hbeside r (List.mem_cons_of_mem _ hr)) hrest
    exact hothers.trans hfirst

/-- The rules leave the data beside the targets of those that matched and succeeded. -/
theorem RuleSet.at?_apply (set : RuleSet) (data : Dict Json) (context : Context)
    (hbeside : ∀ rule ∈ committed context.value data (set.inOrder context), ∀ target,
      rule.WritesAt target → ¬ Overlap target.segments q) :
    Json.at? q (.object (set.apply data context).data) = Json.at? q (.object data) :=
  -- Nothing but the committed rules makes the data of a run.
  at?_performEach hbeside (performEach_committed context.value (set.inOrder context) (.start data))

/-! ### Responses -/

/-- The targets in the data of the response of a call. -/
def ApiMapping.WritesAt (mapping : ApiMapping) (target : Path) : Prop :=
  ∃ entry ∈ mapping.responseMap.data, Path.parseDataTarget entry.1 = .ok target

/-- A call leaves the data beside the targets of its response, and all of it if
there is no response that can be used. -/
theorem ApiMapping.at?_call (mapping : ApiMapping) (context : Context) (data : Dict Json)
    (transport : Transport)
    (hbeside : ∀ response, transport (mapping.requestFor context data) = .ok response →
      response.Usable → ∀ target, mapping.WritesAt target → ¬ Overlap target.segments q) :
    Json.at? q (.object (mapping.call context data transport).data) =
      Json.at? q (.object data) := by
  rcases mapping.failed_or_succeeded context data transport with
    ⟨fault, hcall⟩ | ⟨response, value, hanswer, hstatus, hbody, hcall⟩
  · rw [hcall]
    rfl
  · rw [hcall]
    refine at?_writeEach fun mapped hmapped target htarget => ?_
    obtain ⟨entry, hentry, -⟩ := mem_mappedValues.mp hmapped
    exact hbeside response hanswer (HttpResponse.usable_of_parseBody hstatus hbody) target
      ⟨(mapped.1, entry), hentry, htarget⟩

/-! ### Steps -/

namespace Application

/-- The targets of a step: those of the rules that matched and succeeded, if the
rules ran, and those of the response that was folded in, if there was one. -/
inductive WritesAt (app : Application) (here : Situation) (event : String)
    (transport : Transport) : Path → Prop
  | rule {rule : Rule} {target : Path}
      (hran : (app.flow.resolve (app.stateOf here) event
        (.ofData here.data here.context.value)).reason ≠ .error)
      (hrule : rule ∈ committed here.context.value here.data (app.rules.inOrder here.context))
      (htarget : rule.WritesAt target) : WritesAt app here event transport target
  | response {mapping : ApiMapping} {response : HttpResponse} {target : Path}
      (hcalls : app.Calls here event mapping)
      (hanswer : transport (mapping.requestFor here.context
        ((app.run here event transport).ruledData here)) = .ok response)
      (husable : response.Usable) (htarget : mapping.WritesAt target) :
    WritesAt app here event transport target

variable (app : Application) (here : Situation) (event : String) (transport : Transport)

theorem at?_ruledData
    (hbeside : ∀ target, app.WritesAt here event transport target → ¬ Overlap target.segments q) :
    Json.at? q (.object ((app.run here event transport).ruledData here)) =
      Json.at? q (.object here.data) := by
  rw [StepRun.ruledData, run_rules, run_resolution]
  split
  · rfl
  · next hran =>
    exact app.rules.at?_apply here.data here.context fun rule hrule target htarget =>
      hbeside target (.rule hran hrule htarget)

theorem at?_run
    (hbeside : ∀ target, app.WritesAt here event transport target → ¬ Overlap target.segments q) :
    Json.at? q (.object (app.run here event transport).data) =
      Json.at? q (.object here.data) := by
  rw [run_data]
  split
  · next mapping outcome hapi =>
    rw [app.outcome_of_called here event transport hapi]
    have hcalls := (app.run_called here event transport mapping).mp ⟨outcome, hapi⟩
    have hcall := mapping.at?_call here.context _ transport fun response hanswer husable target
      htarget => hbeside target (.response hcalls hanswer husable htarget)
    exact hcall.trans (app.at?_ruledData here event transport hbeside)
  · exact app.at?_ruledData here event transport hbeside

/-- **A step leaves the data beside its targets.** A path that overlaps no target
leads to the same value before and after the step, or to none in both. -/
theorem framed_run (path : Path) (hroot : path.root = .data)
    (hbeside : ∀ target, app.WritesAt here event transport target →
      ¬ Overlap target.segments path.segments)
    (context : Json) (timing : StepTiming) :
    let after := Scope.ofData ((app.run here event transport).outcome timing).updatedData context
    let before := Scope.ofData here.data context
    after.lookup path = before.lookup path ∧ after.resolve path = before.resolve path := by
  obtain ⟨raw, root, segments⟩ := path
  obtain rfl : root = .data := hroot
  have hsame := app.at?_run here event transport hbeside
  simp only [StepRun.outcome, Scope.ofData]
  cases segments with
  | nil =>
    -- The bare root stands for all of the data.
    have hdata : (app.run here event transport).data = here.data := by simpa [Json.at?] using hsame
    rw [hdata]
    exact ⟨rfl, rfl⟩
  | cons segment rest =>
    have hlookup : ∀ data : Dict Json,
        (Scope.mk data context none).lookup ⟨raw, .data, segment :: rest⟩ =
          .ok (Json.at? (segment :: rest) (.object data)) := fun _ => rfl
    have hfound : (Scope.mk (app.run here event transport).data context none).lookup
        ⟨raw, .data, segment :: rest⟩ =
        (Scope.mk here.data context none).lookup ⟨raw, .data, segment :: rest⟩ := by
      rw [hlookup, hlookup, hsame]
    exact ⟨hfound, by simp [Scope.resolve, hfound]⟩

/-- A booking that is opened by a rule and numbered by the API that it is sent to. -/
def booking : Application where
  flow :=
    { initialState := "form"
      states :=
        [("form", ⟨"form-page", [("send", ⟨"sent", none, some ⟨"place"⟩⟩)]⟩),
          ("sent", ⟨"sent-page", []⟩)] }
  uiSchemas := []
  rules := ⟨"1", [⟨"open", "", .zero false, none, .all [],
    [.setField "data.booking.state" (some (.string "open")) none]⟩]⟩
  mappings := [("place", ⟨"place", "POST", "/bookings", ⟨[], [], []⟩,
    ⟨[("booking.id", ⟨"response.id", none⟩)], []⟩⟩)]

/-- The rule and the response write beside the note of a booking. -/
theorem framed_run_booking :
    let here : Situation := ⟨none, .empty, [("booking", .object [("note", .string "late")])]⟩
    let transport : Transport := fun _ => .ok ⟨200, "[7]"⟩
    let run := booking.run here "send" transport
    (∀ target, booking.WritesAt here "send" transport target →
      ¬ Overlap target.segments ["booking", "note"]) ∧
    (Scope.ofData (run.outcome .none).updatedData .null).lookup
      ⟨"data.booking.note", .data, ["booking", "note"]⟩ = .ok (some (.string "late")) := by
  intro here transport run
  have hbeside : ∀ target, booking.WritesAt here "send" transport target →
      ¬ Overlap target.segments ["booking", "note"] := by
    rintro target (⟨-, hrule, action, haction, htarget⟩ | ⟨hcalls, -, -, entry, hentry, htarget⟩)
    · have hmem := (RuleSet.mem_inOrder.mp ((sublist_committed _ _ _).subset hrule)).1
      obtain rfl := List.mem_singleton.mp hmem
      obtain rfl := List.mem_singleton.mp haction
      obtain ⟨htarget⟩ := htarget
      obtain rfl := Except.ok.inj htarget
      decide +kernel
    · obtain ⟨-, source, t, call, -, -, -, hfound⟩ := hcalls
      obtain ⟨-, rfl⟩ := Prod.mk.inj (List.mem_singleton.mp (Dict.mem_of_find? hfound))
      obtain rfl := List.mem_singleton.mp hentry
      obtain rfl := Except.ok.inj htarget
      decide +kernel
  obtain ⟨hlookup, -⟩ := booking.framed_run here "send" transport
    ⟨"data.booking.note", .data, ["booking", "note"]⟩ rfl hbeside .null .none
  exact ⟨hbeside, hlookup⟩

end Application
end PageFlow
