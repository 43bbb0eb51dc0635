/-
# Rules are carried out wholly or not at all

The data and events that a run leaves are those of the action lists of the
rules that matched and succeeded, one list after the other. A rule that fails
in an action leaves nothing but its error: with no actions at all it would
leave the same data, events, matches and clause results, and later rules would
do the same.

Key definitions: `committed`, `performEach`, `Rule.steps`, `Rule.FailsOn`,
`Rule.disarmed`, `Replaced`.
Key theorems: `performEach_committed`, `performEach_eq_foldlM`, `foldl_run_faults`,
`RuleSet.replaced_inOrder`, `RuleSet.atomic_apply`.
-/
import PageFlow.Proofs.Rule.Run

namespace PageFlow

/-! ### The rules that leave something -/

/-- The rules, run on some data one after the other, that match and carry out
all of their actions. -/
def committed (context : Json) : Dict Json → List Rule → List Rule
  | _, [] => []
  | data, rule :: rest =>
    if isReservedId rule.ruleId || !(rule.evaluation data context).value then
      committed context data rest
    else
      match performAll rule.ruleId context rule.actions (data, []) with
      | .ok next => rule :: committed context next.1 rest
      | .error _ => committed context data rest

/-- Carries out all actions of all rules, up to the first that fails. -/
def performEach (context : Json) : List Rule → Dict Json × List EmittedEvent →
    Except PathError (Dict Json × List EmittedEvent)
  | [], state => .ok state
  | rule :: rest, state =>
    (performAll rule.ruleId context rule.actions state).bind (performEach context rest)

/-- The actions of a rule, each beside the id that its events carry. -/
def Rule.steps (rule : Rule) : List (String × Action) := rule.actions.map (rule.ruleId, ·)

/-- Carries out an action in the name of a rule. -/
def performStep (context : Json) (state : Dict Json × List EmittedEvent)
    (step : String × Action) : Except PathError (Dict Json × List EmittedEvent) :=
  step.2.perform step.1 context state

/-- The actions of rules are carried out as one list. -/
theorem performEach_eq_foldlM (context : Json) :
    ∀ (rules : List Rule) (state : Dict Json × List EmittedEvent),
      performEach context rules state =
        (rules.flatMap Rule.steps).foldlM (performStep context) state
  | [], _ => rfl
  | rule :: rest, state => by
    rw [performEach, performAll_eq_foldlM, List.flatMap_cons, List.foldlM_append, Rule.steps,
      List.foldlM_map]
    exact congrArg (Except.bind _) (funext (performEach_eq_foldlM context rest))

/-- Events reported before do not matter to an action; its own come behind them. -/
theorem Action.perform_events (ruleId : String) (context : Json) (data : Dict Json)
    (before events : List EmittedEvent) (action : Action) :
    action.perform ruleId context (data, before ++ events) =
      (action.perform ruleId context (data, events)).map
        fun next => (next.1, before ++ next.2) := by
  cases action with
  | emitEvent event payload => simp [Except.map]
  | setField path value valueFrom =>
    simp only [perform_setField]
    cases Path.parseDataTarget path with
    | error e => rfl
    | ok target =>
      cases newValue data context value valueFrom with
      | error e => rfl
      | ok new => cases hw : write target new data <;> simp [hw, Except.bind, Except.map]

theorem performAll_events (ruleId : String) (context : Json) (before : List EmittedEvent) :
    ∀ (actions : List Action) (data : Dict Json) (events : List EmittedEvent),
      performAll ruleId context actions (data, before ++ events) =
        (performAll ruleId context actions (data, events)).map
          fun next => (next.1, before ++ next.2)
  | [], _, _ => rfl
  | action :: rest, data, events => by
    rw [performAll_cons, performAll_cons, Action.perform_events]
    cases action.perform ruleId context (data, events) with
    | error e => rfl
    | ok next => exact performAll_events ruleId context before rest next.1 next.2

/-- What the rules leave is what the committed ones do. -/
theorem performEach_committed (context : Json) :
    ∀ (rules : List Rule) (before : RulesOutcome),
      performEach context (committed context before.data rules) (before.data, before.events) =
        .ok ((rules.foldl (Rule.run context) before).data,
          (rules.foldl (Rule.run context) before).events)
  | [], _ => rfl
  | rule :: rest, before => by
    rw [List.foldl_cons, committed]
    have ih := performEach_committed context rest (rule.run context before)
    have hruns := rule.runs context before
    generalize rule.run context before = after at ih hruns ⊢
    rw [← ih]
    cases hruns with
    | reserved hid => simp [hid]
    | unmatched hid hvalue => simp [hvalue]
    | failed hid hvalue e hperform => simp [hid, hvalue, hperform]
    | applied hid hvalue data events hperform =>
      have hall := performAll_events rule.ruleId context before.events rule.actions before.data []
      rw [List.append_nil, hperform] at hall
      simp [hid, hvalue, hperform, performEach, hall, Except.map, Except.bind]

/-! ### A failing rule -/

/-- Whether a rule matches on some data and then fails in an action. -/
def Rule.FailsOn (context : Json) (data : Dict Json) (rule : Rule) (e : PathError) : Prop :=
  isReservedId rule.ruleId = false ∧ (rule.evaluation data context).value = true ∧
    performAll rule.ruleId context rule.actions (data, []) = .error e

/-- The rule without its actions. -/
def Rule.disarmed (rule : Rule) : Rule := { rule with actions := [] }

/-- The outcome with other faults. -/
def RulesOutcome.withFaults (o : RulesOutcome) (faults : List (String × RuleFault)) :
    RulesOutcome := { o with faults }

/-- A rule adds its faults behind those that are there, which do not matter to it. -/
theorem Rule.run_withFaults (context : Json) (rule : Rule) (o : RulesOutcome)
    (faults : List (String × RuleFault)) :
    rule.run context (o.withFaults faults) =
      (rule.run context (o.withFaults [])).withFaults
        (faults ++ (rule.run context (o.withFaults [])).faults) := by
  unfold run RulesOutcome.withFaults
  dsimp only
  split
  · rfl
  · split
    · simp
    · split <;> simp

theorem foldl_run_faults (context : Json) :
    ∀ (rules : List Rule) (o : RulesOutcome) (faults : List (String × RuleFault)),
      rules.foldl (Rule.run context) (o.withFaults faults) =
        (rules.foldl (Rule.run context) (o.withFaults [])).withFaults
          (faults ++ (rules.foldl (Rule.run context) (o.withFaults [])).faults)
  | [], o, faults => by simp [RulesOutcome.withFaults]
  | rule :: rest, o, faults => by
    have ih := foldl_run_faults context rest (rule.run context (o.withFaults []))
    have hself := ih (rule.run context (o.withFaults [])).faults
    rw [List.foldl_cons, List.foldl_cons, Rule.run_withFaults, ih,
      show rule.run context (o.withFaults []) = (rule.run context (o.withFaults [])).withFaults
        (rule.run context (o.withFaults [])).faults from rfl, hself]
    simp [RulesOutcome.withFaults]

theorem Rule.FailsOn.run {context : Json} {rule : Rule} {before : RulesOutcome} {e : PathError}
    (h : rule.FailsOn context before.data e) :
    rule.run context before =
      (rule.disarmed.run context before).withFaults
        ((rule.disarmed.run context before).faults ++ [(rule.ruleId, .action e)]) := by
  obtain ⟨hid, hvalue, hperform⟩ := h
  unfold evaluation at hvalue
  unfold Rule.run RulesOutcome.withFaults
  simp [hid, hvalue, hperform, disarmed]

/-! ### Replacing a rule by one of the same priority -/

/-- Two lists that differ in one place, where one has `old` and the other `new`. -/
def Replaced (old new : Rule) (before after : List Rule) : Prop :=
  ∃ front back, before = front ++ old :: back ∧ after = front ++ new :: back

theorem Replaced.cons {old new : Rule} {before after : List Rule} (rule : Rule)
    (h : Replaced old new before after) : Replaced old new (rule :: before) (rule :: after) := by
  obtain ⟨front, back, rfl, rfl⟩ := h
  exact ⟨rule :: front, back, rfl, rfl⟩

theorem Replaced.insert {old new : Rule} (hp : old.priority = new.priority) (rule : Rule) :
    ∀ {before after : List Rule}, Replaced old new before after →
      Replaced old new (insertByPriority rule before) (insertByPriority rule after) := by
  rintro _ _ ⟨front, back, rfl, rfl⟩
  induction front with
  | nil =>
    simp only [List.nil_append, insertByPriority, ← hp]
    split
    · exact ⟨[], _, rfl, rfl⟩
    · exact ⟨[rule], back, rfl, rfl⟩
  | cons next front ih =>
    simp only [List.cons_append, insertByPriority]
    split
    · exact ih.cons next
    · exact ⟨rule :: next :: front, back, rfl, rfl⟩

theorem replaced_insertByPriority {old new : Rule} (hp : old.priority = new.priority) :
    ∀ rules : List Rule,
      Replaced old new (insertByPriority old rules) (insertByPriority new rules)
  | [] => ⟨[], [], rfl, rfl⟩
  | next :: rest => by
    simp only [insertByPriority, ← hp]
    split
    · exact (replaced_insertByPriority hp rest).cons next
    · exact ⟨[], next :: rest, rfl, rfl⟩

theorem Replaced.byPriority {old new : Rule} (hp : old.priority = new.priority)
    {before after : List Rule} (h : Replaced old new before after) :
    Replaced old new (byPriority before) (byPriority after) := by
  obtain ⟨front, back, rfl, rfl⟩ := h
  induction front with
  | nil => exact replaced_insertByPriority hp _
  | cons next front ih => exact ih.insert hp next

/-- A rule in scope that is replaced by one of its priority and scope is replaced
at its place in the order of the run. -/
theorem RuleSet.replaced_inOrder (version : String) (front back : List Rule) (old new : Rule)
    {context : Context} (hp : old.priority = new.priority) (hs : old.scope = new.scope)
    (hin : old.inScope context = true) :
    Replaced old new (RuleSet.inOrder ⟨version, front ++ old :: back⟩ context)
      (RuleSet.inOrder ⟨version, front ++ new :: back⟩ context) := by
  have hin' : new.inScope context = true := by
    rw [← hin]
    simp only [Rule.inScope, hs]
  unfold inOrder
  simp only [List.filter_append, List.filter_cons, hin, hin', if_true]
  exact Replaced.byPriority hp ⟨_, _, rfl, rfl⟩

/-! ### Atomicity -/

theorem considered_foldl_run (context : Json) :
    ∀ (rules : List Rule) (before : RulesOutcome),
      (rules.foldl (Rule.run context) before).considered =
        before.considered ++ rules.map (·.ruleId)
  | [], before => by simp
  | rule :: rest, before => by
    have hruns := rule.runs context before
    rw [List.foldl_cons, considered_foldl_run context rest]
    generalize rule.run context before = after at hruns ⊢
    cases hruns <;> simp

theorem sublist_committed (context : Json) :
    ∀ (rules : List Rule) (data : Dict Json), (committed context data rules).Sublist rules
  | [], _ => .slnil
  | rule :: rest, data => by
    unfold committed
    split
    · exact (sublist_committed context rest data).cons rule
    · split
      · exact (sublist_committed context rest _).cons_cons rule
      · exact (sublist_committed context rest data).cons rule

/-- With and without the actions of a failing rule, a run leaves the same but for
the error. -/
theorem foldl_run_disarmed {context : Json} {front : List Rule} {rule : Rule} {e : PathError}
    (back : List Rule) (start : RulesOutcome)
    (h : rule.FailsOn context (front.foldl (Rule.run context) start).data e) :
    ∃ before after : List (String × RuleFault),
      (front ++ rule :: back).foldl (Rule.run context) start =
          ((front ++ rule.disarmed :: back).foldl (Rule.run context) start).withFaults
            (before ++ (rule.ruleId, .action e) :: after) ∧
        ((front ++ rule.disarmed :: back).foldl (Rule.run context) start).faults =
          before ++ after := by
  simp only [List.foldl_append, List.foldl_cons]
  rw [h.run]
  generalize rule.disarmed.run context (front.foldl (Rule.run context) start) = o
  have hself := foldl_run_faults context back o o.faults
  refine ⟨o.faults, (back.foldl (Rule.run context) (o.withFaults [])).faults, ?_, ?_⟩
  · rw [foldl_run_faults, show o = o.withFaults o.faults from rfl, hself]
    simp [RulesOutcome.withFaults]
  · rw [show o = o.withFaults o.faults from rfl, hself]
    rfl

/-- **Rules are atomic.** The data and events of a run are those of the complete
action lists of the rules that matched and succeeded, in the order in which the
rules were considered; put together, these are one list of actions, each carried out
on what the one before it left. A rule that matched and failed in an action might as well
have no actions: at its place in the order it changes nothing but the errors, to
which it adds one. -/
theorem RuleSet.atomic_apply (set : RuleSet) (data : Dict Json) (context : Context) :
    ((set.apply data context).considered = (set.inOrder context).map (·.ruleId) ∧
      (committed context.value data (set.inOrder context)).Sublist (set.inOrder context) ∧
      performEach context.value (committed context.value data (set.inOrder context)) (data, []) =
        .ok ((set.apply data context).data, (set.apply data context).events) ∧
      ((committed context.value data (set.inOrder context)).flatMap Rule.steps).foldlM
          (performStep context.value) (data, []) =
        .ok ((set.apply data context).data, (set.apply data context).events)) ∧
    ∀ (front back : List Rule) (rule : Rule), set.rules = front ++ rule :: back →
      rule.inScope context = true →
      ∃ earlier later : List Rule,
        set.inOrder context = earlier ++ rule :: later ∧
        RuleSet.inOrder ⟨set.version, front ++ rule.disarmed :: back⟩ context =
          earlier ++ rule.disarmed :: later ∧
        ∀ e : PathError,
          rule.FailsOn context.value
            (earlier.foldl (Rule.run context.value) (.start data)).data e →
          let armed := set.apply data context
          let disarmed := RuleSet.apply ⟨set.version, front ++ rule.disarmed :: back⟩ data context
          disarmed.data = armed.data ∧ disarmed.events = armed.events ∧
          disarmed.considered = armed.considered ∧ disarmed.matched = armed.matched ∧
          disarmed.results = armed.results ∧
          ∃ before after : List (String × RuleFault),
            armed.faults = before ++ (rule.ruleId, .action e) :: after ∧
            disarmed.faults = before ++ after := by
  have hperform := performEach_committed context.value (set.inOrder context) (.start data)
  refine ⟨⟨?_, sublist_committed _ _ _, hperform, ?_⟩, ?_⟩
  · exact considered_foldl_run context.value (set.inOrder context) (.start data)
  · rw [← performEach_eq_foldlM]
    exact hperform
  · intro front back rule hset hin
    obtain ⟨version, rules⟩ := set
    obtain rfl : rules = front ++ rule :: back := hset
    obtain ⟨earlier, later, harmed, hdisarmed⟩ :=
      replaced_inOrder version front back rule rule.disarmed rfl rfl hin
    refine ⟨earlier, later, harmed, hdisarmed, fun e hfails => ?_⟩
    obtain ⟨before, after, hrun, hfaults⟩ := foldl_run_disarmed later (.start data) hfails
    simp only [apply, harmed, hdisarmed, hrun]
    exact ⟨rfl, rfl, rfl, rfl, rfl, before, after, rfl, hfaults⟩

/-- A rule that writes to the data and reports an event. -/
def Rule.stamping : Rule :=
  ⟨"stamp", "", .zero false, none, .all [],
    [.setField "data.stamp" (some (.bool true)) none, .emitEvent "stamped" none]⟩

/-- A rule that reports an event and writes to the data before it fails at the context. -/
def Rule.halfway : Rule :=
  ⟨"note", "", .zero false, none, .all [],
    [.emitEvent "noted" none, .setField "data.note" (some (.bool true)) none,
      .setField "context.note" (some (.bool true)) none]⟩

/-- Its event and its write are gone with it, those of the rule before it are not. -/
theorem RuleSet.atomic_apply_halfway :
    let armed := RuleSet.apply ⟨"1", [.stamping, .halfway]⟩ [] .empty
    let disarmed := RuleSet.apply ⟨"1", [.stamping, Rule.halfway.disarmed]⟩ [] .empty
    let stamped : Dict Json := [("stamp", .bool true)]
    Rule.halfway.FailsOn Context.empty.value stamped (.readOnly "context.note") ∧
      (armed.data = stamped ∧ armed.events = [⟨"stamp", "stamped", none⟩]) ∧
      disarmed.events = armed.events ∧ disarmed.data = armed.data := by
  intro armed disarmed stamped
  have hfails : Rule.halfway.FailsOn Context.empty.value stamped (.readOnly "context.note") :=
    ⟨by decide +kernel, by decide +kernel, by rfl⟩
  obtain ⟨⟨-, -, hperform, -⟩, hdisarmed⟩ :=
    atomic_apply ⟨"1", [.stamping, .halfway]⟩ [] .empty
  have hcommitted : committed Context.empty.value []
      (inOrder ⟨"1", [.stamping, .halfway]⟩ .empty) = [.stamping] := by rfl
  rw [hcommitted] at hperform
  have hstamped : (stamped, [⟨"stamp", "stamped", none⟩]) = (armed.data, armed.events) :=
    Except.ok.inj hperform
  obtain ⟨earlier, later, horder, -, h⟩ := hdisarmed [.stamping] [] .halfway rfl rfl
  have hearlier : earlier = [.stamping] := by
    have hrules : [.stamping, .halfway] = earlier ++ .halfway :: later := horder
    obtain _ | ⟨first, _ | ⟨second, rest⟩⟩ := earlier
    · exact absurd (congrArg Rule.ruleId (List.cons.inj hrules).1) (by decide)
    · rw [← (List.cons.inj hrules).1]
    · have hlength := congrArg List.length hrules
      simp only [List.length_append, List.length_cons, List.length_nil] at hlength
      omega
  obtain ⟨hdata, hevents, -⟩ := h _ (by rw [hearlier]; exact hfails)
  exact ⟨hfails, ⟨congrArg Prod.fst hstamped.symm, congrArg Prod.snd hstamped.symm⟩, hevents, hdata⟩

end PageFlow
