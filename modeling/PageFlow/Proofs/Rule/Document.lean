/-
# Rules that are read

The values that the actions of a rule give are read from a document, and so they
are ordered; those that actions give or report are not `null`, which is read as
none. Every rule set that is read reads back from what is written of it.

Key definitions: `Action.Ordered`, `RuleSet.Ordered`, `Action.Lasting`.
Key theorems: `RuleSet.ordered_of_decode`, `RuleSet.lasting_of_decode`,
`settles_decodeAction`, `settles_decodeRule`, `settles_decodeRuleSet`.
-/
import PageFlow.Proofs.Condition.Document
import PageFlow.Rule.Document

namespace PageFlow
open Document

/-- The value that an action gives is ordered. -/
def Action.Ordered : Action → Prop
  | .setField _ value _ => ∀ v ∈ value, v.Ordered
  | .emitEvent _ _ => True

/-- The values that the actions of the rules give are ordered. -/
def RuleSet.Ordered (set : RuleSet) : Prop :=
  ∀ rule ∈ set.rules, ∀ action ∈ rule.actions, action.Ordered

theorem gives_decodeAction : decodeAction.Gives Action.Ordered := by
  refine gives_decodeTagged fun v hv origin fields => ?_
  simp only [actionVariants, List.mem_cons, List.not_mem_nil, or_false] at hv
  obtain rfl | rfl := hv
  · have hvalue : (fields.optional "value" (decodeJson origin)).Gives fun o => ∀ x ∈ o, x.Ordered :=
      fields.gives_optional "value" fun node x hx => Node.ordered_of_json hx
    exact .seq_any (.seq (.map_any fun path value hvalue valueFrom => hvalue) hvalue)
  · exact .seq_any (.map_any fun event payload => trivial)

theorem gives_decodeRule :
    decodeRule.Gives fun rule => ∀ action ∈ rule.actions, action.Ordered := by
  refine gives_decodeRecord fun origin fields => ?_
  have hactions : (fields.defaulted "actions" [] (decodeList decodeAction origin)).Gives
      fun actions => ∀ action ∈ actions, action.Ordered :=
    fields.gives_defaulted "actions" (by simp) (gives_decodeList gives_decodeAction origin)
  refine .seq (.seq_any (.seq_any (.seq_any (.seq_any (.map_any ?_))))) hactions
  exact fun ruleId description priority scope condition actions h => h

/-- **The rules of a set that is read are ordered.** -/
theorem RuleSet.ordered_of_decode : decodeRuleSet.Gives RuleSet.Ordered := by
  refine gives_decodeRecord fun origin fields => ?_
  have hrules : (fields.defaulted "rules" [] (decodeList decodeRule origin)).Gives
      fun rules => ∀ rule ∈ rules, ∀ action ∈ rule.actions, action.Ordered :=
    fields.gives_defaulted "rules" (by simp) (gives_decodeList gives_decodeRule origin)
  exact .seq (.map_any fun version rules h => h) hrules

/-! ### What is read reads back -/

/-- A value that an action gives or reports is ordered and not `null`. -/
def Action.Lasting : Action → Prop
  | .setField _ value _ => ∀ v ∈ value, v.Ordered ∧ v ≠ .null
  | .emitEvent _ payload => ∀ v ∈ payload, v.Ordered ∧ v ≠ .null

theorem lasting_of_decodeAction : decodeAction.Gives Action.Lasting := by
  refine gives_decodeTagged fun v hv origin fields => ?_
  simp only [actionVariants, List.mem_cons, List.not_mem_nil, or_false] at hv
  obtain rfl | rfl := hv
  · refine .seq_any (.seq (.map_any ?_) (gives_optional_json fields "value" origin))
    exact fun path value hvalue valueFrom => hvalue
  · refine .seq (.map_any ?_) (gives_optional_json fields "payload" origin)
    exact fun event payload hpayload => hpayload

theorem Action.Lasting.readsBack {action : Action} (h : action.Lasting) :
    decodeAction.ReadsBack action.json action := by
  cases action with
  | setField path value valueFrom =>
    refine readsBack_decodeTagged "setField" [("path", some (.string path)), ("value", value),
      ("valueFrom", valueFrom.map .string)] rfl rfl rfl (by decide) ?_
    rintro found ⟨hpath, hvalue, hfrom⟩
    dsimp only
    rw [hpath.required (readsBack_decodeText path .aside), hvalue.optional_json h,
      hfrom.optional_text]
    rfl
  | emitEvent event payload =>
    refine readsBack_decodeTagged "emitEvent" [("event", some (.string event)), ("payload", payload)]
      rfl rfl rfl (by decide) ?_
    rintro found ⟨hevent, hpayload⟩
    dsimp only
    rw [hevent.required (readsBack_decodeText event .aside), hpayload.optional_json h]
    rfl

theorem settles_decodeAction : decodeAction.Settles Action.json :=
  fun origin node action h => (lasting_of_decodeAction origin node action h).readsBack

theorem readsBack_decodeRuleScope (scope : RuleScope) :
    decodeRuleScope.ReadsBack scope.json scope := by
  refine readsBack_decodeRecord [("countries", some (Json.ofTexts scope.countries)),
    ("roles", some (Json.ofTexts scope.roles))] rfl rfl (by decide) ?_
  rintro origin found ⟨hcountries, hroles⟩
  rw [hcountries.defaulted (readsBack_decodeTexts scope.countries origin),
    hroles.defaulted (readsBack_decodeTexts scope.roles origin)]
  rfl

theorem settles_decodeRule : decodeRule.Settles Rule.json := by
  refine gives_decodeRecord fun origin fields => ?_
  refine .seq (.seq (.seq_any (.seq_any (.seq_any (.map_any ?_))))
    (settles_decodeCondition.required fields "when" origin))
    (settles_decodeAction.list.defaulted fields "actions" origin fun _ => rfl)
  intro ruleId description priority scope condition hcondition actions hactions
  refine readsBack_decodeRecord [("ruleId", some (.string ruleId)),
    ("description", some (.string description)), ("priority", some (.number (.float priority))),
    ("scope", scope.map (·.json)), ("when", some condition.json),
    ("actions", some (.array (actions.map (·.json))))] rfl rfl (by decide) ?_
  rintro origin found ⟨hid, hdescription, hpriority, hscope, hwhen, hfound⟩
  rw [hid.required (readsBack_decodeText ruleId origin),
    hdescription.defaulted (readsBack_decodeText description origin),
    hpriority.defaulted (readsBack_decodeFloat priority origin),
    hscope.optional fun scope _ => ⟨nofun, readsBack_decodeRuleScope scope origin⟩,
    hwhen.required (hcondition origin), hfound.defaulted (hactions origin)]
  rfl

/-- Every rule set that is read reads back from what is written of it. -/
theorem settles_decodeRuleSet : decodeRuleSet.Settles RuleSet.json := by
  refine gives_decodeRecord fun origin fields => ?_
  refine .seq (.map_any ?_)
    (settles_decodeRule.list.defaulted fields "rules" origin fun _ => rfl)
  intro version rules hrules
  refine readsBack_decodeRecord [("version", some (.string version)),
    ("rules", some (.array (rules.map (·.json))))] rfl rfl (by decide) ?_
  rintro origin found ⟨hversion, hfound⟩
  rw [hversion.defaulted (readsBack_decodeText version origin), hfound.defaulted (hrules origin)]
  rfl

/-- The values that the actions of a set that is read give or report last. -/
theorem RuleSet.lasting_of_decode : decodeRuleSet.Gives fun set =>
    ∀ rule ∈ set.rules, ∀ action ∈ rule.actions, action.Lasting := by
  have hrule : decodeRule.Gives fun rule => ∀ action ∈ rule.actions, action.Lasting := by
    refine gives_decodeRecord fun origin fields => ?_
    have hactions : (fields.defaulted "actions" [] (decodeList decodeAction origin)).Gives
        fun actions => ∀ action ∈ actions, action.Lasting :=
      fields.gives_defaulted "actions" (by simp) (gives_decodeList lasting_of_decodeAction origin)
    refine .seq (.seq_any (.seq_any (.seq_any (.seq_any (.map_any ?_))))) hactions
    exact fun ruleId description priority scope condition actions h => h
  refine gives_decodeRecord fun origin fields => ?_
  have hrules : (fields.defaulted "rules" [] (decodeList decodeRule origin)).Gives
      fun rules => ∀ rule ∈ rules, ∀ action ∈ rule.actions, action.Lasting :=
    fields.gives_defaulted "rules" (by simp) (gives_decodeList hrule origin)
  exact .seq (.map_any fun version rules h => h) hrules

end PageFlow
