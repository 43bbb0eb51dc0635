/-
# Rules in documents

The spelling of rules and rule sets. An action names its kind in the field
`type`.

Key definitions: `decodeAction`, `decodeRule`, `decodeRuleSet`, `RuleSet.json`.
-/
import PageFlow.Condition.Document
import PageFlow.Rule

namespace PageFlow
open Document

/-- The kinds of actions. -/
def actionVariants : List (Variant Action) :=
  [⟨"setField", "struct variant Action::SetField", ["path", "value", "valueFrom"],
      fun origin fields =>
        Action.setField <$> fields.required "path" (decodeText origin)
          <*> fields.optional "value" (decodeJson origin)
          <*> fields.optional "valueFrom" (decodeText origin)⟩,
    ⟨"emitEvent", "struct variant Action::EmitEvent", ["event", "payload"],
      fun origin fields =>
        Action.emitEvent <$> fields.required "event" (decodeText origin)
          <*> fields.optional "payload" (decodeJson origin)⟩]

/-- Reads an action. -/
def decodeAction : Decoder Action :=
  decodeTagged "type" "internally tagged enum Action" actionVariants

/-- Reads the scope of a rule. -/
def decodeRuleScope : Decoder RuleScope :=
  decodeRecord "struct RuleScope" ["countries", "roles"] fun origin fields =>
    RuleScope.mk <$> fields.defaulted "countries" [] (decodeList decodeText origin)
      <*> fields.defaulted "roles" [] (decodeList decodeText origin)

/-- Reads a rule. -/
def decodeRule : Decoder Rule :=
  decodeRecord "struct Rule" ["ruleId", "description", "priority", "scope", "when", "actions"]
    fun origin fields =>
      Rule.mk <$> fields.required "ruleId" (decodeText origin)
        <*> fields.defaulted "description" "" (decodeText origin)
        <*> fields.defaulted "priority" (Binary64.zero false) (decodeFloat origin)
        <*> fields.optional "scope" (decodeRuleScope origin)
        <*> fields.required "when" (decodeCondition origin)
        <*> fields.defaulted "actions" [] (decodeList decodeAction origin)

/-- Reads a rule set. -/
def decodeRuleSet : Decoder RuleSet :=
  decodeRecord "struct RuleSet" ["version", "rules"] fun origin fields =>
    RuleSet.mk <$> fields.defaulted "version" "" (decodeText origin)
      <*> fields.defaulted "rules" [] (decodeList decodeRule origin)

/-- An action in a document. -/
def Action.json : Action → Json
  | .setField path value valueFrom =>
    .ofFields [Json.field "type" (.string "setField"), Json.field "path" (.string path),
      Json.fieldIfSome "value" value, Json.fieldIfSome "valueFrom" (valueFrom.map .string)]
  | .emitEvent event payload =>
    .ofFields [Json.field "type" (.string "emitEvent"), Json.field "event" (.string event),
      Json.fieldIfSome "payload" payload]

/-- The scope of a rule in a document. -/
def RuleScope.json (scope : RuleScope) : Json :=
  .object [("countries", Json.ofTexts scope.countries), ("roles", Json.ofTexts scope.roles)]

/-- A rule in a document. -/
def Rule.json (rule : Rule) : Json :=
  .ofFields [Json.field "ruleId" (.string rule.ruleId),
    Json.field "description" (.string rule.description),
    Json.field "priority" (.number (.float rule.priority)),
    Json.fieldIfSome "scope" (rule.scope.map (·.json)),
    Json.field "when" rule.condition.json,
    Json.field "actions" (.array (rule.actions.map (·.json)))]

/-- A rule set in a document. -/
def RuleSet.json (rules : RuleSet) : Json :=
  .object [("version", .string rules.version), ("rules", .array (rules.rules.map (·.json)))]

end PageFlow
