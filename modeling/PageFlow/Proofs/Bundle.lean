/-
# Bundles that are read back

All documents of a bundle that is read read back from what is written of it: its
flow with the guards of its transitions, its rules, its calls, and the schemas of its
pages.

Key theorems: `settles_decodeFlow`, `settles_decodeBundle`, `Bundle.decode_json`.
-/
import PageFlow.Bundle
import PageFlow.Proofs.Condition.Document
import PageFlow.Proofs.Mapping.Document
import PageFlow.Proofs.Rule.Document

namespace PageFlow
open Document

/-! ### Flows -/

theorem readsBack_decodeApiCall (call : ApiCall) :
    decodeApiCall.ReadsBack (.object [("apiId", .string call.apiId)]) call := by
  refine readsBack_decodeRecord [("apiId", some (.string call.apiId))] rfl rfl (by decide)
    fun origin found hid => ?_
  rw [hid.required (readsBack_decodeText call.apiId origin)]
  rfl

theorem settles_decodeTransition : decodeTransition.Settles Transition.json := by
  refine gives_decodeRecord fun origin fields => ?_
  refine .seq_any (.seq (.map_any ?_) (settles_decodeCondition.optional fields "guard" origin))
  intro target guard hguard call
  refine readsBack_decodeRecord [("to", some (.string target)), ("guard", guard.map (·.json)),
    ("apiCall", call.map fun call => .object [("apiId", .string call.apiId)])] rfl rfl (by decide) ?_
  rintro origin found ⟨hto, hfound, hcall⟩
  rw [hto.required (readsBack_decodeText target origin),
    hfound.optional fun c hc => ⟨c.json_ne_null, hguard c hc origin⟩,
    hcall.optional fun call _ => ⟨nofun, readsBack_decodeApiCall call origin⟩]
  rfl

theorem settles_decodeFlowState : decodeFlowState.Settles FlowState.json := by
  refine gives_decodeRecord fun origin fields => ?_
  refine .seq (.map_any ?_)
    (settles_decodeTransition.dict.defaulted fields "on" origin fun _ => rfl)
  intro page transitions htransitions
  refine readsBack_decodeRecord [("uiPageId", some (.string page)),
    ("on", some (.object (transitions.mapValues (·.json))))] rfl rfl (by decide) ?_
  rintro origin found ⟨hpage, hon⟩
  rw [hpage.required (readsBack_decodeText page origin), hon.defaulted (htransitions origin)]
  rfl

/-- Every flow that is read reads back from what is written of it. -/
theorem settles_decodeFlow : decodeFlow.Settles Flow.json := by
  refine gives_decodeRecord fun origin fields => ?_
  refine .seq (.map_any ?_) (settles_decodeFlowState.dict.required fields "states" origin)
  intro initial states hstates
  refine readsBack_decodeRecord [("initialState", some (.string initial)),
    ("states", some (.object (states.mapValues (·.json))))] rfl rfl (by decide) ?_
  rintro origin found ⟨hinitial, hfound⟩
  rw [hinitial.required (readsBack_decodeText initial origin), hfound.required (hstates origin)]
  rfl

/-! ### Bundles -/

theorem settles_decodeBundle : decodeBundle.Settles Bundle.json := by
  refine gives_decodeRecord fun origin fields => ?_
  refine .seq (.seq (.seq (.map (settles_decodeFlow.required fields "flow" origin) ?_)
    (settles_decodeRuleSet.defaulted fields "rules" origin fun _ => rfl))
    (settles_decodeApiMapping.list.defaulted fields "apiMappings" origin fun _ => rfl))
    (settles_decodeFields.defaulted fields "uiSchemas" origin fun _ => rfl)
  intro flow hflow rules hrules mappings hmappings schemas hschemas
  refine readsBack_decodeRecord [("flow", some flow.json), ("rules", some rules.json),
    ("apiMappings", some (.array (mappings.map (·.json)))), ("uiSchemas", some (.object schemas))]
    rfl rfl (by decide) ?_
  rintro origin found ⟨hfoundFlow, hfoundRules, hfoundMappings, hfoundSchemas⟩
  rw [hfoundFlow.required (hflow origin), hfoundRules.defaulted (hrules origin),
    hfoundMappings.defaulted (hmappings origin), hfoundSchemas.defaulted (hschemas origin)]
  rfl

/-- **A bundle that was read is read again from what is written of it**, wherever
either document comes from. -/
theorem Bundle.decode_json {origin : Origin} {node : Node} {bundle : Bundle}
    (h : decodeBundle origin node = .ok bundle) (again : Origin) :
    decodeBundle again (Node.ofJson bundle.json.canonical) = .ok bundle :=
  settles_decodeBundle origin node bundle h again

namespace Bundle

/-- A document of a bundle: a transition and a comparison as arrays, a condition
with a key that its form does not know, an action with a value that is `null`. -/
def newsletterJson : Json :=
  let subscribed : Json := .object [("path", .string "data.subscribed")]
  let missing : Json := .object [("not", .array [.string "exists", subscribed]), ("op", .null)]
  let action : Json := .object [("value", .null), ("type", .string "setField"),
    ("path", .string "data.subscribed"), ("valueFrom", .string "context.userId")]
  let rule : Json := .object [("ruleId", .string "subscribe"), ("actions", .array [action]),
    ("when", .object [("any", .array [missing, .object [("all", .array [])]])])]
  .object [("note", .string "weekly"),
    ("rules", .object [("rules", .array [rule])]),
    ("flow", .object [("states", .object [("start", .object [("uiPageId", .string "offer"),
      ("on", .object [("accept", .array [.string "start", missing, .null])])])]),
      ("initialState", .string "start")]),
    ("uiSchemas", .object [("offer", .object [("type", .string "card"), ("size", .null)])])]

/-- What the document says. -/
def newsletter : Bundle :=
  let missing : Condition := .not (.compare ⟨.exists, .path "data.subscribed", none⟩)
  { flow := ⟨"start", [("start", ⟨"offer", [("accept", ⟨"start", some missing, none⟩)]⟩)]⟩
    rules := ⟨"", [⟨"subscribe", "", .zero false, none, .any [missing, .all []],
      [.setField "data.subscribed" none (some "context.userId")]⟩]⟩
    apiMappings := []
    uiSchemas := [("offer", .object [("size", .null), ("type", .string "card")])] }

theorem decode_json_newsletter :
    decodeBundle .value (Node.ofJson newsletterJson) = .ok newsletter ∧
      decodeBundle .value (Node.ofJson newsletter.json.canonical) = .ok newsletter :=
  have h : decodeBundle .value (Node.ofJson newsletterJson) = .ok newsletter := by rfl
  ⟨h, decode_json h .value⟩

end Bundle
end PageFlow
