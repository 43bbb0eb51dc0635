/-
# Bundles

A bundle holds all documents of an application: its flow, its rules, its calls
and the schemas of its pages, which are passed on as they are.

Key definitions: `Bundle`, `Bundle.mappingsById`, `decodeBundle`, `Bundle.json`.
-/
import PageFlow.Flow
import PageFlow.Mapping
import PageFlow.Rule.Document

namespace PageFlow
open Document

/-- The documents of an application. -/
structure Bundle where
  flow : Flow
  rules : RuleSet
  apiMappings : List ApiMapping
  uiSchemas : Dict Json

/-- The mappings by id; of equal ids the last counts. -/
def Bundle.mappingsById (bundle : Bundle) : Dict ApiMapping :=
  Dict.ofList (bundle.apiMappings.map fun m => (m.apiId, m))

/-- Reads a bundle. -/
def decodeBundle : Decoder Bundle :=
  decodeRecord "struct Bundle" ["flow", "rules", "apiMappings", "uiSchemas"] fun origin fields =>
    Bundle.mk <$> fields.required "flow" (decodeFlow origin)
      <*> fields.defaulted "rules" RuleSet.empty (decodeRuleSet origin)
      <*> fields.defaulted "apiMappings" [] (decodeList decodeApiMapping origin)
      <*> fields.defaulted "uiSchemas" [] (decodeDict decodeJson origin)

/-- A bundle in a document. -/
def Bundle.json (bundle : Bundle) : Json :=
  .object [("flow", bundle.flow.json), ("rules", bundle.rules.json),
    ("apiMappings", .array (bundle.apiMappings.map (·.json))),
    ("uiSchemas", .object bundle.uiSchemas)]

end PageFlow
