/-
# Flows

A flow is a graph of states. A state shows a page and says for each event where
it leads, under which condition, and which call it makes on the way.

Key definitions: `Flow`, `FlowState`, `Transition`, `Flow.state?`,
`decodeFlow`, `Flow.json`.
-/
import PageFlow.Condition.Document
import PageFlow.Document.Record

namespace PageFlow
open Document

/-- The call that a transition makes. -/
structure ApiCall where
  apiId : String
  deriving DecidableEq

/-- Where an event leads. -/
structure Transition where
  target : String
  guard : Option Condition
  apiCall : Option ApiCall

/-- A state, its page and what its events do. -/
structure FlowState where
  uiPageId : String
  transitions : Dict Transition

/-- The states of an application and the one it starts in. -/
structure Flow where
  initialState : String
  states : Dict FlowState

/-- The state of an id. -/
def Flow.state? (flow : Flow) (id : String) : Option FlowState := Dict.find? id flow.states

/-- Reads the call of a transition. -/
def decodeApiCall : Decoder ApiCall :=
  decodeRecord "struct ApiCall" ["apiId"] fun origin fields =>
    ApiCall.mk <$> fields.required "apiId" (decodeText origin)

/-- Reads a transition. -/
def decodeTransition : Decoder Transition :=
  decodeRecord "struct Transition" ["to", "guard", "apiCall"] fun origin fields =>
    Transition.mk <$> fields.required "to" (decodeText origin)
      <*> fields.optional "guard" (decodeCondition origin)
      <*> fields.optional "apiCall" (decodeApiCall origin)

/-- Reads a state. -/
def decodeFlowState : Decoder FlowState :=
  decodeRecord "struct FlowState" ["uiPageId", "on"] fun origin fields =>
    FlowState.mk <$> fields.required "uiPageId" (decodeText origin)
      <*> fields.defaulted "on" [] (decodeDict decodeTransition origin)

/-- Reads a flow. -/
def decodeFlow : Decoder Flow :=
  decodeRecord "struct FlowSchema" ["initialState", "states"] fun origin fields =>
    Flow.mk <$> fields.required "initialState" (decodeText origin)
      <*> fields.required "states" (decodeDict decodeFlowState origin)

/-- A transition in a document. -/
def Transition.json (t : Transition) : Json :=
  .ofFields [Json.field "to" (.string t.target),
    Json.fieldIfSome "guard" (t.guard.map (·.json)),
    Json.fieldIfSome "apiCall" (t.apiCall.map fun call => .object [("apiId", .string call.apiId)])]

/-- A state in a document. -/
def FlowState.json (s : FlowState) : Json :=
  .object [("uiPageId", .string s.uiPageId), ("on", .object (s.transitions.mapValues (·.json)))]

/-- A flow in a document. -/
def Flow.json (flow : Flow) : Json :=
  .object [("initialState", .string flow.initialState),
    ("states", .object (flow.states.mapValues (·.json)))]

end PageFlow
