/-
# Transports

A transport answers a request with a response or an error. The engine asks it
at most once in a step. Canned responses are picked by the address of the
request: the first route whose pattern occurs in it, or else the default.

Key definitions: `HttpRequest`, `HttpResponse`, `TransportError`, `Transport`,
`CannedResponses`, `decodeCannedResponse`.
-/
import PageFlow.Document.Record
import PageFlow.Json.Printer
import PageFlow.Text.Split

namespace PageFlow
open Document

-- Powers are those of the core library, whatever else is imported.
attribute [local instance (2000)] instPowNat

/-- A request. -/
structure HttpRequest where
  method : String
  url : String
  headers : Dict String
  body : Option String
  deriving DecidableEq

/-- A response. -/
structure HttpResponse where
  status : Nat
  body : String
  deriving DecidableEq

/-- Whether the status of a response reports success. -/
def HttpResponse.isSuccess (r : HttpResponse) : Bool := decide (200 ≤ r.status) && decide (r.status < 300)

/-- Why there is no response. -/
inductive TransportError where
  | requestFailed (url message : String)
  | config (message : String)
  | task (message : String)
  deriving DecidableEq

/-- The wording of a transport error. -/
def TransportError.message : TransportError → String
  | .requestFailed url m => "request to '" ++ url ++ "' failed: " ++ m
  | .config m => "transport config error: " ++ m
  | .task m => "transport task failed: " ++ m

/-- The answer to a request. -/
abbrev TransportAnswer := Except TransportError HttpResponse

/-- What answers requests. -/
abbrev Transport := HttpRequest → TransportAnswer

/-- Responses that are known beforehand. -/
structure CannedResponses where
  routes : List (String × HttpResponse)
  default : TransportAnswer

namespace CannedResponses

/-- The same response for every request. -/
def always (response : HttpResponse) : CannedResponses := ⟨[], .ok response⟩

/-- The same failure for every request. -/
def failing (message : String) : CannedResponses := ⟨[], .error (.requestFailed "" message)⟩

/-- The answer for an address. A failed request names the address. -/
def answer (canned : CannedResponses) (url : String) : TransportAnswer :=
  match canned.routes.find? fun r => Text.hasPart r.1.toList url.toList with
  | some route => .ok route.2
  | none =>
    match canned.default with
    | .error (.requestFailed _ m) => .error (.requestFailed url m)
    | other => other

/-- The transport of canned responses. -/
def transport (canned : CannedResponses) : Transport := fun request => canned.answer request.url

end CannedResponses

/-- Reads a canned response: its status, 200 when it is not given, and a value whose
text is the body. -/
def decodeCannedResponse : Decoder HttpResponse :=
  decodeRecord "struct CannedResponse" ["status", "body"] fun origin fields =>
    (fun status body => HttpResponse.mk status (Json.compact body)) <$>
      fields.defaulted "status" 200 (decodeNat "u16" (2 ^ (16 : Nat)) origin)
        <*> fields.defaulted "body" .null (decodeJson origin)

end PageFlow
