/-
# Sending requests over HTTP

Relative endpoints are put behind a base address. The headers of a request are
the configured ones, a token, and those of the request itself; of names that
differ at most in case the last one counts. A request is refused before
anything is sent when its method, address or headers cannot be written.

Key definitions: `HttpSettings`, `resolveUrl`, `HttpSettings.mergedHeaders`,
`HttpSettings.prepare`, `HttpSettings.transport`.
-/
import PageFlow.Call.Request
import PageFlow.Document.Record
import PageFlow.Text.Case
import PageFlow.Transport.Uri

namespace PageFlow
open Document

-- Powers are those of the core library, whatever else is imported.
attribute [local instance (2000)] instPowNat

/-- How requests are sent. -/
structure HttpSettings where
  baseUrl : Option String
  timeoutSecs : Option Nat
  headers : Dict String
  authToken : Option String

/-- Settings that say nothing. -/
def HttpSettings.empty : HttpSettings := ⟨none, none, [], none⟩

/-- Reads settings. -/
def decodeHttpSettings : Decoder HttpSettings :=
  decodeRecord "struct HttpTransportConfig" ["base_url", "timeout_secs", "headers", "auth_token"]
    fun origin fields =>
      HttpSettings.mk <$> fields.optional "base_url" (decodeText origin)
        <*> fields.optional "timeout_secs" (decodeNat "u64" (2 ^ (64 : Nat)) origin)
        <*> fields.defaulted "headers" [] (decodeDict decodeText origin)
        <*> fields.optional "auth_token" (decodeText origin)

/-- Whether a text starts with another one. -/
def startsWith (start : String) (cs : List Char) : Bool := start.toList.isPrefixOf cs

/-- The address of an endpoint below a base address, with one slash between
them, unless the endpoint is an address of its own. -/
def resolveUrl (base : Option String) (endpoint : String) : String :=
  let cs := endpoint.toList
  match base with
  | none => endpoint
  | some b =>
    if startsWith "http://" cs || startsWith "https://" cs then endpoint
    else
      let front := (b.toList.reverse.dropWhile (· == '/')).reverse
      String.ofList (front ++ '/' :: cs.dropWhile (· == '/'))

/-- A list of headers with one more, which takes the place of those of its name. -/
def putHeader (headers : List (String × String)) (header : String × String) :
    List (String × String) :=
  headers.filter (fun h => !sameName h.1 header.1) ++ [header]

/-- The header that carries a token. -/
def tokenHeader (token : String) : String × String := ("authorization", "Bearer " ++ token)

/-- The headers of a request that has these headers of its own. -/
def HttpSettings.mergedHeaders (settings : HttpSettings) (own : Dict String) :
    List (String × String) :=
  (settings.headers ++ (settings.authToken.map tokenHeader).toList ++ own).foldl putHeader []

/-- Why a request cannot be written. -/
inductive RequestFault where
  | invalidMethod
  | uri (fault : UriFault)
  | invalidHeaderName
  | invalidHeaderValue
  deriving DecidableEq

/-- The wording of a request fault. -/
def RequestFault.message : RequestFault → String
  | .invalidMethod => "invalid HTTP method"
  | .uri fault => fault.message
  | .invalidHeaderName => "invalid HTTP header name"
  | .invalidHeaderValue => "failed to parse header value"

/-- Whether a character may stand in a token. -/
def isTokenChar (c : Char) : Bool := c.isAlphanum || "!#$%&'*+-.^_\x60|~".toList.contains c

/-- Whether a text is a method: not empty, and without ASCII characters that a
token may not have. -/
def isMethod (cs : List Char) : Bool :=
  !cs.isEmpty && cs.all fun c => isTokenChar c || decide (128 ≤ c.toNat)

/-- Whether a text is the name of a header. -/
def isHeaderName (cs : List Char) : Bool := !cs.isEmpty && cs.all isTokenChar

/-- Whether a text is the value of a header: no control characters but tabs. -/
def isHeaderValue (cs : List Char) : Bool :=
  cs.all fun c => c == '\t' || (decide (32 ≤ c.toNat) && c.toNat != 127)

/-- The fault of the first header that cannot be written. -/
def headerFault? : List (String × String) → Option RequestFault
  | [] => none
  | (name, value) :: rest =>
    if !isHeaderName name.toList then some .invalidHeaderName
    else if !isHeaderValue value.toList then some .invalidHeaderValue
    else headerFault? rest

/-- A request that can be written. -/
structure PreparedRequest where
  method : String
  url : String
  headers : List (String × String)
  body : Option String

/-- Makes a request ready to be sent, or refuses it. -/
def HttpSettings.prepare (settings : HttpSettings) (request : HttpRequest) :
    Except TransportError PreparedRequest :=
  let url := resolveUrl settings.baseUrl request.url
  let headers := settings.mergedHeaders request.headers
  let method := Text.upper request.method.toList
  let refuse (fault : RequestFault) : TransportError := .config fault.message
  if !isMethod method then .error (refuse .invalidMethod)
  else
    match Uri.parse url.toList, headerFault? headers with
    | .error fault, _ => .error (refuse (.uri fault))
    | .ok _, some fault => .error (refuse fault)
    | .ok uri, none =>
      match uri.refusal with
      | some reason => .error (.requestFailed url ("bad uri: " ++ reason))
      | none => .ok ⟨String.ofList method, url, headers, request.body⟩

/-- The transport that prepares requests and hands them to `exchange`. -/
def HttpSettings.transport (settings : HttpSettings)
    (exchange : PreparedRequest → TransportAnswer) : Transport := fun request =>
  match settings.prepare request with
  | .error e => .error e
  | .ok prepared => exchange prepared

end PageFlow
