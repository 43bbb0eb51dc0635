/-
# Building the request of a call

Query parameters and headers are the texts of mapped values; `null` leaves them
out. The body is put together from dotted paths. A request with a body says
that it is JSON unless the mapping gives a content type.

Key definitions: `EntryError`, `BuiltRequest`, `buildUrl`,
`ApiMapping.buildRequest`.
-/
import PageFlow.Mapping.Reference
import PageFlow.Path.Write
import PageFlow.Text.Bytes
import PageFlow.Transport

namespace PageFlow

/-- Why an entry of a mapping has no effect. -/
inductive EntryFault where
  /-- The value could not be mapped. -/
  | mapping (error : MappingError)
  /-- The value could not be written. -/
  | path (error : PathError)
  /-- The value does not belong into the context. -/
  | contextValue (error : Document.Complaint)

/-- The wording of an entry fault. -/
def EntryFault.message : EntryFault → String
  | .mapping e => e.message
  | .path e => e.message
  | .contextValue e => "invalid context value: " ++ e.message

/-- An entry of a mapping that has no effect. -/
structure EntryError where
  area : String
  key : String
  fault : EntryFault

/-- The wording of an entry error. -/
def EntryError.message (e : EntryError) : String := e.area ++ "." ++ e.key ++ ": " ++ e.fault.message

/-- The errors of the entries that cannot be mapped. -/
def entryErrors (area : String) (scope : Scope) (entries : Dict MappingEntry) :
    List EntryError :=
  (mappingErrors scope entries).map fun e => ⟨area, e.1, .mapping e.2⟩

/-- The text of a mapped value; `null` has none. -/
def parameterText : Json → Option String
  | .null => none
  | .string s => some s
  | other => some other.compact

/-- The texts of the mapped values of a section. -/
def parameters (values : Dict Json) : Dict String :=
  values.filterMap fun e => (parameterText e.2).map fun s => (e.1, s)

/-- The path of a field of the body. -/
def bodyPath (key : String) : Except PathError Path := Path.parse ("data." ++ key)

/-- Writes values one after the other at the paths of their keys. A value that
cannot be written leaves the fields as they are and an error. -/
def writeEach (parse : String → Except PathError Path) :
    Dict Json → Dict Json → Dict Json × List (String × PathError)
  | [], fields => (fields, [])
  | (key, value) :: rest, fields =>
    match (parse key).bind fun target => write target value fields with
    | .ok next => writeEach parse rest next
    | .error e =>
      let (final, errors) := writeEach parse rest fields
      (final, (key, e) :: errors)

/-- The text in lower case, as far as it is ASCII. -/
def asciiLower (s : String) : List Char := s.toList.map Char.toLower

/-- Whether two names differ at most in ASCII case. -/
def sameName (a b : String) : Bool := asciiLower a == asciiLower b

/-- The headers of a request whose body is JSON. -/
def withContentType (headers : Dict String) : Dict String :=
  if headers.any fun h => sameName h.1 "content-type" then headers
  else Dict.insert "content-type" "application/json" headers

/-- One parameter of a query. -/
def queryPart (parameter : String × String) : List Char :=
  Text.percentEncode parameter.1.toList ++ '=' :: Text.percentEncode parameter.2.toList

/-- The address of an endpoint with query parameters. -/
def buildUrl (endpoint : String) (query : Dict String) : String :=
  if query.isEmpty then endpoint
  else
    let separator := if endpoint.toList.contains '?' then '&' else '?'
    String.ofList (endpoint.toList ++ separator :: Text.joinWith '&' (query.map queryPart))

/-- The parts of a request and the errors of building it. -/
structure BuiltRequest where
  query : Dict String
  headers : Dict String
  body : Option Json
  errors : List EntryError

/-- The body of a request and the errors of building it. -/
def buildBody (scope : Scope) (entries : Dict MappingEntry) : Option Json × List EntryError :=
  let (fields, refused) := writeEach bodyPath (mappedValues scope entries) []
  (if fields.isEmpty then none else some (.object fields),
    entryErrors "requestMap.body" scope entries ++
      refused.map fun e => ⟨"requestMap.body", e.1, .path e.2⟩)

/-- Builds the request of a call. -/
def ApiMapping.buildRequest (mapping : ApiMapping) (scope : Scope) : BuiltRequest :=
  let sections := mapping.requestMap
  let (body, bodyErrors) := buildBody scope sections.body
  let headers := parameters (mappedValues scope sections.headers)
  { query := parameters (mappedValues scope sections.query)
    headers := if body.isSome then withContentType headers else headers
    body
    errors := entryErrors "requestMap.query" scope sections.query ++
      entryErrors "requestMap.headers" scope sections.headers ++ bodyErrors }

/-- The request as it is sent. -/
def ApiMapping.httpRequest (mapping : ApiMapping) (built : BuiltRequest) : HttpRequest :=
  { method := String.ofList (Text.upper mapping.method.toList)
    url := buildUrl mapping.endpoint built.query
    headers := built.headers
    body := built.body.map (·.compact) }

end PageFlow
