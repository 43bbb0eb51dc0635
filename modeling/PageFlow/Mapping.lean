/-
# Mappings of calls

A mapping describes a call: where the request goes, how its parts are made from
data and context, and where the parts of the response go. A mapped value is
named by a reference and may pass through a transform.

Key definitions: `MappingEntry`, `RequestMap`, `ResponseMap`, `ApiMapping`,
`decodeApiMapping`, `ApiMapping.json`.
-/
import PageFlow.Document.Record

namespace PageFlow
open Document

/-- A reference to a value and the transform it passes through. -/
structure MappingEntry where
  source : String
  transform : Option String
  deriving DecidableEq

/-- How a request is made: query parameters and headers by name, and body
fields by dotted path. -/
structure RequestMap where
  query : Dict MappingEntry
  headers : Dict MappingEntry
  body : Dict MappingEntry

/-- Where a response goes: data and context fields by dotted path. -/
structure ResponseMap where
  data : Dict MappingEntry
  context : Dict MappingEntry

/-- A call. -/
structure ApiMapping where
  apiId : String
  method : String
  endpoint : String
  requestMap : RequestMap
  responseMap : ResponseMap

/-- Reads an entry. -/
def decodeMappingEntry : Decoder MappingEntry :=
  decodeRecord "struct MappingEntry" ["from", "transform"] fun origin fields =>
    MappingEntry.mk <$> fields.required "from" (decodeText origin)
      <*> fields.optional "transform" (decodeText origin)

/-- Reads the entries of a section. -/
def decodeEntries : Decoder (Dict MappingEntry) := decodeDict decodeMappingEntry

/-- Reads how a request is made. -/
def decodeRequestMap : Decoder RequestMap :=
  decodeRecord "struct RequestMap" ["query", "headers", "body"] fun origin fields =>
    RequestMap.mk <$> fields.defaulted "query" [] (decodeEntries origin)
      <*> fields.defaulted "headers" [] (decodeEntries origin)
      <*> fields.defaulted "body" [] (decodeEntries origin)

/-- Reads where a response goes. -/
def decodeResponseMap : Decoder ResponseMap :=
  decodeRecord "struct ResponseMap" ["data", "context"] fun origin fields =>
    ResponseMap.mk <$> fields.defaulted "data" [] (decodeEntries origin)
      <*> fields.defaulted "context" [] (decodeEntries origin)

/-- Reads a mapping. -/
def decodeApiMapping : Decoder ApiMapping :=
  decodeRecord "struct ApiMapping" ["apiId", "method", "endpoint", "requestMap", "responseMap"]
    fun origin fields =>
      ApiMapping.mk <$> fields.required "apiId" (decodeText origin)
        <*> fields.defaulted "method" "GET" (decodeText origin)
        <*> fields.required "endpoint" (decodeText origin)
        <*> fields.defaulted "requestMap" ⟨[], [], []⟩ (decodeRequestMap origin)
        <*> fields.defaulted "responseMap" ⟨[], []⟩ (decodeResponseMap origin)

/-- An entry in a document. -/
def MappingEntry.json (entry : MappingEntry) : Json :=
  .ofFields [Json.field "from" (.string entry.source),
    Json.fieldIfSome "transform" (entry.transform.map .string)]

/-- The entries of a section in a document. -/
def entriesJson (entries : Dict MappingEntry) : Json := .object (entries.mapValues (·.json))

/-- A mapping in a document. -/
def ApiMapping.json (mapping : ApiMapping) : Json :=
  .object [("apiId", .string mapping.apiId), ("method", .string mapping.method),
    ("endpoint", .string mapping.endpoint),
    ("requestMap", .object [("query", entriesJson mapping.requestMap.query),
      ("headers", entriesJson mapping.requestMap.headers),
      ("body", entriesJson mapping.requestMap.body)]),
    ("responseMap", .object [("data", entriesJson mapping.responseMap.data),
      ("context", entriesJson mapping.responseMap.context)])]

end PageFlow
