/-
# Mappings that are read back

The sections of a mapping that is read list their entries by key, and a mapping
whose sections are in that order reads back from what is written of it.

Key definitions: `ApiMapping.Sorted`.
Key theorems: `ApiMapping.sorted_of_decode`, `ApiMapping.Sorted.readsBack`,
`settles_decodeApiMapping`.
-/
import PageFlow.Mapping
import PageFlow.Proofs.Document.RoundTrip

namespace PageFlow
open Document

/-- The sections that make a request list their entries by key. -/
structure RequestMap.Sorted (sections : RequestMap) : Prop where
  query : Dict.Sorted sections.query
  headers : Dict.Sorted sections.headers
  body : Dict.Sorted sections.body

/-- The sections that take a response list their entries by key. -/
structure ResponseMap.Sorted (sections : ResponseMap) : Prop where
  data : Dict.Sorted sections.data
  context : Dict.Sorted sections.context

/-- All sections of a mapping list their entries by key. -/
structure ApiMapping.Sorted (mapping : ApiMapping) : Prop where
  request : mapping.requestMap.Sorted
  response : mapping.responseMap.Sorted

/-! ### What is read is sorted -/

theorem gives_entries (fields : Fields) (name : String) (origin : Origin) :
    (fields.defaulted name [] (decodeEntries origin)).Gives Dict.Sorted :=
  fields.gives_defaulted name trivial (gives_decodeDict decodeMappingEntry origin)

theorem RequestMap.sorted_of_decode : decodeRequestMap.Gives RequestMap.Sorted := by
  refine gives_decodeRecord fun origin fields => ?_
  refine .seq (.seq (.map (gives_entries fields "query" origin) ?_)
    (gives_entries fields "headers" origin)) (gives_entries fields "body" origin)
  exact fun query hquery headers hheaders body hbody => ⟨hquery, hheaders, hbody⟩

theorem ResponseMap.sorted_of_decode : decodeResponseMap.Gives ResponseMap.Sorted := by
  refine gives_decodeRecord fun origin fields => ?_
  refine .seq (.map (gives_entries fields "data" origin) ?_)
    (gives_entries fields "context" origin)
  exact fun data hdata context hcontext => ⟨hdata, hcontext⟩

/-- A mapping that is read is sorted. -/
theorem ApiMapping.sorted_of_decode : decodeApiMapping.Gives ApiMapping.Sorted := by
  refine gives_decodeRecord fun origin fields => ?_
  have hrequest : (fields.defaulted "requestMap" ⟨[], [], []⟩ (decodeRequestMap origin)).Gives
      RequestMap.Sorted :=
    fields.gives_defaulted "requestMap" ⟨trivial, trivial, trivial⟩
      (RequestMap.sorted_of_decode origin)
  have hresponse : (fields.defaulted "responseMap" ⟨[], []⟩ (decodeResponseMap origin)).Gives
      ResponseMap.Sorted :=
    fields.gives_defaulted "responseMap" ⟨trivial, trivial⟩ (ResponseMap.sorted_of_decode origin)
  refine .seq (.seq (.seq_any (.seq_any (.map_any ?_))) hrequest) hresponse
  exact fun apiId method endpoint request hrequest response hresponse => ⟨hrequest, hresponse⟩

/-! ### What is sorted reads back -/

theorem readsBack_decodeMappingEntry (entry : MappingEntry) :
    decodeMappingEntry.ReadsBack entry.json entry := by
  refine readsBack_decodeRecord [("from", some (.string entry.source)),
    ("transform", entry.transform.map .string)] rfl rfl (by decide) ?_
  rintro origin found ⟨hfrom, htransform⟩
  rw [hfrom.required (readsBack_decodeText entry.source origin), htransform.optional_text]
  rfl

theorem readsBack_decodeEntries {entries : Dict MappingEntry} (h : Dict.Sorted entries) :
    decodeEntries.ReadsBack (entriesJson entries) entries :=
  readsBack_decodeDict h fun e _ => readsBack_decodeMappingEntry e.2

theorem RequestMap.Sorted.readsBack {sections : RequestMap} (h : sections.Sorted) :
    decodeRequestMap.ReadsBack (.object [("query", entriesJson sections.query),
      ("headers", entriesJson sections.headers), ("body", entriesJson sections.body)])
      sections := by
  refine readsBack_decodeRecord [("query", some (entriesJson sections.query)),
    ("headers", some (entriesJson sections.headers)), ("body", some (entriesJson sections.body))]
    rfl rfl (by decide) ?_
  rintro origin found ⟨hquery, hheaders, hbody⟩
  rw [hquery.defaulted (readsBack_decodeEntries h.query origin),
    hheaders.defaulted (readsBack_decodeEntries h.headers origin),
    hbody.defaulted (readsBack_decodeEntries h.body origin)]
  rfl

theorem ResponseMap.Sorted.readsBack {sections : ResponseMap} (h : sections.Sorted) :
    decodeResponseMap.ReadsBack (.object [("data", entriesJson sections.data),
      ("context", entriesJson sections.context)]) sections := by
  refine readsBack_decodeRecord [("data", some (entriesJson sections.data)),
    ("context", some (entriesJson sections.context))] rfl rfl (by decide) ?_
  rintro origin found ⟨hdata, hcontext⟩
  rw [hdata.defaulted (readsBack_decodeEntries h.data origin),
    hcontext.defaulted (readsBack_decodeEntries h.context origin)]
  rfl

/-- A sorted mapping reads back from what is written of it. -/
theorem ApiMapping.Sorted.readsBack {mapping : ApiMapping} (h : mapping.Sorted) :
    decodeApiMapping.ReadsBack mapping.json mapping := by
  obtain ⟨apiId, method, endpoint, request, response⟩ := mapping
  refine readsBack_decodeRecord [("apiId", some (.string apiId)), ("method", some (.string method)),
    ("endpoint", some (.string endpoint)),
    ("requestMap", some (.object [("query", entriesJson request.query),
      ("headers", entriesJson request.headers), ("body", entriesJson request.body)])),
    ("responseMap", some (.object [("data", entriesJson response.data),
      ("context", entriesJson response.context)]))] rfl rfl (by decide) ?_
  rintro origin found ⟨hid, hmethod, hendpoint, hrequest, hresponse⟩
  rw [hid.required (readsBack_decodeText apiId origin),
    hmethod.defaulted (readsBack_decodeText method origin),
    hendpoint.required (readsBack_decodeText endpoint origin),
    hrequest.defaulted (h.request.readsBack origin),
    hresponse.defaulted (h.response.readsBack origin)]
  rfl

theorem settles_decodeApiMapping : decodeApiMapping.Settles ApiMapping.json :=
  fun origin node mapping h => (ApiMapping.sorted_of_decode origin node mapping h).readsBack

end PageFlow
