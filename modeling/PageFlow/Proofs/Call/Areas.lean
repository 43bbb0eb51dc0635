/-
# The areas of a mapping

The entries of a mapping stand in five areas, three for the request and two for
the response. In each area the entries are mapped one by one, and the value of
each is put on what the entries before it left. An entry that cannot be mapped,
or whose value cannot be put, has no effect and is reported. Request, data and
context are made of what the areas leave.

Key definitions: `Area`, `Area.put`, `Area.fold`, `Area.FailsAt`, `Context.settle`,
`ApiMapping.MapsIn`, `ApiMapping.Makes`, `ApiMapping.Reports`.
Key theorems: `Area.failsAt_of_mem`, `ApiMapping.buildRequest_eq`,
`ApiMapping.foldResponse_eq`, `ApiMapping.makes_call`, `ApiMapping.reports_of_mem`.
-/
import PageFlow.Proofs.Call.Exits
import PageFlow.Proofs.Context

namespace PageFlow

/-- Where an entry of a mapping stands. -/
inductive Area where
  | query | headers | body | data | context

/-- The entries in an area. -/
def ApiMapping.entries (mapping : ApiMapping) : Area → Dict MappingEntry
  | .query => mapping.requestMap.query
  | .headers => mapping.requestMap.headers
  | .body => mapping.requestMap.body
  | .data => mapping.responseMap.data
  | .context => mapping.responseMap.context

/-- The mapping with other entries in an area. -/
def ApiMapping.withEntries (mapping : ApiMapping) (area : Area) (entries : Dict MappingEntry) :
    ApiMapping :=
  match area with
  | .query => { mapping with requestMap := { mapping.requestMap with query := entries } }
  | .headers => { mapping with requestMap := { mapping.requestMap with headers := entries } }
  | .body => { mapping with requestMap := { mapping.requestMap with body := entries } }
  | .data => { mapping with responseMap := { mapping.responseMap with data := entries } }
  | .context => { mapping with responseMap := { mapping.responseMap with context := entries } }

namespace Area

/-- The name of an area in errors. -/
def name : Area → String
  | .query => "requestMap.query"
  | .headers => "requestMap.headers"
  | .body => "requestMap.body"
  | .data => "responseMap.data"
  | .context => "responseMap.context"

/-- Writes a value at the path that a key is read as. -/
def writeAt (parse : String → Except PathError Path) (key : String) (value : Json)
    (fields : Dict Json) : Except EntryFault (Dict Json) :=
  ((parse key).bind fun target => write target value fields).mapError .path

/-- Puts the value of an entry where its key says. -/
def put : Area → String → Json → Dict Json → Except EntryFault (Dict Json)
  | .query, key, value, fields => .ok (fields ++ [(key, value)])
  | .headers, key, value, fields => .ok (fields ++ [(key, value)])
  | .body, key, value, fields => writeAt bodyPath key value fields
  | .data, key, value, fields => writeAt Path.parseDataTarget key value fields
  | .context, key, value, fields => writeContext key value fields

/-- Puts values one after the other. One that cannot be put leaves the fields as
they are and a fault. -/
def putAll (area : Area) : Dict Json → Dict Json → Dict Json × List (String × EntryFault)
  | [], fields => (fields, [])
  | (key, value) :: rest, fields =>
    match area.put key value fields with
    | .ok next => putAll area rest next
    | .error e => ((putAll area rest fields).1, (key, e) :: (putAll area rest fields).2)

/-- What the entries of an area make of some fields, and the faults of those that fail. -/
def fold (area : Area) (scope : Scope) (entries : Dict MappingEntry) (fields : Dict Json) :
    Dict Json × List (String × EntryFault) :=
  ((area.putAll (mappedValues scope entries) fields).1,
    (mappingErrors scope entries).map (fun e => (e.1, .mapping e.2)) ++
      (area.putAll (mappedValues scope entries) fields).2)

/-- The faults of an area as errors. -/
def errors (area : Area) (faults : List (String × EntryFault)) : List EntryError :=
  faults.map fun fault => ⟨area.name, fault.1, fault.2⟩

/-- An entry fails behind others: it cannot be mapped, or its value cannot be put
on what those before it left. -/
inductive FailsAt (area : Area) (scope : Scope) (fields : Dict Json) (front : Dict MappingEntry)
    (key : String) (entry : MappingEntry) : EntryFault → Prop
  | mapping {e : MappingError} (h : entry.resolve scope = .error e) :
    FailsAt area scope fields front key entry (.mapping e)
  | put {value : Json} {fault : EntryFault} (hvalue : entry.resolve scope = .ok value)
      (hput : area.put key value (area.fold scope front fields).1 = .error fault) :
    FailsAt area scope fields front key entry fault

/-- The fields that the values of an area are put on. -/
def start (context : Context) (data : Dict Json) : Area → Dict Json
  | .query => []
  | .headers => []
  | .body => []
  | .data => data
  | .context => context.fields

variable {area : Area} {scope : Scope}

/-! ### Values and errors of entries -/

theorem mappedValues_append (scope : Scope) (back : Dict MappingEntry) :
    ∀ front : Dict MappingEntry,
      mappedValues scope (front ++ back) = mappedValues scope front ++ mappedValues scope back
  | [] => rfl
  | (key, entry) :: front => by
    rw [List.cons_append, mappedValues, mappedValues, mappedValues_append scope back front]
    cases entry.resolve scope <;> rfl

theorem mappingErrors_append (scope : Scope) (back : Dict MappingEntry) :
    ∀ front : Dict MappingEntry,
      mappingErrors scope (front ++ back) = mappingErrors scope front ++ mappingErrors scope back
  | [] => rfl
  | (key, entry) :: front => by
    rw [List.cons_append, mappingErrors, mappingErrors, mappingErrors_append scope back front]
    cases entry.resolve scope <;> rfl

theorem exists_of_mappedValues_eq {key : String} {value : Json} :
    ∀ {entries : Dict MappingEntry} {front back : Dict Json},
      mappedValues scope entries = front ++ (key, value) :: back →
      ∃ front' entry back', entries = front' ++ (key, entry) :: back' ∧
        entry.resolve scope = .ok value ∧ mappedValues scope front' = front
  | [], _, _, h => absurd h.symm (List.append_ne_nil_of_right_ne_nil _ (List.cons_ne_nil _ _))
  | (k, first) :: rest, front, back, h => by
    rw [mappedValues] at h
    cases hfirst : first.resolve scope with
    | error e =>
      rw [hfirst] at h
      obtain ⟨front', entry, back', rfl, hvalue, hfront⟩ := exists_of_mappedValues_eq h
      exact ⟨(k, first) :: front', entry, back', rfl, hvalue, by rw [mappedValues, hfirst, hfront]⟩
    | ok v =>
      rw [hfirst] at h
      cases front with
      | nil =>
        obtain ⟨heq, -⟩ := List.cons.inj h
        obtain ⟨rfl, rfl⟩ := Prod.mk.inj heq
        exact ⟨[], first, rest, rfl, hfirst, rfl⟩
      | cons _ front =>
        obtain ⟨rfl, htail⟩ := List.cons.inj h
        obtain ⟨front', entry, back', rfl, hvalue, hfront⟩ := exists_of_mappedValues_eq htail
        exact ⟨(k, first) :: front', entry, back', rfl, hvalue,
          by rw [mappedValues, hfirst, hfront]⟩

theorem exists_of_mem_mappingErrors {key : String} {e : MappingError} :
    ∀ {entries : Dict MappingEntry}, (key, e) ∈ mappingErrors scope entries →
      ∃ front entry back, entries = front ++ (key, entry) :: back ∧ entry.resolve scope = .error e
  | (k, first) :: rest, h => by
    have hrest : (key, e) ∈ mappingErrors scope rest → ∃ front entry back,
        (k, first) :: rest = front ++ (key, entry) :: back ∧ entry.resolve scope = .error e := by
      intro h
      obtain ⟨front, entry, back, rfl, herror⟩ := exists_of_mem_mappingErrors h
      exact ⟨(k, first) :: front, entry, back, rfl, herror⟩
    rw [mappingErrors] at h
    cases hfirst : first.resolve scope with
    | ok v =>
      rw [hfirst] at h
      exact hrest h
    | error e' =>
      rw [hfirst] at h
      rcases List.mem_cons.mp h with heq | h
      · obtain ⟨rfl, rfl⟩ := Prod.mk.inj heq
        exact ⟨[], first, rest, rfl, hfirst⟩
      · exact hrest h

/-! ### Values that are put -/

theorem putAll_append (area : Area) (back : Dict Json) :
    ∀ front fields : Dict Json, area.putAll (front ++ back) fields =
      ((area.putAll back (area.putAll front fields).1).1,
        (area.putAll front fields).2 ++ (area.putAll back (area.putAll front fields).1).2)
  | [], _ => rfl
  | (key, value) :: front, fields => by
    rw [List.cons_append, putAll, putAll]
    cases area.put key value fields with
    | ok next => exact putAll_append area back front next
    | error e =>
      dsimp only
      rw [putAll_append area back front fields]
      rfl

theorem exists_of_mem_putAll {key : String} {fault : EntryFault} :
    ∀ {values fields : Dict Json}, (key, fault) ∈ (area.putAll values fields).2 →
      ∃ front value back, values = front ++ (key, value) :: back ∧
        area.put key value (area.putAll front fields).1 = .error fault
  | (k, v) :: rest, fields, h => by
    have hrest : ∀ {next}, (key, fault) ∈ (area.putAll rest next).2 →
        (∀ front, (area.putAll ((k, v) :: front) fields).1 = (area.putAll front next).1) →
        ∃ front value back, (k, v) :: rest = front ++ (key, value) :: back ∧
          area.put key value (area.putAll front fields).1 = .error fault := by
      intro next hmem hnext
      obtain ⟨front, value, back, rfl, herror⟩ := exists_of_mem_putAll hmem
      exact ⟨(k, v) :: front, value, back, rfl, by rw [hnext, herror]⟩
    rw [putAll] at h
    cases hput : area.put k v fields with
    | ok next =>
      rw [hput] at h
      exact hrest h fun front => by rw [putAll, hput]
    | error e =>
      rw [hput] at h
      rcases List.mem_cons.mp h with heq | h
      · obtain ⟨rfl, rfl⟩ := Prod.mk.inj heq
        exact ⟨[], v, rest, rfl, hput⟩
      · exact hrest h fun front => by rw [putAll, hput]

/-- Each fault that an area reports is that of an entry which fails. -/
theorem failsAt_of_mem {entries : Dict MappingEntry} {fields : Dict Json} {key : String}
    {fault : EntryFault} (h : (key, fault) ∈ (area.fold scope entries fields).2) :
    ∃ front entry back, entries = front ++ (key, entry) :: back ∧
      area.FailsAt scope fields front key entry fault := by
  rcases List.mem_append.mp h with h | h
  · obtain ⟨⟨k, e⟩, he, heq⟩ := List.mem_map.mp h
    obtain ⟨rfl, rfl⟩ := Prod.mk.inj heq
    obtain ⟨front, entry, back, hentries, herror⟩ := exists_of_mem_mappingErrors he
    exact ⟨front, entry, back, hentries, .mapping herror⟩
  · obtain ⟨front, value, back, hvalues, hput⟩ := exists_of_mem_putAll h
    obtain ⟨front', entry, back', hentries, hvalue, hfront⟩ := exists_of_mappedValues_eq hvalues
    exact ⟨front', entry, back', hentries, .put hvalue (by rw [fold, hfront]; exact hput)⟩

theorem putAll_of_collects (area : Area)
    (h : ∀ key value fields, area.put key value fields = .ok (fields ++ [(key, value)])) :
    ∀ values fields : Dict Json, area.putAll values fields = (fields ++ values, [])
  | [], fields => by rw [putAll, List.append_nil]
  | (key, value) :: rest, fields => by
    rw [putAll, h]
    dsimp only
    rw [putAll_of_collects area h rest, List.append_assoc, List.singleton_append]

theorem putAll_of_writes (area : Area) {parse : String → Except PathError Path}
    (h : ∀ key value fields, area.put key value fields = writeAt parse key value fields) :
    ∀ values fields : Dict Json, area.putAll values fields =
      ((writeEach parse values fields).1,
        (writeEach parse values fields).2.map fun e => (e.1, .path e.2))
  | [], _ => rfl
  | (key, value) :: rest, fields => by
    rw [putAll, h, writeAt, writeEach]
    cases (parse key).bind fun target => write target value fields with
    | ok next => exact putAll_of_writes area h rest next
    | error e =>
      dsimp only [mapError_error]
      rw [putAll_of_writes area h rest fields]
      rfl

theorem putAll_context :
    ∀ values fields : Dict Json, putAll .context values fields = writeEachContext values fields
  | [], _ => rfl
  | (key, value) :: rest, fields => by
    rw [putAll, put, writeEachContext]
    cases writeContext key value fields with
    | ok next => exact putAll_context rest next
    | error e =>
      dsimp only
      rw [putAll_context rest fields]

theorem fold_context (scope : Scope) (entries : Dict MappingEntry) (fields : Dict Json) :
    (Area.context.fold scope entries fields).1 =
      (writeEachContext (mappedValues scope entries) fields).1 := by
  rw [fold, putAll_context]

end Area

/-! ### What is made of the areas -/

/-- The headers of a request, with and without a body. -/
def headersWith (body headers : Dict Json) : Dict String :=
  if body.isEmpty then parameters headers else withContentType (parameters headers)

/-- The body with some fields; without fields there is none. -/
def bodyOf (fields : Dict Json) : Option Json :=
  if fields.isEmpty then none else some (.object fields)

namespace ApiMapping

variable (mapping : ApiMapping)

/-- The request is made of what its areas leave. -/
theorem buildRequest_eq (scope : Scope) :
    let query := Area.query.fold scope (mapping.entries .query) []
    let headers := Area.headers.fold scope (mapping.entries .headers) []
    let body := Area.body.fold scope (mapping.entries .body) []
    mapping.buildRequest scope =
      { query := parameters query.1
        headers := headersWith body.1 headers.1
        body := bodyOf body.1
        errors := Area.query.errors query.2 ++ Area.headers.errors headers.2 ++
          Area.body.errors body.2 } := by
  have hquery := Area.putAll_of_collects .query fun _ _ _ => rfl
  have hheaders := Area.putAll_of_collects .headers fun _ _ _ => rfl
  have hbody := Area.putAll_of_writes .body fun _ _ _ => rfl
  have hheadersWith : ∀ body headers : Dict Json,
      (if (bodyOf body).isSome then withContentType (parameters headers) else parameters headers) =
        headersWith body headers :=
    fun body headers => by cases body <;> rfl
  simp only [buildRequest, buildBody, Area.fold, hquery, hheaders, hbody, entries,
    entryErrors, Area.errors, Area.name, List.map_append, List.map_map, List.nil_append,
    List.append_nil, Function.comp_def, BuiltRequest.mk.injEq]
  exact ⟨trivial, hheadersWith _ _, rfl, trivial⟩

end ApiMapping

/-- A value that is written into the context has a target, and a context remains. -/
theorem exists_of_writeContext {key : String} {value : Json} {before after : Dict Json}
    (h : writeContext key value before = .ok after) :
    ∃ target next, Path.parseContextTarget key = .ok target ∧
      write target value before = .ok after ∧ contextOfFields after = .ok next := by
  unfold writeContext at h
  split at h
  · exact nomatch h
  · next written hwritten =>
    obtain ⟨target, htarget, hwrite⟩ := eq_ok_of_bind hwritten
    split at h
    · exact nomatch h
    · next next hread =>
      obtain rfl := Except.ok.inj h
      exact ⟨target, next, htarget, hwrite, hread⟩

/-- The context that some fields make; one that is the same is kept. -/
def Context.settle (context : Context) (fields : Dict Json) : Context × List CallError :=
  match contextOfFields fields with
  | .ok next => (if next.value.same context.value then context else next, [])
  | .error c => (context, [.context c])

theorem foldContext_fst (values : Dict Json) (context : Context) :
    (foldContext values context).1 =
      if values.isEmpty then context
      else (context.settle (writeEachContext values context.fields).1).1 := by
  unfold foldContext
  split
  · rfl
  · dsimp only
    rw [Context.settle]
    cases contextOfFields (writeEachContext values context.fields).1 <;> rfl

theorem Context.WellFormed.settle_fields {context : Context} (h : context.WellFormed) :
    context.settle context.fields = (context, []) := by
  rw [Context.settle, h.contextOfFields_fields]
  dsimp only
  rw [Json.same_self, if_pos rfl]

/-- A well-formed context is folded alike with and without values. -/
theorem foldContext_eq {context : Context} (h : context.WellFormed) (values : Dict Json) :
    let written := writeEachContext values context.fields
    foldContext values context =
      ((context.settle written.1).1,
        written.2.map (fun e => .entry ⟨"responseMap.context", e.1, e.2⟩) ++
          (context.settle written.1).2) := by
  unfold foldContext
  split
  · next hempty =>
    obtain rfl := List.isEmpty_iff.mp hempty
    dsimp only [writeEachContext]
    rw [h.settle_fields]
    rfl
  · dsimp only
    rw [Context.settle]
    cases contextOfFields (writeEachContext values context.fields).1 with
    | ok next => simp
    | error c => rfl

theorem ApiMapping.foldResponse_data (mapping : ApiMapping) (context : Context) (response : Json)
    (data : Dict Json) :
    let scope : Scope := ⟨data, context.value, some response⟩
    let written := Area.data.fold scope (mapping.entries .data) data
    let settled := foldContext (mappedValues scope (mapping.entries .context)) context
    mapping.foldResponse response data context =
      { data := written.1
        context := settled.1
        errors := (Area.data.errors written.2 ++
          entryErrors "responseMap.context" scope (mapping.entries .context)).map .entry ++
            settled.2 } := by
  have hdata := Area.putAll_of_writes .data fun _ _ _ => rfl
  simp only [foldResponse, Area.fold, hdata, entries, entryErrors, Area.errors, Area.name,
    List.map_map, List.map_append, List.append_assoc, Function.comp_def]

/-- Data and context are made of what the areas of the response leave. -/
theorem ApiMapping.foldResponse_eq (mapping : ApiMapping) {context : Context}
    (h : context.WellFormed) (response : Json) (data : Dict Json) :
    let scope : Scope := ⟨data, context.value, some response⟩
    let written := Area.data.fold scope (mapping.entries .data) data
    let fields := Area.context.fold scope (mapping.entries .context) context.fields
    mapping.foldResponse response data context =
      { data := written.1
        context := (context.settle fields.1).1
        errors := (Area.data.errors written.2 ++ Area.context.errors fields.2).map .entry ++
          (context.settle fields.1).2 } := by
  simp only [foldResponse_data, foldContext_eq h, Area.fold, Area.putAll_context, entryErrors,
    Area.errors, Area.name, List.map_map, List.map_append, List.append_assoc, Function.comp_def]

/-! ### What a call makes of its areas -/

namespace ApiMapping

variable {mapping : ApiMapping} {context : Context} {data : Dict Json} {transport : Transport}

/-- A response was folded in with this value. -/
def Folds (mapping : ApiMapping) (context : Context) (data : Dict Json) (transport : Transport)
    (value : Json) : Prop :=
  ∃ response, transport (mapping.requestFor context data) = .ok response ∧
    response.isSuccess = true ∧ parseBody response.body = .ok value

theorem Folds.call_eq {value : Json} (h : mapping.Folds context data transport value) :
    ∃ response, mapping.call context data transport =
      mapping.succeeded context data response value := by
  obtain ⟨response, hanswer, hstatus, hread⟩ := h
  exact ⟨response, mapping.eq_of_ends context data (.folded response hanswer hstatus value hread)⟩

theorem folds_of_usable {response : HttpResponse}
    (hanswer : transport (mapping.requestFor context data) = .ok response)
    (h : response.Usable) : ∃ value, mapping.Folds context data transport value := by
  obtain ⟨value, hread⟩ := h.exists_parseBody
  exact ⟨value, response, hanswer, HttpResponse.isSuccess_iff.mpr h.1, hread⟩

theorem Folds.usable {value : Json} (h : mapping.Folds context data transport value) :
    ∃ response, transport (mapping.requestFor context data) = .ok response ∧ response.Usable := by
  obtain ⟨response, hanswer, hstatus, hread⟩ := h
  exact ⟨response, hanswer, HttpResponse.usable_of_parseBody hstatus hread⟩

/-- A call whose response is not folded in leaves data and context. -/
theorem kept_of_not_folds (h : ∀ value, ¬ mapping.Folds context data transport value) :
    (mapping.call context data transport).data = data ∧
      (mapping.call context data transport).context = context := by
  refine mapping.call_of_not_usable context data fun response hanswer husable => ?_
  obtain ⟨value, hfolds⟩ := folds_of_usable hanswer husable
  exact h value hfolds

/-- The values that the entries of an area are mapped from. Those of the response
are mapped if there is one that is folded in. -/
inductive MapsIn (mapping : ApiMapping) (context : Context) (data : Dict Json)
    (transport : Transport) : Area → Scope → Prop
  | query : MapsIn mapping context data transport .query (.ofData data context.value)
  | headers : MapsIn mapping context data transport .headers (.ofData data context.value)
  | body : MapsIn mapping context data transport .body (.ofData data context.value)
  | data {value : Json} (hfolds : mapping.Folds context data transport value) :
    MapsIn mapping context data transport .data ⟨data, context.value, some value⟩
  | context {value : Json} (hfolds : mapping.Folds context data transport value) :
    MapsIn mapping context data transport .context ⟨data, context.value, some value⟩

/-- What the entries of an area leave of the fields that their values are put on. -/
def leaves (mapping : ApiMapping) (context : Context) (data : Dict Json) (area : Area)
    (scope : Scope) : Dict Json :=
  (area.fold scope (mapping.entries area) (area.start context data)).1

/-- The request, the data and the context of an outcome hold what the areas leave. The
context is made anew only if there is a value for it. -/
structure Makes (mapping : ApiMapping) (context : Context) (data : Dict Json)
    (transport : Transport) (outcome : ApiOutcome) : Prop where
  request : outcome.request = mapping.httpRequest outcome.built
  query : outcome.built.query =
    parameters (mapping.leaves context data .query (.ofData data context.value))
  headers : outcome.built.headers =
    headersWith (mapping.leaves context data .body (.ofData data context.value))
      (mapping.leaves context data .headers (.ofData data context.value))
  body : outcome.built.body =
    bodyOf (mapping.leaves context data .body (.ofData data context.value))
  folded_data : ∀ scope, mapping.MapsIn context data transport .data scope →
    outcome.data = mapping.leaves context data .data scope
  folded_context : ∀ scope, mapping.MapsIn context data transport .context scope →
    outcome.context =
      if (mappedValues scope (mapping.entries .context)).isEmpty then context
      else (context.settle (mapping.leaves context data .context scope)).1
  kept : (∀ value, ¬ mapping.Folds context data transport value) →
    outcome.data = data ∧ outcome.context = context

/-- **A call holds what its areas leave.** -/
theorem makes_call (mapping : ApiMapping) (context : Context) (data : Dict Json)
    (transport : Transport) :
    mapping.Makes context data transport (mapping.call context data transport) where
  request := by
    rw [call_request, call_built]
    rfl
  query := by
    rw [call_built, buildRequest_eq]
    rfl
  headers := by
    rw [call_built, buildRequest_eq]
    rfl
  body := by
    rw [call_built, buildRequest_eq]
    rfl
  folded_data := by
    rintro scope (_ | _ | _ | hfolds)
    obtain ⟨response, hcall⟩ := hfolds.call_eq
    rw [hcall, succeeded, foldResponse_data]
    rfl
  folded_context := by
    rintro scope (_ | _ | _ | _ | hfolds)
    obtain ⟨response, hcall⟩ := hfolds.call_eq
    rw [hcall, leaves, Area.fold_context]
    exact foldContext_fst _ context
  kept := kept_of_not_folds

/-! ### What a call reports -/

/-- What a call reports beside its own failure: the entries that fail, and a
context that cannot be read back. -/
inductive Reports (mapping : ApiMapping) (context : Context) (data : Dict Json)
    (transport : Transport) : CallError → Prop
  | entry {area : Area} {scope : Scope} {front back : Dict MappingEntry} {key : String}
      {entry : MappingEntry} {fault : EntryFault}
      (hscope : mapping.MapsIn context data transport area scope)
      (hentries : mapping.entries area = front ++ (key, entry) :: back)
      (hfails : area.FailsAt scope (area.start context data) front key entry fault) :
    Reports mapping context data transport (.entry ⟨area.name, key, fault⟩)
  | context {scope : Scope} {c : Document.Complaint}
      (hscope : mapping.MapsIn context data transport .context scope)
      (hread : contextOfFields
        (Area.context.fold scope (mapping.entries .context) context.fields).1 = .error c) :
    Reports mapping context data transport (.context c)

theorem reports_of_mem_area {area : Area} {scope : Scope}
    (hscope : mapping.MapsIn context data transport area scope) {e : EntryError}
    (h : e ∈ area.errors (area.fold scope (mapping.entries area) (area.start context data)).2) :
    mapping.Reports context data transport (.entry e) := by
  obtain ⟨⟨key, fault⟩, hfault, rfl⟩ := List.mem_map.mp h
  obtain ⟨front, entry, back, hentries, hfails⟩ := Area.failsAt_of_mem hfault
  exact .entry hscope hentries hfails

theorem reports_of_mem_built {e : EntryError}
    (h : e ∈ (mapping.buildRequest (.ofData data context.value)).errors) :
    mapping.Reports context data transport (.entry e) := by
  rw [buildRequest_eq] at h
  rcases List.mem_append.mp h with h | h
  · rcases List.mem_append.mp h with h | h
    · exact reports_of_mem_area .query h
    · exact reports_of_mem_area .headers h
  · exact reports_of_mem_area .body h

theorem mem_foldContext {values : Dict Json} {err : CallError}
    (h : err ∈ (foldContext values context).2) :
    (∃ e ∈ (writeEachContext values context.fields).2,
        err = .entry ⟨"responseMap.context", e.1, e.2⟩) ∨
      ∃ c, contextOfFields (writeEachContext values context.fields).1 = .error c ∧
        err = .context c := by
  unfold foldContext at h
  split at h
  · exact absurd h List.not_mem_nil
  · dsimp only at h
    cases hread : contextOfFields (writeEachContext values context.fields).1 with
    | ok next =>
      rw [hread] at h
      obtain ⟨e, he, rfl⟩ := List.mem_map.mp h
      exact .inl ⟨e, he, rfl⟩
    | error c =>
      rw [hread] at h
      rcases List.mem_append.mp h with h | h
      · obtain ⟨e, he, rfl⟩ := List.mem_map.mp h
        exact .inl ⟨e, he, rfl⟩
      · exact .inr ⟨c, rfl, List.mem_singleton.mp h⟩

theorem reports_of_mem_folded {value : Json} (hfolds : mapping.Folds context data transport value)
    {err : CallError} (h : err ∈ (mapping.foldResponse value data context).errors) :
    mapping.Reports context data transport err := by
  have hcontext : ∀ {e}, e ∈ Area.context.errors (Area.context.fold
      ⟨data, context.value, some value⟩ (mapping.entries .context) context.fields).2 →
      mapping.Reports context data transport (.entry e) := reports_of_mem_area (.context hfolds)
  rw [Area.errors, Area.fold, Area.putAll_context, List.map_append] at hcontext
  rw [foldResponse_data] at h
  rcases List.mem_append.mp h with h | h
  · obtain ⟨e, he, rfl⟩ := List.mem_map.mp h
    rcases List.mem_append.mp he with he | he
    · exact reports_of_mem_area (.data hfolds) he
    · refine hcontext (List.mem_append_left _ ?_)
      rwa [List.map_map]
  · rcases mem_foldContext h with ⟨e, he, rfl⟩ | ⟨c, hread, rfl⟩
    · exact hcontext (List.mem_append_right _ (List.mem_map_of_mem he))
    · refine .context (.context hfolds) ?_
      rw [Area.fold_context]
      exact hread

/-- **Each error of a call is that of an entry which fails**, or the context cannot
be read back. -/
theorem reports_of_mem {err : CallError} (h : err ∈ (mapping.call context data transport).errors) :
    mapping.Reports context data transport err := by
  have hbuilt : ∀ {err}, err ∈ (mapping.buildRequest (.ofData data context.value)).errors.map
      CallError.entry → mapping.Reports context data transport err := by
    rintro err herr
    obtain ⟨e, he, rfl⟩ := List.mem_map.mp herr
    exact reports_of_mem_built he
  rcases mapping.failed_or_succeeded context data transport with
    ⟨fault, hcall⟩ | ⟨response, value, hanswer, hstatus, hread, hcall⟩
  · rw [hcall] at h
    exact hbuilt h
  · rw [hcall] at h
    rcases List.mem_append.mp h with h | h
    · exact hbuilt h
    · exact reports_of_mem_folded ⟨response, hanswer, hstatus, hread⟩ h

end ApiMapping
end PageFlow
