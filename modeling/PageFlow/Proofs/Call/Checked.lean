/-
# Calls of checked mappings

The references, transforms and targets of a checked mapping can be used, so its
entries fail only by the values: a write is refused by their shape, or a value
does not belong into the context. The paths in a body are not checked. One with
an empty segment cannot be read, and its entry fails in every call.

Key definitions: `CallError.ByValues`.
Key theorems: `bodyPath_eq`, `MappingEntry.resolve_of_problems`, `Bundle.byValues_call`,
`Bundle.not_byValues_misspelt`.
-/
import PageFlow.Proofs.Call.Areas
import PageFlow.Proofs.Validation

namespace PageFlow

/-- Whether an entry fails by the values it meets. -/
inductive EntryFault.ByValues : EntryFault → Prop
  /-- A write is refused by the shape of the values. -/
  | refused {e : PathError} (h : e.ByShape) : ByValues (.path e)
  /-- A value for the context is of the wrong type. -/
  | wrongType {c : Document.Complaint} (h : c.IsWrongType) : ByValues (.contextValue c)

/-- Whether a call reports something that depends on values. -/
inductive CallError.ByValues : CallError → Prop
  | entry {e : EntryError} (h : e.fault.ByValues) : ByValues (.entry e)
  | context {c : Document.Complaint} (h : c.IsWrongType) : ByValues (.context c)

/-! ### Paths in a body -/

/-- The path of a field of the body has the segments of its key. -/
theorem bodyPath_eq (key : String) :
    bodyPath key = Path.ofSegments ("data." ++ key) .data (Text.split '.' key) :=
  Path.parse_rooted .data key

theorem segments_of_bodyPath {key : String} {path : Path} (h : bodyPath key = .ok path) :
    path.segments = Text.split '.' key := by
  rw [bodyPath_eq] at h
  rw [(Path.ofSegments_eq_ok_iff.mp h).1]

theorem segments_ne_nil_of_bodyPath {key : String} {path : Path} (h : bodyPath key = .ok path) :
    path.segments ≠ [] := by
  rw [segments_of_bodyPath h]
  exact Text.split_ne_nil '.' key

/-- A path in a body that cannot be read has an empty segment. -/
theorem eq_of_bodyPath_error {key : String} {e : PathError} (h : bodyPath key = .error e) :
    e = .emptySegment ("data." ++ key) := by
  rw [bodyPath_eq, Path.ofSegments] at h
  split at h
  · exact nomatch h
  · exact (Except.error.inj h).symm

/-! ### References -/

/-- A checked entry can be mapped. -/
theorem MappingEntry.resolve_of_problems {place : EntryPlace} {responseAllowed : Bool}
    {entry : MappingEntry} {scope : Scope} (h : entry.problems place responseAllowed = [])
    (hscope : responseAllowed = true → scope.response.isSome) :
    ∃ value, entry.resolve scope = .ok value := by
  obtain ⟨hsource, htransform⟩ := List.append_eq_nil_iff.mp h
  have hvalue : ∃ value, (Reference.parse entry.source).bind (Reference.resolve scope) = .ok value := by
    cases hparse : Reference.parse entry.source with
    | error e =>
      rw [hparse] at hsource
      exact absurd hsource (List.cons_ne_nil _ _)
    | ok reference =>
      cases reference with
      | literal value => exact ⟨value, rfl⟩
      | path path =>
        have havailable : path.root = .response → scope.response.isSome := by
          intro hroot
          refine hscope (by simpa [hparse, hroot] using hsource)
        obtain ⟨value, hvalue⟩ := Scope.resolve_of_available havailable
        exact ⟨value, by simp [Except.bind, Reference.resolve, hvalue, mapError_ok]⟩
  obtain ⟨value, hvalue⟩ := hvalue
  rw [resolve, hvalue]
  dsimp only
  cases hexpression : entry.transform with
  | none => exact ⟨value, rfl⟩
  | some expression =>
    rw [hexpression] at htransform
    cases hcompile : Transform.compile expression with
    | error e =>
      simp [hcompile] at htransform
    | ok f => exact ⟨f value, by simp [Transform.apply, hcompile, Except.map, mapError_ok]⟩

/-! ### Fields of a context -/

theorem sorted_of_write {path : Path} {new : Json} {fields next : Dict Json}
    (hsorted : Dict.Sorted fields) (h : write path new fields = .ok next) : Dict.Sorted next := by
  rw [write_eq] at h
  have h := eq_ok_of_mapError h
  unfold putFields at h
  split at h
  · exact nomatch h
  · obtain ⟨child, -, rfl⟩ := eq_ok_of_map h
    exact hsorted.insert child

theorem sorted_of_writeContext {key : String} {value : Json} {fields next : Dict Json}
    (hsorted : Dict.Sorted fields) (h : writeContext key value fields = .ok next) :
    Dict.Sorted next := by
  unfold writeContext at h
  split at h
  · exact nomatch h
  · next written hwritten =>
    split at h
    · exact nomatch h
    · obtain rfl := Except.ok.inj h
      obtain ⟨target, -, hwrite⟩ := eq_ok_of_bind hwritten
      exact sorted_of_write hsorted hwrite

theorem Area.sorted_putAll_context :
    ∀ {values fields : Dict Json}, Dict.Sorted fields →
      Dict.Sorted (putAll .context values fields).1
  | [], _, h => h
  | (key, value) :: rest, fields, h => by
    rw [putAll]
    cases hput : put .context key value fields with
    | ok next => exact sorted_putAll_context (sorted_of_writeContext h hput)
    | error e => exact sorted_putAll_context h

theorem Area.sorted_fold_context (scope : Scope) (entries : Dict MappingEntry)
    {fields : Dict Json} (h : Dict.Sorted fields) :
    Dict.Sorted (fold .context scope entries fields).1 := sorted_putAll_context h

/-! ### Entries -/

theorem byValues_of_writeAt {parse : String → Except PathError Path} {key : String} {value : Json}
    {fields : Dict Json} {fault : EntryFault}
    (hparse : ∀ target, parse key = .ok target → target.segments ≠ [])
    (h : Area.writeAt parse key value fields = .error fault) :
    (∃ e, parse key = .error e ∧ fault = .path e) ∨ fault.ByValues := by
  obtain ⟨e, he, rfl⟩ := eq_error_of_mapError h
  rcases eq_error_of_bind he with he | ⟨target, htarget, hwrite⟩
  · exact .inl ⟨e, he, rfl⟩
  · exact .inr (.refused (byShape_of_write (hparse target htarget) hwrite))

theorem byValues_of_writeContext {key : String} {value : Json} {fields : Dict Json}
    {fault : EntryFault} (hsorted : Dict.Sorted fields)
    (htarget : ∃ target, Path.parseContextTarget key = .ok target)
    (h : writeContext key value fields = .error fault) : fault.ByValues := by
  obtain ⟨target, htarget⟩ := htarget
  unfold writeContext at h
  rw [htarget] at h
  dsimp only [Except.bind] at h
  split at h
  · next e hwrite =>
    obtain rfl := Except.error.inj h
    exact .refused (byShape_of_write (Path.segments_ne_nil_of_parseTarget htarget) hwrite)
  · next written hwritten =>
    split at h
    · next c hread =>
      obtain rfl := Except.error.inj h
      have hkeys := (sorted_of_write hsorted hwritten).nodup_keys
      exact .wrongType (Context.isWrongType_of_contextOfFields hkeys hread)
    · exact nomatch h

/-! ### Mappings -/

/-- Whether the entries of an area may refer to a response. -/
def Area.seesResponse : Area → Bool
  | .query => false
  | .headers => false
  | .body => false
  | .data => true
  | .context => true

namespace ApiMapping

variable {mapping : ApiMapping} {context : Context} {data : Dict Json} {transport : Transport}

theorem isSome_response_of_mapsIn {area : Area} {scope : Scope}
    (h : mapping.MapsIn context data transport area scope) (harea : area.seesResponse = true) :
    scope.response.isSome := by
  cases h with
  | query => exact absurd harea Bool.false_ne_true
  | headers => exact absurd harea Bool.false_ne_true
  | body => exact absurd harea Bool.false_ne_true
  | data hfolds => rfl
  | context hfolds => rfl

theorem mem_requestProblems {api area : String} {entries : Dict MappingEntry}
    (h : requestProblems api area entries = []) {e : String × MappingEntry} (he : e ∈ entries) :
    e.2.problems ⟨api, area, e.1⟩ false = [] :=
  List.flatMap_eq_nil_iff.mp h e he

theorem mem_responseProblems {api area : String} {parse : String → Except PathError Path}
    {entries : Dict MappingEntry} (h : responseProblems api area parse entries = [])
    {e : String × MappingEntry} (he : e ∈ entries) :
    (∃ target, parse e.1 = .ok target) ∧ e.2.problems ⟨api, area, e.1⟩ true = [] := by
  obtain ⟨htarget, hentry⟩ := List.append_eq_nil_iff.mp (List.flatMap_eq_nil_iff.mp h e he)
  refine ⟨?_, hentry⟩
  cases hparse : parse e.1 with
  | error error =>
    rw [hparse] at htarget
    exact absurd htarget (List.cons_ne_nil _ _)
  | ok target => exact ⟨target, rfl⟩

/-- What the checks say of an entry: its reference and its transform can be used,
and so can its target, if it is one in the response. -/
theorem checked_entry (h : mapping.problems = []) {area : Area} {e : String × MappingEntry}
    (he : e ∈ mapping.entries area) :
    e.2.problems ⟨mapping.apiId, area.name, e.1⟩ area.seesResponse = [] ∧
      (area = .data → ∃ target, Path.parseDataTarget e.1 = .ok target) ∧
      (area = .context → ∃ target, Path.parseContextTarget e.1 = .ok target) := by
  simp only [problems, List.append_eq_nil_iff] at h
  obtain ⟨⟨⟨⟨⟨-, hquery⟩, hheaders⟩, hbody⟩, hdata⟩, hcontext⟩ := h
  cases area with
  | query => refine ⟨mem_requestProblems hquery he, ?_, ?_⟩ <;> rintro ⟨⟩
  | headers => refine ⟨mem_requestProblems hheaders he, ?_, ?_⟩ <;> rintro ⟨⟩
  | body => refine ⟨mem_requestProblems hbody he, ?_, ?_⟩ <;> rintro ⟨⟩
  | data =>
    obtain ⟨htarget, hentry⟩ := mem_responseProblems hdata he
    exact ⟨hentry, fun _ => htarget, by rintro ⟨⟩⟩
  | context =>
    obtain ⟨htarget, hentry⟩ := mem_responseProblems hcontext he
    exact ⟨hentry, by rintro ⟨⟩, fun _ => htarget⟩

/-- A key of the body that cannot be read, and the error of its entry. -/
inductive Unreadable (mapping : ApiMapping) : CallError → Prop
  | body {key : String} (hkey : key ∈ mapping.requestMap.body.keys)
      (hpath : bodyPath key = .error (.emptySegment ("data." ++ key))) :
    Unreadable mapping (.entry ⟨"requestMap.body", key, .path (.emptySegment ("data." ++ key))⟩)

/-- An entry of a checked mapping fails by the values, or its key in the body
cannot be read. -/
theorem byValues_of_failsAt (h : mapping.problems = []) {area : Area} {scope : Scope}
    (hscope : mapping.MapsIn context data transport area scope) {front back : Dict MappingEntry}
    {key : String} {entry : MappingEntry} {fault : EntryFault}
    (hentries : mapping.entries area = front ++ (key, entry) :: back)
    (hfails : area.FailsAt scope (area.start context data) front key entry fault) :
    fault.ByValues ∨ mapping.Unreadable (.entry ⟨area.name, key, fault⟩) := by
  have hmem : (key, entry) ∈ mapping.entries area := by
    rw [hentries]
    exact List.mem_append_right _ List.mem_cons_self
  obtain ⟨hentry, hdata, hcontext⟩ := checked_entry h hmem
  cases hfails with
  | mapping herror =>
    obtain ⟨value, hvalue⟩ :=
      MappingEntry.resolve_of_problems hentry (isSome_response_of_mapsIn hscope)
    rw [hvalue] at herror
    exact nomatch herror
  | put hvalue hput =>
    cases area with
    | query => exact nomatch hput
    | headers => exact nomatch hput
    | body =>
      rcases byValues_of_writeAt (fun _ => segments_ne_nil_of_bodyPath) hput with
        ⟨e, he, rfl⟩ | hfault
      · obtain rfl := eq_of_bodyPath_error he
        exact .inr (.body (List.mem_map_of_mem hmem) he)
      · exact .inl hfault
    | data =>
      rcases byValues_of_writeAt (fun _ => Path.segments_ne_nil_of_parseTarget) hput with
        ⟨e, he, rfl⟩ | hfault
      · obtain ⟨target, htarget⟩ := hdata rfl
        exact nomatch htarget.symm.trans he
      · exact .inl hfault
    | context =>
      have hsorted := Area.sorted_fold_context scope front context.sorted_fields
      exact .inl (byValues_of_writeContext hsorted (hcontext rfl) hput)

theorem byValues_of_reports (h : mapping.problems = []) {err : CallError}
    (herr : mapping.Reports context data transport err) :
    err.ByValues ∨ mapping.Unreadable err := by
  cases herr with
  | entry hscope hentries hfails =>
    exact (byValues_of_failsAt h hscope hentries hfails).imp_left .entry
  | @context scope c hscope hread =>
    have hsorted := Area.sorted_fold_context scope (mapping.entries .context) context.sorted_fields
    exact .inl (.context (Context.isWrongType_of_contextOfFields hsorted.nodup_keys hread))

end ApiMapping

/-! ### Bundles -/

namespace Bundle

/-- **Calls of checked bundles fail by the values.** Beside the failure of the call
itself, what a call of a mapping of a checked bundle reports is a write that the
shape of the values refuses, or a value of the wrong type for the context, or an
entry whose key in the body has an empty segment; and the errors in the trace are
these. -/
theorem byValues_call {bundle : Bundle} (h : bundle.problems = []) {mapping : ApiMapping}
    (hmapping : mapping ∈ bundle.apiMappings) (context : Context) (data : Dict Json)
    (transport : Transport) (timing : Timing) :
    let outcome := mapping.call context data transport
    (∀ err ∈ outcome.errors, err.ByValues ∨ mapping.Unreadable err) ∧
      (outcome.trace mapping timing).errors =
        outcome.errors.map (·.message) ++ (outcome.fault.map (·.message)).toList := by
  have hchecked := problems_of_mappingProblems (problems_eq_nil h).2.2.1 mapping hmapping
  exact ⟨fun err herr =>
    ApiMapping.byValues_of_reports hchecked (ApiMapping.reports_of_mem herr), rfl⟩

/-- A call whose body has a key with an empty segment. -/
def placing : ApiMapping where
  apiId := "place"
  method := "POST"
  endpoint := "/bookings"
  requestMap := ⟨[], [], [("guest..name", ⟨"literal:ada", none⟩)]⟩
  responseMap := ⟨[("note.text", ⟨"literal:late", none⟩)], []⟩

/-- A bundle with the call. -/
def misspelt : Bundle where
  flow := ⟨"form", [("form", ⟨"form-page", []⟩)]⟩
  rules := .empty
  apiMappings := [placing]
  uiSchemas := []

/-- A checked bundle with a call that reports a path which cannot be read. -/
theorem not_byValues_misspelt :
    let transport : Transport := fun _ => .ok ⟨200, ""⟩
    misspelt.problems = [] ∧ ∃ mapping ∈ misspelt.apiMappings,
      ∃ err ∈ (mapping.call .empty [] transport).errors, ¬ err.ByValues := by
  intro transport
  have hproblems : misspelt.problems = [] := by rfl
  have herrors : (placing.call .empty [] transport).errors =
      [.entry ⟨"requestMap.body", "guest..name", .path (.emptySegment "data.guest..name")⟩] := by
    rfl
  refine ⟨hproblems, placing, List.mem_singleton_self _, _, herrors ▸ List.mem_singleton_self _, ?_⟩
  rintro ⟨hfault⟩
  obtain ⟨hshape⟩ := hfault
  exact hshape

/-- The call reports the key that cannot be read, and a write below a text. -/
theorem byValues_call_misspelt :
    let outcome := placing.call .empty [("note", .string "early")] fun _ => .ok ⟨200, ""⟩
    misspelt.problems = [] ∧ placing ∈ misspelt.apiMappings ∧
      outcome.errors.map (·.message) =
        ["requestMap.body.guest..name: malformed path 'data.guest..name': empty segment",
          "responseMap.data.note.text: cannot write 'note.text': 'text' holds a scalar value"] ∧
      ∀ err ∈ outcome.errors, err.ByValues ∨ placing.Unreadable err := by
  intro outcome
  have hproblems : misspelt.problems = [] := by rfl
  have hmapping : placing ∈ misspelt.apiMappings := List.mem_singleton_self _
  have hmessages : outcome.errors.map (·.message) =
      ["requestMap.body.guest..name: malformed path 'data.guest..name': empty segment",
        "responseMap.data.note.text: cannot write 'note.text': 'text' holds a scalar value"] := by
    decide +kernel
  exact ⟨hproblems, hmapping, hmessages, (byValues_call hproblems hmapping _ _ _ .none).1⟩

end Bundle
end PageFlow
