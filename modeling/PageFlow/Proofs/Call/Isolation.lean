/-
# Failing entries

A mapping without an entry that failed makes the same call: it sends the same
request, is answered alike and leaves the same data and context. Only the error
of the entry is missing. The context has to be one that was read: it then stays
as it is when the only value for it is refused, as it does without any value.

Key definitions: `Removed`, `ApiOutcome.SameBut`.
Key theorems: `Area.fold_without`, `ApiMapping.sameBut_of_built`, `ApiMapping.isolated_call`.
-/
import PageFlow.Proofs.Call.Areas

namespace PageFlow
open Document

/-- The second list is the first without one occurrence of `x`. -/
def Removed {α : Type} (x : α) (full rest : List α) : Prop :=
  ∃ before after, full = before ++ x :: after ∧ rest = before ++ after

namespace Removed

variable {α β : Type} {x : α} {full rest : List α}

theorem map (f : α → β) (h : Removed x full rest) : Removed (f x) (full.map f) (rest.map f) := by
  obtain ⟨before, after, rfl, rfl⟩ := h
  exact ⟨before.map f, after.map f, by simp, by simp⟩

theorem append_left (h : Removed x full rest) (front : List α) :
    Removed x (front ++ full) (front ++ rest) := by
  obtain ⟨before, after, rfl, rfl⟩ := h
  exact ⟨front ++ before, after, by simp, by simp⟩

theorem append_right (h : Removed x full rest) (back : List α) :
    Removed x (full ++ back) (rest ++ back) := by
  obtain ⟨before, after, rfl, rfl⟩ := h
  exact ⟨before, after ++ back, by simp, by simp⟩

end Removed

/-! ### One area -/

/-- Without an entry that fails, an area leaves the same and reports all other faults. -/
theorem Area.fold_without {area : Area} {scope : Scope} {fields : Dict Json}
    {front : Dict MappingEntry} {key : String} {entry : MappingEntry} {fault : EntryFault}
    (h : area.FailsAt scope fields front key entry fault) (back : Dict MappingEntry) :
    (area.fold scope (front ++ back) fields).1 =
        (area.fold scope (front ++ (key, entry) :: back) fields).1 ∧
      Removed (key, fault) (area.fold scope (front ++ (key, entry) :: back) fields).2
        (area.fold scope (front ++ back) fields).2 := by
  simp only [fold, mappedValues_append, mappingErrors_append, mappedValues, mappingErrors]
  cases h with
  | mapping herror =>
    rw [herror]
    refine ⟨rfl, Removed.append_right ?_ _⟩
    exact ⟨(mappingErrors scope front).map fun e => (e.1, .mapping e.2),
      (mappingErrors scope back).map fun e => (e.1, .mapping e.2), by simp, by simp⟩
  | put hvalue hput =>
    rw [fold] at hput
    rw [hvalue, putAll_append, putAll_append, putAll, hput]
    exact ⟨rfl, Removed.append_left ⟨_, _, rfl, rfl⟩ _⟩

/-! ### Calls -/

/-- The outcomes are the same, but for an error that the second one lacks. -/
structure ApiOutcome.SameBut (e : CallError) (full rest : ApiOutcome) : Prop where
  request : rest.request = full.request
  query : rest.built.query = full.built.query
  headers : rest.built.headers = full.built.headers
  body : rest.built.body = full.built.body
  answer : rest.answer = full.answer
  data : rest.data = full.data
  context : rest.context = full.context
  fault : rest.fault = full.fault
  errors : Removed e full.errors rest.errors

namespace ApiOutcome.SameBut

variable {full rest : ApiOutcome}

theorem response {e : CallError} (h : SameBut e full rest) (mapping mapping' : ApiMapping)
    (timing : Timing) :
    (rest.trace mapping' timing).response = (full.trace mapping timing).response := by
  rw [trace, trace, h.answer]

theorem messages {e : EntryError} (h : SameBut (.entry e) full rest) :
    Removed e.message full.messages rest.messages := by
  rw [ApiOutcome.messages, ApiOutcome.messages, h.fault]
  exact (h.errors.map CallError.message).append_right _

end ApiOutcome.SameBut

namespace ApiMapping

variable {mapping : ApiMapping} {context : Context} {data : Dict Json} {transport : Transport}

/-- A mapping that builds the same request with one error less makes the same call. -/
theorem sameBut_of_built {mapping' : ApiMapping} {e : EntryError}
    (hmethod : mapping'.method = mapping.method) (hendpoint : mapping'.endpoint = mapping.endpoint)
    (hresponse : mapping'.responseMap = mapping.responseMap)
    (hquery : (mapping'.buildRequest (.ofData data context.value)).query =
      (mapping.buildRequest (.ofData data context.value)).query)
    (hheaders : (mapping'.buildRequest (.ofData data context.value)).headers =
      (mapping.buildRequest (.ofData data context.value)).headers)
    (hbody : (mapping'.buildRequest (.ofData data context.value)).body =
      (mapping.buildRequest (.ofData data context.value)).body)
    (herrors : Removed e (mapping.buildRequest (.ofData data context.value)).errors
      (mapping'.buildRequest (.ofData data context.value)).errors) :
    ApiOutcome.SameBut (.entry e) (mapping.call context data transport)
      (mapping'.call context data transport) := by
  have hrequest : mapping'.requestFor context data = mapping.requestFor context data := by
    rw [requestFor, requestFor, httpRequest, httpRequest, hmethod, hendpoint, hquery, hheaders,
      hbody]
  have hfold : ∀ value, mapping'.foldResponse value data context =
      mapping.foldResponse value data context := fun value => by
    rw [foldResponse, foldResponse, hresponse]
  have hremoved := herrors.map CallError.entry
  have hends := mapping.ends context data transport
  generalize mapping.call context data transport = outcome at hends
  cases hends with
  | unanswered t hanswer =>
    rw [mapping'.eq_of_ends context data (.unanswered t (hrequest ▸ hanswer))]
    exact ⟨hrequest, hquery, hheaders, hbody, rfl, rfl, rfl, rfl, hremoved⟩
  | unsuccessful response hanswer hstatus =>
    rw [mapping'.eq_of_ends context data (.unsuccessful response (hrequest ▸ hanswer) hstatus)]
    exact ⟨hrequest, hquery, hheaders, hbody, rfl, rfl, rfl, rfl, hremoved⟩
  | unreadable response hanswer hstatus c hread =>
    rw [mapping'.eq_of_ends context data
      (.unreadable response (hrequest ▸ hanswer) hstatus c hread)]
    exact ⟨hrequest, hquery, hheaders, hbody, rfl, rfl, rfl, rfl, hremoved⟩
  | folded response hanswer hstatus value hread =>
    rw [mapping'.eq_of_ends context data
      (.folded response (hrequest ▸ hanswer) hstatus value hread), succeeded, succeeded, hfold]
    exact ⟨hrequest, hquery, hheaders, hbody, rfl, rfl, rfl, rfl, hremoved.append_right _⟩

/-- A mapping that folds the response with one error less makes the same call. -/
theorem sameBut_of_folded {mapping' : ApiMapping} {value : Json} {e : CallError}
    (hmethod : mapping'.method = mapping.method) (hendpoint : mapping'.endpoint = mapping.endpoint)
    (hrequests : mapping'.requestMap = mapping.requestMap)
    (hfolds : mapping.Folds context data transport value)
    (hdata : (mapping'.foldResponse value data context).data =
      (mapping.foldResponse value data context).data)
    (hcontext : (mapping'.foldResponse value data context).context =
      (mapping.foldResponse value data context).context)
    (herrors : Removed e (mapping.foldResponse value data context).errors
      (mapping'.foldResponse value data context).errors) :
    ApiOutcome.SameBut e (mapping.call context data transport)
      (mapping'.call context data transport) := by
  have hbuilt : mapping'.buildRequest (.ofData data context.value) =
      mapping.buildRequest (.ofData data context.value) := by
    rw [buildRequest, buildRequest, hrequests]
  have hrequest : mapping'.requestFor context data = mapping.requestFor context data := by
    rw [requestFor, requestFor, hbuilt, httpRequest, httpRequest, hmethod, hendpoint]
  obtain ⟨response, hanswer, hstatus, hread⟩ := hfolds
  rw [mapping.eq_of_ends context data (.folded response hanswer hstatus value hread),
    mapping'.eq_of_ends context data
      (.folded response (hrequest ▸ hanswer) hstatus value hread), succeeded, succeeded, hbuilt]
  exact ⟨hrequest, rfl, rfl, rfl, rfl, hdata, hcontext, rfl, herrors.append_left _⟩

theorem sameBut_without (h : context.WellFormed) {area : Area} {scope : Scope}
    (hscope : mapping.MapsIn context data transport area scope)
    {front back : Dict MappingEntry} {key : String} {entry : MappingEntry} {fault : EntryFault}
    (hentries : mapping.entries area = front ++ (key, entry) :: back)
    (hfails : area.FailsAt scope (area.start context data) front key entry fault) :
    ApiOutcome.SameBut (.entry ⟨area.name, key, fault⟩) (mapping.call context data transport)
      ((mapping.withEntries area (front ++ back)).call context data transport) := by
  obtain ⟨hsame, hremoved⟩ := Area.fold_without hfails back
  rw [← hentries] at hsame hremoved
  have herrors : Removed ⟨area.name, key, fault⟩
      (area.errors (area.fold scope (mapping.entries area) (area.start context data)).2)
      (area.errors (area.fold scope (front ++ back) (area.start context data)).2) := hremoved.map _
  cases hscope with
  | query =>
    refine sameBut_of_built rfl rfl rfl ?_ ?_ ?_ ?_
    all_goals rw [buildRequest_eq, buildRequest_eq]
    · exact congrArg parameters hsame
    · rfl
    · rfl
    · exact (herrors.append_right _).append_right _
  | headers =>
    refine sameBut_of_built rfl rfl rfl ?_ ?_ ?_ ?_
    all_goals rw [buildRequest_eq, buildRequest_eq]
    · rfl
    · exact congrArg (headersWith _) hsame
    · rfl
    · exact (herrors.append_left _).append_right _
  | body =>
    refine sameBut_of_built rfl rfl rfl ?_ ?_ ?_ ?_
    all_goals rw [buildRequest_eq, buildRequest_eq]
    · rfl
    · exact congrArg (fun body => headersWith body _) hsame
    · exact congrArg bodyOf hsame
    · exact herrors.append_left _
  | data hfolds =>
    refine sameBut_of_folded rfl rfl rfl hfolds ?_ ?_ ?_
    all_goals rw [foldResponse_eq _ h, foldResponse_eq _ h]
    · exact hsame
    · rfl
    · exact ((herrors.append_right _).map CallError.entry).append_right _
  | context hfolds =>
    refine sameBut_of_folded rfl rfl rfl hfolds ?_ ?_ ?_
    all_goals rw [foldResponse_eq _ h, foldResponse_eq _ h]
    · rfl
    · exact congrArg (fun fields => (context.settle fields).1) hsame
    · have hsettle := congrArg (fun fields => (context.settle fields).2) hsame
      dsimp only [Area.start] at hsettle ⊢
      exact hsettle ▸ ((herrors.append_left _).map CallError.entry).append_right _

/-- **A failing entry is isolated.** In a context that was read, the mapping
without an entry that failed makes the same call, and so does its trace: all that
is missing is the error of the entry. -/
theorem isolated_call (hread : ∃ origin node, decodeContext origin node = .ok context)
    {area : Area} {scope : Scope} (hscope : mapping.MapsIn context data transport area scope)
    {front back : Dict MappingEntry} {key : String} {entry : MappingEntry} {fault : EntryFault}
    (hentries : mapping.entries area = front ++ (key, entry) :: back)
    (hfails : area.FailsAt scope (area.start context data) front key entry fault)
    (timing : Timing) :
    let without := mapping.withEntries area (front ++ back)
    let full := mapping.call context data transport
    let rest := without.call context data transport
    ApiOutcome.SameBut (.entry ⟨area.name, key, fault⟩) full rest ∧
      (rest.trace without timing).response = (full.trace mapping timing).response ∧
      Removed (EntryError.message ⟨area.name, key, fault⟩) (full.trace mapping timing).errors
        (rest.trace without timing).errors := by
  obtain ⟨origin, node, hread⟩ := hread
  have hsame := sameBut_without (gives_decodeContext origin node context hread) hscope hentries hfails
  exact ⟨hsame, hsame.response mapping _ timing, hsame.messages⟩

/-- A call whose only value for the context is no list of roles. -/
def visit : ApiMapping where
  apiId := "visit"
  method := "GET"
  endpoint := "/visits"
  requestMap := ⟨[], [], []⟩
  responseMap := ⟨[("visit", ⟨"response.id", none⟩)], [("roles", ⟨"literal:true", none⟩)]⟩

/-- Who makes the visit. -/
def visitor : Context := { Context.empty with userId := "ada" }

/-- The refused value leaves the context as it is without any value. -/
theorem isolated_call_visit :
    let transport : Transport := fun _ => .ok ⟨200, "null"⟩
    let scope : Scope := ⟨[], visitor.value, some .null⟩
    let fault : EntryFault := .contextValue (.wrongType (.scalar (.bool true)) "a sequence")
    (∃ origin node, decodeContext origin node = .ok visitor) ∧
      visit.MapsIn visitor [] transport .context scope ∧
      visit.entries .context = [] ++ ("roles", ⟨"literal:true", none⟩) :: [] ∧
      Area.FailsAt .context scope visitor.fields [] "roles" ⟨"literal:true", none⟩ fault ∧
      ApiOutcome.SameBut (.entry ⟨"responseMap.context", "roles", fault⟩)
        (visit.call visitor [] transport)
        ((visit.withEntries .context []).call visitor [] transport) := by
  have hput : Area.put .context "roles" (.bool true)
      (Area.fold .context ⟨[], visitor.value, some .null⟩ [] visitor.fields).1 =
        .error (.contextValue (.wrongType (.scalar (.bool true)) "a sequence")) := by rfl
  intro transport scope fault
  have hread : ∃ origin node, decodeContext origin node = .ok visitor :=
    ⟨.value, Node.ofJson (.object [("userId", .string "ada")]), rfl⟩
  have hscope : visit.MapsIn visitor [] transport .context scope :=
    .context ⟨⟨200, "null"⟩, rfl, rfl, rfl⟩
  have hfails : Area.FailsAt .context scope visitor.fields [] "roles" ⟨"literal:true", none⟩
      fault := .put rfl hput
  exact ⟨hread, hscope, rfl, hfails, (isolated_call hread hscope rfl hfails .none).1⟩

end ApiMapping
end PageFlow
