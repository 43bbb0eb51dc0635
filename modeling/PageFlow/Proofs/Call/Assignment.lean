/-
# Responses as assignments

A response is folded in like a simultaneous assignment: where the targets in the data do
not overlap, each entry leaves at its target what its reference and transform give before
the call, and it is refused just if the data from before the call refuse it. Entries that
copy two fields of the data crosswise swap them. The values for the context, too, are those
from before the call, whatever was written into the data or by another entry.

Key definitions: `MappingEntry.Copies`, `ApiMapping.CopiesTo`.
Key theorems: `Reference.parse_of_path`, `MappingEntry.Copies.resolve`, `ApiMapping.assigned_of_mem`,
`ApiMapping.contextRun_of_folds`, `ApiMapping.simultaneous_call`.
-/
import PageFlow.Proofs.Call.Entries
import PageFlow.Proofs.Path.Grammar
import PageFlow.Proofs.Session.Context

namespace PageFlow

/-- No path starts like a literal. -/
theorem Reference.parse_of_path {raw : String} {path : Path} (h : Path.parse raw = .ok path) :
    Reference.parse raw = .ok (.path path) := by
  have hmark : literalMark.isPrefixOf raw.toList = false := by
    by_contra hliteral
    obtain ⟨rest, hrest⟩ : literalMark <+: raw.toList := by simpa using hliteral
    have hfirst := congrArg String.toList (Path.firstSegment_of_parse h)
    rw [Path.firstSegment, String.toList_ofList, ← hrest] at hfirst
    have hletter : path.root.name.toList.head? = some 'l' := by
      rw [← hfirst]
      rfl
    cases hroot : path.root <;> rw [hroot] at hletter <;> exact absurd hletter (by decide)
  rw [parse]
  simp [hmark, h]

/-- An entry copies what stands at a path into the data. -/
def MappingEntry.Copies (entry : MappingEntry) (source : List String) : Prop :=
  entry.transform = none ∧ ∃ path, Path.parse entry.source = .ok path ∧
    path.root = .data ∧ path.segments = source

/-- What is copied is what stands there, or else `null`. -/
theorem MappingEntry.Copies.resolve {entry : MappingEntry} {source : List String}
    (h : entry.Copies source) (scope : Scope) :
    entry.resolve scope = .ok ((Json.at? source (.object scope.data)).getD .null) := by
  obtain ⟨htransform, ⟨raw, root, segments⟩, hparse, rfl, rfl⟩ := h
  have hvalue : scope.resolve ⟨raw, .data, segments⟩ =
      .ok ((Json.at? segments (.object scope.data)).getD .null) := by
    cases segments with
    | nil => rfl
    | cons segment rest => simp [Scope.resolve, Scope.lookup, Except.map]
  simp [MappingEntry.resolve, Reference.parse_of_path hparse, htransform, Except.bind,
    Reference.resolve, hvalue, mapError_ok]

namespace ApiMapping

variable {mapping : ApiMapping} {context : Context} {data : Dict Json} {transport : Transport}
  {value : Json}

/-- An entry copies what stands at one path of the data to another. -/
def CopiesTo (mapping : ApiMapping) (source target : List String) : Prop :=
  ∃ key entry path, (key, entry) ∈ mapping.entries .data ∧
    Path.parseDataTarget key = .ok path ∧ path.segments = target ∧ entry.Copies source

theorem Folds.data_eq (h : mapping.Folds context data transport value) :
    (mapping.call context data transport).data =
      (writeEach Path.parseDataTarget
        (mappedValues ⟨data, context.value, some value⟩ (mapping.entries .data)) data).1 := by
  rw [(mapping.makes_call context data transport).folded_data _ (.data h)]
  exact Area.fold_of_writes Area.put_data _ _ data

/-- **Each entry for the data is an assignment.** Where the targets do not overlap, its value
is refused by the data from before the call and reported, or it is found at its target and
not reported. -/
theorem assigned_of_mem (hfolds : mapping.Folds context data transport value)
    (hapart : (mapping.entries .data).Pairwise fun e f => Apart Path.parseDataTarget e.1 f.1)
    {key : String} {entry : MappingEntry} {target : Path} {v : Json}
    (hmem : (key, entry) ∈ mapping.entries .data)
    (htarget : Path.parseDataTarget key = .ok target)
    (hresolve : entry.resolve ⟨data, context.value, some value⟩ = .ok v) :
    let outcome := mapping.call context data transport
    let reported := outcome.errors.filter (CallError.isOf .data key)
    (∃ e, write target v data = .error e ∧
        reported = [.entry ⟨Area.data.name, key, .path e⟩]) ∨
      (∃ next, write target v data = .ok next) ∧ reported = [] ∧
        Json.at? target.segments (.object outcome.data) = some v := by
  intro outcome reported
  let scope : Scope := ⟨data, context.value, some value⟩
  obtain ⟨response, hcall⟩ := hfolds.call_eq
  obtain ⟨front, back, hentries⟩ := List.append_of_mem hmem
  have hvalues : mappedValues scope (mapping.entries .data) =
      mappedValues scope front ++ (key, v) :: mappedValues scope back := by
    rw [hentries, mappedValues_of_ok hresolve]
  rw [hentries] at hapart
  obtain ⟨-, hbehind, hacross⟩ := List.pairwise_append.mp hapart
  have hfront : ∀ e ∈ front, Apart Path.parseDataTarget e.1 key := fun e he =>
    hacross e he (key, entry) List.mem_cons_self
  have hback : ∀ e ∈ back, Apart Path.parseDataTarget e.1 key := fun e he =>
    ((List.pairwise_cons.mp hbehind).1 e he).symm
  have hfrontKeys := notMem_keys_of_apart htarget hfront
  have hbackKeys := notMem_keys_of_apart htarget hback
  have hreported : reported = (Area.data.errors (faultsOf key (Area.data.fold scope
      (front ++ (key, entry) :: back) data).2)).map .entry := by
    rw [← hentries, ← filter_isOf_data mapping context data response value key, ← hcall]
  rcases write_among htarget (forall_apart_mappedValues scope hfront)
      (forall_apart_mappedValues scope hback) with
    ⟨e, he, hrefused⟩ | ⟨hok, ⟨next, hnext⟩, hfound⟩
  · have hfails := Area.failsAt_of_refused Area.put_data hresolve htarget hrefused
    refine .inl ⟨e, he, ?_⟩
    rw [hreported, Area.faultsOf_of_failsAt hfrontKeys hbackKeys hfails]
    rfl
  · have heffect := Area.takesEffect_of_write Area.put_data hresolve htarget hnext
    refine .inr ⟨hok, ?_, ?_⟩
    · rw [hreported, Area.faultsOf_of_takesEffect hfrontKeys hbackKeys heffect]
      rfl
    · rw [hfolds.data_eq, hvalues]
      exact hfound

theorem found_of_copiesTo (hfolds : mapping.Folds context data transport value)
    (hapart : (mapping.entries .data).Pairwise fun e f => Apart Path.parseDataTarget e.1 f.1)
    {source target : List String} {v w : Json} (hcopies : mapping.CopiesTo source target)
    (hsource : Json.at? source (.object data) = some v)
    (htarget : Json.at? target (.object data) = some w) :
    Json.at? target (.object (mapping.call context data transport).data) = some v := by
  obtain ⟨key, entry, path, hmem, hpath, rfl, hentry⟩ := hcopies
  have hresolve : entry.resolve ⟨data, context.value, some value⟩ = .ok v := by
    rw [hentry.resolve, hsource]
    rfl
  obtain ⟨next, hwrite⟩ :=
    exists_write_of_at? (Path.segments_ne_nil_of_parseTarget hpath) htarget v
  rcases assigned_of_mem hfolds hapart hmem hpath hresolve with ⟨e, hrefused, -⟩ | ⟨-, -, hfound⟩
  · exact nomatch hwrite.symm.trans hrefused
  · exact hfound

/-- The context is made of what the entries for it leave, whose values are those from before
the call. -/
theorem contextRun_of_folds (hfolds : mapping.Folds context data transport value) :
    let before : Scope := ⟨data, context.value, some value⟩
    ∃ final errors,
      ContextRun before (mapping.entries .context) context.fields final errors ∧
      (mapping.call context data transport).context =
        if (mappedValues before (mapping.entries .context)).isEmpty then context
        else (context.settle final).1 := by
  intro before
  obtain ⟨errors, hrun, -⟩ := contextRun_fold before (mapping.entries .context) context.fields
  exact ⟨_, errors, hrun,
    (mapping.makes_call context data transport).folded_context before (.context hfolds)⟩

/-- **A response is folded in like a simultaneous assignment.** Where the targets in the data
do not overlap, each entry that resolves puts what its reference and transform give on the
data and context from before the call: the data from before refuse the value and it is
reported, or it is found at its target. So entries that copy two fields crosswise swap them.
Each value for the context, too, is what its entry gives on the data and context from before
the call. -/
theorem simultaneous_call (hfolds : mapping.Folds context data transport value)
    (hapart : (mapping.entries .data).Pairwise fun e f => Apart Path.parseDataTarget e.1 f.1) :
    let outcome := mapping.call context data transport
    let before : Scope := ⟨data, context.value, some value⟩
    (∀ key entry, (key, entry) ∈ mapping.entries .data →
      ∀ target, Path.parseDataTarget key = .ok target →
      ∀ v, entry.resolve before = .ok v →
        let reported := outcome.errors.filter (CallError.isOf .data key)
        (∃ e, write target v data = .error e ∧
            reported = [.entry ⟨Area.data.name, key, .path e⟩]) ∨
          (∃ next, write target v data = .ok next) ∧ reported = [] ∧
            Json.at? target.segments (.object outcome.data) = some v) ∧
    (∀ p q, mapping.CopiesTo p q → mapping.CopiesTo q p →
      ∀ v w, Json.at? p (.object data) = some v → Json.at? q (.object data) = some w →
        Json.at? p (.object outcome.data) = some w ∧
          Json.at? q (.object outcome.data) = some v) ∧
    ∃ final errors,
      ContextRun before (mapping.entries .context) context.fields final errors ∧
      outcome.context =
        if (mappedValues before (mapping.entries .context)).isEmpty then context
        else (context.settle final).1 := by
  intro outcome before
  refine ⟨?_, ?_, contextRun_of_folds hfolds⟩
  · intro key entry hmem target htarget v hresolve
    exact assigned_of_mem hfolds hapart hmem htarget hresolve
  · intro p q hpq hqp v w hp hq
    exact ⟨found_of_copiesTo hfolds hapart hqp hq hp, found_of_copiesTo hfolds hapart hpq hp hq⟩

/-- A call after which two players have each other's seat. -/
def changeSeats : ApiMapping where
  apiId := "change-seats"
  method := "POST"
  endpoint := "/seats"
  requestMap := ⟨[], [], []⟩
  responseMap := ⟨[("black.seat", ⟨"data.white.seat", none⟩),
    ("white.seat", ⟨"data.black.seat", none⟩)], []⟩

/-- The players and their seats. -/
def players : Dict Json :=
  [("black", .object [("seat", .string "left")]), ("white", .object [("seat", .string "right")])]

/-- The seats are swapped. -/
theorem simultaneous_call_seats :
    let transport : Transport := fun _ => .ok ⟨200, ""⟩
    let outcome := changeSeats.call .empty players transport
    changeSeats.Folds .empty players transport .null ∧
      (changeSeats.entries .data).Pairwise (fun e f => Apart Path.parseDataTarget e.1 f.1) ∧
      Json.at? ["black", "seat"] (.object outcome.data) = some (.string "right") ∧
      Json.at? ["white", "seat"] (.object outcome.data) = some (.string "left") := by
  intro transport outcome
  have hblack : Path.parseDataTarget "black.seat" =
      .ok ⟨"black.seat", .data, ["black", "seat"]⟩ := by rfl
  have hwhite : Path.parseDataTarget "white.seat" =
      .ok ⟨"white.seat", .data, ["white", "seat"]⟩ := by rfl
  have hfolds : changeSeats.Folds .empty players transport .null := ⟨⟨200, ""⟩, rfl, rfl, rfl⟩
  have hapart : (changeSeats.entries .data).Pairwise
      fun e f => Apart Path.parseDataTarget e.1 f.1 := by
    refine List.pairwise_pair.mpr fun p q hp hq => ?_
    obtain rfl := Except.ok.inj (hblack.symm.trans hp)
    obtain rfl := Except.ok.inj (hwhite.symm.trans hq)
    decide +kernel
  have htoWhite : changeSeats.CopiesTo ["black", "seat"] ["white", "seat"] :=
    ⟨"white.seat", ⟨"data.black.seat", none⟩, _, .tail _ (.head _), hwhite, rfl, rfl,
      ⟨"data.black.seat", .data, ["black", "seat"]⟩, by rfl, rfl, rfl⟩
  have htoBlack : changeSeats.CopiesTo ["white", "seat"] ["black", "seat"] :=
    ⟨"black.seat", ⟨"data.white.seat", none⟩, _, .head _, hblack, rfl, rfl,
      ⟨"data.white.seat", .data, ["white", "seat"]⟩, by rfl, rfl, rfl⟩
  have hswap := (simultaneous_call hfolds hapart).2.1 _ _ htoWhite htoBlack
  exact ⟨hfolds, hapart, hswap (.string "left") (.string "right") (by rfl) (by rfl)⟩

end ApiMapping
end PageFlow
