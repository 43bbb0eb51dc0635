/-
# What becomes of an entry

An entry of a mapping fails, or it takes effect: it is mapped to a value, and the value is
put on what the entries before it left. Each failure is reported once, under the key of the
entry, and an entry that takes effect is not reported.

Key definitions: `faultsOf`, `Area.TakesEffect`, `EntryError.isOf`, `CallError.isOf`.
Key theorems: `Area.failsAt_or_takesEffect`, `Area.faultsOf_of_failsAt`,
`Area.faultsOf_of_takesEffect`, `Area.TakesEffect.exists_write`,
`ApiMapping.filter_isOf_built`, `ApiMapping.filter_isOf_data`.
-/
import PageFlow.Proofs.Call.Isolation
import PageFlow.Proofs.Call.Sequence

namespace PageFlow

/-! ### Values of entries -/

theorem mappedValues_of_ok {scope : Scope} {entry : MappingEntry} {v : Json}
    (h : entry.resolve scope = .ok v) (key : String) (front back : Dict MappingEntry) :
    mappedValues scope (front ++ (key, entry) :: back) =
      mappedValues scope front ++ (key, v) :: mappedValues scope back := by
  rw [Area.mappedValues_append, mappedValues, h]

theorem mappedValues_of_error {scope : Scope} {entry : MappingEntry} {e : MappingError}
    (h : entry.resolve scope = .error e) (key : String) (front back : Dict MappingEntry) :
    mappedValues scope (front ++ (key, entry) :: back) = mappedValues scope (front ++ back) := by
  rw [Area.mappedValues_append, mappedValues, h, Area.mappedValues_append]

/-! ### Faults of entries -/

/-- The faults that are reported under a key. -/
def faultsOf (key : String) (faults : List (String × EntryFault)) : List (String × EntryFault) :=
  faults.filter fun fault => fault.1 == key

namespace Area

/-- An entry takes effect behind others: it is mapped to a value, which is put on what those
before it left. -/
structure TakesEffect (area : Area) (scope : Scope) (fields : Dict Json)
    (front : Dict MappingEntry) (key : String) (entry : MappingEntry) (value : Json) : Prop where
  resolves : entry.resolve scope = .ok value
  put : ∃ next, area.put key value (area.fold scope front fields).1 = .ok next

variable {area : Area} {scope : Scope} {fields : Dict Json} {front back : Dict MappingEntry}
  {key : String} {entry : MappingEntry}

/-- An entry fails or takes effect. -/
theorem failsAt_or_takesEffect (area : Area) (scope : Scope) (fields : Dict Json)
    (front : Dict MappingEntry) (key : String) (entry : MappingEntry) :
    (∃ fault, area.FailsAt scope fields front key entry fault) ∨
      ∃ value, area.TakesEffect scope fields front key entry value := by
  cases hvalue : entry.resolve scope with
  | error e => exact .inl ⟨_, .mapping hvalue⟩
  | ok value =>
    cases hput : area.put key value (area.fold scope front fields).1 with
    | error fault => exact .inl ⟨fault, .put hvalue hput⟩
    | ok next => exact .inr ⟨value, hvalue, next, hput⟩

theorem TakesEffect.not_failsAt {value : Json}
    (h : area.TakesEffect scope fields front key entry value) (fault : EntryFault) :
    ¬ area.FailsAt scope fields front key entry fault := by
  obtain ⟨hresolves, next, hput⟩ := h
  intro hfails
  cases hfails with
  | mapping herror => exact nomatch hresolves.symm.trans herror
  | put hvalue hrefused =>
    obtain rfl := Except.ok.inj (hresolves.symm.trans hvalue)
    exact nomatch hput.symm.trans hrefused

/-- Behind an entry that takes effect stands what putting its value gave. -/
theorem TakesEffect.put_eq {value : Json}
    (h : area.TakesEffect scope fields front key entry value) :
    area.put key value (area.fold scope front fields).1 =
      .ok (area.fold scope (front ++ [(key, entry)]) fields).1 := by
  obtain ⟨hresolves, next, hput⟩ := h
  have hvalues : mappedValues scope (front ++ [(key, entry)]) =
      mappedValues scope front ++ [(key, value)] := mappedValues_of_ok hresolves key front []
  rw [hput, fold, hvalues, putAll_append, putAll]
  rw [fold] at hput
  rw [hput]
  rfl

/-! ### Faults under a key -/

theorem faultsOf_eq_nil {faults : List (String × EntryFault)}
    (h : ∀ fault, (key, fault) ∉ faults) : faultsOf key faults = [] := by
  refine List.filter_eq_nil_iff.mpr fun e he hkey => ?_
  obtain ⟨k, fault⟩ := e
  obtain rfl : k = key := by simpa using hkey
  exact h fault he

theorem faultsOf_of_notMem {entries : Dict MappingEntry} (h : key ∉ Dict.keys entries) :
    faultsOf key (area.fold scope entries fields).2 = [] := by
  refine faultsOf_eq_nil fun fault hfault => ?_
  obtain ⟨front, entry, back, rfl, -⟩ := failsAt_of_mem hfault
  exact h (by simp [Dict.keys])

/-- **An entry that fails is reported once.** -/
theorem faultsOf_of_failsAt {fault : EntryFault} (hfront : key ∉ Dict.keys front)
    (hback : key ∉ Dict.keys back) (h : area.FailsAt scope fields front key entry fault) :
    faultsOf key (area.fold scope (front ++ (key, entry) :: back) fields).2 = [(key, fault)] := by
  obtain ⟨-, before, after, hfull, hrest⟩ := fold_without h back
  have hothers : faultsOf key (before ++ after) = [] := by
    rw [← hrest]
    apply faultsOf_of_notMem
    simp only [Dict.keys, List.map_append, List.mem_append] at hfront hback ⊢
    exact not_or.mpr ⟨hfront, hback⟩
  obtain ⟨hbefore, hafter⟩ := List.append_eq_nil_iff.mp
    ((List.filter_append before after).symm.trans hothers)
  rw [hfull, faultsOf, List.filter_append, hbefore, List.filter_cons, hafter]
  simp

/-- **An entry that takes effect is not reported.** -/
theorem faultsOf_of_takesEffect {value : Json} (hfront : key ∉ Dict.keys front)
    (hback : key ∉ Dict.keys back) (h : area.TakesEffect scope fields front key entry value) :
    faultsOf key (area.fold scope (front ++ (key, entry) :: back) fields).2 = [] := by
  refine faultsOf_eq_nil fun fault hfault => ?_
  obtain ⟨front', entry', back', hentries, hfails⟩ := failsAt_of_mem hfault
  obtain ⟨rfl, rfl, -⟩ := Dict.split_unique hentries hfront hback
  exact h.not_failsAt fault hfails

theorem name_inj {area area' : Area} (h : area.name = area'.name) : area = area' := by
  cases area <;> cases area' <;> first | rfl | exact absurd h (by decide)

/-! ### Values that are written -/

theorem put_body (key : String) (value : Json) (fields : Dict Json) :
    Area.body.put key value fields = writeAt bodyPath key value fields := rfl

theorem put_data (key : String) (value : Json) (fields : Dict Json) :
    Area.data.put key value fields = writeAt Path.parseDataTarget key value fields := rfl

section Writes

variable {parse : String → Except PathError Path}
  (harea : ∀ key value fields, area.put key value fields = writeAt parse key value fields)

include harea

theorem fold_of_writes (scope : Scope) (entries : Dict MappingEntry) (fields : Dict Json) :
    (area.fold scope entries fields).1 = (writeEach parse (mappedValues scope entries) fields).1 := by
  rw [fold, putAll_of_writes area harea]

theorem put_of_writes {target : Path} (htarget : parse key = .ok target) (value : Json) :
    area.put key value (area.fold scope front fields).1 =
      (write target value (writeEach parse (mappedValues scope front) fields).1).mapError
        .path := by
  rw [harea, writeAt, htarget, fold_of_writes harea]
  rfl

theorem failsAt_of_refused {target : Path} {value : Json} {e : PathError}
    (hresolves : entry.resolve scope = .ok value) (htarget : parse key = .ok target)
    (h : write target value (writeEach parse (mappedValues scope front) fields).1 = .error e) :
    area.FailsAt scope fields front key entry (.path e) :=
  .put hresolves (by rw [put_of_writes harea htarget, h, mapError_error])

theorem takesEffect_of_write {target : Path} {value : Json} {next : Dict Json}
    (hresolves : entry.resolve scope = .ok value) (htarget : parse key = .ok target)
    (h : write target value (writeEach parse (mappedValues scope front) fields).1 = .ok next) :
    area.TakesEffect scope fields front key entry value :=
  ⟨hresolves, next, by rw [put_of_writes harea htarget, h, mapError_ok]⟩

/-- The value of an entry that takes effect is written. -/
theorem TakesEffect.exists_write {value : Json}
    (h : area.TakesEffect scope fields front key entry value) :
    ∃ target next, parse key = .ok target ∧
      write target value (writeEach parse (mappedValues scope front) fields).1 = .ok next := by
  obtain ⟨next, hput⟩ := h.put
  rw [harea, fold_of_writes harea] at hput
  obtain ⟨target, htarget, hwrite⟩ := eq_ok_of_bind (eq_ok_of_mapError hput)
  exact ⟨target, next, htarget, hwrite⟩

end Writes

end Area

/-! ### Errors under a key -/

/-- Whether an error is that of the entry under a key of an area. -/
def EntryError.isOf (area : Area) (key : String) (e : EntryError) : Bool :=
  e.area == area.name && e.key == key

/-- Whether an error of a call is that of the entry under a key of an area. -/
def CallError.isOf (area : Area) (key : String) : CallError → Bool
  | .entry e => e.isOf area key
  | .context _ => false

theorem Area.filter_isOf_errors (area other : Area) (key : String)
    (faults : List (String × EntryFault)) :
    (other.errors faults).filter (EntryError.isOf area key) =
      if other.name = area.name then area.errors (faultsOf key faults) else [] := by
  split
  · next hsame =>
    obtain rfl := name_inj hsame
    simp only [errors, faultsOf, List.filter_map]
    congr 2
    funext fault
    simp [EntryError.isOf]
  · next hother =>
    refine List.filter_eq_nil_iff.mpr fun e he hof => ?_
    obtain ⟨fault, -, rfl⟩ := List.mem_map.mp he
    simp only [EntryError.isOf, Bool.and_eq_true, beq_iff_eq] at hof
    exact hother hof.1

theorem filter_isOf_map_entry (area : Area) (key : String) (errors : List EntryError) :
    (errors.map CallError.entry).filter (CallError.isOf area key) =
      (errors.filter (EntryError.isOf area key)).map .entry := by
  rw [List.filter_map]
  rfl

theorem filter_isOf_foldContext {area : Area} (h : area.name ≠ Area.context.name) (key : String)
    (values : Dict Json) (context : Context) :
    (foldContext values context).2.filter (CallError.isOf area key) = [] := by
  refine List.filter_eq_nil_iff.mpr fun err herr hof => ?_
  rcases ApiMapping.mem_foldContext herr with ⟨e, -, rfl⟩ | ⟨c, -, rfl⟩
  · simp only [CallError.isOf, EntryError.isOf, Bool.and_eq_true, beq_iff_eq] at hof
    exact h hof.1.symm
  · exact Bool.false_ne_true hof

namespace ApiMapping

variable (mapping : ApiMapping)

/-- The errors of building a request that are reported under a key of its body. -/
theorem filter_isOf_built (scope : Scope) (key : String) :
    (mapping.buildRequest scope).errors.filter (EntryError.isOf .body key) =
      Area.body.errors
        (faultsOf key (Area.body.fold scope (mapping.entries .body) []).2) := by
  rw [buildRequest_eq]
  simp [List.filter_append, Area.filter_isOf_errors, Area.name]

/-- The errors of a call whose response is folded in that are reported under a key of the
data. -/
theorem filter_isOf_data (context : Context) (data : Dict Json) (response : HttpResponse)
    (value : Json) (key : String) :
    (mapping.succeeded context data response value).errors.filter (CallError.isOf .data key) =
      (Area.data.errors (faultsOf key (Area.data.fold ⟨data, context.value, some value⟩
        (mapping.entries .data) data).2)).map .entry := by
  have hbuilt : (mapping.buildRequest (.ofData data context.value)).errors.filter
      (EntryError.isOf .data key) = [] := by
    rw [buildRequest_eq]
    simp [List.filter_append, Area.filter_isOf_errors, Area.name]
  have hcontext : (entryErrors "responseMap.context" ⟨data, context.value, some value⟩
      (mapping.entries .context)).filter (EntryError.isOf .data key) = [] := by
    refine List.filter_eq_nil_iff.mpr fun e he hof => ?_
    obtain ⟨fault, -, rfl⟩ := List.mem_map.mp he
    simp [EntryError.isOf, Area.name] at hof
  have hother : Area.data.name ≠ Area.context.name := by decide
  have hfolded := filter_isOf_foldContext hother key
    (mappedValues ⟨data, context.value, some value⟩ (mapping.entries .context)) context
  rw [succeeded, foldResponse_data]
  simp only [List.filter_append, filter_isOf_map_entry, hbuilt, hcontext, hfolded,
    Area.filter_isOf_errors, if_true, List.map_nil, List.nil_append, List.append_nil]

end ApiMapping
end PageFlow
