/-
# Writes one after the other

Values are written one after the other at the targets that their keys name, and a value
that is refused leaves the fields as they are. Values whose targets do not overlap have no
part in each other: whether one is refused, and why, is settled by the fields that all of
them start from, and two of them may trade places. A value that is written is found at its
target in the end unless a later one has a target that overlaps it.

Key definitions: `writeNext`, `Apart`, `segments?`.
Key theorems: `writeEach_fst`, `at?_writeEach`, `mem_mappedValues`, `at?_writeEach_of_write`,
`write_map_writeEach`, `write_among`, `writeNext_comm`, `foldl_writeNext_comm`, `writeNext_congr`.
-/
import PageFlow.Call.Request
import PageFlow.Proofs.Path.Independence
import PageFlow.Proofs.Path.Laws

namespace PageFlow

variable {parse : String → Except PathError Path} {fields next : Dict Json}

/-! ### One write -/

theorem segments_ne_nil_of_write {path : Path} {v : Json} (h : write path v fields = .ok next) :
    path.segments ≠ [] := by
  intro hnil
  rw [write_eq, hnil] at h
  exact nomatch h

theorem at?_target_of_write {path : Path} {v : Json} (h : write path v fields = .ok next) :
    Json.at? path.segments (.object next) = some v :=
  Json.at?_of_put ((write_eq_ok_iff (segments_ne_nil_of_write h)).mp h)

theorem Json.checkPut_of_at? {found : Json} : ∀ {segments : List String} {value : Json},
    at? segments value = some found → checkPut segments value = .ok ()
  | [], _, _ => rfl
  | segment :: rest, .object fields, h => by
    obtain ⟨child, hchild, h⟩ := Option.bind_eq_some_iff.mp h
    rw [checkPut, hchild]
    exact checkPut_of_at? h
  | segment :: rest, .array items, h => by
    obtain ⟨i, hsegment, h⟩ := Option.bind_eq_some_iff.mp h
    obtain ⟨child, hchild, h⟩ := Option.bind_eq_some_iff.mp h
    obtain ⟨hlt, rfl⟩ := List.getElem?_eq_some_iff.mp hchild
    have hi : itemIndex items.length segment = .ok i := by simp [itemIndex, hsegment, hlt]
    have hitem : items.getD i .null = items[i] := by simp [hlt]
    rw [checkPut, hi]
    dsimp only
    rw [hitem]
    exact checkPut_of_at? h
  | _ :: _, .null, h => nomatch h
  | _ :: _, .bool _, h => nomatch h
  | _ :: _, .number _, h => nomatch h
  | _ :: _, .string _, h => nomatch h

theorem exists_write_of_at? {path : Path} {found : Json} (hne : path.segments ≠ [])
    (h : Json.at? path.segments (.object fields) = some found) (v : Json) :
    ∃ next, write path v fields = .ok next := by
  have hresult := write_map_eq v fields hne
  rw [Json.checkPut_of_at? h, mapError_ok] at hresult
  obtain ⟨next, hnext, -⟩ := eq_ok_of_map hresult
  exact ⟨next, hnext⟩

/-- What is left of some fields after an entry was written, or refused. -/
def writeNext (parse : String → Except PathError Path) (fields : Dict Json)
    (entry : String × Json) : Dict Json :=
  match (parse entry.1).bind fun target => write target entry.2 fields with
  | .ok next => next
  | .error _ => fields

theorem writeNext_of_write {key : String} {v : Json} {target : Path}
    (htarget : parse key = .ok target) (h : write target v fields = .ok next) :
    writeNext parse fields (key, v) = next := by
  simp [writeNext, htarget, Except.bind, h]

theorem writeNext_of_refused {key : String} {v : Json} {target : Path} {e : PathError}
    (htarget : parse key = .ok target) (h : write target v fields = .error e) :
    writeNext parse fields (key, v) = fields := by
  simp [writeNext, htarget, Except.bind, h]

theorem writeNext_of_malformed {key : String} {e : PathError} (h : parse key = .error e)
    (v : Json) : writeNext parse fields (key, v) = fields := by
  simp [writeNext, h, Except.bind]

/-- What the values leave is what one after the other leaves. -/
theorem writeEach_fst (parse : String → Except PathError Path) (values fields : Dict Json) :
    (writeEach parse values fields).1 = values.foldl (writeNext parse) fields := by
  induction values generalizing fields with
  | nil => rfl
  | cons entry rest ih =>
    rw [writeEach, List.foldl_cons, writeNext]
    cases (parse entry.1).bind fun target => write target entry.2 fields with
    | ok next => exact ih next
    | error e => exact ih fields

/-! ### Targets that do not overlap -/

theorem at?_writeEach {q : List String} :
    ∀ {values fields : Dict Json},
      (∀ value ∈ values, ∀ target, parse value.1 = .ok target → ¬ Overlap target.segments q) →
      Json.at? q (.object (writeEach parse values fields).1) = Json.at? q (.object fields)
  | [], _, _ => rfl
  | (key, value) :: rest, fields, hbeside => by
    have hothers : ∀ start, Json.at? q (.object (writeEach parse rest start).1) =
        Json.at? q (.object start) := fun start =>
      at?_writeEach fun v hv => hbeside v (List.mem_cons_of_mem _ hv)
    unfold writeEach
    split
    · next next hnext =>
      obtain ⟨target, htarget, hwrite⟩ := eq_ok_of_bind hnext
      have hfirst := at?_of_write (hbeside (key, value) List.mem_cons_self target htarget) hwrite
      exact (hothers next).trans hfirst
    · exact hothers fields

/-- The values that are mapped are those of the entries. -/
theorem mem_mappedValues {scope : Scope} {mapped : String × Json} {entries : Dict MappingEntry} :
    mapped ∈ mappedValues scope entries ↔
      ∃ entry, (mapped.1, entry) ∈ entries ∧ entry.resolve scope = .ok mapped.2 := by
  induction entries with
  | nil => simp [mappedValues]
  | cons first rest ih =>
    obtain ⟨key, entry⟩ := first
    obtain ⟨k, v⟩ := mapped
    rw [mappedValues]
    cases hvalue : entry.resolve scope with
    | ok value =>
      simp only [List.mem_cons, ih, Prod.mk.injEq]
      constructor
      · rintro (⟨rfl, rfl⟩ | ⟨entry', hmem, hv⟩)
        · exact ⟨entry, .inl ⟨rfl, rfl⟩, hvalue⟩
        · exact ⟨entry', .inr hmem, hv⟩
      · rintro ⟨entry', ⟨rfl, rfl⟩ | hmem, hv⟩
        · exact .inl ⟨rfl, Except.ok.inj (hv.symm.trans hvalue)⟩
        · exact .inr ⟨entry', hmem, hv⟩
    | error e =>
      simp only [ih, List.mem_cons, Prod.mk.injEq]
      constructor
      · rintro ⟨entry', hmem, hv⟩
        exact ⟨entry', .inr hmem, hv⟩
      · rintro ⟨entry', ⟨rfl, rfl⟩ | hmem, hv⟩
        · exact nomatch hvalue.symm.trans hv
        · exact ⟨entry', hmem, hv⟩

/-- Two keys do not name targets that overlap. -/
def Apart (parse : String → Except PathError Path) (key other : String) : Prop :=
  ∀ p q, parse key = .ok p → parse other = .ok q → ¬ Overlap p.segments q.segments

theorem Apart.symm {key other : String} (h : Apart parse key other) : Apart parse other key :=
  fun q p hq hp hoverlap => h p q hp hq hoverlap.symm

theorem notMem_keys_of_apart {key : String} {target : Path} {entries : Dict MappingEntry}
    (htarget : parse key = .ok target) (h : ∀ entry ∈ entries, Apart parse entry.1 key) :
    key ∉ Dict.keys entries := by
  intro hkey
  obtain ⟨entry, hentry, rfl⟩ := List.mem_map.mp hkey
  exact h entry hentry target target htarget htarget (Overlap.refl _)

theorem forall_apart_mappedValues (scope : Scope) {entries : Dict MappingEntry} {key : String}
    (h : ∀ entry ∈ entries, Apart parse entry.1 key) :
    ∀ mapped ∈ mappedValues scope entries, Apart parse mapped.1 key := by
  intro mapped hmapped
  obtain ⟨entry, hentry, -⟩ := mem_mappedValues.mp hmapped
  exact h (mapped.1, entry) hentry

/-- A value that was written is found at its target in the end, if the later ones are
written elsewhere. -/
theorem at?_writeEach_of_write {front back : Dict Json} {key : String} {v : Json} {target : Path}
    (htarget : parse key = .ok target)
    (hwrite : write target v (writeEach parse front fields).1 = .ok next)
    (hback : ∀ later ∈ back, Apart parse later.1 key) :
    Json.at? target.segments (.object (writeEach parse (front ++ (key, v) :: back) fields).1) =
      some v := by
  have hlater : (writeEach parse (front ++ (key, v) :: back) fields).1 =
      (writeEach parse back next).1 := by
    rw [writeEach_fst, List.foldl_append, List.foldl_cons, ← writeEach_fst parse front,
      writeNext_of_write htarget hwrite, writeEach_fst]
  rw [hlater, at?_writeEach fun later hlater q hq => hback later hlater q target hq htarget]
  exact at?_target_of_write hwrite

/-- Whether a value is refused, and why, does not depend on what is written elsewhere. -/
theorem write_map_writeEach {target : Path} (v : Json) {values fields : Dict Json}
    (h : ∀ value ∈ values, ∀ q, parse value.1 = .ok q → ¬ Overlap q.segments target.segments) :
    (write target v (writeEach parse values fields).1).map (fun _ => ()) =
      (write target v fields).map (fun _ => ()) := by
  induction values generalizing fields with
  | nil => rfl
  | cons first rest ih =>
    obtain ⟨hfirst, hrest⟩ := List.forall_mem_cons.mp h
    rw [writeEach]
    cases hwritten : (parse first.1).bind fun q => write q first.2 fields with
    | error e => exact ih hrest
    | ok next =>
      obtain ⟨q, hq, hwrite⟩ := eq_ok_of_bind hwritten
      exact (ih hrest).trans (write_map_of_beside (hfirst q hq) hwrite v)

/-- **A value among others that are written elsewhere** is refused as it would be without
them, or it is found at its target in the end. -/
theorem write_among {front back fields : Dict Json} {key : String} {v : Json} {target : Path}
    (htarget : parse key = .ok target) (hfront : ∀ other ∈ front, Apart parse other.1 key)
    (hback : ∀ other ∈ back, Apart parse other.1 key) :
    (∃ e, write target v fields = .error e ∧
        write target v (writeEach parse front fields).1 = .error e) ∨
      (∃ next, write target v fields = .ok next) ∧
        (∃ next, write target v (writeEach parse front fields).1 = .ok next) ∧
        Json.at? target.segments
          (.object (writeEach parse (front ++ (key, v) :: back) fields).1) = some v := by
  have hsame : (write target v (writeEach parse front fields).1).map (fun _ => ()) =
      (write target v fields).map fun _ => () :=
    write_map_writeEach v fun other hother q hq => hfront other hother q target hq htarget
  cases hwrite : write target v fields with
  | error e =>
    rw [hwrite] at hsame
    exact .inl ⟨e, rfl, eq_error_of_map hsame⟩
  | ok written =>
    rw [hwrite] at hsame
    obtain ⟨next, hnext, -⟩ := eq_ok_of_map hsame
    exact .inr ⟨⟨written, rfl⟩, ⟨next, hnext⟩, at?_writeEach_of_write htarget hnext hback⟩

/-- Behind a write, another entry does what it does in front of it. -/
theorem writeNext_of_writeNext {key other : String} {v : Json} {p : Path}
    (h : Apart parse key other) (hp : parse key = .ok p) (hwrite : write p v fields = .ok next)
    (w : Json) : writeNext parse next (other, w) =
      writeNext parse (writeNext parse fields (other, w)) (key, v) := by
  cases hq : parse other with
  | error e =>
    rw [writeNext_of_malformed hq, writeNext_of_malformed hq, writeNext_of_write hp hwrite]
  | ok q =>
    have hbeside : ¬ Overlap p.segments q.segments := h p q hp hq
    have hresult := write_map_of_beside hbeside hwrite w
    cases hright : write q w fields with
    | error e =>
      have hrefused : write q w next = .error e := by
        rw [hright] at hresult
        exact eq_error_of_map hresult
      rw [writeNext_of_refused hq hrefused, writeNext_of_refused hq hright,
        writeNext_of_write hp hwrite]
    | ok right =>
      rw [hright] at hresult
      obtain ⟨both, hboth, -⟩ := eq_ok_of_map hresult
      have hwrites : (write p v fields).bind (write q w) = .ok both := by
        rw [hwrite]
        exact hboth
      have hswapped : write p v right = .ok both := by
        have hsecond := write_comm_of_beside hbeside hwrites
        rwa [hright] at hsecond
      rw [writeNext_of_write hq hboth, writeNext_of_write hq hright,
        writeNext_of_write hp hswapped]

/-- Entries whose targets do not overlap may trade places. -/
theorem writeNext_comm {e f : String × Json} (h : Apart parse e.1 f.1) (fields : Dict Json) :
    writeNext parse (writeNext parse fields e) f = writeNext parse (writeNext parse fields f) e := by
  obtain ⟨key, v⟩ := e
  obtain ⟨other, w⟩ := f
  cases hfirst : (parse key).bind fun p => write p v fields with
  | ok next =>
    obtain ⟨p, hp, hwrite⟩ := eq_ok_of_bind hfirst
    rw [writeNext_of_write hp hwrite]
    exact writeNext_of_writeNext h hp hwrite w
  | error e =>
    have hkept : writeNext parse fields (key, v) = fields := by simp [writeNext, hfirst]
    cases hsecond : (parse other).bind fun q => write q w fields with
    | ok next =>
      obtain ⟨q, hq, hwrite⟩ := eq_ok_of_bind hsecond
      rw [writeNext_of_write hq hwrite, writeNext_of_writeNext h.symm hq hwrite v]
    | error e' =>
      have hkept' : writeNext parse fields (other, w) = fields := by simp [writeNext, hsecond]
      rw [hkept, hkept', hkept]

/-- An entry may be written before or after others whose targets do not overlap its own. -/
theorem foldl_writeNext_comm {e : String × Json} {values : Dict Json}
    (h : ∀ other ∈ values, Apart parse e.1 other.1) (fields : Dict Json) :
    values.foldl (writeNext parse) (writeNext parse fields e) =
      writeNext parse (values.foldl (writeNext parse) fields) e := by
  induction values generalizing fields with
  | nil => rfl
  | cons first rest ih =>
    obtain ⟨hfirst, hrest⟩ := List.forall_mem_cons.mp h
    rw [List.foldl_cons, List.foldl_cons, writeNext_comm hfirst, ih hrest]

/-! ### Keys of one target -/

/-- The segments of the target that a key names, if it names one. -/
def segments? (parse : String → Except PathError Path) (key : String) : Option (List String) :=
  (parse key).toOption.map (·.segments)

theorem segments?_eq_some_iff {parse : String → Except PathError Path} {key : String}
    {segments : List String} : segments? parse key = some segments ↔
      ∃ path, parse key = .ok path ∧ path.segments = segments := by
  unfold segments?
  cases parse key <;> simp [Except.toOption]

/-- What an entry leaves depends only on the segments of its target. -/
theorem writeNext_eq (parse : String → Except PathError Path) (fields : Dict Json) (key : String)
    (v : Json) : writeNext parse fields (key, v) =
      ((segments? parse key).bind fun segments =>
        (putFields v segments fields).toOption).getD fields := by
  unfold writeNext segments?
  cases parse key with
  | error e => rfl
  | ok target =>
    simp only [Except.bind, write_eq, Except.toOption, Option.map_some, Option.bind_some]
    cases putFields v target.segments fields <;> rfl

theorem writeNext_congr {key key' : String} (h : segments? parse key' = segments? parse key)
    (fields : Dict Json) (v : Json) :
    writeNext parse fields (key', v) = writeNext parse fields (key, v) := by
  rw [writeNext_eq, writeNext_eq, h]

end PageFlow
