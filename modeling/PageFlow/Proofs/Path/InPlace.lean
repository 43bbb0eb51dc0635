/-
# Writing in place

A write in place looks over the way first and walks it afterwards. The look
finds an obstacle just if the recursion that says what a write gives is refused,
and the walk leaves behind what that recursion gives. So a walk that is begun
arrives, and a write that is refused has changed nothing.

Key definitions: `Json.openFields?`.
Key theorems: `Json.put_cons_cases`, `Json.checkPut_eq`, `Json.putInPlace_of_put`,
`writeInPlace_eq`, `write_eq`, `write_eq_ok_iff`, `write_map_eq`.
-/
import PageFlow.Path.Write
import PageFlow.Proofs.Outcome

namespace PageFlow
namespace Json

/-! ### One step -/

-- The three recursions take one segment at a time.
attribute [local simp] put checkPut putInPlace

/-- The fields that a write goes into: those of an object, and none yet in `null`. -/
def openFields? : Json → Option (Dict Json)
  | .object fields => some fields
  | .null => some []
  | _ => none

variable {new value next : Json} {segment : String} {rest : List String} {fields : Dict Json}
  {items : List Json} {i : Nat}

theorem openFields?_eq_some (h : openFields? value = some fields) :
    value = .object fields ∨ value = .null ∧ fields = [] := by
  cases value with
  | null => exact .inr ⟨rfl, (Option.some.inj h).symm⟩
  | object others => exact .inl (congrArg Json.object (Option.some.inj h))
  | bool _ | number _ | string _ | array _ => exact nomatch h

theorem put_of_openFields (h : openFields? value = some fields) :
    put new (segment :: rest) value =
      (put new rest ((Dict.find? segment fields).getD .null)).map fun child =>
        .object (Dict.insert segment child fields) := by
  obtain rfl | ⟨rfl, rfl⟩ := openFields?_eq_some h
  · rfl
  · rfl

theorem put_of_itemIndex (h : itemIndex items.length segment = .ok i) :
    put new (segment :: rest) (.array items) =
      (put new rest (items.getD i .null)).map fun child => .array (items.set i child) := by
  simp [h]

/-- A write goes into a field, or into an item of an array. -/
theorem put_cons_cases (h : put new (segment :: rest) value = .ok next) :
    (∃ fields child, openFields? value = some fields ∧
      put new rest ((Dict.find? segment fields).getD .null) = .ok child ∧
      next = .object (Dict.insert segment child fields)) ∨
    ∃ items i child, value = .array items ∧ itemIndex items.length segment = .ok i ∧
      put new rest (items.getD i .null) = .ok child ∧ next = .array (items.set i child) := by
  cases value with
  | null =>
    obtain ⟨child, hchild, rfl⟩ := eq_ok_of_map h
    exact .inl ⟨[], child, rfl, hchild, rfl⟩
  | object fields =>
    obtain ⟨child, hchild, rfl⟩ := eq_ok_of_map h
    exact .inl ⟨fields, child, rfl, hchild, rfl⟩
  | array items =>
    cases hi : itemIndex items.length segment with
    | error e =>
      rw [put, hi] at h
      exact nomatch h
    | ok i =>
      rw [put_of_itemIndex hi] at h
      obtain ⟨child, hchild, rfl⟩ := eq_ok_of_map h
      exact .inr ⟨items, i, child, rfl, hi, hchild, rfl⟩
  | bool _ | number _ | string _ => exact nomatch h

/-! ### The look over the way -/

theorem checkPut_null : ∀ segments : List String, checkPut segments .null = .ok ()
  | [] => rfl
  | _ :: _ => rfl

theorem checkPut_of_openFields (h : openFields? value = some fields) :
    checkPut (segment :: rest) value =
      checkPut rest ((Dict.find? segment fields).getD .null) := by
  obtain rfl | ⟨rfl, rfl⟩ := openFields?_eq_some h
  · rw [checkPut]
    cases Dict.find? segment fields with
    | none => exact (checkPut_null rest).symm
    | some child => rfl
  · exact (checkPut_null rest).symm

theorem checkPut_eq (new : Json) : ∀ (segments : List String) (value : Json),
    checkPut segments value = (put new segments value).map fun _ => ()
  | [], _ => rfl
  | segment :: rest, value => by
    have hopen : ∀ {fields}, openFields? value = some fields →
        checkPut (segment :: rest) value = (put new (segment :: rest) value).map fun _ => () := by
      intro fields h
      rw [checkPut_of_openFields h, put_of_openFields h, checkPut_eq new rest]
      cases put new rest ((Dict.find? segment fields).getD .null) <;> rfl
    cases value with
    | null => exact hopen rfl
    | object fields => exact hopen rfl
    | array items =>
      rw [checkPut, put]
      cases itemIndex items.length segment with
      | error e => rfl
      | ok i =>
        dsimp only
        rw [checkPut_eq new rest]
        cases put new rest (items.getD i .null) <;> rfl
    | bool _ | number _ | string _ => rfl

/-! ### The walk -/

theorem putInPlace_of_openFields (h : openFields? value = some fields) :
    putInPlace new (segment :: rest) value =
      let (result, child) := putInPlace new rest ((Dict.find? segment fields).getD .null)
      (result, .object (Dict.insert segment child fields)) := by
  obtain rfl | ⟨rfl, rfl⟩ := openFields?_eq_some h
  · rfl
  · rfl

/-- Where a write is not refused, the walk arrives and leaves behind what the
write gives. -/
theorem putInPlace_of_put {new : Json} : ∀ {segments : List String} {value next : Json},
    put new segments value = .ok next → putInPlace new segments value = (.ok (), next)
  | [], _, _, h => congrArg (Prod.mk _) (Except.ok.inj h)
  | segment :: rest, _, _, h => by
    obtain ⟨fields, child, hfields, hchild, rfl⟩ | ⟨items, i, child, rfl, hi, hchild, rfl⟩ :=
      put_cons_cases h
    · rw [putInPlace_of_openFields hfields, putInPlace_of_put hchild]
    · rw [putInPlace, hi]
      dsimp only
      rw [putInPlace_of_put hchild]

/-- **A walk along a way that was looked over arrives.** -/
theorem putInPlace_of_checkPut {new : Json} {segments : List String} {value : Json}
    (h : checkPut segments value = .ok ()) : (putInPlace new segments value).1 = .ok () := by
  rw [checkPut_eq new] at h
  obtain ⟨next, hnext, -⟩ := eq_ok_of_map h
  rw [putInPlace_of_put hnext]

end Json

/-- A write in place has the result of the recursion along the path. It leaves
behind what that gives, or the fields as they were. -/
theorem writeInPlace_eq (path : Path) (new : Json) (fields : Dict Json) :
    writeInPlace path new fields =
      match (putFields new path.segments fields).mapError (·.pathError path.raw) with
      | .ok next => (.ok (), next)
      | .error e => (.error e, fields) := by
  unfold writeInPlace putFields
  rcases path.segments with - | ⟨first, - | ⟨second, rest⟩⟩
  · rfl
  · rfl
  · dsimp only
    rw [Json.checkPut_eq new, Json.put]
    cases hput : Json.put new (second :: rest) ((Dict.find? first fields).getD .null) with
    | error e => rfl
    | ok child =>
      dsimp only [Except.map, mapError_ok]
      rw [Json.putInPlace_of_put hput]
      rfl

/-- **A write gives what the recursion along its path gives.** -/
theorem write_eq (path : Path) (new : Json) (fields : Dict Json) :
    write path new fields =
      (putFields new path.segments fields).mapError (·.pathError path.raw) := by
  unfold write
  rw [writeInPlace_eq]
  cases putFields new path.segments fields <;> rfl

variable {path : Path} {new : Json} {fields next : Dict Json}

/-- With a target, a write into some fields is a write into the object of them. -/
theorem write_eq_ok_iff (hsegments : path.segments ≠ []) : write path new fields = .ok next ↔
    Json.put new path.segments (.object fields) = .ok (.object next) := by
  obtain ⟨segment, rest, hcons⟩ := List.exists_cons_of_ne_nil hsegments
  rw [write_eq, hcons, putFields, Json.put]
  cases Json.put new rest ((Dict.find? segment fields).getD .null) <;>
    simp [Except.map, mapError_ok, mapError_error]

/-- With a target, whether a write is refused, and why, is what the look over the way
says. -/
theorem write_map_eq (new : Json) (fields : Dict Json) (hsegments : path.segments ≠ []) :
    (write path new fields).map (fun _ => ()) =
      (Json.checkPut path.segments (.object fields)).mapError (·.pathError path.raw) := by
  obtain ⟨segment, rest, hcons⟩ := List.exists_cons_of_ne_nil hsegments
  rw [write_eq, hcons, putFields, Json.checkPut_eq new, Json.put]
  cases Json.put new rest ((Dict.find? segment fields).getD .null) <;> rfl

end PageFlow
