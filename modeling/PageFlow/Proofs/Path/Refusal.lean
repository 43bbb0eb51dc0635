/-
# When a write is refused

A write is refused without a target, or where the walk along its path meets a
value that cannot take the next segment: a scalar, or an array without the item
that the segment names. At a missing value and at `null` the walk stops, and
nothing behind it is in the way. What is written does not matter, and a refused
write leaves the fields as they were.

Key definitions: `Json.Blocks`, `Json.BlockedAt`.
Key theorems: `Json.put_eq_error_iff`, `writeInPlace_all_or_nothing`.
-/
import PageFlow.Proofs.Path.Overlap

namespace PageFlow
namespace Json

/-- A value cannot take a segment: it is a scalar, or an array without the item that
the segment names. -/
inductive Blocks (segment : String) : Json → Refusal → Prop
  | bool (b : Bool) : Blocks segment (.bool b) (.notAContainer segment)
  | number (n : Number) : Blocks segment (.number n) (.notAContainer segment)
  | string (s : String) : Blocks segment (.string s) (.notAContainer segment)
  | noIndex {items : List Json} (h : arrayIndex? segment = none) :
      Blocks segment (.array items) (.notAContainer segment)
  | pastEnd {items : List Json} {i : Nat} (h : arrayIndex? segment = some i)
      (hle : items.length ≤ i) : Blocks segment (.array items) (.indexOutOfBounds segment)

/-- The walk along the segments meets a value that cannot take the next one. -/
def BlockedAt (segments : List String) (value : Json) (refusal : Refusal) : Prop :=
  ∃ front segment back found, segments = front ++ segment :: back ∧
    at? front value = some found ∧ Blocks segment found refusal

/-! ### One step of the walk -/

theorem at?_object (segment : String) (fields : Dict Json) :
    at? [segment] (.object fields) = Dict.find? segment fields := by
  cases h : Dict.find? segment fields <;> simp [at?, h]

theorem at?_array_of_ok {segment : String} {items : List Json} {i : Nat}
    (h : itemIndex items.length segment = .ok i) :
    at? [segment] (.array items) = some (items.getD i .null) := by
  obtain ⟨hsegment, hlt⟩ := itemIndex_eq_ok h
  simp [at?, hsegment, hlt]

theorem blocks_array_iff {segment : String} {items : List Json} {refusal : Refusal} :
    Blocks segment (.array items) refusal ↔ itemIndex items.length segment = .error refusal := by
  unfold itemIndex
  constructor
  · rintro (_ | _ | _ | h | ⟨h, hle⟩)
    · rw [h]
    · rw [h]
      exact if_neg (Nat.not_lt.mpr hle)
  · intro h
    cases hsegment : arrayIndex? segment with
    | none =>
      rw [hsegment] at h
      obtain rfl := Except.error.inj h
      exact .noIndex hsegment
    | some i =>
      rw [hsegment] at h
      dsimp only at h
      split at h
      · exact nomatch h
      · obtain rfl := Except.error.inj h
        exact .pastEnd hsegment (by omega)

theorem at?_array_of_error {segment : String} {items : List Json} {refusal : Refusal}
    (h : itemIndex items.length segment = .error refusal) :
    at? [segment] (.array items) = none := by
  rcases blocks_array_iff.mpr h with _ | _ | _ | hsegment | ⟨hsegment, hle⟩
  · simp [at?, hsegment]
  · simp [at?, hsegment, List.getElem?_eq_none hle]

/-- A walk takes its first step, and goes on from what is found there. -/
theorem at?_cons (segment : String) (rest : List String) (value : Json) :
    at? (segment :: rest) value = (at? [segment] value).bind (at? rest) := by
  cases value with
  | object fields => rw [at?_object, at?]
  | array items =>
    cases h : arrayIndex? segment with
    | none => simp [at?, h]
    | some i => cases hi : items[i]? <;> simp [at?, h, hi]
  | null => rfl
  | bool _ => rfl
  | number _ => rfl
  | string _ => rfl

/-! ### The walk -/

theorem not_blockedAt_nil {value : Json} {refusal : Refusal} : ¬ BlockedAt [] value refusal := by
  rintro ⟨front, segment, back, found, hsegments, -, -⟩
  simp at hsegments

theorem blockedAt_cons {segment : String} {rest : List String} {value : Json} {refusal : Refusal} :
    BlockedAt (segment :: rest) value refusal ↔
      Blocks segment value refusal ∨
        ∃ child, at? [segment] value = some child ∧ BlockedAt rest child refusal := by
  constructor
  · rintro ⟨front, next, back, found, hsegments, hfound, hblocks⟩
    cases front with
    | nil =>
      obtain ⟨rfl, rfl⟩ := List.cons.inj hsegments
      obtain rfl := Option.some.inj hfound
      exact .inl hblocks
    | cons first front =>
      obtain ⟨rfl, rfl⟩ := List.cons.inj hsegments
      rw [at?_cons] at hfound
      obtain ⟨child, hchild, hfound⟩ := Option.bind_eq_some_iff.mp hfound
      exact .inr ⟨child, hchild, front, next, back, found, rfl, hfound, hblocks⟩
  · rintro (hblocks | ⟨child, hchild, front, next, back, found, rfl, hfound, hblocks⟩)
    · exact ⟨[], segment, rest, value, rfl, rfl, hblocks⟩
    · refine ⟨segment :: front, next, back, found, rfl, ?_, hblocks⟩
      rw [at?_cons, hchild, Option.bind_some, hfound]

theorem put_cons_eq_error_iff {new : Json} {segment : String} {rest : List String} {value : Json}
    {refusal : Refusal} : put new (segment :: rest) value = .error refusal ↔
      Blocks segment value refusal ∨
        ∃ child, at? [segment] value = some child ∧ put new rest child = .error refusal := by
  have hcreated : (put new rest .null).map (fun _ => ()) = .ok () := by
    rw [← checkPut_eq, checkPut_null]
  obtain ⟨created, hcreated, -⟩ := eq_ok_of_map hcreated
  have hfree : ¬ Blocks segment .null refusal := by rintro ⟨⟩
  have hopen : ∀ fields, ¬ Blocks segment (.object fields) refusal := by rintro _ ⟨⟩
  cases value with
  | null => simp [put, hcreated, hfree, at?, Except.map]
  | object fields =>
    rw [put, map_eq_error_iff, at?_object]
    cases Dict.find? segment fields with
    | none => simp [hcreated, hopen]
    | some child => simp [hopen]
  | array items =>
    rw [put, blocks_array_iff]
    cases h : itemIndex items.length segment with
    | error e => simp [at?_array_of_error h]
    | ok i => simp [at?_array_of_ok h, map_eq_error_iff]
  | bool _ | number _ | string _ =>
    constructor
    · intro h
      obtain rfl := Except.error.inj h
      exact .inl (by constructor)
    · rintro (hblocks | ⟨child, hfound, -⟩)
      · cases hblocks
        rfl
      · cases hfound

/-- **A write is refused just if the walk along its path is blocked.** -/
theorem put_eq_error_iff {new : Json} {refusal : Refusal} :
    ∀ {segments : List String} {value : Json},
      put new segments value = .error refusal ↔ BlockedAt segments value refusal
  | [], value => iff_of_false nofun not_blockedAt_nil
  | segment :: rest, value => by
    simp only [put_cons_eq_error_iff, blockedAt_cons, @put_eq_error_iff new refusal rest]

end Json

/-- Fields are an object, which takes every first segment. -/
theorem putFields_eq_error_iff {new : Json} {segments : List String} {fields : Dict Json}
    {refusal : Refusal} : putFields new segments fields = .error refusal ↔
      segments = [] ∧ refusal = .noTarget ∨ Json.BlockedAt segments (.object fields) refusal := by
  cases segments with
  | nil =>
    have hno : ¬ Json.BlockedAt [] (.object fields) refusal := Json.not_blockedAt_nil
    simp [putFields, hno, eq_comm]
  | cons segment rest =>
    rw [← @Json.put_eq_error_iff new, Json.put, map_eq_error_iff, putFields, map_eq_error_iff]
    simp

theorem writeInPlace_eq_error_iff {path : Path} {new : Json} {fields : Dict Json} {e : PathError} :
    (writeInPlace path new fields).1 = .error e ↔
      ∃ refusal, putFields new path.segments fields = .error refusal ∧
        e = refusal.pathError path.raw := by
  rw [writeInPlace_eq]
  cases putFields new path.segments fields <;> simp [mapError_ok, mapError_error, eq_comm]

/-- **A write is all or nothing.** If it is refused, the fields it leaves behind are
those it was given, without any object created on the way. It is refused just if its
path has no segment, or the walk along the segments meets a value that cannot take
the next one. So the walk that changes the fields is never refused where the look over
the way was not. -/
theorem writeInPlace_all_or_nothing (path : Path) (new : Json) (fields : Dict Json) :
    (∀ e, (writeInPlace path new fields).1 = .error e →
      (writeInPlace path new fields).2 = fields) ∧
    (∀ e, (writeInPlace path new fields).1 = .error e ↔
      path.segments = [] ∧ e = .noTarget path.raw ∨
        ∃ refusal, Json.BlockedAt path.segments (.object fields) refusal ∧
          e = refusal.pathError path.raw) ∧
    ∀ segments value, Json.checkPut segments value = .ok () →
      (Json.putInPlace new segments value).1 = .ok () := by
  refine ⟨fun e he => ?_, fun e => ?_, fun segments value => Json.putInPlace_of_checkPut⟩
  · obtain ⟨refusal, hrefusal, -⟩ := writeInPlace_eq_error_iff.mp he
    rw [writeInPlace_eq, hrefusal]
    rfl
  · rw [writeInPlace_eq_error_iff]
    constructor
    · rintro ⟨refusal, hrefusal, rfl⟩
      rcases putFields_eq_error_iff.mp hrefusal with ⟨hnil, rfl⟩ | hblocked
      · exact .inl ⟨hnil, rfl⟩
      · exact .inr ⟨refusal, hblocked, rfl⟩
    · rintro (⟨hnil, rfl⟩ | ⟨refusal, hblocked, rfl⟩)
      · exact ⟨.noTarget, putFields_eq_error_iff.mpr (.inl ⟨hnil, rfl⟩), rfl⟩
      · exact ⟨refusal, putFields_eq_error_iff.mpr (.inr hblocked), rfl⟩

/-- An order with a note, and the place of a second one that holds `null`. -/
def ordersFields : Dict Json :=
  [("orders", .array [.object [("note", .string "late")], .null])]

/-- The note is a text, so nothing is written below it. Below the `null` there is room
for as many objects as it takes. -/
theorem writeInPlace_all_or_nothing_orders :
    writeInPlace ⟨"orders.0.note.text", .data, ["orders", "0", "note", "text"]⟩ (.bool true)
        ordersFields =
      (.error (.notAContainer "orders.0.note.text" "text"), ordersFields) ∧
    (Json.putInPlace (.bool true) ["orders", "1", "paid", "today"] (.object ordersFields)).1 =
      .ok () := by
  obtain ⟨hleft, hrefused, harrives⟩ := writeInPlace_all_or_nothing
    ⟨"orders.0.note.text", .data, ["orders", "0", "note", "text"]⟩ (.bool true) ordersFields
  have hblocked : Json.BlockedAt ["orders", "0", "note", "text"] (.object ordersFields)
      (.notAContainer "text") :=
    ⟨["orders", "0", "note"], "text", [], .string "late", rfl, rfl, .string "late"⟩
  have herror := (hrefused _).mpr (.inr ⟨_, hblocked, rfl⟩)
  exact ⟨Prod.ext herror (hleft _ herror), harrives _ _ rfl⟩

end PageFlow
