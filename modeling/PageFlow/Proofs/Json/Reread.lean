/-
# Values that are printed and read again

A value that is read of its text has the numbers that are read of theirs; all else
is kept, and so is the order of the fields. It is read only if it is not nested too
deep: every array and every object counts, also an empty one.

Key definitions: `Json.reread`, `Json.nesting`.
Key theorems: `Json.ordered_reread`, `Json.reread_array_map`, `Json.reread_ofFields`.
-/
import PageFlow.Proofs.Json.Ordered
import PageFlow.Proofs.Number.Reread
import PageFlow.Trace.Document

namespace PageFlow
namespace Json

mutual

/-- The value with the numbers that are read of the text of its numbers. -/
def reread : Json → Json
  | .number n => .number n.reread
  | .array items => .array (rereadItems items)
  | .object fields => .object (rereadFields fields)
  | .null => .null
  | .bool b => .bool b
  | .string s => .string s

/-- The items of an array as they are read of their text. -/
def rereadItems : List Json → List Json
  | [] => []
  | x :: rest => reread x :: rereadItems rest

/-- The fields of an object as they are read of their text. -/
def rereadFields : List (String × Json) → List (String × Json)
  | [] => []
  | (k, x) :: rest => (k, reread x) :: rereadFields rest

end

mutual

/-- How many arrays and objects stand in each other, at most. -/
def nesting : Json → Nat
  | .array items => nestingItems items + 1
  | .object fields => nestingFields fields + 1
  | .null => 0
  | .bool _ => 0
  | .number _ => 0
  | .string _ => 0

/-- The nesting of the items of an array. -/
def nestingItems : List Json → Nat
  | [] => 0
  | x :: rest => max (nesting x) (nestingItems rest)

/-- The nesting of the values of an object. -/
def nestingFields : List (String × Json) → Nat
  | [] => 0
  | (_, x) :: rest => max (nesting x) (nestingFields rest)

end

theorem rereadItems_eq_map (items : List Json) : rereadItems items = items.map reread := by
  induction items with
  | nil => rfl
  | cons x rest ih => rw [rereadItems, ih, List.map_cons]

theorem rereadFields_eq_mapValues (fields : Dict Json) :
    rereadFields fields = fields.mapValues reread := by
  induction fields with
  | nil => rfl
  | cons e rest ih =>
    rw [rereadFields, ih]
    rfl

/-! ### What is kept -/

theorem reread_ne_null {value : Json} (h : value ≠ .null) : value.reread ≠ .null := by
  cases value with
  | null => exact absurd rfl h
  | _ => exact nofun

mutual

/-- Ordered values are read as ordered values. -/
theorem ordered_reread : ∀ {value : Json}, value.Ordered → value.reread.Ordered
  | .null, _ => trivial
  | .bool _, _ => trivial
  | .number _, _ => trivial
  | .string _, _ => trivial
  | .array items, h => by
    rw [Ordered] at h
    rw [reread, Ordered]
    exact orderedItems_reread h
  | .object fields, h => by
    rw [Ordered] at h
    rw [reread, Ordered]
    refine ⟨?_, orderedFields_reread h.2⟩
    rw [rereadFields_eq_mapValues]
    exact h.1.mapValues reread

theorem orderedItems_reread :
    ∀ {items : List Json}, OrderedItems items → OrderedItems (rereadItems items)
  | [], _ => trivial
  | _ :: _, h => ⟨ordered_reread h.1, orderedItems_reread h.2⟩

theorem orderedFields_reread :
    ∀ {fields : List (String × Json)}, OrderedFields fields → OrderedFields (rereadFields fields)
  | [], _ => trivial
  | (_, _) :: _, h => ⟨ordered_reread h.1, orderedFields_reread h.2⟩

end

/-! ### Parts of records -/

@[simp]
theorem reread_string (s : String) : (string s).reread = string s := rfl

@[simp]
theorem reread_bool (b : Bool) : (bool b).reread = bool b := rfl

theorem reread_object (fields : List (String × Json)) :
    (object fields).reread = object (rereadFields fields) := rfl

/-- Counts are read as they were printed. -/
@[simp]
theorem reread_ofNat (n : Nat) : (ofNat n).reread = ofNat n := by
  unfold ofNat Number.ofInt?
  split
  · rw [Option.getD_some, reread, Number.reread_integer]
  · rw [Option.getD_none, reread, Number.zero, Number.reread_integer]

theorem reread_array_map {α β : Type} {encode : α → Json} {encode' : β → Json} {f : α → β}
    (h : ∀ x, (encode x).reread = encode' (f x)) (xs : List α) :
    (array (xs.map encode)).reread = array ((xs.map f).map encode') := by
  rw [reread, rereadItems_eq_map, List.map_map, List.map_map]
  congr 1
  exact List.map_congr_left fun x _ => h x

@[simp]
theorem reread_ofTexts (texts : List String) : (ofTexts texts).reread = ofTexts texts := by
  have h := reread_array_map (f := id) reread_string texts
  rwa [List.map_id] at h

theorem reread_mapValues {α : Type} {encode : α → Json} (h : ∀ x, (encode x).reread = encode x)
    (d : Dict α) : (object (d.mapValues encode)).reread = object (d.mapValues encode) := by
  rw [reread, rereadFields_eq_mapValues, Dict.mapValues, Dict.mapValues, List.map_map]
  congr 1
  exact List.map_congr_left fun e _ => Prod.ext rfl (h e.2)

@[simp]
theorem reread_comp_string : reread ∘ string = string := rfl

@[simp]
theorem reread_comp_bool : reread ∘ bool = bool := rfl

/-- A field as it is read of its text. -/
def rereadField (f : Option (String × Json)) : Option (String × Json) :=
  f.map fun e => (e.1, e.2.reread)

@[simp]
theorem rereadField_field (key : String) (value : Json) :
    rereadField (field key value) = field key value.reread := rfl

@[simp]
theorem rereadField_fieldIfSome (key : String) (value : Option Json) :
    rereadField (fieldIfSome key value) = fieldIfSome key (value.map reread) := by
  cases value <;> rfl

@[simp]
theorem rereadField_fieldUnlessEmpty {α : Type} (key : String) (list : List α) (value : Json) :
    rereadField (fieldUnlessEmpty key list value) = fieldUnlessEmpty key list value.reread := by
  unfold fieldUnlessEmpty
  split <;> rfl

/-- A record has the fields that are read of the text of its fields. -/
theorem rereadFields_filterMap (fields : List (Option (String × Json))) :
    rereadFields (fields.filterMap id) = (fields.map rereadField).filterMap id := by
  induction fields with
  | nil => rfl
  | cons f rest ih =>
    cases f with
    | none => exact ih
    | some e => exact congrArg ((e.1, e.2.reread) :: ·) ih

theorem reread_ofFields (fields : List (Option (String × Json))) :
    (ofFields fields).reread = ofFields (fields.map rereadField) := by
  rw [ofFields, reread, rereadFields_filterMap, ofFields]

end Json
end PageFlow
