/-
# Ordered values

The objects of a value that is read, at any depth, list their keys in ascending
order, each once. The values in canonical form are those that are ordered.

Key definitions: `Json.Ordered`.
Key theorems: `Json.orderedItems_iff`, `Json.orderedFields_iff`,
`Json.ordered_canonical`, `Json.canonical_of_ordered`, `Document.Node.ordered_of_json`.
-/
import PageFlow.Document.Node
import PageFlow.Proofs.Dict

namespace PageFlow
namespace Json

mutual

/-- Whether the objects in a value, at any depth, list their keys in order. -/
def Ordered : Json → Prop
  | .array items => OrderedItems items
  | .object fields => Dict.Sorted fields ∧ OrderedFields fields
  | .null => True
  | .bool _ => True
  | .number _ => True
  | .string _ => True

/-- Whether all items of an array are ordered. -/
def OrderedItems : List Json → Prop
  | [] => True
  | x :: rest => Ordered x ∧ OrderedItems rest

/-- Whether the values of all fields are ordered. -/
def OrderedFields : List (String × Json) → Prop
  | [] => True
  | (_, x) :: rest => Ordered x ∧ OrderedFields rest

end

theorem orderedItems_iff {items : List Json} : OrderedItems items ↔ ∀ x ∈ items, Ordered x := by
  induction items with
  | nil => simp [OrderedItems]
  | cons x rest ih => simp [OrderedItems, ih]

theorem orderedFields_iff {fields : List (String × Json)} :
    OrderedFields fields ↔ ∀ e ∈ fields, Ordered e.2 := by
  induction fields with
  | nil => simp [OrderedFields]
  | cons e rest ih => simp [OrderedFields, ih]

mutual

/-- A value in canonical form is ordered. -/
theorem ordered_canonical : ∀ value : Json, Ordered value.canonical
  | .null => trivial
  | .bool _ => trivial
  | .number _ => trivial
  | .string _ => trivial
  | .array items => by
    unfold canonical Ordered
    exact orderedItems_canonical items
  | .object fields => by
    unfold canonical Ordered
    refine ⟨Dict.sorted_ofList _, orderedFields_iff.mpr fun e he => ?_⟩
    have hmem := (Dict.mem_of_mem_insertAll _ _ he).resolve_right (by simp)
    exact orderedFields_iff.mp (orderedFields_canonical fields) e hmem

theorem orderedItems_canonical : ∀ items : List Json, OrderedItems (canonicalItems items)
  | [] => trivial
  | x :: rest => ⟨ordered_canonical x, orderedItems_canonical rest⟩

theorem orderedFields_canonical :
    ∀ fields : List (String × Json), OrderedFields (canonicalFields fields)
  | [] => trivial
  | (_, x) :: rest => ⟨ordered_canonical x, orderedFields_canonical rest⟩

end

mutual

/-- An ordered value is in canonical form. -/
theorem canonical_of_ordered : ∀ {value : Json}, Ordered value → value.canonical = value
  | .null, _ => rfl
  | .bool _, _ => rfl
  | .number _, _ => rfl
  | .string _, _ => rfl
  | .array items, h => by
    rw [Ordered] at h
    rw [canonical, canonicalItems_of_ordered h]
  | .object fields, h => by
    rw [Ordered] at h
    rw [canonical, canonicalFields_of_ordered h.2, Dict.ofList_of_sorted h.1]

theorem canonicalItems_of_ordered :
    ∀ {items : List Json}, OrderedItems items → canonicalItems items = items
  | [], _ => rfl
  | x :: rest, h => by
    rw [canonicalItems, canonical_of_ordered h.1, canonicalItems_of_ordered h.2]

theorem canonicalFields_of_ordered :
    ∀ {fields : List (String × Json)}, OrderedFields fields → canonicalFields fields = fields
  | [], _ => rfl
  | (_, x) :: rest, h => by
    rw [canonicalFields, canonical_of_ordered h.1, canonicalFields_of_ordered h.2]

end

end Json

/-- A value that is read from a document is ordered. -/
theorem Document.Node.ordered_of_json {node : Document.Node} {value : Json}
    (h : node.json = .ok value) : value.Ordered := by
  unfold Document.Node.json at h
  cases hc : node.content with
  | error e =>
    rw [hc] at h
    cases h
  | ok content =>
    rw [hc] at h
    obtain rfl := Except.ok.inj h
    exact Json.ordered_canonical content

end PageFlow
