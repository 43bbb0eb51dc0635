/-
# Equality of values and membership in arrays

Equality by value is an equivalence relation on all values that are read, nested as they
may be, with integers and floating point numbers mixed: objects are compared by looking
the fields of the left one up in the right one, and numbers in one of two ways, but
neither shows. An array is searched by comparing its items with a value, from the left by
one operator and from the right by the other. So the two give one answer.

Key theorems: `Json.equal_comm`, `Json.any_equal_comm`, `Json.equal_equivalence`.
-/
import PageFlow.Condition
import PageFlow.Proofs.Condition.Order
import PageFlow.Proofs.Json.Equality

namespace PageFlow
namespace Json

/-- The sides of a comparison may be swapped. -/
theorem equal_comm {x y : Json} (hx : x.Ordered) (hy : y.Ordered) : x.equal y = y.equal x := by
  rw [Bool.eq_iff_iff]
  exact ⟨equal_symm hx hy, equal_symm hy hx⟩

/-- An array is searched with one result, whichever side its items stand on. -/
theorem any_equal_comm {x : Json} (hx : x.Ordered) {items : List Json} (h : OrderedItems items) :
    (items.any fun item => x.equal item) = items.any fun item => item.equal x := by
  induction items with
  | nil => rfl
  | cons item rest ih =>
    rw [OrderedItems] at h
    rw [List.any_cons, List.any_cons, equal_comm hx h.1, ih h.2]

end Json

/-- **Equality by value is an equivalence relation, and membership does not depend on the
side.** On all values whose objects list their keys in order, as all do that are read, every
value is equal to itself, equal values are equal with the sides swapped, and what is equal to
one value is equal to all its equals. So a value is in an array just if the array contains
it. -/
theorem Json.equal_equivalence :
    Equivalence (fun x y : { x : Json // x.Ordered } => x.val.equal y.val = true) ∧
    ∀ (x : Json) (items : List Json), x.Ordered → (Json.array items).Ordered →
      Operator.isIn.holds x (.array items) = Operator.contains.holds (.array items) x := by
  refine ⟨⟨fun x => equal_self x.property, fun {x y} => equal_symm x.property y.property,
    equal_trans⟩, fun x items hx hitems => ?_⟩
  rw [Json.Ordered] at hitems
  exact any_equal_comm hx hitems

/-- An order for two pieces at a price each, and a limit of `1e30`, which has no decimal form. -/
def Json.orderForm (pieces price : Number) : Json :=
  .object [("limit", .number (.float ((Binary64.ofNat (Nat.pow 10 30)).getD (.zero false)))),
    ("lines", .array [.object [("pieces", .number pieces), ("price", .number price)], .null])]

/-- The integer two. -/
def Number.two : Number := .integer 2 (by decide)

/-- Orders that spell two pieces as `2` or `2.0` and a price of two as `2.0` or `2` are equal
to one another in both directions, and one is found in a list that holds the other. -/
theorem Json.equal_equivalence_orders :
    let spelled := Json.orderForm .two (.nearest 2 0)
    let other := Json.orderForm (.nearest 2 0) .two
    let third := Json.orderForm .two .two
    spelled.equal other = true ∧ other.equal spelled = true ∧ other.equal third = true ∧
      spelled.equal third = true ∧
      Operator.isIn.holds spelled (.array [.string "none", other]) = true ∧
      Operator.contains.holds (.array [.string "none", other]) spelled = true := by
  intro spelled other third
  obtain ⟨⟨-, hsymm, htrans⟩, hmember⟩ := Json.equal_equivalence
  have hordered : ∀ pieces price, (Json.orderForm pieces price).Ordered := fun pieces price => by
    have houter : "limit" < "lines" := by decide
    have hinner : "pieces" < "price" := by decide
    simp only [Json.orderForm, Json.Ordered, Json.OrderedItems, Json.OrderedFields, Dict.Sorted,
      List.mem_cons, List.not_mem_nil, or_false, forall_eq, houter, hinner, and_self,
      false_imp_iff, implies_true]
  have hlist : (Json.array [.string "none", other]).Ordered :=
    ⟨trivial, hordered _ _, trivial⟩
  have hfirst : spelled.equal other = true := by decide +kernel
  have hsecond : other.equal third = true := by decide +kernel
  have hback : other.equal spelled = true :=
    @hsymm ⟨spelled, hordered _ _⟩ ⟨other, hordered _ _⟩ hfirst
  have hthrough : spelled.equal third = true :=
    @htrans ⟨spelled, hordered _ _⟩ ⟨other, hordered _ _⟩ ⟨third, hordered _ _⟩ hfirst hsecond
  have hfound : Operator.isIn.holds spelled (.array [.string "none", other]) = true := by
    decide +kernel
  exact ⟨hfirst, hback, hsecond, hthrough, hfound,
    (hmember spelled _ (hordered _ _) hlist).symm.trans hfound⟩

end PageFlow
