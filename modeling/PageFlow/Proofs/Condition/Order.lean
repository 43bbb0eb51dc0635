/-
# The order of values

Two numbers are ordered, and two strings, and no other values. On either kind the order
is total, and the values that it does not tell apart are the equal ones. So one of three
operators holds between two values of a kind, for each outcome of comparing them.

Key definitions: `Json.Comparable`, `Operator.ofOrdering`.
Key theorems: `Json.compareValue_swap`, `Json.compareValue_trans`,
`Json.Comparable.compareValue_eq_iff`, `Operator.holds_ofOrdering`,
`Json.compareValue_total`.
-/
import PageFlow.Condition
import PageFlow.Proofs.Number.Transitivity

namespace PageFlow
namespace Json

/-- Two numbers or two strings. -/
inductive Comparable : Json → Json → Prop where
  | numbers (a b : Number) : Comparable (.number a) (.number b)
  | strings (s t : String) : Comparable (.string s) (.string t)

/-! ### A total order -/

theorem Comparable.exists_compareValue {x y : Json} (h : x.Comparable y) :
    ∃ o, x.compareValue y = some o := by
  cases h with
  | numbers a b => exact ⟨_, rfl⟩
  | strings s t => exact ⟨_, rfl⟩

theorem compareValue_of_not_comparable {x y : Json} (h : ¬ x.Comparable y) :
    x.compareValue y = none := by
  cases x <;> cases y <;> try rfl
  case number.number a b => exact absurd (.numbers a b) h
  case string.string s t => exact absurd (.strings s t) h

theorem comparable_of_compareValue {x y : Json} {o : Ordering} (h : x.compareValue y = some o) :
    x.Comparable y := by
  by_contra hnot
  rw [compareValue_of_not_comparable hnot] at h
  cases h

theorem compareValue_swap (x y : Json) :
    y.compareValue x = (x.compareValue y).map Ordering.swap := by
  cases x <;> cases y <;> try rfl
  case number.number a b => exact congrArg some (Number.compareValue_swap a b).symm
  case string.string s t => exact congrArg some Std.OrientedCmp.eq_swap

/-- In a transitive order the first step that is strict decides. -/
theorem compare_eq_then {α : Type} {cmp : α → α → Ordering} [Std.TransCmp cmp] {a b c : α}
    (hab : (cmp a b).isLE = true) (hbc : (cmp b c).isLE = true) :
    cmp a c = (cmp a b).then (cmp b c) := by
  cases h : cmp a b with
  | lt => exact Std.TransCmp.lt_of_lt_of_isLE h hbc
  | eq => exact Std.TransCmp.congr_left h
  | gt =>
    rw [h] at hab
    cases hab

/-- **The order is transitive**: a chain of two steps is strict if one of its steps is. -/
theorem compareValue_trans {x y z : Json} {o p : Ordering} (hxy : x.compareValue y = some o)
    (hyz : y.compareValue z = some p) (ho : o.isLE = true) (hp : p.isLE = true) :
    x.compareValue z = some (o.then p) := by
  have hfirst := comparable_of_compareValue hxy
  have hsecond := comparable_of_compareValue hyz
  cases hfirst with
  | numbers a b =>
    cases hsecond with
    | numbers _ c =>
      obtain rfl := Option.some.inj hxy
      obtain rfl := Option.some.inj hyz
      exact congrArg some (compare_eq_then ho hp)
  | strings s t =>
    cases hsecond with
    | strings _ u =>
      obtain rfl := Option.some.inj hxy
      obtain rfl := Option.some.inj hyz
      exact congrArg some (compare_eq_then ho hp)

/-- What the order does not tell apart is equal. -/
theorem Comparable.compareValue_eq_iff {x y : Json} (h : x.Comparable y) :
    x.compareValue y = some .eq ↔ x.equal y = true := by
  cases h with
  | numbers a b => simp [compareValue, equal]
  | strings s t => simp [compareValue, equal]

end Json

/-! ### The operators of an order -/

namespace Operator

/-- The operator that asks for an outcome of comparing. -/
def ofOrdering : Ordering → Operator
  | .lt => .lt
  | .eq => .eq
  | .gt => .gt

theorem mem_ofOrdering_iff {op : Operator} :
    op ∈ [Operator.lt, .eq, .gt] ↔ ∃ o, op = ofOrdering o := by
  constructor
  · intro h
    simp only [List.mem_cons, List.not_mem_nil, or_false] at h
    rcases h with rfl | rfl | rfl
    exacts [⟨.lt, rfl⟩, ⟨.eq, rfl⟩, ⟨.gt, rfl⟩]
  · rintro ⟨o, rfl⟩
    cases o <;> decide

variable {x y : Json}

/-- An operator of an outcome holds for that outcome only. -/
theorem holds_ofOrdering (h : x.Comparable y) (o : Ordering) :
    (ofOrdering o).holds x y = true ↔ x.compareValue y = some o := by
  cases o with
  | lt => simp [ofOrdering, holds]
  | eq => exact h.compareValue_eq_iff.symm
  | gt => simp [ofOrdering, holds]

theorem existsUnique_holds (h : x.Comparable y) :
    ∃! op, op ∈ [Operator.lt, .eq, .gt] ∧ op.holds x y = true := by
  obtain ⟨o, ho⟩ := h.exists_compareValue
  refine ⟨ofOrdering o, ⟨mem_ofOrdering_iff.mpr ⟨o, rfl⟩, (holds_ofOrdering h o).mpr ho⟩, ?_⟩
  rintro op ⟨hmem, hholds⟩
  obtain ⟨p, rfl⟩ := mem_ofOrdering_iff.mp hmem
  have hp := (holds_ofOrdering h p).mp hholds
  rw [ho] at hp
  rw [Option.some.inj hp]

theorem holds_lte (h : x.Comparable y) :
    Operator.lte.holds x y = (Operator.lt.holds x y || Operator.eq.holds x y) := by
  have heq := h.compareValue_eq_iff
  rw [Bool.eq_iff_iff]
  simp only [holds, Bool.or_eq_true, beq_iff_eq, heq]

theorem holds_gte (h : x.Comparable y) :
    Operator.gte.holds x y = (Operator.gt.holds x y || Operator.eq.holds x y) := by
  have heq := h.compareValue_eq_iff
  rw [Bool.eq_iff_iff]
  simp only [holds, Bool.or_eq_true, beq_iff_eq, heq]

theorem holds_of_not_comparable (h : ¬ x.Comparable y) :
    ∀ op ∈ [Operator.lt, .lte, .gt, .gte], op.holds x y = false := by
  have hnone := Json.compareValue_of_not_comparable h
  simp [holds, hnone]

end Operator

/-- **Numbers are totally ordered, and so are strings.** Any two numbers, integers and floats
mixed, and any two strings are compared with an outcome that the swapped sides reverse and
that is `eq` just for equal values. Where one value is not above a second and that is not
above a third, the first is not above the third, and is below it if one of the steps is
strict. So exactly one of `lt`, `eq` and `gt` holds, `lte` is `lt` or `eq`, and `gte` is `gt`
or `eq`. Between all other values none of the four operators of the order holds. -/
theorem Json.compareValue_total :
    (∀ x y : Json, x.Comparable y → ∃ o, x.compareValue y = some o ∧
      y.compareValue x = some o.swap ∧ (o = .eq ↔ x.equal y = true)) ∧
    (∀ (x y z : Json) (o p : Ordering), x.compareValue y = some o → y.compareValue z = some p →
      o.isLE = true → p.isLE = true → x.compareValue z = some (o.then p)) ∧
    (∀ x y : Json, x.Comparable y →
      (∃! op, op ∈ [Operator.lt, .eq, .gt] ∧ op.holds x y = true) ∧
      (Operator.lte.holds x y = true ↔
        Operator.lt.holds x y = true ∨ Operator.eq.holds x y = true) ∧
      (Operator.gte.holds x y = true ↔
        Operator.gt.holds x y = true ∨ Operator.eq.holds x y = true)) ∧
    ∀ x y : Json, ¬ x.Comparable y →
      ∀ op ∈ [Operator.lt, .lte, .gt, .gte], op.holds x y = false := by
  refine ⟨fun x y h => ?_, fun x y z o p => compareValue_trans, fun x y h => ⟨?_, ?_, ?_⟩,
    fun x y h => Operator.holds_of_not_comparable h⟩
  · obtain ⟨o, ho⟩ := h.exists_compareValue
    refine ⟨o, ho, ?_, ?_⟩
    · rw [compareValue_swap x y, ho]
      rfl
    · rw [← h.compareValue_eq_iff, ho, Option.some_inj]
  · exact Operator.existsUnique_holds h
  · rw [Operator.holds_lte h, Bool.or_eq_true]
  · rw [Operator.holds_gte h, Bool.or_eq_true]

/-- The floating point number nearest to `n / 10 ^ k`. -/
def Number.nearest (n k : Nat) : Number :=
  .float ((Binary64.ofRatio false n (Nat.pow 10 k)).getD (.zero false))

theorem Number.fits_naught : leastInteger ≤ 0 ∧ 0 < integerLimit := by decide

/-- Zero, written as an integer. -/
def Number.naught : Number := .integer 0 fits_naught

/-- Of the numbers `0 < 1e-28 < 3e-28` that in the middle has no decimal form: it is compared
with both in floating point, and these with one another as decimals. -/
theorem Json.compareValue_total_tiny :
    (Number.nearest 1 28).decimal? = none ∧
      (Json.number .naught).compareValue (.number (.nearest 1 28)) = some .lt ∧
      (Json.number (.nearest 1 28)).compareValue (.number (.nearest 3 28)) = some .lt ∧
      (Json.number .naught).compareValue (.number (.nearest 3 28)) = some .lt ∧
      (∃! op, op ∈ [Operator.lt, .eq, .gt] ∧
        op.holds (.number .naught) (.number (.nearest 1 28)) = true) ∧
      Operator.lte.holds .null .null = false := by
  obtain ⟨-, htrans, hkind, hother⟩ := Json.compareValue_total
  have hfirst : (Json.number .naught).compareValue (.number (.nearest 1 28)) = some .lt := by
    decide +kernel
  have hsecond : (Json.number (.nearest 1 28)).compareValue (.number (.nearest 3 28)) =
      some .lt := by
    decide +kernel
  refine ⟨by decide +kernel, hfirst, hsecond, htrans _ _ _ _ _ hfirst hsecond rfl rfl,
    (hkind _ _ (.numbers _ _)).1, hother .null .null nofun .lte (by decide)⟩

end PageFlow
