/-
# Conditions

A condition is a tree of `all`, `any` and `not` over comparisons. A comparison
applies an operator to two operands, each a path that is looked up or a value
that is given.

Key definitions: `Operator`, `Operand`, `Comparison`, `Condition`,
`Operator.holds`.
-/
import PageFlow.Json.Order
import PageFlow.Text.Split

namespace PageFlow

/-- What a comparison tests. -/
inductive Operator where
  | eq | neq | gt | gte | lt | lte | exists | contains | isIn
  deriving DecidableEq

namespace Operator

/-- The operators under their names. -/
def named : List (String × Operator) :=
  [("eq", .eq), ("neq", .neq), ("gt", .gt), ("gte", .gte), ("lt", .lt), ("lte", .lte),
    ("exists", .exists), ("contains", .contains), ("in", .isIn)]

/-- The name of an operator. -/
def name : Operator → String
  | .eq => "eq"
  | .neq => "neq"
  | .gt => "gt"
  | .gte => "gte"
  | .lt => "lt"
  | .lte => "lte"
  | .exists => "exists"
  | .contains => "contains"
  | .isIn => "in"

end Operator

/-- Whether a text has a part, an array an item or an object a key. -/
def Json.contains : Json → Json → Bool
  | .string s, .string part => Text.hasPart part.toList s.toList
  | .array items, value => items.any fun item => item.equal value
  | .object fields, .string key => Dict.has key fields
  | _, _ => false

/-- Whether an operator holds between two values. An operand that is absent
counts as `null`. -/
def Operator.holds (op : Operator) (left right : Json) : Bool :=
  match op with
  | .eq => left.equal right
  | .neq => !left.equal right
  | .gt => left.compareValue right == some .gt
  | .gte => left.compareValue right == some .gt || left.compareValue right == some .eq
  | .lt => left.compareValue right == some .lt
  | .lte => left.compareValue right == some .lt || left.compareValue right == some .eq
  | .exists => !left.isNull
  | .contains => left.contains right
  | .isIn =>
    match right with
    | .array items => items.any fun item => left.equal item
    | _ => false

/-- A side of a comparison. -/
inductive Operand where
  | path (path : String)
  | value (value : Json)

/-- An operator and its operands. `exists` has no use for the right one. -/
structure Comparison where
  op : Operator
  left : Operand
  right : Option Operand

/-- A tree of comparisons. -/
inductive Condition where
  | all (parts : List Condition)
  | any (parts : List Condition)
  | not (part : Condition)
  | compare (comparison : Comparison)

end PageFlow
