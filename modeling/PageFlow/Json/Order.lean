/-
# Comparing values

Numbers are compared by value, whatever their spelling: exactly, as decimals,
when both have a decimal form, else in binary floating point. A number has a
decimal form when its text can be read as a decimal that stands for the same
number. Arrays and objects are equal when their parts are. Only two numbers or
two strings are ordered.

Key definitions: `Number.decimal?`, `Number.compareValue`, `Json.equal`,
`Json.compareValue`, `Json.decimal?`, `Decimal.json`.
-/
import PageFlow.Json
import PageFlow.Number.Decimal
import PageFlow.Text.Split

namespace PageFlow

/-- The decimal that a number is equal to, if its text can be read as one. -/
def Number.decimal? : Number → Option Decimal
  | .integer n _ => Decimal.ofInt? n
  | .float x => do
    let d ← Decimal.ofText? x.text.toList
    let y ← d.toBinary64
    if y.compareValue x = .eq then some d else none

/-- The order of two numbers by value. -/
def Number.compareValue (x y : Number) : Ordering :=
  match x.decimal?, y.decimal? with
  | some d, some e => d.compareValue e
  | _, _ => x.toBinary64.compareValue y.toBinary64

/-- The number of a decimal: an integer when it has no fraction and fits 63 bits
and a sign, else in binary floating point. -/
def Decimal.json (d : Decimal) : Json :=
  let d := d.normalize
  let whole := if d.scale = 0 then (d.toInt? leastInteger (-leastInteger)).bind Number.ofInt? else none
  match whole with
  | some n => .number n
  | none =>
    match d.toBinary64 with
    | some x => .number (.float x)
    | none => .null

namespace Json

/-- The decimal of a number, or of a string that can be read as one. -/
def decimal? : Json → Option Decimal
  | .number n => n.decimal?
  | .string s => Decimal.ofText? (Text.trim s.toList)
  | _ => none

mutual

/-- Whether two values are equal, numbers being compared by value. -/
def equal : Json → Json → Bool
  | .null, .null => true
  | .bool a, .bool b => a == b
  | .number a, .number b => a.compareValue b == .eq
  | .string a, .string b => a == b
  | .array a, .array b => a.length == b.length && equalItems a b
  | .object a, .object b => a.length == b.length && equalFields a b
  | _, _ => false

/-- Whether the items of two arrays of one length are equal in pairs. -/
def equalItems : List Json → List Json → Bool
  | x :: xs, y :: ys => equal x y && equalItems xs ys
  | _, _ => true

/-- Whether each field has an equal one of its key among the others. -/
def equalFields : List (String × Json) → Dict Json → Bool
  | [], _ => true
  | (k, x) :: rest, others =>
    (match Dict.find? k others with
      | some y => equal x y
      | none => false) && equalFields rest others

end

/-- The order of two numbers or two strings. -/
def compareValue : Json → Json → Option Ordering
  | .number a, .number b => some (a.compareValue b)
  | .string a, .string b => some (compare a b)
  | _, _ => none

end Json
end PageFlow
