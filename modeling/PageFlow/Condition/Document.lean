/-
# Conditions in documents

A condition is an object with one of the keys `all`, `any` and `not`, or a
comparison: an object with the fields `op`, `left` and `right`, or an array of
them. The first of these forms that fits is taken; a form in which a key stands
twice does not fit. An operand is an object with a `path` or a `value`. What
fits no form is refused as a whole, at any depth.

Key definitions: `Condition.ofContent?`, `decodeCondition`, `Condition.json`.
-/
import PageFlow.Condition
import PageFlow.Document.Decoder

namespace PageFlow
open Document

/-- The values under a key. -/
def Document.valuesUnder (key : String) (fields : List (String × Json)) : List Json :=
  (fields.filter fun f => f.1 == key).map (·.2)

/-- Reads the name of an operator, or an object with it as its only key. -/
def Operator.ofContent? : Json → Option Operator
  | .string name => (Operator.named.find? fun o => o.1 == name).map (·.2)
  | .object [(name, .null)] => (Operator.named.find? fun o => o.1 == name).map (·.2)
  | _ => none

/-- Reads an operand. -/
def Operand.ofContent? : Json → Option Operand
  | .object fields =>
    match valuesUnder "path" fields with
    | [.string raw] => some (.path raw)
    | _ =>
      match valuesUnder "value" fields with
      | [x] => some (.value x.canonical)
      | _ => none
  | _ => none

/-- Reads an operand that may be `null`. -/
def Operand.ofOptional? : Json → Option (Option Operand)
  | .null => some none
  | j => (Operand.ofContent? j).map some

/-- Puts a comparison together from the contents of its fields. -/
def Comparison.ofParts? (op left right : Json) : Option Comparison := do
  return ⟨← Operator.ofContent? op, ← Operand.ofContent? left, ← Operand.ofOptional? right⟩

/-- Reads a comparison. -/
def Comparison.ofContent? : Json → Option Comparison
  | .object fields =>
    match valuesUnder "op" fields, valuesUnder "left" fields, valuesUnder "right" fields with
    | [op], [left], [] => Comparison.ofParts? op left .null
    | [op], [left], [right] => Comparison.ofParts? op left right
    | _, _, _ => none
  | .array [op, left] => Comparison.ofParts? op left .null
  | .array [op, left, right] => Comparison.ofParts? op left right
  | _ => none

namespace Condition

mutual

/-- Reads a condition. -/
def ofContent? : Json → Option Condition
  | .object fields =>
    match partsUnder "all" fields with
    | [some parts] => some (.all parts)
    | _ =>
      match partsUnder "any" fields with
      | [some parts] => some (.any parts)
      | _ =>
        match partUnder "not" fields with
        | [some part] => some (.not part)
        | _ => (Comparison.ofContent? (.object fields)).map .compare
  | .array items => (Comparison.ofContent? (.array items)).map .compare
  | _ => none

/-- Reads a list of conditions, all of which have to fit. -/
def listOfContent? : List Json → Option (List Condition)
  | [] => some []
  | x :: rest =>
    match ofContent? x with
    | none => none
    | some c => (listOfContent? rest).map (c :: ·)

/-- What the values under a key are as lists of conditions. -/
def partsUnder (key : String) : List (String × Json) → List (Option (List Condition))
  | [] => []
  | (k, .array items) :: rest =>
    if k = key then listOfContent? items :: partsUnder key rest else partsUnder key rest
  | (k, _) :: rest => if k = key then none :: partsUnder key rest else partsUnder key rest

/-- What the values under a key are as conditions. -/
def partUnder (key : String) : List (String × Json) → List (Option Condition)
  | [] => []
  | (k, x) :: rest =>
    if k = key then ofContent? x :: partUnder key rest else partUnder key rest

end

end Condition

/-- Reads a condition once all of it is known to be readable. -/
def decodeCondition : Decoder Condition := fun _ node =>
  match node.content with
  | .error e => .error e
  | .ok content =>
    match Condition.ofContent? content with
    | some c => .ok c
    | none => .error (.unplaced (.noVariant "Condition"))

/-- An operand in a document. -/
def Operand.json : Operand → Json
  | .path raw => .object [("path", .string raw)]
  | .value x => .object [("value", x)]

/-- A comparison in a document. -/
def Comparison.json (c : Comparison) : Json :=
  .ofFields [Json.field "op" (.string c.op.name), Json.field "left" c.left.json,
    Json.fieldIfSome "right" (c.right.map (·.json))]

namespace Condition

mutual

/-- A condition in a document. -/
def json : Condition → Json
  | .all parts => .object [("all", .array (jsonList parts))]
  | .any parts => .object [("any", .array (jsonList parts))]
  | .not part => .object [("not", json part)]
  | .compare c => c.json

/-- Conditions in a document. -/
def jsonList : List Condition → List Json
  | [] => []
  | c :: rest => json c :: jsonList rest

end

end Condition
end PageFlow
