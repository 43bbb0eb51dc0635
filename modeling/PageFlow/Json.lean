/-
# JSON values

A value is a tree. The fields of an object are a dictionary: the values the
engine computes with list them by key, each key once (`Json.canonical`). A
document that is written keeps the order in which its fields are declared.

Key definitions: `Json`, `Json.canonical`.
-/
import PageFlow.Dict
import PageFlow.Json.Number

namespace PageFlow

/-- A JSON value. -/
inductive Json where
  | null
  | bool (value : Bool)
  | number (value : Number)
  | string (value : String)
  | array (items : List Json)
  | object (fields : List (String × Json))

namespace Json

instance : Inhabited Json := ⟨.null⟩

/-- An object whose fields are those that are present. -/
def ofFields (fields : List (Option (String × Json))) : Json := .object (fields.filterMap id)

/-- A field that is always there. -/
def field (key : String) (value : Json) : Option (String × Json) := some (key, value)

/-- A field that is left out when its value is absent. -/
def fieldIfSome (key : String) (value : Option Json) : Option (String × Json) :=
  value.map fun v => (key, v)

/-- A list of texts. -/
def ofTexts (texts : List String) : Json := .array (texts.map .string)

/-- A count below `2 ^ 64`. -/
def ofNat (n : Nat) : Json := .number ((Number.ofInt? n).getD Number.zero)

mutual

/-- The same value with the fields of every object in key order, the last of
equal keys kept. -/
def canonical : Json → Json
  | .array items => .array (canonicalItems items)
  | .object fields => .object (Dict.ofList (canonicalFields fields))
  | .null => .null
  | .bool b => .bool b
  | .number n => .number n
  | .string s => .string s

/-- The items of an array in canonical form. -/
def canonicalItems : List Json → List Json
  | [] => []
  | x :: rest => canonical x :: canonicalItems rest

/-- The fields of an object with canonical values, in the order they have. -/
def canonicalFields : List (String × Json) → List (String × Json)
  | [] => []
  | (k, x) :: rest => (k, canonical x) :: canonicalFields rest

end

/-- Whether this is `null`. -/
def isNull : Json → Bool
  | .null => true
  | _ => false

end Json
end PageFlow
