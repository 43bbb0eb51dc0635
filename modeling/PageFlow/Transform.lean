/-
# Transforms

A transform is written `name($)` and turns one value into another. Functions on
text leave values without a text as they are; functions on numbers give `null`
for values that are no numbers.

Key definitions: `TransformError`, `Transform.parse`, `Transform.functions`,
`Transform.compile`, `Transform.apply`.
-/
import PageFlow.Json.Order
import PageFlow.Json.Printer
import PageFlow.Text.Bytes
import PageFlow.Text.Case
import PageFlow.Text.Split

namespace PageFlow

/-- Why a transform cannot be applied. -/
inductive TransformError where
  | badForm (expression : String)
  | unknownFunction (name : String)
  deriving DecidableEq

/-- The wording of a transform error. -/
def TransformError.message : TransformError → String
  | .badForm e => "Invalid transform expression '" ++ e ++ "': expected the form name($)"
  | .unknownFunction name => "Unknown transform function '" ++ name ++ "'"

namespace Transform

/-- Whether a character may start a name. -/
def startsName (c : Char) : Bool := c.isAlpha || c == '_'

/-- Whether a character may stand in a name. -/
def inName (c : Char) : Bool := c.isAlphanum || c == '_'

/-- Whether a text is a name: an ASCII letter or underscore, and then letters,
digits and underscores. -/
def isName : List Char → Bool
  | [] => false
  | c :: rest => startsName c && rest.all inName

/-- The text without its last character, if that is `last`. -/
def dropLast? (last : Char) (cs : List Char) : Option (List Char) :=
  if cs.getLast? = some last then some cs.dropLast else none

/-- The name in `name($)`, with blanks allowed around each part. -/
def nameOf? (cs : List Char) : Option (List Char) := do
  let (name, rest) ← Text.splitOnce '(' (Text.trim cs)
  let argument ← dropLast? ')' rest
  let name := Text.trimRight name
  if Text.trim argument = ['$'] ∧ isName name = true then some name else none

/-- Reads `name($)` and gives the name. -/
def parse (expression : String) : Except TransformError String :=
  match nameOf? expression.toList with
  | some name => .ok (String.ofList name)
  | none => .error (.badForm expression)

/-- The text of a string, number or boolean. -/
def text? : Json → Option String
  | .string s => some s
  | .number n => some n.text
  | .bool b => some (if b then "true" else "false")
  | _ => none

/-- Applies a function to the text of a value, if it has one. -/
def onText (f : List Char → List Char) (value : Json) : Json :=
  match text? value with
  | some s => .string (String.ofList (f s.toList))
  | none => value

/-- The value as a text; `null` is the empty text. -/
def string : Json → Json
  | .null => .string ""
  | .array items => .string (Json.array items).compact
  | .object fields => .string (Json.object fields).compact
  | other => .string ((text? other).getD "")

/-- The value as a number. -/
def number : Json → Json
  | .bool b => .ofNat (if b then 1 else 0)
  | other => match other.decimal? with
    | some d => d.json
    | none => .null

/-- Whether a value counts as true. -/
def truth : Json → Bool
  | .null => false
  | .bool b => b
  | .number n => n.decimal?.any fun d => !d.isZero
  | .string s => s != "" && s != "false" && s != "0"
  | .array items => !items.isEmpty
  | .object fields => !fields.isEmpty

/-- The number of items, fields or characters. -/
def length : Json → Json
  | .null => .ofNat 0
  | .array items => .ofNat items.length
  | .object fields => .ofNat fields.length
  | other => .ofNat (((text? other).map (·.length)).getD 0)

/-- Applies a function to the number a value stands for. -/
def onNumber (f : Decimal → Decimal) (value : Json) : Json :=
  match value.decimal? with
  | some d => (f d).json
  | none => .null

/-- The functions by name. -/
def functions : List (String × (Json → Json)) :=
  [("upper", onText Text.upper),
    ("lower", onText Text.lower),
    ("trim", onText Text.trim),
    ("string", string),
    ("number", number),
    ("boolean", fun value => .bool (truth value)),
    ("length", length),
    ("abs", onNumber Decimal.abs),
    ("round", onNumber Decimal.round),
    ("floor", onNumber Decimal.floor),
    ("ceil", onNumber Decimal.ceil),
    ("base64", onText Text.base64),
    ("json", fun value => .string value.compact)]

/-- The function of a name. -/
def function? (name : String) : Option (Json → Json) :=
  (functions.find? fun f => f.1 == name).map (·.2)

/-- The function that an expression names. -/
def compile (expression : String) : Except TransformError (Json → Json) :=
  match parse expression with
  | .error e => .error e
  | .ok name =>
    match function? name with
    | some f => .ok f
    | none => .error (.unknownFunction name)

/-- Applies the function that an expression names. -/
def apply (expression : String) (value : Json) : Except TransformError Json :=
  (compile expression).map fun f => f value

end Transform
end PageFlow
