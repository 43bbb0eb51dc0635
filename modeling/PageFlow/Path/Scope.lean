/-
# Looking up a path

A scope holds the values that paths are read from. A segment picks the field of
that key from an object and the item of that number from an array; in any other
value there is nothing to pick.

Key definitions: `arrayIndex?`, `Json.at?`, `Scope`, `Scope.lookup`,
`Scope.resolve`.
-/
import PageFlow.Json
import PageFlow.Path

namespace PageFlow

-- Powers are those of the core library, whatever else is imported.
attribute [local instance (2000)] instPowNat

/-- The number of an array item written in digits, with an optional plus sign.
It has to fit 64 bits. -/
def arrayIndex? (segment : String) : Option Nat :=
  let digits := match segment.toList with
    | '+' :: rest => rest
    | cs => cs
  if digits.isEmpty || !digits.all Char.isDigit then none
  else
    let n := Nat.ofDigitChars 10 digits 0
    if n < 2 ^ (64 : Nat) then some n else none

/-- The value at the end of the segments, if there is one. -/
def Json.at? : List String → Json → Option Json
  | [], value => some value
  | segment :: rest, .object fields => (Dict.find? segment fields).bind (at? rest)
  | segment :: rest, .array items =>
    (arrayIndex? segment).bind fun i => items[i]?.bind (at? rest)
  | _ :: _, _ => none

/-- The values that paths are read from. -/
structure Scope where
  data : Dict Json
  context : Json
  response : Option Json

namespace Scope

/-- The scope of some data and a context, without a response. -/
def ofData (data : Dict Json) (context : Json) : Scope := ⟨data, context, none⟩

/-- The value at a path, if there is one. The data as a whole is not looked up. -/
def lookup (scope : Scope) (path : Path) : Except PathError (Option Json) :=
  match path.root, scope.response with
  | .data, _ => .ok (if path.segments.isEmpty then none else Json.at? path.segments (.object scope.data))
  | .context, _ => .ok (Json.at? path.segments scope.context)
  | .response, some response => .ok (Json.at? path.segments response)
  | .response, none => .error (.rootUnavailable path.raw .response)

/-- The value a path stands for: an absent value counts as `null`, and the bare
root of the data as all of it. -/
def resolve (scope : Scope) (path : Path) : Except PathError Json :=
  if path.root = .data ∧ path.segments = [] then .ok (.object scope.data)
  else (scope.lookup path).map fun found => found.getD .null

end Scope
end PageFlow
