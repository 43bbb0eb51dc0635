/-
# Writing at a path

A write replaces the value at the end of a path. Objects that are missing on
the way, or hold `null`, are created. A write that would have to go through a
scalar, or to an item that an array does not have, is refused and changes
nothing.

What a write gives is said by one recursion along the path, `Json.put`. The
fields themselves are changed in place, by a walk that creates objects before
it knows whether it will arrive. So the way is looked over first, without a
change.

Key definitions: `Refusal`, `Json.put`, `Json.checkPut`, `Json.putInPlace`,
`writeInPlace`, `write`.
-/
import PageFlow.Path.Scope

namespace PageFlow

/-- Why a write is refused. -/
inductive Refusal where
  | noTarget
  | notAContainer (segment : String)
  | indexOutOfBounds (segment : String)
  deriving DecidableEq

/-- The refusal as an error about a path. -/
def Refusal.pathError (raw : String) : Refusal → PathError
  | .noTarget => .noTarget raw
  | .notAContainer segment => .notAContainer raw segment
  | .indexOutOfBounds segment => .indexOutOfBounds raw segment

/-- The number of the item that a segment names in an array of `size` items. -/
def itemIndex (size : Nat) (segment : String) : Except Refusal Nat :=
  match arrayIndex? segment with
  | none => .error (.notAContainer segment)
  | some i => if i < size then .ok i else .error (.indexOutOfBounds segment)

/-! ### What a write gives -/

/-- The value with `new` at the end of the segments. -/
def Json.put (new : Json) : List String → Json → Except Refusal Json
  | [], _ => .ok new
  | segment :: rest, .null => (put new rest .null).map fun child => .object [(segment, child)]
  | segment :: rest, .object fields =>
    (put new rest ((Dict.find? segment fields).getD .null)).map fun child =>
      .object (Dict.insert segment child fields)
  | segment :: rest, .array items =>
    match itemIndex items.length segment with
    | .error e => .error e
    | .ok i => (put new rest (items.getD i .null)).map fun child => .array (items.set i child)
  | segment :: _, _ => .error (.notAContainer segment)

/-- The fields with `new` at the end of the segments, of which there has to be
at least one. -/
def putFields (new : Json) (segments : List String) (fields : Dict Json) :
    Except Refusal (Dict Json) :=
  match segments with
  | [] => .error .noTarget
  | segment :: rest =>
    (Json.put new rest ((Dict.find? segment fields).getD .null)).map fun child =>
      Dict.insert segment child fields

/-! ### Writing in place -/

/-- Looks over the way to the end of the segments. Below a missing value, or a
`null`, nothing can be in the way. -/
def Json.checkPut : List String → Json → Except Refusal Unit
  | [], _ => .ok ()
  | _ :: _, .null => .ok ()
  | segment :: rest, .object fields =>
    match Dict.find? segment fields with
    | some child => checkPut rest child
    | none => .ok ()
  | segment :: rest, .array items =>
    match itemIndex items.length segment with
    | .error e => .error e
    | .ok i => checkPut rest (items.getD i .null)
  | segment :: _, _ => .error (.notAContainer segment)

/-- Puts `new` at the end of the segments of a value that is changed in place:
whether the walk arrives there, and the value it leaves behind. What it creates
on the way stays, also when it does not arrive. -/
def Json.putInPlace (new : Json) : List String → Json → Except Refusal Unit × Json
  | [], _ => (.ok (), new)
  | segment :: rest, .null =>
    let (result, child) := putInPlace new rest .null
    (result, .object [(segment, child)])
  | segment :: rest, .object fields =>
    let (result, child) := putInPlace new rest ((Dict.find? segment fields).getD .null)
    (result, .object (Dict.insert segment child fields))
  | segment :: rest, .array items =>
    match itemIndex items.length segment with
    | .error e => (.error e, .array items)
    | .ok i =>
      let (result, child) := putInPlace new rest (items.getD i .null)
      (result, .array (items.set i child))
  | segment :: _, value => (.error (.notAContainer segment), value)

/-- Writes a value at a path below fields that are changed in place: the result,
and the fields that are left behind. -/
def writeInPlace (path : Path) (new : Json) (fields : Dict Json) :
    Except PathError Unit × Dict Json :=
  match path.segments with
  | [] => (.error (.noTarget path.raw), fields)
  | [last] => (.ok (), Dict.insert last new fields)
  | first :: rest =>
    match Json.checkPut (first :: rest) (.object fields) with
    | .error e => (.error (e.pathError path.raw), fields)
    | .ok () =>
      let (result, child) := Json.putInPlace new rest ((Dict.find? first fields).getD .null)
      (result.mapError (·.pathError path.raw), Dict.insert first child fields)

/-- The fields after a value was written at a path. -/
def write (path : Path) (new : Json) (fields : Dict Json) : Except PathError (Dict Json) :=
  let (result, next) := writeInPlace path new fields
  result.map fun () => next

end PageFlow
