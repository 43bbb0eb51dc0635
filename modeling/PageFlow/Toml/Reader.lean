/-
# Reading a settings file

A settings file is a list of lines: blank ones, headers of tables, and keys with
values. The lines are read first to last into the tables they build; the file
is refused at the first line that cannot be read or that does not fit to the
tables before it.

Key definitions: `Toml.readValue`, `Toml.Line`, `Toml.readStatement`,
`Toml.State.add`, `Toml.parse`.
-/
import PageFlow.Toml.Scalar
import PageFlow.Toml.Table

namespace PageFlow
namespace Toml

/-- Reads the items of an array, at most `count`, and its end. -/
def readItems (item : Reader Json) : Nat → Reader (List Json)
  | 0, _ => none
  | count + 1, cs =>
    match skipLines cs with
    | ']' :: rest => some ([], rest)
    | start => do
      let (x, rest) ← item start
      match skipLines rest with
      | ',' :: rest => mapRead (x :: ·) (readItems item count rest)
      | ']' :: rest => some ([x], rest)
      | _ => none

/-- Reads a key and its value. -/
def readPairOf (value : Reader Json) : Reader (Key × Json) := fun cs => do
  let (key, rest) ← readKey cs
  match rest with
  | '=' :: rest => mapRead (fun v => (key, v)) (value (skipBlanks rest))
  | _ => none

/-- Reads the entries of a table on one line, at most `count`, into the fields
before them, and the end of the table. -/
def readEntries (value : Reader Json) : Nat → Fields → Reader Fields
  | 0, _, _ => none
  | count + 1, fields, cs => do
    let ((key, v), rest) ← readPairOf value cs
    let fields ← assign key.1 key.2 v fields
    match skipBlanks rest with
    | ',' :: rest => readEntries value count fields rest
    | '}' :: rest => some (fields, rest)
    | _ => none

/-- Reads a table on one line behind its opening brace. -/
def readInlineTable (value : Reader Json) (cs : List Char) : Option (Json × List Char) :=
  match skipBlanks cs with
  | '}' :: rest => some (.object [], rest)
  | start => mapRead tableJson (readEntries value start.length [] start)

/-- Reads a value with at most `depth` arrays and tables around its parts. -/
def readValue : (depth : Nat) → Reader Json
  | 0, cs => readScalar cs
  | depth + 1, cs =>
    match cs with
    | '[' :: rest => mapRead .array (readItems (readValue depth) (rest.length + 1) rest)
    | '{' :: rest => readInlineTable (readValue depth) rest
    | _ => readScalar cs

/-- A line that says something. -/
inductive Line where
  | table (key : Key)
  | row (key : Key)
  | assignment (key : Key) (value : Json)

/-- Reads a line that says something, without its end. -/
def readStatement : Reader Line
  | '[' :: '[' :: rest => do
    match ← readKey rest with
    | (key, ']' :: ']' :: rest) => some (.row key, rest)
    | _ => none
  | '[' :: rest => do
    match ← readKey rest with
    | (key, ']' :: rest) => some (.table key, rest)
    | _ => none
  | cs => mapRead (fun e => .assignment e.1 e.2) (readPairOf (readValue depthLimit) cs)

/-- Reads all lines that say something, at most `count`. -/
def readLines : Nat → List Char → Option (List Line)
  | 0, _ => none
  | count + 1, cs =>
    let start := skipBlanks cs
    match start, lineEnd start with
    | [], _ => some []
    | _, some rest => readLines count rest
    | _, none => do
      let (line, rest) ← readStatement start
      let rest ← lineEnd rest
      (readLines count rest).map (line :: ·)

/-- The tables that were built, and the one that keys belong to. -/
structure State where
  root : Fields
  current : List String

/-- The state before the first line. -/
def State.start : State := ⟨[], []⟩

/-- The state behind a line, if it fits. -/
def State.add (s : State) : Line → Option State
  | .table (path, key) => (openTable path key s.root).map fun root => ⟨root, path ++ [key]⟩
  | .row (path, key) => (openRow path key s.root).map fun root => ⟨root, path ++ [key]⟩
  | .assignment (path, key) v =>
    (assignAt s.current path key v s.root).map fun root => { s with root }

/-- Reads a text as a table; a byte order mark may stand before it. -/
def parse (text : List Char) : Option Json := do
  let cs :=
    match text with
    | c :: rest => if c.toNat = 0xFEFF then rest else text
    | [] => []
  let lines ← readLines (cs.length + 1) cs
  let state ← lines.foldlM State.add State.start
  return tableJson state.root

end Toml
end PageFlow
