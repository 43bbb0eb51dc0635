/-
# Tables of a settings file

A settings file builds its tables piece by piece. A table is defined once, by a
header or by dotted keys; the tables on the way to it are implied and may still
be defined by a header of their own. Values are never extended.

Key definitions: `TableKind`, `Entry`, `descend`, `openTable`, `openRow`,
`assign`, `Entry.json`.
-/
import PageFlow.Json

namespace PageFlow
namespace Toml

/-- How a table came about: on the way to another one, by a dotted key, or by a
header. -/
inductive TableKind where
  | implied
  | dotted
  | defined
  deriving DecidableEq

/-- What stands under a key. -/
inductive Entry where
  | value (value : Json)
  | table (kind : TableKind) (fields : List (String × Entry))
  /-- A list of tables, the last first. -/
  | rows (rows : List (List (String × Entry)))

/-- The entries of a table. -/
abbrev Fields := List (String × Entry)

/-- Changes what stands under a key, if the change is allowed. -/
def change (key : String) (f : Option Entry → Option Entry) : Fields → Option Fields
  | [] => (f none).map fun e => [(key, e)]
  | (k, e) :: rest =>
    if k = key then (f (some e)).map fun e => (k, e) :: rest
    else (change key f rest).map ((k, e) :: ·)

/-- Goes down to a table and changes it there. Tables that are missing are made
with the kind `fresh`; a dotted key does not go through a defined table. -/
def descend (fresh : TableKind) (f : TableKind → Fields → Option Fields) :
    List String → TableKind → Fields → Option Fields
  | [], kind, fields => f kind fields
  | key :: path, _, fields =>
    change key (fun
      | none => (descend fresh f path fresh []).map (.table fresh)
      | some (.value _) => none
      | some (.rows []) => none
      | some (.rows (row :: rows)) =>
        (descend fresh f path .defined row).map fun row => .rows (row :: rows)
      | some (.table kind sub) =>
        if fresh = .dotted ∧ kind = .defined then none
        else (descend fresh f path kind sub).map (.table kind)) fields

/-- Defines a table by a header. -/
def openTable (path : List String) (key : String) (root : Fields) : Option Fields :=
  descend .implied (fun _ fields =>
    change key (fun
      | none => some (.table .defined [])
      | some (.table .implied sub) => some (.table .defined sub)
      | some _ => none) fields) path .defined root

/-- Adds a table to a list of tables by a header. -/
def openRow (path : List String) (key : String) (root : Fields) : Option Fields :=
  descend .implied (fun _ fields =>
    change key (fun
      | none => some (.rows [[]])
      | some (.rows rows) => some (.rows ([] :: rows))
      | some _ => none) fields) path .defined root

/-- Puts a value under a dotted key of a table. -/
def assign (path : List String) (key : String) (value : Json) (fields : Fields) :
    Option Fields :=
  descend .dotted (fun kind fields =>
    if decide (kind = .dotted) = path.isEmpty then none
    else
      change key (fun
        | none => some (.value value)
        | some _ => none) fields) path .defined fields

/-- Puts a value under a dotted key of the table at `current`. -/
def assignAt (current : List String) (path : List String) (key : String) (value : Json)
    (root : Fields) : Option Fields :=
  descend .implied (fun _ fields => assign path key value fields) current .defined root

mutual

/-- The value of an entry. -/
def Entry.json : Entry → Json
  | .value v => v
  | .table _ fields => .object (fieldsJson fields)
  | .rows rows => .array (rowsJson rows).reverse

/-- The values of the entries of a table. -/
def fieldsJson : List (String × Entry) → List (String × Json)
  | [] => []
  | (key, e) :: rest => (key, Entry.json e) :: fieldsJson rest

/-- The values of a list of tables. -/
def rowsJson : List (List (String × Entry)) → List Json
  | [] => []
  | fields :: rest => .object (fieldsJson fields) :: rowsJson rest

end

/-- A table as a value. -/
def tableJson (fields : Fields) : Json := (Json.object (fieldsJson fields)).canonical

end Toml
end PageFlow
