/-
# Reading records

A record is written as an object with its fields by name or as an array with
its fields in order. Fields that are not known are skipped. Of all the errors
in a record the one that comes first in the document counts; a field that is
missing is noticed only at the end. So each field is read by itself, its error
is kept together with its position, and an error of an earlier position wins.

Key definitions: `Attempt`, `Fields`, `Fields.required`, `Fields.optional`,
`Fields.defaulted`, `Fields.nullable`, `decodeRecord`, `decodeTagged`.
-/
import PageFlow.Document.Decoder

namespace PageFlow
namespace Document

/-- The outcome of reading a part of a record; an error comes with the position
in the record at which it is met. -/
inductive Attempt (α : Type) where
  | done (value : α)
  | failed (position : Nat) (error : DecodeError)

namespace Attempt

/-- Both outcomes together: of two errors the earlier one counts. -/
def seq {α β : Type} : Attempt (α → β) → Attempt α → Attempt β
  | .done f, .done x => .done (f x)
  | .done _, .failed p e => .failed p e
  | .failed p e, .done _ => .failed p e
  | .failed p e, .failed p' e' => if p' < p then .failed p' e' else .failed p e

instance : Applicative Attempt where
  pure := .done
  seq f x := f.seq (x ())

/-- The outcome of reading at a position. -/
def ofDecoded {α : Type} (position : Nat) : Decoded α → Attempt α
  | .ok x => .done x
  | .error e => .failed position e

/-- The outcome without its position. -/
def decoded {α : Type} : Attempt α → Decoded α
  | .done x => .ok x
  | .failed _ e => .error e

end Attempt

/-- A field that was found: its position in the record, its value, and the
place behind it. -/
structure Slot where
  name : String
  position : Nat
  node : Node
  after : Place

/-- What was found in a record. -/
structure Fields where
  /-- The fields that were found. -/
  slots : List Slot
  /-- The error, if any, that ends the reading of the record at a position. -/
  halted : Option (Nat × DecodeError)
  /-- The position at which missing fields are noticed. -/
  size : Nat
  /-- The error of a missing field. -/
  missing : String → DecodeError

namespace Fields

/-- Whether no error ended the reading. -/
def intact (fields : Fields) : Attempt Unit :=
  match fields.halted with
  | none => .done ()
  | some (position, e) => .failed position e

/-- The field of a name, if it was found. -/
def slot? (fields : Fields) (name : String) : Option Slot :=
  fields.slots.find? fun s => s.name == name

/-- Reads a field that was found. -/
def read {α : Type} (slot : Slot) (decode : Node → Decoded α) : Attempt α :=
  .ofDecoded slot.position (settling slot.after (decode slot.node))

/-- Reads a field that has to be there. -/
def required {α : Type} (fields : Fields) (name : String) (decode : Node → Decoded α) :
    Attempt α :=
  match fields.slot? name with
  | some slot => read slot decode
  | none => .failed fields.size (fields.missing name)

/-- Reads a field that has a default. -/
def defaulted {α : Type} (fields : Fields) (name : String) (default : α)
    (decode : Node → Decoded α) : Attempt α :=
  match fields.slot? name with
  | some slot => read slot decode
  | none => .done default

/-- Reads a field that may be absent or `null`. -/
def optional {α : Type} (fields : Fields) (name : String) (decode : Node → Decoded α) :
    Attempt (Option α) :=
  fields.defaulted name none fun node => decodeOption (fun _ => decode) .text node

/-- Reads a field that may be absent or `null`, but not absent from an array of
the fields in order. -/
def nullable {α : Type} (fields : Fields) (name : String) (decode : Node → Decoded α) :
    Attempt (Option α) :=
  match fields.slot? name with
  | some slot => read slot (decodeOption (fun _ => decode) .text)
  | none =>
    match (fields.missing name).complaint with
    | .missingField _ => .done none
    | _ => .failed fields.size (fields.missing name)

end Fields

/-- Collects the known fields of an object. A second field of a name ends the
reading, and so does a fault in a field that is skipped. -/
def Entries.fields (names : List String) (position : Nat) (seen : List String) :
    Entries → Fields
  | .closed stop => ⟨[], none, position, fun name => ⟨.missingField name, stop⟩⟩
  | .broken reading _ =>
    ⟨[], some (position, reading), position, fun name => .unplaced (.missingField name)⟩
  | .entry (.error e) _ _ _ _ =>
    ⟨[], some (position, e), position, fun name => .unplaced (.missingField name)⟩
  | .entry (.ok key) afterKey value after rest =>
    if names.contains key then
      if seen.contains key then
        ⟨[], some (position, ⟨.duplicateField key, afterKey⟩), position,
          fun name => .unplaced (.missingField name)⟩
      else
        let more := rest.fields names (position + 1) (key :: seen)
        { more with slots := ⟨key, position, value, after⟩ :: more.slots }
    else
      match value.skip with
      | some e =>
        ⟨[], some (position, e), position, fun name => .unplaced (.missingField name)⟩
      | none => rest.fields names (position + 1) seen

/-- A count of fields in words. -/
def elementCount (n : Nat) : String :=
  toString n ++ (if n = 1 then " element" else " elements")

/-- The number of items of an array. -/
def Items.count : Items → Nat
  | .closed _ => 0
  | .broken _ _ _ => 0
  | .item _ _ rest => rest.count + 1

/-- Collects fields from the items of an array, in order, and gives the items
that are left. -/
def Items.fields (expected : String) (names : List String) (position : Nat) :
    List String → Items → Fields × Items
  | [], items => (⟨[], none, position, fun _ => .unplaced (.wrongLength 0 expected)⟩, items)
  | name :: more, .item node after rest =>
    let (fields, left) := Items.fields expected names (position + 1) more rest
    ({ fields with slots := ⟨name, position, node, after⟩ :: fields.slots }, left)
  | _ :: _, .closed stop =>
    (⟨[], none, position, fun name => ⟨.wrongLength (names.idxOf name) expected, stop⟩⟩,
      .closed stop)
  | _ :: _, .broken reading skipping closing =>
    (⟨[], some (position, reading), position, fun _ => .unplaced (.wrongLength 0 expected)⟩,
      .broken reading skipping closing)

/-- The error of an array that does not end behind the fields of a record, if
it does not. In a settings file the items behind them are passed over. -/
def Items.excess (origin : Origin) (total wanted : Nat) : Items → Option DecodeError
  | .closed _ => none
  | .broken _ _ closing => some closing
  | .item node _ _ =>
    match origin with
    | .text => some ⟨.fault .trailingCharacters, node.start.next⟩
    | .value => some (.unplaced (.wrongLength total "fewer elements in array"))
    | .aside =>
      some (.unplaced (.wrongLength total (elementCount wanted ++ " in sequence")))
    | .settings => none

/-- Reads a record from the entries of an object. -/
def Entries.record {α : Type} (names : List String) (build : Fields → Attempt α)
    (entries : Entries) : Decoded α :=
  let fields := entries.fields names 0 []
  ((fun _ x => x) <$> fields.intact <*> build fields).decoded

/-- Reads a record from the items of an array. -/
def Items.record {α : Type} (origin : Origin) (type : String) (names : List String)
    (build : Fields → Attempt α) (items : Items) : Decoded α := do
  let expected := type ++ " with " ++ elementCount names.length
  let (fields, left) := items.fields expected names 0 names
  let value ← ((fun _ x => x) <$> fields.intact <*> build fields).decoded
  match left.excess origin items.count names.length with
  | some e => .error e
  | none => .ok value

/-- Reads a record of the given type with the given fields, in the order in
which they are declared. -/
def decodeRecord {α : Type} (type : String) (names : List String)
    (build : Origin → Fields → Attempt α) : Decoder α
  | _, .object start true _ => .error (tooDeep start)
  | origin, .object _ false entries => entries.record names (build origin)
  | _, .list start true _ => .error (tooDeep start)
  | origin, .list _ false items => items.record origin type names (build origin)
  | _, node => .error (node.wrongType type)

/-- One of the variants of a tagged type. -/
structure Variant (α : Type) where
  tag : String
  type : String
  names : List String
  build : Origin → Fields → Attempt α

/-- Reads a tag that names one of several variants. -/
def decodeTag {α : Type} (variants : List (Variant α)) : Node → Decoded (Variant α)
  | .scalar _ stop (.string s) => findVariant (variants.map fun v => (v.tag, v)) s stop
  | node => .error (node.wrongType "variant identifier")

/-- Finds the tag among the entries of an object and reads the other entries. -/
def Entries.findTag {α : Type} (tag : String) (variants : List (Variant α)) :
    Option (Variant α) → Entries → Decoded (Variant α)
  | some v, .closed _ => .ok v
  | none, .closed stop => .error ⟨.missingField tag, stop⟩
  | _, .broken reading _ => .error reading
  | _, .entry (.error e) _ _ _ _ => .error e
  | seen, .entry (.ok key) afterKey value after rest =>
    if key = tag then
      if seen.isSome then .error ⟨.duplicateField tag, afterKey⟩
      else
        match settling after (decodeTag variants value) with
        | .error e => .error e
        | .ok v => rest.findTag tag variants (some v)
    else
      match value.content with
      | .error e => .error e
      | .ok _ => rest.findTag tag variants seen

/-- The entries under other keys than `key`. -/
def Entries.without (key : String) : Entries → Entries
  | .entry k afterKey value after rest =>
    match k with
    | .ok name =>
      if name = key then rest.without key
      else .entry (.ok name) afterKey value after (rest.without key)
    | .error e => .entry (.error e) afterKey value after (rest.without key)
  | entries => entries

/-- Reads a value whose variant is named by one of its fields, or by the first
item when it is given as an array. The fields of the variant are read once all
is set aside, so their errors have no place of their own. -/
def decodeTagged {α : Type} (tag type : String) (variants : List (Variant α)) : Decoder α
  | _, .object start true _ => .error (tooDeep start)
  | _, .object _ false entries => do
    let v ← entries.findTag tag variants none
    ((entries.without tag).record v.names (v.build .aside)).mapError (·.forget)
  | _, .list start true _ => .error (tooDeep start)
  | _, .list _ false (.closed stop) => .error ⟨.missingField tag, stop⟩
  | _, .list _ false (.broken reading _ _) => .error reading
  | _, .list _ false (.item node after rest) => do
    let v ← settling after (decodeTag variants node)
    let _ ← rest.content
    (rest.record .aside v.type v.names (v.build .aside)).mapError (·.forget)
  | _, node => .error (node.wrongType type)

end Document
end PageFlow
