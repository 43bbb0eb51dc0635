/-
# The tree of a document

A document is decoded from a tree that also covers texts which are not JSON:
the tree goes as far as the text can be followed and then holds the fault.
A fault matters only to a decoder that gets there. A field that is not known
is skipped, which is less strict than reading it: numbers may be out of range,
surrogates may stand alone and nesting may be deep, and some faults have other
names. So a place that cannot be followed holds two errors, one for reading
and one for skipping.

A part of a text knows the places that errors are settled at: where it starts,
where it ends, and the place after it, once the blanks and the bracket or comma
behind it are taken. In the tree of a JSON value there are no places.

Key definitions: `Node`, `Node.ofJson`, `Node.content`, `Node.skip`.
-/
import PageFlow.Document.Error

namespace PageFlow
namespace Document

mutual

/-- A part of a document. -/
inductive Node where
  /-- A value without parts. -/
  | scalar (start stop : Place) (value : Scalar)
  /-- A string, or a bare number, that can be skipped but not read. -/
  | spoiled (start : Place) (bare : Bool) (error : DecodeError)
  /-- No value can be followed here; `bare` tells that one seems to start here
  which is no string, array or object. -/
  | broken (start : Place) (bare : Bool) (reading skipping : DecodeError)
  /-- An array; a deep one can be skipped but not read. -/
  | list (start : Place) (deep : Bool) (items : Items)
  /-- An object; a deep one can be skipped but not read. -/
  | object (start : Place) (deep : Bool) (entries : Entries)

/-- The items of an array. -/
inductive Items where
  /-- The array ends here. -/
  | closed (stop : Place)
  /-- No item and no end can be followed here; a decoder that wants no more
  items has an error of its own. -/
  | broken (reading skipping closing : DecodeError)
  /-- An item, the place after it, and what follows. -/
  | item (node : Node) (after : Place) (rest : Items)

/-- The entries of an object. -/
inductive Entries where
  /-- The object ends here. -/
  | closed (stop : Place)
  /-- No entry and no end can be followed here. -/
  | broken (reading skipping : DecodeError)
  /-- An entry: its key, the place after the key, its value, the place after
  the value, and what follows. -/
  | entry (key : Decoded String) (afterKey : Place) (value : Node) (after : Place)
      (rest : Entries)

end

mutual

/-- The tree of a JSON value. -/
def Node.ofJson : Json → Node
  | .null => .scalar none none .null
  | .bool b => .scalar none none (.bool b)
  | .number n => .scalar none none (.number n)
  | .string s => .scalar none none (.string s)
  | .array items => .list none false (Items.ofJson items)
  | .object fields => .object none false (Entries.ofJson fields)

/-- The tree of the items of an array. -/
def Items.ofJson : List Json → Items
  | [] => .closed none
  | x :: rest => .item (Node.ofJson x) none (Items.ofJson rest)

/-- The tree of the fields of an object. -/
def Entries.ofJson : List (String × Json) → Entries
  | [] => .closed none
  | (k, x) :: rest => .entry (.ok k) none (Node.ofJson x) none (Entries.ofJson rest)

end

/-- The place behind the first byte at a place. -/
def Place.next (place : Place) : Place := place.map (· + 1)

/-- Where a part starts. -/
def Node.start : Node → Place
  | .scalar start _ _ => start
  | .spoiled start _ _ => start
  | .broken start _ _ _ => start
  | .list start _ _ => start
  | .object start _ _ => start

/-- The error of reading a deep array or object. -/
def tooDeep (start : Place) : DecodeError := ⟨.fault .tooDeep, start.next⟩

mutual

/-- Reads a part as it stands: the fields of objects in the order of the text,
with all of equal keys. -/
def Node.content : Node → Decoded Json
  | .scalar _ _ value => .ok value.json
  | .spoiled _ _ error => .error error
  | .broken _ _ reading _ => .error reading
  | .list start true _ => .error (tooDeep start)
  | .list _ false items => (Items.content items).map .array
  | .object start true _ => .error (tooDeep start)
  | .object _ false entries => (Entries.content entries).map .object

/-- Reads all items. -/
def Items.content : Items → Decoded (List Json)
  | .closed _ => .ok []
  | .broken reading _ _ => .error reading
  | .item node _ rest =>
    match Node.content node with
    | .error e => .error e
    | .ok x => (Items.content rest).map (x :: ·)

/-- Reads all entries. -/
def Entries.content : Entries → Decoded (List (String × Json))
  | .closed _ => .ok []
  | .broken reading _ => .error reading
  | .entry (.error e) _ _ _ _ => .error e
  | .entry (.ok key) _ value _ rest =>
    match Node.content value with
    | .error e => .error e
    | .ok x => (Entries.content rest).map ((key, x) :: ·)

end

mutual

/-- The error that skipping a part meets, if any. -/
def Node.skip : Node → Option DecodeError
  | .scalar _ _ _ => none
  | .spoiled _ _ _ => none
  | .broken _ _ _ skipping => some skipping
  | .list _ _ items => Items.skip items
  | .object _ _ entries => Entries.skip entries

/-- The error that skipping the items meets, if any. -/
def Items.skip : Items → Option DecodeError
  | .closed _ => none
  | .broken _ skipping _ => some skipping
  | .item node _ rest => (Node.skip node).or (Items.skip rest)

/-- The error that skipping the entries meets, if any. -/
def Entries.skip : Entries → Option DecodeError
  | .closed _ => none
  | .broken _ skipping => some skipping
  | .entry _ _ value _ rest => (Node.skip value).or (Entries.skip rest)

end

/-- Reads a part as a JSON value: of equal keys the last counts. -/
def Node.json (node : Node) : Decoded Json := node.content.map Json.canonical

mutual

theorem Node.content_ofJson : ∀ j : Json, (Node.ofJson j).content = .ok j
  | .null => rfl
  | .bool _ => rfl
  | .number _ => rfl
  | .string _ => rfl
  | .array items => by
    simp [Node.ofJson, Node.content, Items.content_ofJson items, Except.map]
  | .object fields => by
    simp [Node.ofJson, Node.content, Entries.content_ofJson fields, Except.map]

theorem Items.content_ofJson : ∀ xs : List Json, (Items.ofJson xs).content = .ok xs
  | [] => rfl
  | x :: rest => by
    simp [Items.ofJson, Items.content, Node.content_ofJson x, Items.content_ofJson rest,
      Except.map]

theorem Entries.content_ofJson :
    ∀ fs : List (String × Json), (Entries.ofJson fs).content = .ok fs
  | [] => rfl
  | (k, x) :: rest => by
    simp [Entries.ofJson, Entries.content, Node.content_ofJson x, Entries.content_ofJson rest,
      Except.map]

end

end Document
end PageFlow
