/-
# Reading typed values out of a document

A decoder takes a part of a document and gives a value of some type or the
error that says what belongs there. Wrong scalars are noticed behind them,
wrong arrays and objects in front of them. An error that has no place yet gets
the one behind the item or entry it arose in. A text is read as a document of
some type when its value is one and nothing but blanks stands behind it.

Key definitions: `Origin`, `Decoder`, `decodeText`, `decodeList`, `decodeDict`,
`decodeOneOf`, `Document.parse`, `Document.parseJson`.
-/
import PageFlow.Document.Reader

namespace PageFlow
namespace Document

/-- How a part is given: in a text, as a JSON value, as a part set aside while it
is found out which variant it is, or in a settings file. -/
inductive Origin where
  | text
  | value
  | aside
  | settings
  deriving DecidableEq

/-- A way to read a type. -/
abbrev Decoder (α : Type) := Origin → Node → Decoded α

/-- The error of a part that is not of the expected kind. -/
def Node.wrongType (expected : String) : Node → DecodeError
  | .scalar _ stop value => ⟨.wrongType (.scalar value) expected, stop⟩
  | .spoiled _ _ error => error
  | .broken _ _ reading _ => reading
  | .list start _ _ => ⟨.wrongType .sequence expected, start⟩
  | .object start _ _ => ⟨.wrongType .map expected, start⟩

/-- Reads a string. -/
def decodeText : Decoder String
  | _, .scalar _ _ (.string s) => .ok s
  | _, node => .error (node.wrongType "a string")

/-- Reads a boolean. -/
def decodeBool : Decoder Bool
  | _, .scalar _ _ (.bool b) => .ok b
  | _, node => .error (node.wrongType "a boolean")

/-- Reads a number in binary floating point. -/
def decodeFloat : Decoder Binary64
  | _, .scalar _ _ (.number n) => .ok n.toBinary64
  | _, node => .error (node.wrongType "f64")

/-- Reads a natural number below `limit`. -/
def decodeNat (expected : String) (limit : Nat) : Decoder Nat
  | _, .scalar _ stop (.number (.integer n fits)) =>
    if 0 ≤ n ∧ n < limit then .ok n.toNat
    else .error ⟨.wrongValue (.scalar (.number (.integer n fits))) expected, stop⟩
  | _, node => .error (node.wrongType expected)

/-- Reads any value. -/
def decodeJson : Decoder Json := fun _ node => node.json

/-- Reads a value that may be `null`. -/
def decodeOption {α : Type} (decode : Decoder α) : Decoder (Option α)
  | _, .scalar _ _ .null => .ok none
  | origin, node => (decode origin node).map some

/-- Reads the items of an array. -/
def Items.decode {α : Type} (decode : Node → Decoded α) : Items → Decoded (List α)
  | .closed _ => .ok []
  | .broken reading _ _ => .error reading
  | .item node after rest =>
    match settling after (decode node) with
    | .error e => .error e
    | .ok x => (Items.decode decode rest).map (x :: ·)

/-- Reads the entries of an object, first to last. -/
def Entries.decode {α : Type} (decode : Node → Decoded α) :
    Entries → Decoded (List (String × α))
  | .closed _ => .ok []
  | .broken reading _ => .error reading
  | .entry (.error e) _ _ _ _ => .error e
  | .entry (.ok key) _ value after rest =>
    match settling after (decode value) with
    | .error e => .error e
    | .ok x => (Entries.decode decode rest).map ((key, x) :: ·)

/-- Reads an array. -/
def decodeList {α : Type} (decode : Decoder α) : Decoder (List α)
  | _, .list start true _ => .error (tooDeep start)
  | origin, .list _ false items => items.decode (decode origin)
  | _, node => .error (node.wrongType "a sequence")

/-- Reads an object as a dictionary; of equal keys the last counts. -/
def decodeDict {α : Type} (decode : Decoder α) : Decoder (Dict α)
  | _, .object start true _ => .error (tooDeep start)
  | origin, .object _ false entries => (entries.decode (decode origin)).map Dict.ofList
  | _, node => .error (node.wrongType "a map")

/-- Reads nothing, written `null`. -/
def decodeNothing : Decoder Unit
  | _, .scalar _ _ .null => .ok ()
  | _, node => .error (node.wrongType "unit")

/-- The variant of a given name. -/
def findVariant {α : Type} (variants : List (String × α)) (name : String) (place : Place) :
    Decoded α :=
  match variants.find? fun v => v.1 == name with
  | some v => .ok v.2
  | none => .error ⟨.unknownVariant name (variants.map (·.1)), place⟩

/-- The only entry of an object that names a variant in a text. -/
def decodeVariantEntry {α : Type} (variants : List (String × α)) : Entries → Decoded α
  | .closed stop => .error ⟨.fault .valueExpected, stop⟩
  | .broken reading _ =>
    match reading.complaint with
    | .fault .endInObject => .error { reading with complaint := .fault .endInValue }
    | .fault .keyNotString => .error { reading with complaint := .fault .valueExpected }
    | _ => .error reading
  | .entry (.error e) _ _ _ _ => .error e
  | .entry (.ok key) afterKey value after rest => do
    let variant ← findVariant variants key afterKey
    let () ← decodeNothing .text value
    match rest with
    | .closed _ => .ok variant
    | .broken ⟨.fault .endInObject, place⟩ _ => .error ⟨.fault .endInObject, place⟩
    | _ => .error ⟨.fault .valueExpected, after⟩

/-- Reads one of several names, written as a string or as an object with the
name as its only key and `null` as its value. -/
def decodeOneOf {α : Type} (variants : List (String × α)) : Decoder α
  | _, .scalar _ stop (.string s) => findVariant variants s stop
  | .text, .object start true _ => .error (tooDeep start)
  | .text, .object _ false entries => decodeVariantEntry variants entries
  | .text, .spoiled _ false error => .error error
  | .text, .broken _ false reading _ => .error reading
  | .text, node => .error ⟨.fault .valueExpected, node.start.next⟩
  | origin, .object _ _ (.entry (.ok key) _ value _ (.closed _)) => do
    let variant ← findVariant variants key none
    let () ← decodeNothing origin value
    return variant
  | _, .object start _ _ => .error ⟨.wrongValue .map "map with a single key", start⟩
  | _, node => .error (node.wrongType "string or map")

/-- Reads a text as a document. -/
def parse {α : Type} (decode : Decoder α) (text : List Char) : Decoded α :=
  let source := Source.ofText text
  match decode .text source.node, source.trailing with
  | .error e, _ => .error e
  | .ok _, some e => .error e
  | .ok x, none => .ok x

/-- Reads a text as a JSON value. -/
def parseJson : List Char → Decoded Json := parse decodeJson

end Document
end PageFlow
