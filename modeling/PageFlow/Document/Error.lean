/-
# Why a document cannot be read

A document is refused because its text is not JSON (`Fault`) or because the
value in some place is not what belongs there. An error in a text is placed:
it names the number of bytes read when it was noticed, which the message shows
as line and column. An error in a value that was not read from a text has no
place.

Key definitions: `Fault`, `Scalar`, `Complaint`, `DecodeError`,
`DecodeError.message`.
-/
import PageFlow.Json.Printer
import PageFlow.Text.Quoted

namespace PageFlow
namespace Document

/-- What is wrong with a text that is not JSON. -/
inductive Fault where
  | endInList | endInObject | endInString | endInValue
  | colonExpected | listCommaOrEnd | objectCommaOrEnd
  | wordExpected | valueExpected | keyNotString
  | invalidEscape | invalidNumber | numberOutOfRange
  | controlCharacter | loneSurrogate | halfSurrogatePair
  | trailingComma | trailingCharacters | tooDeep
  deriving DecidableEq

/-- The wording of a fault. -/
def Fault.message : Fault → String
  | .endInList => "EOF while parsing a list"
  | .endInObject => "EOF while parsing an object"
  | .endInString => "EOF while parsing a string"
  | .endInValue => "EOF while parsing a value"
  | .colonExpected => "expected `:`"
  | .listCommaOrEnd => "expected `,` or `]`"
  | .objectCommaOrEnd => "expected `,` or `\x7d`"
  | .wordExpected => "expected ident"
  | .valueExpected => "expected value"
  | .keyNotString => "key must be a string"
  | .invalidEscape => "invalid escape"
  | .invalidNumber => "invalid number"
  | .numberOutOfRange => "number out of range"
  | .controlCharacter => "control character (\\u0000-\\u001F) found while parsing a string"
  | .loneSurrogate => "lone leading surrogate in hex escape"
  | .halfSurrogatePair => "unexpected end of hex escape"
  | .trailingComma => "trailing comma"
  | .trailingCharacters => "trailing characters"
  | .tooDeep => "recursion limit exceeded"

/-- A value without parts. -/
inductive Scalar where
  | null
  | bool (value : Bool)
  | number (value : Number)
  | string (value : String)

/-- The scalar as a JSON value. -/
def Scalar.json : Scalar → Json
  | .null => .null
  | .bool b => .bool b
  | .number n => .number n
  | .string s => .string s

/-- The kind of value that stands in a place. -/
inductive Found where
  | scalar (value : Scalar)
  | sequence
  | map

/-- How a message names what it found. -/
def Found.text : Found → String
  | .scalar .null => "null"
  | .scalar (.bool b) => "boolean `" ++ (if b then "true" else "false") ++ "`"
  | .scalar (.number (.integer n h)) => "integer `" ++ (Number.integer n h).text ++ "`"
  | .scalar (.number (.float x)) => "floating point `" ++ x.text ++ "`"
  | .scalar (.string s) => "string " ++ Text.quoted s
  | .sequence => "sequence"
  | .map => "map"

/-- A set of alternatives as a message lists them. -/
def alternatives : List String → String
  | [] => "there are no variants"
  | [a] => "expected `" ++ a ++ "`"
  | [a, b] => "expected `" ++ a ++ "` or `" ++ b ++ "`"
  | names => "expected one of " ++ ", ".intercalate (names.map fun n => "`" ++ n ++ "`")

/-- Why a document is refused. -/
inductive Complaint where
  | fault (fault : Fault)
  | wrongType (found : Found) (expected : String)
  | wrongValue (found : Found) (expected : String)
  | wrongLength (length : Nat) (expected : String)
  | missingField (name : String)
  | duplicateField (name : String)
  | unknownVariant (name : String) (known : List String)
  | noVariant (type : String)

/-- The wording of a complaint. -/
def Complaint.message : Complaint → String
  | .fault f => f.message
  | .wrongType found expected => "invalid type: " ++ found.text ++ ", expected " ++ expected
  | .wrongValue found expected => "invalid value: " ++ found.text ++ ", expected " ++ expected
  | .wrongLength n expected => "invalid length " ++ toString n ++ ", expected " ++ expected
  | .missingField name => "missing field `" ++ name ++ "`"
  | .duplicateField name => "duplicate field `" ++ name ++ "`"
  | .unknownVariant name known => "unknown variant `" ++ name ++ "`, " ++ alternatives known
  | .noVariant type => "data did not match any variant of untagged enum " ++ type

/-- A place in a text, as the number of bytes before it; values that were not
read from a text have none. -/
abbrev Place := Option Nat

/-- A complaint and the place where it arose. -/
structure DecodeError where
  complaint : Complaint
  place : Place

/-- The outcome of reading something. -/
abbrev Decoded (α : Type) := Except DecodeError α

namespace DecodeError

/-- A fault at a place. -/
def atPlace (f : Fault) (place : Nat) : DecodeError := ⟨.fault f, some place⟩

/-- A complaint that has no place yet. -/
def unplaced (c : Complaint) : DecodeError := ⟨c, none⟩

/-- The error at the given place, unless it has one already. -/
def settle (place : Place) (e : DecodeError) : DecodeError :=
  { e with place := e.place.or place }

/-- The error without its place. -/
def forget (e : DecodeError) : DecodeError := { e with place := none }

/-- The line, from 1, and the column of the place `bytes` behind the start of
the characters; `line` and `column` are those of the start. -/
def lineColumn (line column : Nat) : List Char → Nat → Nat × Nat
  | [], bytes => (line, column + bytes)
  | c :: rest, bytes =>
    if bytes < c.utf8Size then (line, column + bytes)
    else if c = '\n' then lineColumn (line + 1) 0 rest (bytes - c.utf8Size)
    else lineColumn line (column + c.utf8Size) rest (bytes - c.utf8Size)

/-- The wording of an error in a text. -/
def message (e : DecodeError) (text : List Char) : String :=
  match e.place with
  | none => e.complaint.message
  | some place =>
    let (line, column) := lineColumn 1 0 text place
    e.complaint.message ++ " at line " ++ toString line ++ " column " ++ toString column

end DecodeError

/-- Puts an error of `outcome` at the given place, unless it has one. -/
def settling {α : Type} (place : Place) (outcome : Decoded α) : Decoded α :=
  outcome.mapError (·.settle place)

end Document
end PageFlow
