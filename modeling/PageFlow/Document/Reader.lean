/-
# From a text to its tree

The tree of a text is read in one pass over the characters, with the number of
bytes before the current one at hand. Each step returns the tree of what it
followed and, unless the text cannot be followed further, what is left.

Key definitions: `Cursor`, `Cursor.readNode`, `Source.ofText`.
-/
import PageFlow.Document.Node
import PageFlow.Text.Bytes

namespace PageFlow
namespace Document

/-- The unread characters of a text and the number of bytes before them. -/
structure Cursor where
  chars : List Char
  place : Nat

namespace Cursor

/-- The number of bytes of some characters. -/
def byteCount (cs : List Char) : Nat := cs.foldl (fun n c => n + c.utf8Size) 0

/-- JSON blanks: space, tab, line feed and carriage return. -/
def isBlank (c : Char) : Bool := c == ' ' || c == '\t' || c == '\n' || c == '\r'

/-- The cursor behind the blanks at it. -/
def skipBlanks (cur : Cursor) : Cursor :=
  ⟨cur.chars.dropWhile isBlank, cur.place + (cur.chars.takeWhile isBlank).length⟩

/-- The cursor behind `count` one-byte characters. -/
def advance (cur : Cursor) (count : Nat) : Cursor := ⟨cur.chars.drop count, cur.place + count⟩

/-- A fault at the next character; at the end of the text, there. -/
def faultAhead (cur : Cursor) (f : Fault) : DecodeError :=
  .atPlace f (if cur.chars.isEmpty then cur.place else cur.place + 1)

/-- A fault behind the last character read. -/
def faultHere (cur : Cursor) (f : Fault) : DecodeError := .atPlace f cur.place

/-- The error of a short hexadecimal escape whose digits should start at `place`. -/
def shortEscape (cs : List Char) (place : Nat) : DecodeError :=
  let count := byteCount cs
  if count < 4 then .atPlace .endInString (place + count) else .atPlace .invalidEscape (place + 4)

/-- The character of an escape of one letter. -/
def plainEscape (c : Char) : Option Char :=
  match c with
  | '"' => some '"'
  | '\\' => some '\\'
  | '/' => some '/'
  | 'b' => some (Char.ofNat 8)
  | 'f' => some (Char.ofNat 12)
  | 'n' => some '\n'
  | 'r' => some '\r'
  | 't' => some '\t'
  | _ => none

/-- Prepends a character to a string that was read. -/
def withChar (c : Char) : Decoded (List Char × Cursor) → Decoded (List Char × Cursor) :=
  Except.map fun r => (c :: r.1, r.2)

/-- Reads a string whose opening quote has been taken. -/
def readString : List Char → Nat → Decoded (List Char × Cursor)
  | [], place => .error (.atPlace .endInString place)
  | ['\\'], place => .error (.atPlace .endInString (place + 1))
  | '\\' :: 'u' :: a :: b :: c :: d :: rest, place =>
    match Text.hexValue [a, b, c, d] with
    | none => .error (.atPlace .invalidEscape (place + 6))
    | some n =>
      if 0xDC00 ≤ n ∧ n ≤ 0xDFFF then .error (.atPlace .loneSurrogate (place + 6))
      else if n < 0xD800 ∨ 0xDBFF < n then withChar (Char.ofNat n) (readString rest (place + 6))
      else
        match rest with
        | [] => .error (.atPlace .endInString (place + 6))
        | ['\\'] => .error (.atPlace .endInString (place + 7))
        | '\\' :: 'u' :: a' :: b' :: c' :: d' :: rest' =>
          match Text.hexValue [a', b', c', d'] with
          | none => .error (.atPlace .invalidEscape (place + 12))
          | some m =>
            if m < 0xDC00 ∨ 0xDFFF < m then .error (.atPlace .loneSurrogate (place + 12))
            else
              withChar (Char.ofNat (0x10000 + (n - 0xD800) * 0x400 + (m - 0xDC00)))
                (readString rest' (place + 12))
        | '\\' :: 'u' :: rest' => .error (shortEscape rest' (place + 8))
        | '\\' :: _ => .error (.atPlace .halfSurrogatePair (place + 8))
        | _ :: _ => .error (.atPlace .halfSurrogatePair (place + 7))
  | '\\' :: 'u' :: rest, place => .error (shortEscape rest (place + 2))
  | '\\' :: c :: rest, place =>
    match plainEscape c with
    | some e => withChar e (readString rest (place + 2))
    | none => .error (.atPlace .invalidEscape (place + 2))
  | '"' :: rest, place => .ok ([], ⟨rest, place + 1⟩)
  | c :: rest, place =>
    if c.toNat < 32 then .error (.atPlace .controlCharacter (place + 1))
    else withChar c (readString rest (place + c.utf8Size))

/-- Skips a string whose opening quote has been taken. -/
def skipString : List Char → Nat → Decoded Cursor
  | [], place => .error (.atPlace .endInString place)
  | ['\\'], place => .error (.atPlace .endInString (place + 1))
  | '\\' :: 'u' :: a :: b :: c :: d :: rest, place =>
    match Text.hexValue [a, b, c, d] with
    | none => .error (.atPlace .invalidEscape (place + 6))
    | some _ => skipString rest (place + 6)
  | '\\' :: 'u' :: rest, place => .error (shortEscape rest (place + 2))
  | '\\' :: c :: rest, place =>
    match plainEscape c with
    | some _ => skipString rest (place + 2)
    | none => .error (.atPlace .invalidEscape (place + 2))
  | '"' :: rest, place => .ok ⟨rest, place + 1⟩
  | c :: rest, place =>
    if c.toNat < 32 then .error (.atPlace .controlCharacter place)
    else skipString rest (place + c.utf8Size)

/-- Reads the rest of a word whose first letter has been taken. -/
def readWord : List Char → Cursor → Decoded Cursor
  | [], cur => .ok cur
  | expected :: word, ⟨c :: rest, place⟩ =>
    if c = expected then readWord word ⟨rest, place + 1⟩
    else .error (.atPlace .wordExpected (place + 1))
  | _ :: _, ⟨[], place⟩ => .error (.atPlace .endInValue place)

/-- Digits at the cursor, and the cursor behind them. -/
def readDigits (cur : Cursor) : List Char × Cursor :=
  let ds := cur.chars.takeWhile Char.isDigit
  (ds, cur.advance ds.length)

/-- Two errors of a numeral, for reading and for skipping it. -/
abbrev NumeralFault := DecodeError × DecodeError

/-- Reads the digits before the point. -/
def readWhole (cur : Cursor) : Except NumeralFault (List Char × Cursor) :=
  match cur.chars with
  | [] =>
    .error (cur.faultHere .endInValue, cur.faultHere .invalidNumber)
  | '0' :: rest =>
    let next : Cursor := ⟨rest, cur.place + 1⟩
    match rest with
    | c :: _ =>
      if c.isDigit then .error (next.faultAhead .invalidNumber, next.faultAhead .invalidNumber)
      else .ok (['0'], next)
    | [] => .ok (['0'], next)
  | c :: _ =>
    if c.isDigit then .ok cur.readDigits
    else .error (.atPlace .invalidNumber (cur.place + 1), .atPlace .invalidNumber (cur.place + 1))

/-- Reads a point and the digits behind it, if there is a point. -/
def readFraction (cur : Cursor) : Except NumeralFault (Option (List Char) × Cursor) :=
  match cur.chars with
  | '.' :: rest =>
    let (ds, next) := readDigits ⟨rest, cur.place + 1⟩
    if ds.isEmpty then
      let f : Fault := if next.chars.isEmpty then .endInValue else .invalidNumber
      .error (next.faultAhead f, next.faultAhead .invalidNumber)
    else .ok (some ds, next)
  | _ => .ok (none, cur)

/-- Reads an exponent, if there is one: whether it is negative, and its digits. -/
def readExponent (cur : Cursor) : Except NumeralFault (Option (Bool × List Char) × Cursor) :=
  match cur.chars with
  | e :: rest =>
    if e = 'e' ∨ e = 'E' then
      let signed : Bool × Cursor :=
        match rest with
        | '+' :: rest' => (false, ⟨rest', cur.place + 2⟩)
        | '-' :: rest' => (true, ⟨rest', cur.place + 2⟩)
        | _ => (false, ⟨rest, cur.place + 1⟩)
      let (ds, next) := signed.2.readDigits
      if ds.isEmpty then
        match next.chars with
        | [] => .error (next.faultHere .endInValue, next.faultHere .invalidNumber)
        | _ :: _ => .error (next.faultAhead .invalidNumber, next.faultAhead .invalidNumber)
      else .ok (some (signed.1, ds), next)
    else .ok (none, cur)
  | [] => .ok (none, cur)

/-- Reads a numeral, with a minus sign in front if `negative`. -/
def readNumeral (negative : Bool) (cur : Cursor) : Except NumeralFault (Numeral × Cursor) := do
  let (whole, cur) ← cur.readWhole
  let (fraction, cur) ← cur.readFraction
  let (exponent, cur) ← cur.readExponent
  return (⟨negative, whole, fraction, exponent⟩, cur)

/-- The tree of a part and what is left behind it; nothing is left when the
text cannot be followed. -/
abbrev Reading (α : Type) := α × Option Cursor

/-- The tree of a number that starts at `start`; the cursor is behind its sign. -/
def readNumber (start : Nat) (negative : Bool) (cur : Cursor) : Reading Node :=
  match readNumeral negative cur with
  | .error (reading, skipping) => (.broken (some start) true reading skipping, none)
  | .ok (numeral, next) =>
    match numeral.value with
    | some n => (.scalar (some start) (some next.place) (.number n), some next)
    | none =>
      let place := next.place - numeral.unreadOnRange
      (.spoiled (some start) true (.atPlace .numberOutOfRange place), some next)

/-- The tree of a string that starts at `start`; the cursor is behind its quote. -/
def readText (start : Nat) (cur : Cursor) : Reading Node :=
  match readString cur.chars cur.place, skipString cur.chars cur.place with
  | .ok (cs, next), _ =>
    (.scalar (some start) (some next.place) (.string (String.ofList cs)), some next)
  | .error e, .ok next => (.spoiled (some start) false e, some next)
  | .error e, .error e' => (.broken (some start) false e e', none)

/-- The tree of a word that starts at `start`; the cursor is behind its first letter. -/
def readConstant (start : Nat) (word : String) (value : Scalar) (cur : Cursor) : Reading Node :=
  match readWord word.toList cur with
  | .ok next => (.scalar (some start) (some next.place) value, some next)
  | .error e => (.broken (some start) true e e, none)

/-- The place where an error about an item is settled: its end, behind blanks
and a closing bracket, or behind a comma and its blanks. -/
def afterItem (cur : Cursor) : Nat :=
  let cur := cur.skipBlanks
  match cur.chars with
  | ']' :: _ => cur.place + 1
  | ',' :: rest => (skipBlanks ⟨rest, cur.place + 1⟩).place
  | _ => cur.place

/-- The place where an error about an entry is settled: behind blanks and a
closing brace. -/
def afterEntry (cur : Cursor) : Nat :=
  let cur := cur.skipBlanks
  match cur.chars with
  | '\x7d' :: _ => cur.place + 1
  | _ => cur.place

/-- The number of arrays and objects that a part may stand in to be read. -/
def depthLimit : Nat := 127

mutual

/-- Reads the part at the cursor, which stands in `depth` arrays and objects. -/
def readNode (depth : Nat) : Nat → Cursor → Reading Node
  | 0, cur =>
    (.broken (some cur.place) false (cur.faultHere .endInValue) (cur.faultHere .endInValue), none)
  | fuel + 1, cur =>
    let start := cur.place
    let deep := decide (depthLimit ≤ depth)
    match cur.chars with
    | [] =>
      (.broken (some start) false (cur.faultAhead .endInValue) (cur.faultAhead .endInValue), none)
    | c :: rest =>
      let next : Cursor := ⟨rest, start + 1⟩
      if c = 'n' then readConstant start "ull" .null next
      else if c = 't' then readConstant start "rue" (.bool true) next
      else if c = 'f' then readConstant start "alse" (.bool false) next
      else if c = '"' then readText start next
      else if c = '-' then readNumber start true next
      else if c.isDigit then readNumber start false cur
      else if c = '[' then
        let (items, left) := readItems (depth + 1) fuel true next
        (.list (some start) deep items, left)
      else if c = '\x7b' then
        let (entries, left) := readEntries (depth + 1) fuel true next
        (.object (some start) deep entries, left)
      else
        let e := cur.faultAhead .valueExpected
        (.broken (some start) true e e, none)

/-- Reads the items of an array; `first` tells that none has been read. -/
def readItems (depth : Nat) : Nat → Bool → Cursor → Reading Items
  | 0, _, cur =>
    let e := cur.faultHere .endInList
    (.broken e e e, none)
  | fuel + 1, first, cur =>
    let cur := cur.skipBlanks
    let proceed (cur : Cursor) : Reading Items :=
      match readNode depth fuel cur with
      | (node, none) =>
        let e := cur.faultHere .endInList
        (.item node none (.broken e e e), none)
      | (node, some next) =>
        let (rest, left) := readItems depth fuel false next
        (.item node (some next.afterItem) rest, left)
    match cur.chars with
    | [] =>
      let e := cur.faultAhead .endInList
      (.broken e e e, none)
    | ']' :: rest => (.closed (some (cur.place + 1)), some ⟨rest, cur.place + 1⟩)
    | c :: rest =>
      if first then proceed cur
      else if c = ',' then
        let cur := skipBlanks ⟨rest, cur.place + 1⟩
        match cur.chars with
        | [] =>
          let e := cur.faultAhead .endInValue
          (.broken e e (cur.faultAhead .trailingCharacters), none)
        | ']' :: _ =>
          (.broken (cur.faultAhead .trailingComma) (cur.faultAhead .valueExpected)
            (cur.faultAhead .trailingComma), none)
        | _ :: _ => proceed cur
      else
        let e := cur.faultAhead .listCommaOrEnd
        (.broken e e (cur.faultAhead .trailingCharacters), none)

/-- Reads the entries of an object; `first` tells that none has been read. -/
def readEntries (depth : Nat) : Nat → Bool → Cursor → Reading Entries
  | 0, _, cur =>
    let e := cur.faultHere .endInObject
    (.broken e e, none)
  | fuel + 1, first, cur =>
    let cur := cur.skipBlanks
    let value (cur : Cursor) : Reading Node :=
      let cur := cur.skipBlanks
      match cur.chars with
      | [] =>
        let e := cur.faultAhead .endInObject
        (.broken (some cur.place) false e e, none)
      | ':' :: rest => readNode depth fuel (skipBlanks ⟨rest, cur.place + 1⟩)
      | _ :: _ =>
        let e := cur.faultAhead .colonExpected
        (.broken (some cur.place) false e e, none)
    let proceed (cur : Cursor) : Reading Entries :=
      match cur.chars with
      | '"' :: rest =>
        let text := readString rest (cur.place + 1)
        match skipString rest (cur.place + 1) with
        | .error e =>
          (.broken (match text with | .error e' => e' | .ok _ => e) e, none)
        | .ok behind =>
          let key := text.map fun r => String.ofList r.1
          match value behind with
          | (node, none) =>
            let e := behind.faultHere .endInObject
            (.entry key (some behind.afterEntry) node none (.broken e e), none)
          | (node, some next) =>
            let (rest, left) := readEntries depth fuel false next
            (.entry key (some behind.afterEntry) node (some next.afterEntry) rest, left)
      | _ =>
        let e := cur.faultAhead .keyNotString
        (.broken e e, none)
    match cur.chars with
    | [] =>
      let e := cur.faultAhead .endInObject
      (.broken e e, none)
    | '\x7d' :: rest => (.closed (some (cur.place + 1)), some ⟨rest, cur.place + 1⟩)
    | c :: rest =>
      if first then proceed cur
      else if c = ',' then
        let cur := skipBlanks ⟨rest, cur.place + 1⟩
        match cur.chars with
        | [] => (.broken (cur.faultAhead .endInValue) (cur.faultAhead .endInObject), none)
        | '\x7d' :: _ =>
          (.broken (cur.faultAhead .trailingComma) (cur.faultAhead .keyNotString), none)
        | _ :: _ => proceed cur
      else
        let e := cur.faultAhead .objectCommaOrEnd
        (.broken e e, none)

end

end Cursor

/-- The tree of a text, and the error of what stands behind its value, if any. -/
structure Source where
  node : Node
  trailing : Option DecodeError

/-- Reads a text. Every step of the reader takes a character or enters an item
or entry, so twice the length of the text bounds their number. -/
def Source.ofText (text : List Char) : Source :=
  let cur := Cursor.skipBlanks ⟨text, 0⟩
  let (node, left) := Cursor.readNode 0 (2 * text.length + 2) cur
  let trailing := left.bind fun cur =>
    let cur := cur.skipBlanks
    if cur.chars.isEmpty then none else some (cur.faultAhead .trailingCharacters)
  ⟨node, trailing⟩

end Document
end PageFlow
