/-
# The text of a settings file

What a settings file is made of below its values: blanks, comments, line
breaks, strings in four spellings and dotted keys. A reader takes what it reads
off the front of the unread characters; `none` means that it is not there.

Key definitions: `Toml.Reader`, `Toml.lineEnd`, `Toml.skipLines`,
`Toml.readString`, `Toml.readKey`.
-/
import PageFlow.Text.Bytes

namespace PageFlow
namespace Toml

/-- A way to read something: what it is and the characters behind it. -/
abbrev Reader (α : Type) := List Char → Option (α × List Char)

/-- The outcome of a reader with `f` applied to what was read. -/
def mapRead {α β : Type} (f : α → β) : Option (α × List Char) → Option (β × List Char) :=
  Option.map fun r => (f r.1, r.2)

/-- Whether a character is a blank. -/
def isBlank (c : Char) : Bool := c == ' ' || c == '\t'

/-- Whether a character may stand in a comment or a string: all but the control
characters other than tabs. -/
def isPlain (c : Char) : Bool :=
  c == '\t' || (decide (32 ≤ c.toNat) && c.toNat != 127)

/-- Whether a character may stand in a key without quotes. -/
def isBare (c : Char) : Bool := c.isAlphanum || c == '_' || c == '-'

/-- The characters behind the blanks. -/
def skipBlanks (cs : List Char) : List Char := cs.dropWhile isBlank

/-- The characters behind a comment, if one stands here. -/
def skipComment : List Char → List Char
  | '#' :: rest => rest.dropWhile isPlain
  | cs => cs

/-- The characters behind a line break. -/
def afterBreak : List Char → Option (List Char)
  | '\n' :: rest => some rest
  | '\r' :: '\n' :: rest => some rest
  | _ => none

/-- The characters behind the rest of a line that holds at most a comment. -/
def lineEnd (cs : List Char) : Option (List Char) :=
  match skipComment (skipBlanks cs) with
  | [] => some []
  | rest => afterBreak rest

/-- The characters behind at most `count` lines without values, and blanks. -/
def skipSomeLines : Nat → List Char → List Char
  | 0, cs => cs
  | count + 1, cs =>
    match afterBreak (skipComment (skipBlanks cs)) with
    | some rest => skipSomeLines count rest
    | none => skipBlanks cs

/-- The characters behind all blanks, comments and line breaks. -/
def skipLines (cs : List Char) : List Char := skipSomeLines cs.length cs

/-- The character of an escape with one letter. -/
def letterEscape (c : Char) : Option Char :=
  match c with
  | 'b' => some (Char.ofNat 8)
  | 't' => some '\t'
  | 'n' => some '\n'
  | 'f' => some (Char.ofNat 12)
  | 'r' => some '\r'
  | '"' => some '"'
  | '\\' => some '\\'
  | _ => none

/-- The character with a number in hexadecimal digits. -/
def numberEscape (digits : List Char) : Option Char :=
  (Text.hexValue digits).bind fun n => if n.isValidChar then some (Char.ofNat n) else none

/-- Prepends a character, if there is one, to the characters of a string. -/
def withChar (c : Option Char) (rest : Option (List Char × List Char)) :
    Option (List Char × List Char) :=
  c.bind fun c => mapRead (c :: ·) rest

/-- The rest of a string in double quotes on one line. -/
def quotedRest : Reader (List Char)
  | '"' :: rest => some ([], rest)
  | '\\' :: 'u' :: a :: b :: c :: d :: rest =>
    withChar (numberEscape [a, b, c, d]) (quotedRest rest)
  | '\\' :: 'U' :: a :: b :: c :: d :: e :: f :: g :: h :: rest =>
    withChar (numberEscape [a, b, c, d, e, f, g, h]) (quotedRest rest)
  | '\\' :: c :: rest => withChar (letterEscape c) (quotedRest rest)
  | c :: rest => if isPlain c then withChar (some c) (quotedRest rest) else none
  | [] => none

/-- The rest of a string in single quotes on one line. -/
def literalRest : Reader (List Char)
  | '\'' :: rest => some ([], rest)
  | c :: rest => if isPlain c then withChar (some c) (literalRest rest) else none
  | [] => none

/-- What a backslash at the end of a line has done so far. -/
inductive Joint where
  /-- There is none: characters count. -/
  | none
  /-- The line break behind it is still to come. -/
  | awaited
  /-- Blanks and line breaks before the next character do not count. -/
  | passed
  deriving DecidableEq

/-- The rest of a string in double quotes over several lines. Up to two quotes
before the three that end it belong to it. -/
def longQuotedRest (joint : Joint) : Reader (List Char)
  | '\n' :: rest =>
    if joint = .none then withChar (some '\n') (longQuotedRest .none rest)
    else longQuotedRest .passed rest
  | '\r' :: '\n' :: rest =>
    if joint = .none then withChar (some '\n') (longQuotedRest .none rest)
    else longQuotedRest .passed rest
  | c :: rest =>
    if joint ≠ .none ∧ isBlank c then longQuotedRest joint rest
    else if joint = .awaited then none
    else
      match c, rest with
      | '"', '"' :: '"' :: '"' :: '"' :: rest => some (['"', '"'], rest)
      | '"', '"' :: '"' :: '"' :: rest => some (['"'], rest)
      | '"', '"' :: '"' :: rest => some ([], rest)
      | '\\', 'u' :: a :: b :: c :: d :: rest =>
        withChar (numberEscape [a, b, c, d]) (longQuotedRest .none rest)
      | '\\', 'U' :: a :: b :: c :: d :: e :: f :: g :: h :: rest =>
        withChar (numberEscape [a, b, c, d, e, f, g, h]) (longQuotedRest .none rest)
      | '\\', '\n' :: rest => longQuotedRest .passed rest
      | '\\', '\r' :: '\n' :: rest => longQuotedRest .passed rest
      | '\\', c :: rest =>
        if isBlank c then longQuotedRest .awaited rest
        else withChar (letterEscape c) (longQuotedRest .none rest)
      | c, rest => if isPlain c then withChar (some c) (longQuotedRest .none rest) else none
  | [] => none

/-- The rest of a string in single quotes over several lines. -/
def longLiteralRest : Reader (List Char)
  | '\'' :: '\'' :: '\'' :: '\'' :: '\'' :: rest => some (['\'', '\''], rest)
  | '\'' :: '\'' :: '\'' :: '\'' :: rest => some (['\''], rest)
  | '\'' :: '\'' :: '\'' :: rest => some ([], rest)
  | '\n' :: rest => withChar (some '\n') (longLiteralRest rest)
  | '\r' :: '\n' :: rest => withChar (some '\n') (longLiteralRest rest)
  | c :: rest => if isPlain c then withChar (some c) (longLiteralRest rest) else none
  | [] => none

/-- The characters behind the line break that may follow the opening quotes. -/
def skipBreak (cs : List Char) : List Char := (afterBreak cs).getD cs

/-- Reads a string in any of its four spellings. -/
def readString : Reader String := fun cs =>
  mapRead String.ofList <|
    match cs with
    | '"' :: '"' :: '"' :: rest => longQuotedRest .none (skipBreak rest)
    | '\'' :: '\'' :: '\'' :: rest => longLiteralRest (skipBreak rest)
    | '"' :: rest => quotedRest rest
    | '\'' :: rest => literalRest rest
    | _ => none

/-- Reads one part of a key. -/
def readKeyPart : Reader String := fun cs =>
  match cs with
  | '"' :: rest => mapRead String.ofList (quotedRest rest)
  | '\'' :: rest => mapRead String.ofList (literalRest rest)
  | _ =>
    let part := cs.takeWhile isBare
    if part.isEmpty then none else some (String.ofList part, cs.dropWhile isBare)

/-- The parts of a key in front of its last part, and the last part. -/
abbrev Key := List String × String

/-- Reads a key of at most `count` parts with dots between them. -/
def readKeyParts : Nat → Reader Key
  | 0, _ => none
  | count + 1, cs => do
    let (part, rest) ← readKeyPart (skipBlanks cs)
    match skipBlanks rest with
    | '.' :: rest => mapRead (fun key => (part :: key.1, key.2)) (readKeyParts count rest)
    | rest => some (([], part), rest)

/-- How deep keys and values go. -/
def depthLimit : Nat := 79

/-- Reads a key. -/
def readKey : Reader Key := readKeyParts depthLimit

end Toml
end PageFlow
