/-
# Writing JSON text

`Json.compact` writes a value without blanks; `Json.pretty` writes one item or
field to a line, indented by two blanks a level. Fields come out in the order
the value lists them. In strings the quote, the backslash and the characters
below U+0020 are escaped, and nothing else.

Key definitions: `Json.compact`, `Json.pretty`, `Json.quote`.
-/
import PageFlow.Json

namespace PageFlow
namespace Json

/-- The digits of an escaped control character. -/
def hexDigits (c : Char) : List Char :=
  [Nat.digitChar (c.toNat / 16), Nat.digitChar (c.toNat % 16)]

/-- The spelling of one character inside a string. -/
def escape (c : Char) : List Char :=
  if c = '"' then ['\\', '"']
  else if c = '\\' then ['\\', '\\']
  else if c = '\n' then ['\\', 'n']
  else if c = '\r' then ['\\', 'r']
  else if c = '\t' then ['\\', 't']
  else if c.toNat = 8 then ['\\', 'b']
  else if c.toNat = 12 then ['\\', 'f']
  else if c.toNat < 32 then '\\' :: 'u' :: '0' :: '0' :: hexDigits c
  else [c]

/-- The text of a string, in quotes. -/
def quote (s : String) : List Char := '"' :: (s.toList.flatMap escape ++ ['"'])

mutual

/-- The characters of the compact text of a value. -/
def compactChars : Json → List Char
  | .null => ['n', 'u', 'l', 'l']
  | .bool true => ['t', 'r', 'u', 'e']
  | .bool false => ['f', 'a', 'l', 's', 'e']
  | .number n => n.text.toList
  | .string s => quote s
  | .array items => '[' :: compactItems items
  | .object fields => '{' :: compactFields fields

/-- The items of an array and its closing bracket. -/
def compactItems : List Json → List Char
  | [] => [']']
  | [x] => compactChars x ++ [']']
  | x :: rest => compactChars x ++ ',' :: compactItems rest

/-- The fields of an object and its closing brace. -/
def compactFields : List (String × Json) → List Char
  | [] => ['}']
  | [(k, x)] => quote k ++ ':' :: (compactChars x ++ ['}'])
  | (k, x) :: rest => quote k ++ ':' :: (compactChars x ++ ',' :: compactFields rest)

end

/-- The text of a value without blanks. -/
def compact (j : Json) : String := String.ofList j.compactChars

/-- A line break and the blanks of a level. -/
def newline (level : Nat) : List Char := '\n' :: List.replicate (2 * level) ' '

mutual

/-- The characters of the indented text of a value that stands at a level. -/
def prettyChars (level : Nat) : Json → List Char
  | .array [] => ['[', ']']
  | .array (x :: rest) => '[' :: prettyItems level (x :: rest)
  | .object [] => ['{', '}']
  | .object (f :: rest) => '{' :: prettyFields level (f :: rest)
  | .null => ['n', 'u', 'l', 'l']
  | .bool true => ['t', 'r', 'u', 'e']
  | .bool false => ['f', 'a', 'l', 's', 'e']
  | .number n => n.text.toList
  | .string s => quote s

/-- The items of an array, each on its own line, and the closing bracket. -/
def prettyItems (level : Nat) : List Json → List Char
  | [] => newline level ++ [']']
  | [x] => newline (level + 1) ++ prettyChars (level + 1) x ++ newline level ++ [']']
  | x :: rest => newline (level + 1) ++ prettyChars (level + 1) x ++ ',' :: prettyItems level rest

/-- The fields of an object, each on its own line, and the closing brace. -/
def prettyFields (level : Nat) : List (String × Json) → List Char
  | [] => newline level ++ ['}']
  | [(k, x)] =>
    newline (level + 1) ++ quote k ++ ':' :: ' ' :: (prettyChars (level + 1) x ++
      newline level ++ ['}'])
  | (k, x) :: rest =>
    newline (level + 1) ++ quote k ++ ':' :: ' ' :: (prettyChars (level + 1) x ++
      ',' :: prettyFields level rest)

end

/-- The text of a value with one item or field to a line. -/
def pretty (j : Json) : String := String.ofList (j.prettyChars 0)

end Json
end PageFlow
