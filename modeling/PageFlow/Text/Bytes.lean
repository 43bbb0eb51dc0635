/-
# Bytes in writing

Bytes are written in hexadecimal digits, in base 64 and, in the parts of a query, with
percent signs. Hexadecimal digits are read in either case and written in upper case. In
base 64 three bytes are four characters of an alphabet of 64; what is missing at the end
is filled up with `=`. In a query every byte other than an ASCII letter or digit or one
of `-._~` is a percent sign and two hexadecimal digits.

Key definitions: `Text.utf8Bytes`, `Text.hexDigit`, `Text.hexDigitValue`, `Text.hexValue`,
`Text.base64`, `Text.percentEncode`.
Key theorems: `Text.hexDigitValue_hexDigit`.
-/
namespace PageFlow
namespace Text

/-- The bytes of a text. -/
def utf8Bytes (cs : List Char) : List UInt8 := cs.flatMap String.utf8EncodeChar

/-! ### Hexadecimal digits -/

/-- An upper case hexadecimal digit. -/
def hexDigit (n : Nat) : Char :=
  if n < 10 then Char.ofNat ('0'.toNat + n) else Char.ofNat ('A'.toNat + (n - 10))

/-- The value of a hexadecimal digit. -/
def hexDigitValue (c : Char) : Option Nat :=
  if c.isDigit then some (c.toNat - '0'.toNat)
  else if 'a' ≤ c ∧ c ≤ 'f' then some (c.toNat - 'a'.toNat + 10)
  else if 'A' ≤ c ∧ c ≤ 'F' then some (c.toNat - 'A'.toNat + 10)
  else none

/-- The value of hexadecimal digits, the first the most significant. -/
def hexValue (digits : List Char) : Option Nat :=
  digits.foldlM (fun n c => (hexDigitValue c).map (16 * n + ·)) 0

/-- A digit that is written reads as its value. -/
theorem hexDigitValue_hexDigit : ∀ n < 16, hexDigitValue (hexDigit n) = some n := by
  decide

/-! ### Base 64 -/

/-- The character that stands for a number below 64. -/
def base64Digit (n : Nat) : Char :=
  if n < 26 then Char.ofNat ('A'.toNat + n)
  else if n < 52 then Char.ofNat ('a'.toNat + (n - 26))
  else if n < 62 then Char.ofNat ('0'.toNat + (n - 52))
  else if n = 62 then '+' else '/'

/-- The characters for a list of bytes. -/
def base64Bytes : List UInt8 → List Char
  | [] => []
  | [a] =>
    let n := a.toNat * 16
    [base64Digit (n / 64), base64Digit (n % 64), '=', '=']
  | [a, b] =>
    let n := (a.toNat * 256 + b.toNat) * 4
    [base64Digit (n / 4096), base64Digit (n / 64 % 64), base64Digit (n % 64), '=']
  | a :: b :: c :: rest =>
    let n := (a.toNat * 256 + b.toNat) * 256 + c.toNat
    base64Digit (n / 262144) :: base64Digit (n / 4096 % 64) :: base64Digit (n / 64 % 64) ::
      base64Digit (n % 64) :: base64Bytes rest

/-- The bytes of a text in base 64. -/
def base64 (cs : List Char) : List Char := base64Bytes (utf8Bytes cs)

/-! ### Percent encoding -/

/-- Whether a byte stands for itself. -/
def isUnreserved (b : UInt8) : Bool :=
  let c := Char.ofNat b.toNat
  c.isAlphanum || c == '-' || c == '.' || c == '_' || c == '~'

/-- The spelling of one byte. -/
def percentByte (b : UInt8) : List Char :=
  if isUnreserved b then [Char.ofNat b.toNat]
  else ['%', hexDigit (b.toNat / 16), hexDigit (b.toNat % 16)]

/-- The spelling of a text. -/
def percentEncode (cs : List Char) : List Char := (utf8Bytes cs).flatMap percentByte

end Text
end PageFlow
