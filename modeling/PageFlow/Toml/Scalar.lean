/-
# Numbers and times of a settings file

Digits may have an underscore between any two of them. A decimal number starts
with a zero only if that is its whole integral part. A time is checked against
the calendar and the clock; what it stands for is its normal spelling under a
reserved key.

Key definitions: `Toml.readDigits`, `Toml.readInteger`, `Toml.readFloat`,
`Toml.readMoment`, `Toml.readScalar`.
-/
import PageFlow.Json
import PageFlow.Text.Clock
import PageFlow.Toml.Text

namespace PageFlow
namespace Toml

-- Powers are those of the core library, whatever else is imported.
attribute [local instance (2000)] instPowNat

/-- The digits that follow a digit, without the underscores, and the characters
behind them. -/
def moreDigits (isDigit : Char → Bool) : List Char → List Char × List Char
  | '_' :: c :: rest =>
    if isDigit c then
      let (ds, rest) := moreDigits isDigit rest
      (c :: ds, rest)
    else ([], '_' :: c :: rest)
  | c :: rest =>
    if isDigit c then
      let (ds, rest) := moreDigits isDigit rest
      (c :: ds, rest)
    else ([], c :: rest)
  | [] => ([], [])

/-- Reads digits, at least one. -/
def readDigits (isDigit : Char → Bool) : Reader (List Char)
  | c :: rest =>
    if isDigit c then
      let (ds, rest) := moreDigits isDigit rest
      some (c :: ds, rest)
    else none
  | [] => none

/-- Reads the sign of a number; `true` is minus. -/
def readSign : List Char → Bool × List Char
  | '-' :: rest => (true, rest)
  | '+' :: rest => (false, rest)
  | cs => (false, cs)

/-- Reads the integral part of a decimal number. -/
def readWhole : Reader (List Char)
  | '0' :: rest => some (['0'], rest)
  | cs => readDigits Char.isDigit cs

/-- An integer of 64 bits with a sign. -/
def signedInteger (n : Int) : Option Json :=
  if n < 2 ^ (63 : Nat) then (Number.ofInt? n).map .number else none

/-- Reads the digits of an integer in another base. -/
def readBased (base : Nat) (cs : List Char) : Option (Json × List Char) := do
  let isDigit (c : Char) : Bool := (Text.hexDigitValue c).any (· < base)
  let (ds, rest) ← readDigits isDigit cs
  let n := ds.foldl (fun n c => base * n + (Text.hexDigitValue c).getD 0) 0
  return (← signedInteger n, rest)

/-- Reads an integer. -/
def readInteger : Reader Json
  | '0' :: 'x' :: rest => readBased 16 rest
  | '0' :: 'o' :: rest => readBased 8 rest
  | '0' :: 'b' :: rest => readBased 2 rest
  | cs => do
    let (negative, rest) := readSign cs
    let (ds, rest) ← readWhole rest
    let n : Int := Nat.ofDigitChars 10 ds 0
    return (← signedInteger (if negative then -n else n), rest)

/-- A value in binary floating point. No setting is one, so infinity and
not-a-number may be any. -/
def floatJson (x : Option Binary64) : Json := .number (.float (x.getD (Binary64.zero false)))

/-- The number nearest to `digits * 10 ^ exponent`, unless it is not finite.
With more than 400 digits before the point it is not, and with more than 400
zeros behind it it is zero. -/
def nearestFloat (negative : Bool) (digits : Nat) (exponent : Int) : Option Binary64 :=
  let size := (Nat.toDigits 10 digits).length + exponent
  if digits = 0 ∨ size < -400 then some (Binary64.zero negative)
  else if 400 < size then none
  else Binary64.ofRatio negative (digits * 10 ^ exponent.toNat) (10 ^ (-exponent).toNat)

/-- Reads the digits behind the point. -/
def readFraction : Reader (List Char)
  | '.' :: rest => readDigits Char.isDigit rest
  | _ => none

/-- Reads an exponent. -/
def readExponent : Reader Int
  | e :: rest =>
    if e == 'e' || e == 'E' then do
      let (negative, rest) := readSign rest
      let (ds, rest) ← readDigits Char.isDigit rest
      let n : Int := Nat.ofDigitChars 10 ds 0
      some (if negative then -n else n, rest)
    else none
  | [] => none

/-- Reads infinity or not-a-number. -/
def readSpecial : Reader Json
  | 'i' :: 'n' :: 'f' :: rest => some (floatJson none, rest)
  | 'n' :: 'a' :: 'n' :: rest => some (floatJson none, rest)
  | _ => none

/-- Reads a float with a fraction, an exponent or both. One that is too large is
refused, while one that is too small goes to infinity. -/
def readDecimal (negative : Bool) (cs : List Char) : Option (Json × List Char) := do
  let (whole, rest) ← readWhole cs
  let fraction := readFraction rest
  let (ds, rest) := fraction.getD ([], rest)
  let exponent := readExponent rest
  let (e, rest) := exponent.getD (0, rest)
  if fraction.isNone && exponent.isNone then none
  else
    let x := nearestFloat negative (Nat.ofDigitChars 10 (whole ++ ds) 0) (e - ds.length)
    if x.isNone && !negative then none else some (floatJson x, rest)

/-- Reads a float. -/
def readFloat : Reader Json := fun cs =>
  let (negative, rest) := readSign cs
  (readDecimal negative rest).or (readSpecial rest)

/-- Reads a number with exactly two digits between two bounds. -/
def readPair (low high : Nat) : Reader Nat
  | a :: b :: rest =>
    let n := Nat.ofDigitChars 10 [a, b] 0
    if a.isDigit && b.isDigit && decide (low ≤ n) && decide (n ≤ high) then some (n, rest)
    else none
  | _ => none

/-- The number of days of a month. -/
def daysIn (year month : Nat) : Nat :=
  if month = 2 then
    if year % 4 = 0 ∧ (year % 100 ≠ 0 ∨ year % 400 = 0) then 29 else 28
  else if month = 4 ∨ month = 6 ∨ month = 9 ∨ month = 11 then 30
  else 31

/-- Reads a character of a given kind. -/
def readChar (p : Char → Bool) : Reader Char
  | c :: rest => if p c then some (c, rest) else none
  | [] => none

/-- Reads a date and writes it again. -/
def readDate : Reader String
  | a :: b :: rest => do
    let (century, _) ← readPair 0 99 [a, b]
    let (year, rest) ← readPair 0 99 rest
    let (_, rest) ← readChar (· == '-') rest
    let (month, rest) ← readPair 1 12 rest
    let (_, rest) ← readChar (· == '-') rest
    let (day, rest) ← readPair 1 (daysIn (100 * century + year) month) rest
    return (Text.dateText (100 * century + year) month day, rest)
  | _ => none

/-- Reads the digits of the fraction of a second, if there are some. -/
def readSecondDigits : List Char → List Char × List Char
  | '.' :: c :: rest =>
    if c.isDigit then (c :: rest.takeWhile Char.isDigit, rest.dropWhile Char.isDigit)
    else ([], '.' :: c :: rest)
  | cs => ([], cs)

/-- Reads a time of day and writes it again. -/
def readTime : Reader String := fun cs => do
  let (hour, rest) ← readPair 0 23 cs
  let (_, rest) ← readChar (· == ':') rest
  let (minute, rest) ← readPair 0 59 rest
  let (_, rest) ← readChar (· == ':') rest
  let (second, rest) ← readPair 0 60 rest
  let (digits, rest) := readSecondDigits rest
  return (Text.timeText hour minute second digits, rest)

/-- Reads the offset of a time and writes it again. -/
def readOffset : Reader String
  | c :: rest =>
    if c == 'Z' || c == 'z' then some ("Z", rest)
    else if c == '+' || c == '-' then do
      let (hour, rest) ← readPair 0 23 rest
      let (_, rest) ← readChar (· == ':') rest
      let (minute, rest) ← readPair 0 59 rest
      let sign := if c == '-' && (hour, minute) != (0, 0) then "-" else "+"
      return (sign ++ Text.padded 2 hour ++ ":" ++ Text.padded 2 minute, rest)
    else none
  | [] => none

/-- Reads the time behind a date, if there is one, with its offset. -/
def readTimeBehind (cs : List Char) : String × List Char :=
  let timed : Option (String × List Char) := do
    let (_, rest) ← readChar (fun c => c == 'T' || c == 't' || c == ' ') cs
    let (time, rest) ← readTime rest
    let (offset, rest) := (readOffset rest).getD ("", rest)
    return ("T" ++ time ++ offset, rest)
  timed.getD ("", cs)

/-- The key under which a date or time stands. -/
def momentKey : String := "$__toml_private_datetime"

/-- Reads a date, a time of day or both. -/
def readMoment : Reader Json := fun cs =>
  let text :=
    match readDate cs with
    | some (date, rest) =>
      let (time, rest) := readTimeBehind rest
      some (date ++ time, rest)
    | none => readTime cs
  mapRead (fun s => .object [(momentKey, .string s)]) text

/-- Reads a boolean. -/
def readBool : Reader Json
  | 't' :: 'r' :: 'u' :: 'e' :: rest => some (.bool true, rest)
  | 'f' :: 'a' :: 'l' :: 's' :: 'e' :: rest => some (.bool false, rest)
  | _ => none

/-- Reads a value without parts. -/
def readScalar : Reader Json := fun cs =>
  (mapRead .string (readString cs)).or <|
    (readBool cs).or <| (readMoment cs).or <| (readFloat cs).or (readInteger cs)

end Toml
end PageFlow
