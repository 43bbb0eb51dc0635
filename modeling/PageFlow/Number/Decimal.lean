/-
# Decimal numbers

A decimal is a whole number of units and a scale from 0 to 28, the number of
digits behind the point; the units have at most 96 bits. Numbers are compared
by value, and a number is printed with the digits its scale gives it.

Digits behind the point that do not fit are rounded, a half away from zero.
Digits in front of it that do not fit are an error.

Key definitions: `Decimal`, `Decimal.ofText?`, `Decimal.toBinary64`,
`Decimal.compareValue`, `Decimal.floor`, `Decimal.ceil`, `Decimal.round`.
-/
import PageFlow.Number.Binary64

namespace PageFlow

-- Powers are those of the core library, whatever else is imported.
attribute [local instance (2000)] instPowNat

/-- The number `units / 10 ^ scale`. -/
structure Decimal where
  units : Int
  scale : Nat
  units_lt : units.natAbs < 2 ^ (96 : Nat)
  scale_le : scale ≤ 28
  deriving DecidableEq

namespace Decimal

/-- The decimal with these parts, if they fit. -/
def ofParts? (units : Int) (scale : Nat) : Option Decimal :=
  if h : units.natAbs < 2 ^ (96 : Nat) ∧ scale ≤ 28 then some ⟨units, scale, h.1, h.2⟩ else none

/-- Zero. -/
def zero : Decimal := ⟨0, 0, by decide, by decide⟩

/-- A whole number, if it fits. -/
def ofInt? (n : Int) : Option Decimal := ofParts? n 0

/-- Whether the value is zero. -/
def isZero (d : Decimal) : Bool := d.units == 0

/-- The order of the values. -/
def compareValue (x y : Decimal) : Ordering :=
  compare (x.units * 10 ^ y.scale) (y.units * 10 ^ x.scale)

/-- Moves up to `fuel` trailing zeros out of the digits behind the point. -/
def dropZeros (d : Decimal) : Nat → Decimal
  | 0 => d
  | fuel + 1 =>
    if d.scale ≠ 0 ∧ d.units % 10 = 0 then
      match ofParts? (d.units / 10) (d.scale - 1) with
      | some e => dropZeros e fuel
      | none => d
    else d

/-- The same value with the least scale. -/
def normalize (d : Decimal) : Decimal := d.dropZeros d.scale

/-- The value as an integer between `low` and `high`, the digits behind the
point cut off. -/
def toInt? (low high : Int) (d : Decimal) : Option Int :=
  let n := d.units.tdiv (10 ^ d.scale)
  if low ≤ n ∧ n < high then some n else none

/-- The greatest whole number that is not above `d`. -/
def floorUnits (d : Decimal) : Int := d.units.fdiv (10 ^ d.scale)

/-- The least whole number that is not below `d`. -/
def ceilUnits (d : Decimal) : Int := -((-d.units).fdiv (10 ^ d.scale))

/-- The nearest whole number, a half going away from zero. -/
def roundUnits (d : Decimal) : Int :=
  let n : Int := roundHalfUp d.units.natAbs (10 ^ d.scale)
  if d.units < 0 then -n else n

/-- A whole number that is known to fit. -/
def ofWhole (n : Int) : Decimal := (ofInt? n).getD zero

/-- The greatest whole number that is not above `d`. -/
def floor (d : Decimal) : Decimal := ofWhole d.floorUnits

/-- The least whole number that is not below `d`. -/
def ceil (d : Decimal) : Decimal := ofWhole d.ceilUnits

/-- The nearest whole number, a half going away from zero. -/
def round (d : Decimal) : Decimal := ofWhole d.roundUnits

/-- The absolute value. -/
def abs (d : Decimal) : Decimal :=
  ⟨d.units.natAbs, d.scale, d.units_lt, d.scale_le⟩

/-- The value in binary floating point. A number with digits behind the point
is the sum of its whole part and its fraction, rounded once more to its scale. -/
def toBinary64 (d : Decimal) : Option Binary64 := do
  let negative := decide (d.units < 0)
  let signed (x : Binary64) : Binary64 := if negative then x.neg else x
  let n := d.units.natAbs
  let power := 10 ^ d.scale
  let whole ← Binary64.ofNat (n / power)
  if d.scale = 0 then return signed whole
  let fraction ← (← Binary64.ofNat (n % power)).div (← Binary64.ofNat power)
  if fraction.isZero then return signed whole
  let factor := Binary64.powerOfTen d.scale
  let rounded ← (← (← (← whole.add fraction).mul factor).round).div factor
  return signed rounded

/-- The digits of a number, with the point in its place. -/
def text (d : Decimal) : String :=
  let ds := Nat.toDigits 10 d.units.natAbs
  let ds := List.replicate (d.scale + 1 - ds.length) '0' ++ ds
  let whole := ds.take (ds.length - d.scale)
  let body := if d.scale = 0 then whole else whole ++ '.' :: ds.drop (ds.length - d.scale)
  String.ofList (if d.units < 0 then '-' :: body else body)

/-- A magnitude being read: its units, its scale, whether the point was met and
whether a digit was met. -/
structure Digits where
  units : Nat
  scale : Nat
  point : Bool
  any : Bool

/-- The units that no longer fit. -/
def unitLimit : Nat := 2 ^ (96 : Nat)

/-- The value of a digit. -/
def digitValue (c : Char) : Nat := c.toNat - '0'.toNat

/-- Rounds at a digit that does not fit. Units that overflow by rounding lose
their last digit, which has to stand behind the point. -/
def Digits.roundAt (s : Digits) (digit : Nat) : Option Digits :=
  if digit < 5 then some s
  else if s.units + 1 < unitLimit then some { s with units := s.units + 1 }
  else if s.scale = 0 then none
  else some { s with units := (s.units + 5) / 10, scale := s.scale - 1 }

/-- Ends the reading of digits at one that does not fit, if nothing but digits
and separators follows. -/
def Digits.stopAt (s : Digits) (c : Char) (rest : List Char) : Option Digits :=
  if (c :: rest).all fun c => c.isDigit || c == '_' then
    s.roundAt (if c.isDigit then digitValue c else 0)
  else none

/-- Reads digits with at most one point among them, and with separators behind
the first digit. -/
def Digits.read (s : Digits) : List Char → Option Digits
  | [] => if s.any then some s else none
  | c :: rest =>
    if s.point && decide (28 ≤ s.scale) then s.stopAt c rest
    else if c.isDigit then
      let units := s.units * 10 + digitValue c
      if units < unitLimit then
        read ⟨units, if s.point then s.scale + 1 else 0, s.point, true⟩ rest
      else if s.point then s.stopAt c rest
      else none
    else if c = '.' ∧ s.point = false then read { s with point := true } rest
    else if c = '_' ∧ s.any = true then read s rest
    else none

/-- Reads a number without exponent. -/
def ofPlain? (cs : List Char) : Option Decimal := do
  let (negative, digits) := match cs with
    | '-' :: rest => (true, rest)
    | '+' :: rest => (false, rest)
    | _ => (false, cs)
  let s ← Digits.read ⟨0, 0, false, false⟩ digits
  ofParts? (if negative then -(s.units : Int) else s.units) s.scale

/-- Reads an exponent: digits with an optional plus sign, at most 28. -/
def exponent? (cs : List Char) : Option Nat :=
  let digits := match cs with
    | '+' :: rest => rest
    | _ => cs
  if digits.isEmpty || !digits.all Char.isDigit then none
  else
    let e := Nat.ofDigitChars 10 digits 0
    if e ≤ 28 then some e else none

/-- The value times `10 ^ e`. -/
def raise (d : Decimal) (e : Nat) : Option Decimal :=
  if e ≤ d.scale then ofParts? d.units (d.scale - e)
  else ofInt? (d.units * 10 ^ (e - d.scale))

/-- The value divided by `10 ^ e`, rounded to 28 digits behind the point. -/
def lower (d : Decimal) (e : Nat) : Option Decimal :=
  if d.scale + e ≤ 28 then ofParts? d.units (d.scale + e)
  else
    let n : Int := roundHalfUp d.units.natAbs (10 ^ (d.scale + e - 28))
    ofParts? (if d.units < 0 then -n else n) 28

/-- The text up to the first `e` or `E` and the text behind it. -/
def splitExponent : List Char → Option (List Char × List Char)
  | [] => none
  | c :: rest =>
    if c = 'e' ∨ c = 'E' then some ([], rest)
    else (splitExponent rest).map fun r => (c :: r.1, r.2)

/-- Reads a number with an exponent. -/
def ofScientific? (cs : List Char) : Option Decimal := do
  let (mantissa, exponent) ← splitExponent cs
  let d ← ofPlain? mantissa
  match exponent with
  | '-' :: digits => d.lower (← exponent? digits)
  | _ => d.raise (← exponent? exponent)

/-- Reads a number, with or without exponent. -/
def ofText? (cs : List Char) : Option Decimal := (ofPlain? cs).or (ofScientific? cs)

end Decimal
end PageFlow
