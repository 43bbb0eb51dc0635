/-
# JSON numbers

A number is an integer, when it is written without point and exponent and fits
64 bits, or else a finite binary floating point number. The two kinds print
differently (`1`, `1.0`) and compare by value.

A numeral is read in two steps: its parts, then the value of the parts. The
value of a decimal numeral is not always the nearest binary number: the digits
are gathered in a 64-bit significand, which is converted and then scaled by a
power of ten, each with its own rounding.

Key definitions: `Number`, `Number.text`, `Numeral`, `Numeral.value`.
-/
import PageFlow.Number.Shortest

namespace PageFlow

-- Powers are those of the core library, whatever else is imported.
attribute [local instance (2000)] instPowNat

/-- The least integer that a number holds exactly. -/
def leastInteger : Int := -2 ^ (63 : Nat)

/-- The first integer that no longer fits. -/
def integerLimit : Int := 2 ^ (64 : Nat)

/-- A JSON number. -/
inductive Number where
  | integer (value : Int) (fits : leastInteger ≤ value ∧ value < integerLimit)
  | float (value : Binary64)
  deriving DecidableEq

namespace Number

/-- The integer as a number, if it fits. -/
def ofInt? (n : Int) : Option Number :=
  if h : leastInteger ≤ n ∧ n < integerLimit then some (.integer n h) else none

/-- The integer zero. -/
def zero : Number := .integer 0 (by decide)

/-- The number in binary floating point; an integer is rounded. -/
def toBinary64 : Number → Binary64
  | .integer n _ => (Binary64.ofInt n).getD (Binary64.zero false)
  | .float x => x

/-- The text of a number. -/
def text : Number → String
  | .integer n _ => toString n
  | .float x => x.text

end Number

/-- The parts of a numeral. Each list of digits has at least one. -/
structure Numeral where
  negative : Bool
  whole : List Char
  fraction : Option (List Char)
  exponent : Option (Bool × List Char)

/-- A 64-bit significand being gathered, and the power of ten that goes with it. -/
structure Significand where
  digits : Nat
  exponent : Int

namespace Significand

/-- Whether one more digit fits. -/
def admits (s : Significand) (c : Char) : Bool :=
  decide (s.digits * 10 + (c.toNat - '0'.toNat) < 2 ^ (64 : Nat))

/-- The significand with one more digit. -/
def push (s : Significand) (c : Char) : Significand :=
  { s with digits := s.digits * 10 + (c.toNat - '0'.toNat) }

/-- Reads digits before the point. From the first digit that does not fit on,
each digit only raises the exponent. -/
def readWhole (s : Significand) : List Char → Significand
  | [] => s
  | c :: rest =>
    if s.admits c then readWhole (s.push c) rest
    else { s with exponent := s.exponent + (rest.length + 1 : Nat) }

/-- Reads digits after the point, up to the first that does not fit. -/
def readFraction (s : Significand) : List Char → Significand
  | [] => s
  | c :: rest =>
    if s.admits c then
      let t := s.push c
      readFraction { t with exponent := t.exponent - 1 } rest
    else s

end Significand

namespace Binary64

/-- Multiplies by `10 ^ e` as a reader of numerals does: one multiplication or
division by a power up to `10 ^ 308`, after divisions by `10 ^ 308` for smaller
exponents. Two of those bring any significand to zero. -/
def scaleByTen (x : Binary64) (e : Int) : Nat → Option Binary64
  | 0 => some x
  | fuel + 1 =>
    if 0 ≤ e then
      if e ≤ 308 then x.mul (powerOfTen e.toNat)
      else if x.isZero then some x else none
    else if -308 ≤ e then x.div (powerOfTen (-e).toNat)
    else if x.isZero then some x
    else (x.div (powerOfTen 308)).bind fun y => scaleByTen y (e + 308) fuel

end Binary64

namespace Numeral

/-- The exponent as written. -/
def writtenExponent (n : Numeral) : Int :=
  match n.exponent with
  | none => 0
  | some (negative, ds) =>
    let e : Int := Nat.ofDigitChars 10 ds 0
    if negative then -e else e

/-- The significand of all digits. -/
def significand (n : Numeral) : Significand :=
  let s := (Significand.mk 0 0).readWhole n.whole
  s.readFraction (n.fraction.getD [])

/-- The floating point value, unless it is out of range. -/
def floatValue (n : Numeral) : Option Binary64 := do
  let s := n.significand
  let x ← Binary64.ofNat s.digits
  let y ← x.scaleByTen (s.exponent + n.writtenExponent) 4
  return if n.negative then y.neg else y

/-- The number a numeral stands for, unless it is out of range. Without point
and exponent it is an integer if it fits; minus zero does not. -/
def value (n : Numeral) : Option Number :=
  let m : Nat := Nat.ofDigitChars 10 n.whole 0
  let whole := n.fraction.isNone && n.exponent.isNone
  match if n.negative then (if m = 0 then none else Number.ofInt? (-m)) else Number.ofInt? m with
  | some k => if whole then some k else n.floatValue.map .float
  | none => n.floatValue.map .float

/-- How many exponent digits can be read before their value passes 31 bits, if
it does. -/
def exponentOverflow (ds : List Char) : Option Nat :=
  (List.range ds.length).map (· + 1) |>.find? fun k =>
    decide (2 ^ (31 : Nat) ≤ Nat.ofDigitChars 10 (ds.take k) 0)

/-- The number of digits left unread when the numeral is found out of range:
those behind the exponent digit that passes 31 bits, else none. -/
def unreadOnRange (n : Numeral) : Nat :=
  match n.exponent with
  | some (false, ds) =>
    if n.significand.digits = 0 then 0
    else match exponentOverflow ds with
      | some k => ds.length - k
      | none => 0
  | _ => 0

end Numeral
end PageFlow
