/-
# Finite binary floating point numbers

The finite values of the 64-bit binary interchange format, as exact numbers:
every one of them is an integer multiple of `2 ^ -1074`, so a value is a sign,
a mantissa below `2 ^ 53` and a power of two counted from that unit. An
operation computes its exact result as a quotient of naturals and rounds once,
to the nearest representable value, a tie going to the even mantissa. A result
too large to be finite is `none`.

Key definitions: `Binary64`, `Binary64.units`, `Binary64.ofRatio`.
-/
namespace PageFlow

-- Powers are those of the core library, whatever else is imported.
attribute [local instance (2000)] instPowNat

/-- A finite number `± mantissa * 2 ^ exponent * 2 ^ -1074`. A mantissa below
`2 ^ 52` is allowed only with the least exponent, so each nonzero value has one
form and zero has two, told apart by the sign. -/
structure Binary64 where
  negative : Bool
  mantissa : Nat
  exponent : Nat
  mantissa_lt : mantissa < 2 ^ (53 : Nat)
  exponent_le : exponent ≤ 2045
  normal : 2 ^ (52 : Nat) ≤ mantissa ∨ exponent = 0
  deriving DecidableEq

/-- The quotient `num / den` rounded to the nearest natural, a tie to the even one. -/
def roundHalfEven (num den : Nat) : Nat :=
  let q := num / den
  let r := num % den
  if 2 * r < den then q
  else if den < 2 * r then q + 1
  else if q % 2 = 0 then q else q + 1

/-- The quotient `num / den` rounded to the nearest natural, a tie upwards. -/
def roundHalfUp (num den : Nat) : Nat := (2 * num + den) / (2 * den)

namespace Binary64

/-- Units of the least exponent in one: the value of `x` is `x.units / one`. -/
def one : Nat := 2 ^ (1074 : Nat)

/-- The number with these parts, if they are those of a finite value. -/
def ofParts? (negative : Bool) (mantissa exponent : Nat) : Option Binary64 :=
  if h : mantissa < 2 ^ (53 : Nat) ∧ exponent ≤ 2045 ∧ (2 ^ (52 : Nat) ≤ mantissa ∨ exponent = 0) then
    some ⟨negative, mantissa, exponent, h.1, h.2.1, h.2.2⟩
  else none

/-- Zero with the given sign. -/
def zero (negative : Bool) : Binary64 :=
  ⟨negative, 0, 0, by decide, by decide, by decide⟩

instance : Inhabited Binary64 := ⟨zero false⟩

/-- The absolute value in units of `2 ^ -1074`. -/
def magnitude (x : Binary64) : Nat := x.mantissa * 2 ^ x.exponent

/-- The value in units of `2 ^ -1074`. -/
def units (x : Binary64) : Int := if x.negative then -(x.magnitude : Int) else x.magnitude

/-- Whether the value is zero, of either sign. -/
def isZero (x : Binary64) : Bool := x.mantissa == 0

/-- The number nearest to `± num / den`, or `none` when it is not finite. The
exponent is the least one under which the quotient has at most 53 bits; a
mantissa that rounds up to `2 ^ 53` takes the next exponent. -/
def ofRatio (negative : Bool) (num den : Nat) : Option Binary64 :=
  let scaled := num * one
  let exponent := (scaled / den).log2 - 52
  let mantissa := roundHalfEven scaled (den * 2 ^ exponent)
  if mantissa = 2 ^ (53 : Nat) then ofParts? negative (2 ^ (52 : Nat)) (exponent + 1)
  else ofParts? negative mantissa exponent

/-- The number nearest to a natural. -/
def ofNat (n : Nat) : Option Binary64 := ofRatio false n 1

/-- The number nearest to an integer. -/
def ofInt (n : Int) : Option Binary64 := ofRatio (n < 0) n.natAbs 1

/-- The number with the other sign. -/
def neg (x : Binary64) : Binary64 := { x with negative := !x.negative }

/-- The absolute value. -/
def abs (x : Binary64) : Binary64 := { x with negative := false }

/-- The rounded product. -/
def mul (x y : Binary64) : Option Binary64 :=
  ofRatio (x.negative != y.negative) (x.magnitude * y.magnitude) (one * one)

/-- The rounded quotient; the divisor is not zero. -/
def div (x y : Binary64) : Option Binary64 :=
  ofRatio (x.negative != y.negative) x.magnitude y.magnitude

/-- The rounded sum. A sum of opposite values is positive zero. -/
def add (x y : Binary64) : Option Binary64 :=
  let sum := x.units + y.units
  ofRatio (if sum = 0 then x.negative && y.negative else sum < 0) sum.natAbs one

/-- The nearest whole number, a half going away from zero. -/
def round (x : Binary64) : Option Binary64 :=
  ofRatio x.negative (roundHalfUp x.magnitude one) 1

/-- The order of the values; the two zeros are equal. -/
def compareValue (x y : Binary64) : Ordering := compare x.units y.units

/-- The power of ten nearest to `10 ^ k`, for `k ≤ 308`. -/
def powerOfTen (k : Nat) : Binary64 := (ofNat (10 ^ k)).getD (zero false)

theorem units_eq_zero_iff (x : Binary64) : x.units = 0 ↔ x.isZero = true := by
  have h : x.magnitude = 0 ↔ x.mantissa = 0 := by
    simp only [magnitude, Nat.mul_eq_zero, Nat.pow_eq_zero]; omega
  unfold units isZero
  cases x.negative <;> simp [h]

theorem compareValue_swap (x y : Binary64) : (x.compareValue y).swap = y.compareValue x := by
  unfold compareValue
  rw [← Std.OrientedCmp.eq_swap]

end Binary64
end PageFlow
