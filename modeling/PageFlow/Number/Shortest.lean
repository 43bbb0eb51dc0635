/-
# The shortest decimal that reads back

Among the decimals that round to a given binary number, the one with the
fewest digits is its text; of several with that many digits, the nearest to
the number, a tie going to the even last digit. The decimals that round to
`x` fill the interval between the midpoints to its two neighbours, ends
included when the mantissa is even. If a decimal grid has a point in the
interval, so has one of the two grid points next to `x`, so one search over
the digit counts, testing two points each, finds it.

Key definitions: `Scientific`, `Binary64.interval`, `Binary64.shortest`.
-/
import PageFlow.Number.Binary64

namespace PageFlow

-- Powers are those of the core library, whatever else is imported.
attribute [local instance (2000)] instPowNat

/-- The number `digits * 10 ^ exponent`. -/
structure Scientific where
  digits : Nat
  exponent : Int
  deriving DecidableEq

namespace Scientific

/-- Moves up to `fuel` trailing zeros of the digits into the exponent. -/
def trim (s : Scientific) : Nat → Scientific
  | 0 => s
  | fuel + 1 =>
    if s.digits % 10 = 0 ∧ s.digits ≠ 0 then trim ⟨s.digits / 10, s.exponent + 1⟩ fuel else s

end Scientific

namespace Binary64

/-- The lower midpoint, the value and the upper midpoint, in quarters of a
unit. Below the least mantissa of an exponent the neighbours lie half as far
apart as above it. -/
def interval (x : Binary64) : Nat × Nat × Nat :=
  let step := 2 ^ x.exponent
  let lower :=
    if x.mantissa = 2 ^ (52 : Nat) ∧ x.exponent ≠ 0 then 4 * x.mantissa - 1 else 4 * x.mantissa - 2
  (lower * step, 4 * x.mantissa * step, (4 * x.mantissa + 2) * step)

/-- Whether `p / q`, in quarters of a unit, lies in the interval of `x`. -/
def reads (x : Binary64) (p q : Nat) : Bool :=
  let (lower, _, upper) := x.interval
  if x.mantissa % 2 = 0 then decide (lower * q ≤ p) && decide (p ≤ upper * q)
  else decide (lower * q < p) && decide (p < upper * q)

/-- The decimal with exponent `k` nearest to the absolute value of `x`, among
those next to it that read back. -/
def onGrid (x : Binary64) (k : Int) : Option Nat :=
  let up := 10 ^ k.toNat * (4 * one)
  let down := 10 ^ (-k).toNat
  let value := x.interval.2.1 * down
  let below := value / up
  let above := below + 1
  match x.reads (below * up) down, x.reads (above * up) down with
  | true, true =>
    if value - below * up < above * up - value then some below
    else if above * up - value < value - below * up then some above
    else if below % 2 = 0 then some below else some above
  | true, false => some below
  | false, true => some above
  | false, false => none

/-- The decimal exponent of the leading digit of a nonzero `x`. The product
with `10 ^ 400` is above one for every nonzero finite number. -/
def leadingExponent (x : Binary64) : Int :=
  ((Nat.toDigits 10 (x.magnitude * 10 ^ (400 : Nat) / one)).length : Int) - 401

/-- The first decimal that reads back on one of `count` grids, of which `k` is the
coarsest and each has one more digit than the one before. -/
def shortestFrom (x : Binary64) (k : Int) : (count : Nat) → Scientific
  | 0 => ⟨0, 0⟩
  | count + 1 =>
    match x.onGrid k with
    | some digits => ⟨digits, k⟩
    | none => shortestFrom x (k - 1) count

/-- The shortest decimal that reads back as the absolute value of a nonzero `x`,
without trailing zeros. Seventeen digits are always enough. -/
def shortest (x : Binary64) : Scientific := (shortestFrom x x.leadingExponent 17).trim 17

/-- The text of a number: plain when the leading digit stands for at least
`10 ^ -5` and less than `10 ^ 16`, with at least one digit after the point;
otherwise one leading digit and a signed exponent. -/
def text (x : Binary64) : String :=
  let sign := if x.negative then "-" else ""
  if x.isZero then sign ++ "0.0"
  else
    let s := x.shortest
    let ds := Nat.toDigits 10 s.digits
    let lead : Int := s.exponent + ds.length - 1
    let body : List Char :=
      if -5 ≤ lead ∧ lead < 16 then
        if 0 ≤ s.exponent then ds ++ List.replicate s.exponent.toNat '0' ++ ['.', '0']
        else if 0 ≤ lead then
          ds.take (lead.toNat + 1) ++ ['.'] ++ ds.drop (lead.toNat + 1)
        else '0' :: '.' :: (List.replicate ((-lead).toNat - 1) '0' ++ ds)
      else
        let fraction := if ds.length = 1 then [] else '.' :: ds.drop 1
        ds.take 1 ++ fraction ++ ['e', if lead < 0 then '-' else '+'] ++
          Nat.toDigits 10 lead.natAbs
    sign ++ String.ofList body

end Binary64
end PageFlow
