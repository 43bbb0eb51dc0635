/-
# From decimals to binary floating point

A decimal without a fraction is converted by rounding its whole part. One that
is all fraction, with 28 digits behind the point, is divided twice: its units by
the power of ten, and then once more after the product was rounded to a whole
number. As long as the units are small enough that whole number is the units
again, so the result is nearest to the units divided by the power of ten as it
is in binary floating point, which is a little less than `10 ^ 28`.

Key definitions: `Binary64.tenPower28`.
Key theorems: `Binary64.abs_magnitude_sub_le`, `Binary64.magnitude_of_ofRatio_one`,
`Decimal.toBinary64_whole`, `Decimal.toBinary64_fraction`.
-/
import PageFlow.Number.Decimal
import PageFlow.Proofs.Number.Reading
import PageFlow.Proofs.Number.Rounding

namespace PageFlow

-- Powers are those of the core library, whatever else is imported.
attribute [local instance (2000)] instPowNat

-- The units in one are too many to be computed.
attribute [local irreducible] Binary64.one

namespace Binary64

/-! ### Errors of single operations -/

/-- A ratio of at most `k + 53` bits is rounded by at most half of `2 ^ k`. -/
theorem abs_magnitude_sub_le {negative : Bool} {num den k : Nat} {x : Binary64} (hden : 0 < den)
    (h : ofRatio negative num den = some x) (hk : num * one < den * 2 ^ (k + 53)) :
    |(x.magnitude : ℚ) - num * one / den| ≤ 2 ^ k / 2 := by
  obtain ⟨-, e, hfits, hx⟩ := of_ofRatio hden h
  have hle : e ≤ k := by
    rcases hfits.2 with h0 | hbits
    · omega
    · have := Nat.lt_of_mul_lt_mul_left (hbits.trans_lt hk)
      have := (Nat.pow_lt_pow_iff_right (by decide : 1 < 2)).mp this
      omega
  have hpos : 0 < den * 2 ^ e := Nat.mul_pos hden (Nat.two_pow_pos e)
  have hhalf := abs_roundHalfEven_sub_le (num * one) hpos
  have hden' : (den : ℚ) ≠ 0 := by exact_mod_cast hden.ne'
  have hunit : (0 : ℚ) < 2 ^ e := by positivity
  have hscale : (x.magnitude : ℚ) - num * one / den =
      ((roundHalfEven (num * one) (den * 2 ^ e) : ℚ) - (num * one : Nat) / (den * 2 ^ e : Nat)) *
        2 ^ e := by
    rw [hx]
    push_cast
    field_simp
  have hgrow : (2 : ℚ) ^ e ≤ 2 ^ k := pow_le_pow_right₀ (by norm_num) hle
  rw [hscale, abs_mul, abs_of_pos hunit]
  refine (mul_le_mul_of_nonneg_right hhalf hunit.le).trans ?_
  rw [one_div, inv_mul_eq_div]
  exact div_le_div_of_nonneg_right hgrow (by norm_num)

/-- A natural of 53 bits is exact. -/
theorem magnitude_of_ofRatio_one {negative : Bool} {n : Nat} {x : Binary64}
    (hn : n < 2 ^ (53 : Nat)) (h : ofRatio negative n 1 = some x) : x.magnitude = n * one := by
  obtain ⟨-, e, hfits, hx⟩ := of_ofRatio (by decide) h
  obtain ⟨k, -, hone⟩ := exists_one_eq
  have hle : e ≤ k := by
    rcases hfits.2 with h0 | hbits
    · omega
    · have hlt : 2 ^ (e + 52) < 2 ^ (53 + k) := by
        rw [Nat.pow_add 2 53, ← hone]
        rw [Nat.one_mul] at hbits
        exact hbits.trans_lt (Nat.mul_lt_mul_of_pos_right hn one_pos)
      have := (Nat.pow_lt_pow_iff_right (by decide : 1 < 2)).mp hlt
      omega
  obtain ⟨m, hm⟩ : 2 ^ e ∣ n * one := by
    rw [hone]
    exact Nat.dvd_mul_left_of_dvd (Nat.pow_dvd_pow 2 hle) n
  have hround : roundHalfEven (n * one) (1 * 2 ^ e) = m := by
    rw [Nat.one_mul, hm, Nat.mul_comm]
    exact roundHalfEven_mul m (Nat.two_pow_pos e)
  rw [hx, hround, hm, Nat.mul_comm]

/-! ### Operations with zero -/

theorem ofRatio_zero (negative : Bool) (den : Nat) :
    ofRatio negative 0 den = some (zero negative) := by
  unfold ofRatio roundHalfEven
  simp only [Nat.zero_mul, Nat.zero_div, Nat.zero_mod, Nat.mul_zero]
  split <;> rfl

theorem magnitude_zero (negative : Bool) : (zero negative).magnitude = 0 := rfl

theorem isZero_zero (negative : Bool) : (zero negative).isZero = true := rfl

theorem natAbs_units (x : Binary64) : x.units.natAbs = x.magnitude := by
  unfold units
  split <;> omega

theorem magnitude_zero_add {x y : Binary64} {negative : Bool} (h : (zero negative).add x = some y) :
    y.magnitude = x.magnitude := by
  have hzero : (zero negative).units = 0 := by cases negative <;> rfl
  unfold add at h
  simp only [hzero, Int.zero_add, natAbs_units] at h
  have hnearest := nearest_of_ofRatio one_pos h
  have hone : (one : ℚ) ≠ 0 := by exact_mod_cast one_pos.ne'
  rw [mul_div_assoc, div_self hone, mul_one] at hnearest
  exact hnearest.magnitude_eq

theorem Nearest.congr {x y : Binary64} {w : ℚ} (h : x.Nearest w)
    (hxy : y.magnitude = x.magnitude) : y.Nearest w := by
  intro z
  rw [hxy]
  exact h z

/-! ### The power of ten with 28 zeros -/

/-- What `10 ^ 28` is in binary floating point. -/
def tenPower28 : Nat := 9999999999999999583119736832

theorem magnitude_powerOfTen : (powerOfTen 28).magnitude = tenPower28 * one := by decide +kernel

theorem magnitude_of_ofNat_tenPower28 {x : Binary64} (h : ofNat (10 ^ (28 : Nat)) = some x) :
    x.magnitude = tenPower28 * one := by
  rw [← magnitude_powerOfTen, powerOfTen, h]
  rfl

/-- Units that are few enough to come back from a division by the power of ten. -/
def fewUnits : Nat := 2273736754432320

theorem nearest_div {x y z : Binary64} {units : Nat} (h : x.div y = some z)
    (hx : x.magnitude = units * one) (hy : y.magnitude = tenPower28 * one) :
    z.Nearest (units * one / tenPower28) := by
  have hone : (one : ℚ) ≠ 0 := by exact_mod_cast one_pos.ne'
  have hpos : 0 < tenPower28 * one := Nat.mul_pos (by decide) one_pos
  unfold div at h
  rw [hx, hy] at h
  have hnearest := nearest_of_ofRatio hpos h
  push_cast at hnearest
  rwa [mul_div_mul_right _ _ hone] at hnearest

/-- The error of such a quotient. -/
theorem abs_div_sub_le {x y z : Binary64} {units : Nat} (hunits : units ≤ fewUnits)
    (h : x.div y = some z) (hx : x.magnitude = units * one)
    (hy : y.magnitude = tenPower28 * one) :
    |(z.magnitude : ℚ) - units * one / tenPower28| ≤ one / 2 ^ (96 : Nat) := by
  have hone : (one : ℚ) ≠ 0 := by exact_mod_cast one_pos.ne'
  have hpos : 0 < tenPower28 * one := Nat.mul_pos (by decide) one_pos
  obtain ⟨n, hn, hpower⟩ := exists_one_eq
  obtain ⟨k, rfl⟩ : ∃ k, n = k + 53 + 42 := ⟨n - 95, by omega⟩
  unfold div at h
  rw [hx, hy] at h
  have hbits : units * one * one < tenPower28 * one * 2 ^ (k + 53) := by
    rw [Nat.mul_right_comm tenPower28]
    refine Nat.mul_lt_mul_of_pos_right ?_ one_pos
    rw [hpower, Nat.pow_add 2 (k + 53), Nat.mul_left_comm, Nat.mul_comm (2 ^ (k + 53))]
    refine Nat.mul_lt_mul_of_pos_right ?_ (Nat.two_pow_pos _)
    exact Nat.lt_of_le_of_lt (Nat.mul_le_mul_right _ hunits) (by decide)
  have hle := abs_magnitude_sub_le hpos h hbits
  push_cast at hle
  rw [mul_div_mul_right _ _ hone] at hle
  refine hle.trans (le_of_eq ?_)
  rw [hpower, Nat.add_assoc, Nat.pow_add 2 k]
  push_cast
  ring

/-- The quotient, multiplied by the power of ten again, is close to the units. -/
theorem abs_mul_sub_le {units : Nat} {fraction : Binary64}
    (h : |(fraction.magnitude : ℚ) - units * one / tenPower28| ≤ one / 2 ^ (96 : Nat)) :
    |(fraction.magnitude : ℚ) * tenPower28 - units * one| ≤ one * (1 / 7) := by
  have hone : (0 : ℚ) < one := Nat.cast_pos.mpr one_pos
  have hten : (0 : ℚ) < tenPower28 := by norm_num [tenPower28]
  have hscale : (fraction.magnitude : ℚ) * tenPower28 - units * one =
      (fraction.magnitude - units * one / tenPower28) * tenPower28 := by
    field_simp
  rw [hscale, abs_mul, abs_of_pos hten]
  refine (mul_le_mul_of_nonneg_right h hten.le).trans ?_
  rw [div_mul_eq_mul_div, mul_div_assoc]
  exact mul_le_mul_of_nonneg_left (by norm_num [tenPower28]) hone.le

theorem mul_tenPower28_lt {units : Nat} {fraction : Binary64} (hunits : units ≤ fewUnits)
    (hback : |(fraction.magnitude : ℚ) * tenPower28 - units * one| ≤ one * (1 / 7)) :
    fraction.magnitude * tenPower28 < one * 2 ^ (52 : Nat) := by
  have hone : (0 : ℚ) < one := Nat.cast_pos.mpr one_pos
  have hle : (units * one : ℚ) ≤ fewUnits * one :=
    mul_le_mul_of_nonneg_right (Nat.cast_le.mpr hunits) hone.le
  have hlt : (fraction.magnitude : ℚ) * tenPower28 < one * (2 ^ (52 : Nat) : Nat) := by
    calc (fraction.magnitude : ℚ) * tenPower28 ≤ units * one + one * (1 / 7) := by
          linarith only [(abs_le.mp hback).2]
      _ ≤ fewUnits * one + one * (1 / 7) := by linarith only [hle]
      _ = one * (fewUnits + 1 / 7) := by ring
      _ < one * (2 ^ (52 : Nat) : Nat) := mul_lt_mul_of_pos_left (by norm_num [fewUnits]) hone
  exact_mod_cast hlt

theorem abs_product_sub_lt {units : Nat} {fraction product : Binary64} (hunits : units ≤ fewUnits)
    (hback : |(fraction.magnitude : ℚ) * tenPower28 - units * one| ≤ one * (1 / 7))
    (h : fraction.mul (powerOfTen 28) = some product) :
    |(product.magnitude : ℚ) - units * one| < one / 2 := by
  have hone : (0 : ℚ) < one := Nat.cast_pos.mpr one_pos
  have hsquare : 0 < one * one := Nat.mul_pos one_pos one_pos
  obtain ⟨n, hn, hpower⟩ := exists_one_eq
  obtain ⟨k, rfl⟩ : ∃ k, n = k + 1 := ⟨n - 1, by omega⟩
  have hbits : fraction.magnitude * (powerOfTen 28).magnitude * one <
      one * one * 2 ^ (k + 53) := by
    have hunit : one * 2 ^ (52 : Nat) = 2 ^ (k + 53) := by
      rw [hpower, ← Nat.pow_add]
    rw [magnitude_powerOfTen, ← hunit, ← Nat.mul_assoc, Nat.mul_assoc (_ * tenPower28),
      Nat.mul_comm (one * one)]
    exact Nat.mul_lt_mul_of_pos_right (mul_tenPower28_lt hunits hback) hsquare
  have herror := abs_magnitude_sub_le hsquare h hbits
  have hexact : ((fraction.magnitude * (powerOfTen 28).magnitude : Nat) : ℚ) * one /
      (one * one : Nat) = fraction.magnitude * tenPower28 := by
    rw [magnitude_powerOfTen]
    push_cast
    field_simp
  have hunit : (2 : ℚ) ^ k / 2 = one / 4 := by
    rw [hpower, Nat.cast_pow, pow_succ]
    push_cast
    ring
  rw [hexact, hunit] at herror
  have := abs_sub_le (product.magnitude : ℚ) (fraction.magnitude * tenPower28) (units * one)
  linarith only [this, herror, hback, hone]

theorem roundHalfUp_of_abs_sub_lt {n units : Nat} (h : |(n : ℚ) - units * one| < one / 2) :
    roundHalfUp n one = units := by
  obtain ⟨hlow, hhigh⟩ := abs_lt.mp h
  unfold roundHalfUp
  refine Nat.div_eq_of_lt_le ?_ ?_
  · have : (units * (2 * one) : ℚ) ≤ 2 * n + one := by linarith only [hlow]
    exact_mod_cast this
  · have : (2 * n + one : ℚ) < (units + 1) * (2 * one) := by linarith only [hhigh]
    exact_mod_cast this

/-- The product with the power of ten is rounded to the units. -/
theorem magnitude_round_mul {units : Nat} {fraction product rounded : Binary64}
    (hunits : units ≤ fewUnits)
    (hfraction : |(fraction.magnitude : ℚ) - units * one / tenPower28| ≤ one / 2 ^ (96 : Nat))
    (hproduct : fraction.mul (powerOfTen 28) = some product)
    (hrounded : product.round = some rounded) : rounded.magnitude = units * one := by
  have hclose := abs_product_sub_lt hunits (abs_mul_sub_le hfraction) hproduct
  unfold round at hrounded
  rw [roundHalfUp_of_abs_sub_lt hclose] at hrounded
  exact magnitude_of_ofRatio_one (Nat.lt_of_le_of_lt hunits (by decide)) hrounded

end Binary64

namespace Decimal
open Binary64

/-- A decimal without a fraction is converted as the natural that it is. -/
theorem toBinary64_whole {d : Decimal} {m : Nat} (hd : d.units.natAbs = m * 10 ^ d.scale)
    {x : Binary64} (hx : Binary64.ofNat m = some x) :
    d.toBinary64 = some (if d.units < 0 then x.neg else x) := by
  have hpower : 0 < 10 ^ d.scale := Nat.pow_pos (by decide)
  have hbound : 10 ^ d.scale < 1 * 2 ^ (100 : Nat) :=
    Nat.lt_of_le_of_lt (Nat.pow_le_pow_right (by decide) d.scale_le) (by decide)
  obtain ⟨power, hp⟩ := isSome_ofRatio false (by decide : 0 < 1) hbound
  have hzero : Binary64.ofNat 0 = some (Binary64.zero false) := ofRatio_zero false 1
  have hp : Binary64.ofNat (10 ^ d.scale) = some power := hp
  unfold toBinary64
  -- each step is rewritten, since the kernel cannot evaluate a rounding of variables
  simp -implicitDefEqProofs only [hd, Nat.mul_div_cancel m hpower, Nat.mul_mod_left, hx, hzero, hp,
    Option.bind_eq_bind, Option.bind_some, Binary64.div, magnitude_zero, ofRatio_zero]
  simp -implicitDefEqProofs [isZero_zero]

/-- A decimal that is all fraction, with few units, is converted to the number nearest
to its units divided by the power of ten. -/
theorem toBinary64_fraction {d : Decimal} {y : Binary64} (hscale : d.scale = 28)
    (hunits : d.units.natAbs ≤ fewUnits) (h : d.toBinary64 = some y) :
    y.Nearest (d.units.natAbs * one / tenPower28) := by
  have hpower : d.units.natAbs < 10 ^ (28 : Nat) := Nat.lt_of_le_of_lt hunits (by decide)
  unfold toBinary64 at h
  dsimp only at h
  rw [hscale, Nat.div_eq_of_lt hpower, Nat.mod_eq_of_lt hpower] at h
  obtain ⟨whole, hwhole, h⟩ := Option.bind_eq_some_iff.mp h
  rw [if_neg (by decide)] at h
  obtain ⟨units, hofUnits, h⟩ := Option.bind_eq_some_iff.mp h
  obtain ⟨ten, hten, h⟩ := Option.bind_eq_some_iff.mp h
  obtain ⟨fraction, hfraction, h⟩ := Option.bind_eq_some_iff.mp h
  have hzero : whole = Binary64.zero false :=
    Option.some.inj (hwhole.symm.trans (ofRatio_zero false 1))
  have hsmall : d.units.natAbs < 2 ^ (53 : Nat) := Nat.lt_of_le_of_lt hunits (by decide)
  have hunitsMagnitude := magnitude_of_ofRatio_one hsmall hofUnits
  have htenMagnitude := magnitude_of_ofNat_tenPower28 hten
  have hnearest := nearest_div hfraction hunitsMagnitude htenMagnitude
  have hsign : ∀ x : Binary64, (if decide (d.units < 0) = true then x.neg else x).magnitude =
      x.magnitude := by
    intro x
    split <;> rfl
  split at h
  · -- a fraction that is rounded to zero leaves the whole part, which is zero
    rename_i hfractionZero
    refine hnearest.congr ?_
    rw [← Option.some.inj h, hsign, hzero, magnitude_zero]
    refine (Nat.eq_zero_of_not_pos fun hpos => ?_).symm
    rw [magnitude_pos_iff, hfractionZero] at hpos
    cases hpos
  · obtain ⟨sum, hsum, h⟩ := Option.bind_eq_some_iff.mp h
    obtain ⟨product, hproduct, h⟩ := Option.bind_eq_some_iff.mp h
    obtain ⟨rounded, hrounded, h⟩ := Option.bind_eq_some_iff.mp h
    obtain ⟨quotient, hquotient, h⟩ := Option.bind_eq_some_iff.mp h
    have hsumMagnitude := magnitude_zero_add (hzero ▸ hsum)
    have hroundedMagnitude : rounded.magnitude = d.units.natAbs * one := by
      refine magnitude_round_mul hunits ?_ hproduct hrounded
      rw [hsumMagnitude]
      exact abs_div_sub_le hunits hfraction hunitsMagnitude htenMagnitude
    refine (nearest_div hquotient hroundedMagnitude magnitude_powerOfTen).congr ?_
    rw [← Option.some.inj h, hsign]

end Decimal
end PageFlow
