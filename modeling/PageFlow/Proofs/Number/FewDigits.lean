/-
# Few digits survive the conversion

A decimal with digits behind the point is converted in several roundings: its fraction is
divided by the power of ten, the whole part is added, the sum is multiplied by the power of
ten again, and what that is rounded to is divided by it. Each of the first three is off by
at most one part in `2 ^ 53`. So as long as the decimal has no more than fifteen digits, the
product is less than a half away from its units and is rounded to them, and the last
division gives the number nearest to the decimal. For this the power of ten has to be exact,
which it is up to `10 ^ 22`.

Key definitions: `Binary64.IsNat`, `Binary64.CloseTo`.
Key theorems: `Binary64.exists_closeTo`, `Binary64.abs_scaled_sub_lt`,
`Decimal.toBinary64_of_few`.
-/
import PageFlow.Proofs.Number.Conversion
import PageFlow.Proofs.Number.Reread

namespace PageFlow

-- Powers are those of the core library, whatever else is imported.
attribute [local instance (2000)] instPowNat

-- The units in one are too many to be computed.
attribute [local irreducible] Binary64.one

namespace Binary64

/-! ### Exact naturals -/

/-- The number is the natural `n`. -/
structure IsNat (x : Binary64) (n : Nat) : Prop where
  negative : x.negative = false
  magnitude : x.magnitude = n * one

theorem exists_isNat {n : Nat} (hn : n < 2 ^ (53 : Nat)) : ∃ x, ofNat n = some x ∧ x.IsNat n := by
  obtain ⟨x, hx⟩ := isSome_ofRatio false Nat.one_pos (show n < 1 * 2 ^ (100 : Nat) by omega)
  exact ⟨x, hx, (of_ofRatio Nat.one_pos hx).1, magnitude_of_ofRatio_one hn hx⟩

/-- The powers of ten that need no more than 53 bits in front of their zeros. -/
theorem isNat_powerOfTen {k : Nat} (hk : k ≤ 22) : (powerOfTen k).IsNat (10 ^ k) := by
  have hall : ∀ k : Fin 23, (powerOfTen k).negative = false ∧
      (powerOfTen k).magnitude = 10 ^ k.val * one := by decide +kernel
  obtain ⟨hnegative, hmagnitude⟩ := hall ⟨k, by omega⟩
  exact ⟨hnegative, hmagnitude⟩

theorem exists_round {x : Binary64} {n : Nat} (hx : x.negative = false) (hn : n < 2 ^ (53 : Nat))
    (hclose : |(x.magnitude : ℚ) - n * one| < one / 2) : ∃ z, x.round = some z ∧ z.IsNat n := by
  unfold round
  rw [roundHalfUp_of_abs_sub_lt hclose, hx]
  exact exists_isNat hn

/-! ### Errors of single operations, in parts of the result -/

/-- The number is off from `w` units by at most one part in `2 ^ 53`. -/
structure CloseTo (x : Binary64) (w : ℚ) : Prop where
  negative : x.negative = false
  error : |(x.magnitude : ℚ) - w| * 2 ^ (53 : Nat) ≤ w

theorem one_le : 2 ^ (200 : Nat) ≤ one := by
  obtain ⟨k, hk, hone⟩ := exists_one_eq
  rw [hone]
  exact Nat.pow_le_pow_right (by decide) (by omega)

/-- A ratio that is neither among the least nor among the greatest is rounded to a number close
to it. -/
theorem exists_closeTo {num den : Nat} (hden : 0 < den)
    (hlow : (2 : ℚ) ^ (52 : Nat) ≤ num * one / den)
    (hhigh : (num * one / den : ℚ) < one * 2 ^ (100 : Nat)) :
    ∃ x, ofRatio false num den = some x ∧ x.CloseTo (num * one / den) := by
  have hpos : (0 : ℚ) < den := Nat.cast_pos.mpr hden
  have hone : (0 : ℚ) < one := Nat.cast_pos.mpr one_pos
  rw [div_lt_iff₀ hpos] at hhigh
  have hrange : num < den * 2 ^ (100 : Nat) := by
    have : (num : ℚ) < den * 2 ^ (100 : Nat) :=
      lt_of_mul_lt_mul_right (by linarith only [hhigh]) hone.le
    exact_mod_cast this
  obtain ⟨x, hx⟩ := isSome_ofRatio false hden hrange
  obtain ⟨hnegative, e, hfits, -⟩ := of_ofRatio hden hx
  refine ⟨x, hx, hnegative, ?_⟩
  have herror := abs_magnitude_sub_le hden hx hfits.1
  have hstep : (2 : ℚ) ^ e * 2 ^ (52 : Nat) ≤ num * one / den := by
    rcases hfits.2 with rfl | hbits
    · simpa using hlow
    · rw [le_div_iff₀ hpos, ← pow_add, mul_comm]
      exact_mod_cast hbits
  linarith only [herror, hstep]

theorem CloseTo.bounds {x : Binary64} {w : ℚ} (h : x.CloseTo w) :
    w / 2 ≤ x.magnitude ∧ (x.magnitude : ℚ) ≤ 2 * w := by
  have hnonneg : 0 ≤ w := le_trans (mul_nonneg (abs_nonneg _) (by norm_num)) h.error
  have hhalf : |(x.magnitude : ℚ) - w| ≤ w / 2 := by linarith only [h.error, hnonneg]
  obtain ⟨hlow, hhigh⟩ := abs_le.mp hhalf
  exact ⟨by linarith only [hlow], by linarith only [hhigh, hnonneg]⟩

theorem exists_div {x y : Binary64} {n p : Nat} (hx : x.IsNat n) (hy : y.IsNat p) (hp : 0 < p)
    (hlow : (2 : ℚ) ^ (52 : Nat) ≤ n * one / p)
    (hhigh : (n * one / p : ℚ) < one * 2 ^ (100 : Nat)) :
    ∃ z, x.div y = some z ∧ z.CloseTo (n * one / p) := by
  have hone : (one : ℚ) ≠ 0 := Nat.cast_ne_zero.mpr one_pos.ne'
  have hratio : ((n * one : Nat) * one / (p * one : Nat) : ℚ) = n * one / p := by
    push_cast
    exact mul_div_mul_right _ _ hone
  unfold div
  rw [hx.negative, hy.negative, hx.magnitude, hy.magnitude, ← hratio]
  exact exists_closeTo (Nat.mul_pos hp one_pos) (hratio ▸ hlow) (hratio ▸ hhigh)

theorem exists_add {x y : Binary64} (hx : x.negative = false) (hy : y.negative = false)
    (hlow : (2 : ℚ) ^ (52 : Nat) ≤ x.magnitude + y.magnitude)
    (hhigh : (x.magnitude + y.magnitude : ℚ) < one * 2 ^ (100 : Nat)) :
    ∃ z, x.add y = some z ∧ z.CloseTo (x.magnitude + y.magnitude) := by
  have hone : (one : ℚ) ≠ 0 := Nat.cast_ne_zero.mpr one_pos.ne'
  have hsum : x.units + y.units = (x.magnitude + y.magnitude : Nat) := by
    simp only [units, hx, hy, Bool.false_eq_true, if_false, Nat.cast_add]
  have hratio : ((x.magnitude + y.magnitude : Nat) * one / one : ℚ) =
      x.magnitude + y.magnitude := by
    rw [Nat.cast_add]
    exact mul_div_cancel_right₀ _ hone
  have hsign : (if x.units + y.units = 0 then x.negative && y.negative
      else decide (x.units + y.units < 0)) = false := by
    rw [hx, hy, hsum]
    split
    · rfl
    · exact decide_eq_false (by omega)
  unfold add
  dsimp only
  rw [hsign, hsum, Int.natAbs_natCast, ← hratio]
  exact exists_closeTo one_pos (hratio ▸ hlow) (hratio ▸ hhigh)

theorem exists_mul {x y : Binary64} {p : Nat} (hx : x.negative = false) (hy : y.IsNat p)
    (hlow : (2 : ℚ) ^ (52 : Nat) ≤ x.magnitude * p)
    (hhigh : (x.magnitude * p : ℚ) < one * 2 ^ (100 : Nat)) :
    ∃ z, x.mul y = some z ∧ z.CloseTo (x.magnitude * p) := by
  have hone : (one : ℚ) ≠ 0 := Nat.cast_ne_zero.mpr one_pos.ne'
  have hratio : ((x.magnitude * (p * one) : Nat) * one / (one * one : Nat) : ℚ) =
      x.magnitude * p := by
    push_cast
    field_simp
  unfold mul
  rw [hx, hy.negative, hy.magnitude, ← hratio]
  exact exists_closeTo (Nat.mul_pos one_pos one_pos) (hratio ▸ hlow) (hratio ▸ hhigh)

/-! ### The error of the product -/

/-- A fraction that is rounded, added to a whole part and multiplied by a power, each time with
an error of one part in `2 ^ 53`, is off by four of these parts at most. -/
theorem abs_scaled_sub_le {whole exact power : ℚ} {fraction sum product : Binary64}
    (hwhole : 0 ≤ whole) (hpower : 0 ≤ power) (hfraction : fraction.CloseTo exact)
    (hsum : sum.CloseTo (whole + fraction.magnitude))
    (hproduct : product.CloseTo (sum.magnitude * power)) :
    |(product.magnitude : ℚ) - (whole + exact) * power| * 2 ^ (53 : Nat) ≤
      4 * ((whole + exact) * power) := by
  -- all errors are taken at the scale of the product, so that they add up
  have hscale : ∀ {x w : ℚ}, |x - w| * 2 ^ (53 : Nat) ≤ w →
      |x * power - w * power| * 2 ^ (53 : Nat) ≤ w * power := by
    intro x w h
    rw [← sub_mul, abs_mul, abs_of_nonneg hpower, mul_right_comm]
    exact mul_le_mul_of_nonneg_right h hpower
  have hfirst := hscale hfraction.error
  have hsecond := hscale hsum.error
  have hthird := hproduct.error
  rw [add_mul] at hsecond
  rw [add_mul]
  have hnonneg : 0 ≤ whole * power := mul_nonneg hwhole hpower
  generalize whole * power = w at *
  generalize exact * power = f at *
  generalize (fraction.magnitude : ℚ) * power = f' at *
  generalize (sum.magnitude : ℚ) * power = s at *
  rw [← le_div_iff₀ (by norm_num), abs_le] at hfirst hsecond hthird ⊢
  constructor <;> linarith only [hfirst, hsecond, hthird, hnonneg]

/-- With fifteen digits that is less than a half. -/
theorem abs_scaled_sub_lt {n : Nat} {w : ℚ} {product : Binary64} (hn : n < 10 ^ (15 : Nat))
    (hw : w = n * one) (herror : |(product.magnitude : ℚ) - w| * 2 ^ (53 : Nat) ≤ 4 * w) :
    |(product.magnitude : ℚ) - n * one| < one / 2 := by
  have hone : (0 : ℚ) < one := Nat.cast_pos.mpr one_pos
  have hdigits : (n : ℚ) * one ≤ 10 ^ (15 : Nat) * one :=
    mul_le_mul_of_nonneg_right (by exact_mod_cast hn.le) hone.le
  rw [hw] at herror
  linarith only [herror, hdigits, hone]

/-- A fraction of not too many digits is neither very small nor above one. -/
theorem fraction_bounds {n p : Nat} (hp : 0 < p) (hple : p ≤ 10 ^ (22 : Nat)) (hrest : n % p ≠ 0) :
    (2 : ℚ) ^ (120 : Nat) ≤ (n % p : Nat) * one / p ∧ ((n % p : Nat) * one / p : ℚ) ≤ one := by
  have hpos : (0 : ℚ) < p := Nat.cast_pos.mpr hp
  have hone : (2 : ℚ) ^ (200 : Nat) ≤ one := by exact_mod_cast one_le
  have hten : (p : ℚ) ≤ 10 ^ (22 : Nat) := by exact_mod_cast hple
  have hlow : (1 : ℚ) ≤ (n % p : Nat) := by exact_mod_cast Nat.pos_of_ne_zero hrest
  have hhigh : ((n % p : Nat) : ℚ) ≤ p := by exact_mod_cast (Nat.mod_lt n hp).le
  rw [le_div_iff₀ hpos, div_le_iff₀ hpos]
  constructor
  · nlinarith only [hlow, hten, hone]
  · rw [mul_comm]
    exact mul_le_mul_of_nonneg_left hhigh (by linarith only [hone])

theorem exists_product {n p : Nat} {power : Binary64} (hn : n < 10 ^ (15 : Nat))
    (hpower : power.IsNat p) (hp : 0 < p) (hple : p ≤ 10 ^ (22 : Nat)) (hmod : n % p ≠ 0) :
    ∃ whole rest fraction sum product : Binary64, ofNat (n / p) = some whole ∧
      ofNat (n % p) = some rest ∧ rest.div power = some fraction ∧ fraction.isZero = false ∧
      whole.add fraction = some sum ∧ sum.mul power = some product ∧
      product.negative = false ∧ |(product.magnitude : ℚ) - n * one| < one / 2 := by
  have hone : (2 : ℚ) ^ (200 : Nat) ≤ one := by exact_mod_cast one_le
  have hpos : (0 : ℚ) < p := Nat.cast_pos.mpr hp
  obtain ⟨hlow, hhigh⟩ := fraction_bounds hp hple hmod
  have hvalue : (((n / p : Nat) : ℚ) * one + (n % p : Nat) * one / p) * p = n * one := by
    have hsplit : (n : ℚ) = p * (n / p : Nat) + (n % p : Nat) := by
      exact_mod_cast (Nat.div_add_mod n p).symm
    rw [add_mul, div_mul_cancel₀ _ hpos.ne', hsplit]
    ring
  have hdigits : (n : ℚ) * one ≤ 10 ^ (15 : Nat) * one :=
    mul_le_mul_of_nonneg_right (by exact_mod_cast hn.le) (by linarith only [hone])
  have hwholeLe : ((n / p : Nat) : ℚ) * one ≤ n * one :=
    mul_le_mul_of_nonneg_right (by exact_mod_cast Nat.div_le_self n p) (by linarith only [hone])
  have hsmall : n / p ≤ n ∧ n % p ≤ n := ⟨Nat.div_le_self n p, Nat.mod_le n p⟩
  obtain ⟨whole, hwhole, hwholeNat⟩ := exists_isNat (show n / p < 2 ^ (53 : Nat) by omega)
  obtain ⟨rest, hrest, hrestNat⟩ := exists_isNat (show n % p < 2 ^ (53 : Nat) by omega)
  have hmagnitude : (whole.magnitude : ℚ) = (n / p : Nat) * one := by
    rw [hwholeNat.magnitude, Nat.cast_mul]
  have hnonneg : (0 : ℚ) ≤ whole.magnitude := Nat.cast_nonneg _
  obtain ⟨fraction, hfraction, hfractionClose⟩ := exists_div hrestNat hpower hp
    (by linarith only [hlow]) (by linarith only [hhigh, hone])
  have hfractionBounds := hfractionClose.bounds
  obtain ⟨sum, hsum, hsumClose⟩ := exists_add hwholeNat.negative hfractionClose.negative
    (by linarith only [hlow, hfractionBounds, hnonneg])
    (by linarith only [hmagnitude, hwholeLe, hdigits, hhigh, hfractionBounds, hone])
  have hsumBounds := hsumClose.bounds
  -- the sum is at most four times the exact one, and at least a quarter of the fraction
  have hscaled : (sum.magnitude : ℚ) * p ≤ 4 * (n * one) := by
    rw [← hvalue, ← mul_assoc]
    refine mul_le_mul_of_nonneg_right ?_ hpos.le
    linarith only [hsumBounds, hfractionBounds, hmagnitude, hnonneg]
  have hscaledLow : (sum.magnitude : ℚ) ≤ sum.magnitude * p :=
    le_mul_of_one_le_right (Nat.cast_nonneg _) (by exact_mod_cast hp)
  obtain ⟨product, hproduct, hproductClose⟩ := exists_mul hsumClose.negative hpower
    (by linarith only [hscaledLow, hsumBounds, hfractionBounds, hlow, hnonneg])
    (by linarith only [hscaled, hdigits, hone])
  refine ⟨whole, rest, fraction, sum, product, hwhole, hrest, hfraction, ?_, hsum, hproduct,
    hproductClose.negative, ?_⟩
  · rw [← magnitude_pos_iff]
    have : (0 : ℚ) < fraction.magnitude := by linarith only [hfractionBounds, hlow]
    exact_mod_cast this
  · rw [hmagnitude] at hsumClose
    refine abs_scaled_sub_lt hn hvalue ?_
    exact abs_scaled_sub_le (hmagnitude ▸ hnonneg) hpos.le hfractionClose hsumClose hproductClose

end Binary64

namespace Decimal
open Binary64

/-- A decimal with a fraction is converted through the roundings, and back to its units. -/
theorem toBinary64_of_roundings {d : Decimal} {whole rest fraction sum product rounded z : Binary64}
    (hscale : d.scale ≠ 0) (hten : d.scale ≤ 22)
    (hwhole : Binary64.ofNat (d.units.natAbs / 10 ^ d.scale) = some whole)
    (hrest : Binary64.ofNat (d.units.natAbs % 10 ^ d.scale) = some rest)
    (hfraction : rest.div (powerOfTen d.scale) = some fraction) (hne : fraction.isZero = false)
    (hsum : whole.add fraction = some sum)
    (hproduct : sum.mul (powerOfTen d.scale) = some product)
    (hrounded : product.round = some rounded)
    (hz : rounded.div (powerOfTen d.scale) = some z) :
    d.toBinary64 = some (if d.units < 0 then z.neg else z) := by
  have hpower : Binary64.ofNat (10 ^ d.scale) = some (powerOfTen d.scale) :=
    ofNat_powerOfTen (by omega)
  unfold toBinary64
  simp -implicitDefEqProofs only [hwhole, hrest, hpower, hfraction, hne, hsum, hproduct, hrounded,
    hz, if_neg hscale, Option.bind_eq_bind, Option.bind_some, Bool.false_eq_true, if_false]
  simp -implicitDefEqProofs

/-- **A decimal of at most fifteen digits, with at most 22 behind the point, is converted to
the number that it reads back as.** -/
theorem toBinary64_of_few {d : Decimal} {x : Binary64}
    (hunits : d.units.natAbs < 10 ^ (15 : Nat)) (hscale : d.scale ≤ 22)
    (hreads : x.ReadsAs (d.units.natAbs / (10 ^ d.scale : Nat))) :
    d.toBinary64 = some
      (if d.units < 0 then ({ x with negative := false } : Binary64).neg
        else { x with negative := false }) := by
  have hpos : 0 < 10 ^ d.scale := Nat.pow_pos (by decide)
  by_cases hmod : d.units.natAbs % 10 ^ d.scale = 0
  · obtain ⟨m, hm⟩ := Nat.dvd_of_mod_eq_zero hmod
    rw [Nat.mul_comm] at hm
    have hvalue : (d.units.natAbs : ℚ) / (10 ^ d.scale : Nat) = m / (1 : Nat) := by
      rw [hm, Nat.cast_mul, Nat.cast_one, div_one,
        mul_div_cancel_right₀ _ (Nat.cast_ne_zero.mpr hpos.ne')]
    exact toBinary64_whole hm (hreads.ofRatio_eq Nat.one_pos hvalue false)
  · have hzero : d.scale ≠ 0 := fun h => hmod (by rw [h, Nat.pow_zero, Nat.mod_one])
    have hpower := isNat_powerOfTen hscale
    obtain ⟨whole, rest, fraction, sum, product, hwhole, hrest, hfraction, hne, hsum, hproduct,
      hsign, hclose⟩ := exists_product hunits hpower hpos
        (Nat.pow_le_pow_right (by decide) hscale) hmod
    obtain ⟨rounded, hrounded, hroundedNat⟩ :=
      exists_round hsign (show d.units.natAbs < 2 ^ (53 : Nat) by omega) hclose
    refine toBinary64_of_roundings hzero hscale hwhole hrest hfraction hne hsum hproduct
      hrounded ?_
    have hone : (one : ℚ) ≠ 0 := Nat.cast_ne_zero.mpr one_pos.ne'
    have hvalue : (d.units.natAbs : ℚ) / (10 ^ d.scale : Nat) =
        (d.units.natAbs * one : Nat) / (10 ^ d.scale * one : Nat) := by
      rw [Nat.cast_mul, Nat.cast_mul, mul_div_mul_right _ _ hone]
    unfold Binary64.div
    rw [hroundedNat.negative, hpower.negative, hroundedNat.magnitude, hpower.magnitude]
    exact hreads.ofRatio_eq (Nat.mul_pos hpos Binary64.one_pos) hvalue false

end Decimal
end PageFlow
