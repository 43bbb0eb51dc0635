/-
# Numbers that are printed and read again

A reader takes the digits of a numeral as one number, rounds it, and scales it by a
power of ten, which is rounded as well, with one rounding more for the product. So
the number that is read is not always the number that was printed. But there always
is one: the digits of a printed number fit the significand, what is divided cannot
grow, and what is multiplied is so close to the number that was printed that it is
no greater than the greatest finite number. Integers are read as they were printed.

Key definitions: `Number.reread`.
Key theorems: `Binary64.isSome_ofRatio_of_lt`, `Binary64.isSome_floatValue_numeral`,
`Number.value_numeral`.
-/
import PageFlow.Proofs.Number.Text

namespace PageFlow

-- Powers are those of the core library, whatever else is imported.
attribute [local instance (2000)] instPowNat

-- The units in one are too many to be computed.
attribute [local irreducible] Binary64.one

/-! ### The significand -/

namespace Significand

theorem admits_of_lt {c : Char} {ds : List Char} {digits : Nat} (exponent : Int)
    (h : Nat.ofDigitChars 10 (c :: ds) digits < 2 ^ (64 : Nat)) :
    admits ⟨digits, exponent⟩ c = true ∧
      push ⟨digits, exponent⟩ c = ⟨10 * digits + (c.toNat - '0'.toNat), exponent⟩ := by
  rw [Nat.ofDigitChars_cons] at h
  have := Decimal.le_ofDigitChars ds (10 * digits + (c.toNat - '0'.toNat))
  unfold admits push
  rw [decide_eq_true_eq, Nat.mul_comm digits 10]
  exact ⟨by omega, rfl⟩

theorem readWhole_of_lt : ∀ (ds : List Char) (digits : Nat) (exponent : Int),
    Nat.ofDigitChars 10 ds digits < 2 ^ (64 : Nat) →
      readWhole ⟨digits, exponent⟩ ds = ⟨Nat.ofDigitChars 10 ds digits, exponent⟩
  | [], digits, exponent, _ => rfl
  | c :: ds, digits, exponent, h => by
    obtain ⟨hadmits, hpush⟩ := admits_of_lt exponent h
    rw [Nat.ofDigitChars_cons] at h ⊢
    rw [readWhole, if_pos hadmits, hpush, readWhole_of_lt ds _ _ h]

theorem readFraction_of_lt : ∀ (ds : List Char) (digits : Nat) (exponent : Int),
    Nat.ofDigitChars 10 ds digits < 2 ^ (64 : Nat) →
      readFraction ⟨digits, exponent⟩ ds =
        ⟨Nat.ofDigitChars 10 ds digits, exponent - ds.length⟩
  | [], digits, exponent, _ => by
    rw [readFraction, List.length_nil, Int.natCast_zero, Int.sub_zero, Nat.ofDigitChars_nil]
  | c :: ds, digits, exponent, h => by
    obtain ⟨hadmits, hpush⟩ := admits_of_lt exponent h
    rw [Nat.ofDigitChars_cons] at h ⊢
    rw [readFraction, if_pos hadmits, hpush, readFraction_of_lt ds _ _ h, List.length_cons,
      Int.natCast_add, Int.natCast_one, Int.sub_sub, Int.add_comm 1]

end Significand

namespace Numeral

/-- The power of ten that goes with all digits of a numeral. -/
def scale (n : Numeral) : Int := n.writtenExponent - (n.fraction.getD []).length

/-- The significand of digits that fit has all of them. -/
theorem significand_of_lt {n : Numeral}
    (h : Nat.ofDigitChars 10 n.digits 0 < 2 ^ (64 : Nat)) :
    n.significand = ⟨Nat.ofDigitChars 10 n.digits 0, -(n.fraction.getD []).length⟩ := by
  have hdigits : Nat.ofDigitChars 10 n.digits 0 =
      Nat.ofDigitChars 10 (n.fraction.getD []) (Nat.ofDigitChars 10 n.whole 0) := by
    rw [digits, Nat.ofDigitChars_append]
  rw [hdigits] at h ⊢
  have hwhole : Nat.ofDigitChars 10 n.whole 0 < 2 ^ (64 : Nat) :=
    Nat.lt_of_le_of_lt (Decimal.le_ofDigitChars _ _) h
  unfold significand
  dsimp only
  rw [Significand.readWhole_of_lt n.whole 0 0 hwhole, Significand.readFraction_of_lt _ _ _ h,
    Int.zero_sub]

/-- A numeral is read if its significand, once rounded, can be scaled. -/
theorem isSome_floatValue {n : Numeral} (hroom : Nat.ofDigitChars 10 n.digits 0 < 2 ^ (64 : Nat))
    (h : ∀ y, Binary64.ofNat (Nat.ofDigitChars 10 n.digits 0) = some y →
      (y.scaleByTen n.scale 4).isSome = true) : n.floatValue.isSome = true := by
  obtain ⟨y, hy⟩ := Binary64.isSome_ofRatio false Nat.one_pos
    (show Nat.ofDigitChars 10 n.digits 0 < 1 * 2 ^ (100 : Nat) by omega)
  obtain ⟨z, hz⟩ := Option.isSome_iff_exists.mp (h y hy)
  have hscale : -((n.fraction.getD []).length : Int) + n.writtenExponent = n.scale := by
    rw [scale]
    omega
  unfold floatValue
  rw [significand_of_lt hroom]
  simp only [hscale]
  rw [Binary64.ofNat, hy, Option.bind_eq_bind, Option.bind_some, hz]
  rfl

theorem value_of_pointed {n : Numeral}
    (h : n.fraction.isSome = true ∨ n.exponent.isSome = true) :
    n.value = n.floatValue.map .float := by
  have hwhole : (n.fraction.isNone && n.exponent.isNone) = false := by
    cases hfraction : n.fraction <;> cases hexponent : n.exponent <;> simp_all
  unfold value
  dsimp only
  rw [hwhole]
  split <;> rfl

end Numeral

namespace Binary64

/-! ### The range of a rounding -/

/-- A ratio below the midpoint behind the greatest number is rounded to a finite number. -/
theorem isSome_ofRatio_of_lt (negative : Bool) {num den : Nat} (hden : 0 < den)
    (h : 2 * (num * one) < den * ((2 ^ (54 : Nat) - 1) * 2 ^ (2045 : Nat))) :
    ∃ x, ofRatio negative num den = some x := by
  have hfits := fitsAt_log2 (num * one) hden
  rw [ofRatio_of_fitsAt hden hfits]
  generalize (num * one / den).log2 - 52 = e at hfits ⊢
  -- the power is too large to be computed with
  obtain ⟨top, htop⟩ : ∃ top, top = 2045 := ⟨2045, rfl⟩
  rw [← htop] at h
  obtain ⟨hle, hge⟩ := hfits.roundHalfEven_le hden
  have he : e ≤ 2045 := by
    rcases hfits.2 with h0 | hbits
    · omega
    · by_contra hcon
      have hgreat : 2 ^ top * 2 ^ (53 : Nat) ≤ 2 ^ (e + 52) := by
        rw [← Nat.pow_add]
        exact Nat.pow_le_pow_right (by decide) (by omega)
      have := Nat.mul_le_mul_left den hgreat
      have hmidpoint : den * ((2 ^ (54 : Nat) - 1) * 2 ^ top) ≤
          2 * (den * (2 ^ top * 2 ^ (53 : Nat))) := by
        rw [Nat.mul_left_comm 2, Nat.mul_comm (2 ^ (54 : Nat) - 1), Nat.mul_left_comm 2]
        exact Nat.mul_le_mul_left _ (Nat.mul_le_mul_left _ (by decide))
      omega
  unfold ofParts?
  split
  · next hcarry =>
    have hlast : e ≠ top := by
      rintro rfl
      have hround := (roundHalfEven_bounds (num * one)
        (Nat.mul_pos hden (Nat.two_pow_pos e))).2
      rw [hcarry] at hround
      have hleft : 2 * 2 ^ (53 : Nat) * (den * 2 ^ e) =
          den * ((2 ^ (54 : Nat) - 1) * 2 ^ e) + den * 2 ^ e := by
        ring
      omega
    exact ⟨_, dif_pos ⟨by decide, by omega, .inl (Nat.le_refl _)⟩⟩
  · exact ⟨_, dif_pos ⟨by omega, he, hge⟩⟩

/-! ### Bounds of a rounding -/

theorem Nearest.magnitude_le {x y : Binary64} {w : ℚ} (h : x.Nearest w)
    (hw : w ≤ y.magnitude) : x.magnitude ≤ y.magnitude := by
  by_contra hcon
  have hlt : (y.magnitude : ℚ) < x.magnitude := by exact_mod_cast Nat.lt_of_not_le hcon
  have hmidpoint := h.midpoint_le (Nat.lt_of_not_le hcon)
  linarith

theorem Nearest.le_magnitude {x y : Binary64} {w : ℚ} (h : x.Nearest w)
    (hw : y.magnitude ≤ w) : y.magnitude ≤ x.magnitude := by
  by_contra hcon
  have hlt : (x.magnitude : ℚ) < y.magnitude := by exact_mod_cast Nat.lt_of_not_le hcon
  have hmidpoint := h.le_midpoint (Nat.lt_of_not_le hcon)
  linarith

/-- A natural that is not zero is rounded up by at most one part in `2 ^ 53`. -/
theorem magnitude_of_ofNat_le {n : Nat} {x : Binary64} (hn : 0 < n) (h : ofNat n = some x) :
    x.magnitude * 2 ^ (53 : Nat) ≤ n * one * (2 ^ (53 : Nat) + 1) := by
  obtain ⟨-, e, hfits, hx⟩ := of_ofRatio (by decide) h
  have hlow : 2 ^ e * 2 ^ (52 : Nat) ≤ n * one := by
    rcases hfits.2 with rfl | hbits
    · obtain ⟨k, hk, hone⟩ := exists_one_eq
      rw [Nat.pow_zero, Nat.one_mul, hone]
      exact Nat.le_trans (Nat.pow_le_pow_right (by decide) (by omega))
        (Nat.le_mul_of_pos_left _ hn)
    · rwa [Nat.one_mul, Nat.pow_add] at hbits
  have hround := (roundHalfEven_bounds (n * one)
    (Nat.mul_pos Nat.one_pos (Nat.two_pow_pos e))).2
  rw [Nat.mul_assoc, Nat.one_mul] at hround
  rw [Nat.one_mul] at hx
  rw [← hx] at hround
  calc x.magnitude * 2 ^ (53 : Nat) = 2 * x.magnitude * 2 ^ (52 : Nat) := by ring
    _ ≤ (2 * (n * one) + 2 ^ e) * 2 ^ (52 : Nat) := Nat.mul_le_mul_right _ hround
    _ = n * one * 2 ^ (53 : Nat) + 2 ^ e * 2 ^ (52 : Nat) := by ring
    _ ≤ n * one * 2 ^ (53 : Nat) + n * one := Nat.add_le_add_left hlow _
    _ = n * one * (2 ^ (53 : Nat) + 1) := rfl

/-! ### Powers of ten -/

/-- The last power of ten that is finite, between powers of two. The powers are too large to be
computed with. -/
theorem exists_limits_eq : ∃ m l : Nat, m = 971 ∧ l = 308 ∧
    2 * 10 ^ l < (2 ^ (54 : Nat) - 1) * 2 ^ m ∧ 2 ^ (55 : Nat) * 2 ^ m < 4 * (1 * 10 ^ (l + 1)) :=
  ⟨971, 308, rfl, rfl, by decide +kernel⟩

theorem ofNat_powerOfTen {k : Nat} (hk : k ≤ 308) : ofNat (10 ^ k) = some (powerOfTen k) := by
  obtain ⟨n, hn, hone⟩ := exists_one_eq
  obtain ⟨m, l, hm, hl, hlimit, -⟩ := exists_limits_eq
  have htop : 2045 = m + n := by omega
  have hrange : 2 * (10 ^ k * one) < 1 * ((2 ^ (54 : Nat) - 1) * 2 ^ (2045 : Nat)) := by
    rw [hone, htop, Nat.pow_add, Nat.one_mul, ← Nat.mul_assoc, ← Nat.mul_assoc]
    refine Nat.mul_lt_mul_of_pos_right ?_ (Nat.two_pow_pos n)
    exact Nat.lt_of_le_of_lt (Nat.mul_le_mul_left 2 (Nat.pow_le_pow_right (by decide) (by omega)))
      hlimit
  obtain ⟨x, hx⟩ := isSome_ofRatio_of_lt false (by decide) hrange
  rw [powerOfTen, ofNat, hx, Option.getD_some]

theorem exists_magnitude_eq_one_mul {k : Nat} (hk : k ≤ 1023) :
    ∃ x : Binary64, x.magnitude = one * 2 ^ k := by
  obtain ⟨n, hn, hone⟩ := exists_one_eq
  refine ⟨⟨false, 2 ^ (52 : Nat), 1022 + k, by decide, by omega, .inl (Nat.le_refl _)⟩, ?_⟩
  show 2 ^ (52 : Nat) * 2 ^ (1022 + k) = one * 2 ^ k
  rw [hone, ← Nat.pow_add, ← Nat.pow_add]
  congr 1
  omega

theorem one_le_powerOfTen {k : Nat} (hk : k ≤ 308) : one ≤ (powerOfTen k).magnitude := by
  have hnearest := nearest_of_ofRatio (by decide) (ofNat_powerOfTen hk)
  obtain ⟨unit, hunit⟩ := exists_magnitude_eq_one_mul (Nat.zero_le 1023)
  rw [Nat.pow_zero, Nat.mul_one] at hunit
  rw [← hunit]
  refine hnearest.le_magnitude ?_
  rw [hunit, Nat.cast_one, div_one]
  have hpower : (1 : ℚ) ≤ (10 ^ k : Nat) := by exact_mod_cast Nat.pow_pos (by decide)
  exact le_mul_of_one_le_left (Nat.cast_nonneg one) hpower

theorem magnitude_of_ofNat_lt {n : Nat} {x : Binary64} (hn : n < 2 ^ (64 : Nat))
    (h : ofNat n = some x) : x.magnitude < one * 2 ^ (100 : Nat) := by
  obtain ⟨y, hy⟩ := exists_magnitude_eq_one_mul (show 64 ≤ 1023 by decide)
  refine Nat.lt_of_le_of_lt ((nearest_of_ofRatio (by decide) h).magnitude_le (y := y) ?_) ?_
  · rw [hy, Nat.cast_one, div_one, Nat.mul_comm]
    exact_mod_cast Nat.mul_le_mul_right one hn.le
  · rw [hy]
    exact Nat.mul_lt_mul_of_pos_left (by decide) one_pos

/-! ### Scaling -/

/-- A division by a power of ten has a result, which is no greater. -/
theorem exists_div_powerOfTen {x : Binary64} (hx : x.magnitude < one * 2 ^ (100 : Nat)) {k : Nat}
    (hk : k ≤ 308) : ∃ y, x.div (powerOfTen k) = some y ∧ y.magnitude ≤ x.magnitude := by
  have hone := one_le_powerOfTen hk
  have hpos : 0 < (powerOfTen k).magnitude := Nat.lt_of_lt_of_le one_pos hone
  obtain ⟨y, hy⟩ := isSome_ofRatio (x.negative != (powerOfTen k).negative) hpos
    (Nat.lt_of_lt_of_le hx (Nat.mul_le_mul_right _ hone))
  refine ⟨y, hy, (nearest_of_ofRatio hpos hy).magnitude_le ?_⟩
  rw [div_le_iff₀ (by exact_mod_cast hpos)]
  exact mul_le_mul_of_nonneg_left (by exact_mod_cast hone) (Nat.cast_nonneg _)

theorem isSome_scaleByTen_of_neg : ∀ (fuel : Nat) (x : Binary64) (e : Int),
    x.magnitude < one * 2 ^ (100 : Nat) → e < 0 → (x.scaleByTen e fuel).isSome = true
  | 0, x, e, _, _ => rfl
  | fuel + 1, x, e, hx, he => by
    rw [scaleByTen, if_neg (Int.not_le.mpr he)]
    split
    · obtain ⟨y, hy, -⟩ := exists_div_powerOfTen hx (show (-e).toNat ≤ 308 by omega)
      rw [hy]
      rfl
    split
    · rfl
    · obtain ⟨y, hy, hle⟩ := exists_div_powerOfTen hx (Nat.le_refl 308)
      rw [hy, Option.bind_some]
      exact isSome_scaleByTen_of_neg fuel y (e + 308) (Nat.lt_of_le_of_lt hle hx) (by omega)

/-- A number can be scaled up if the exact product is small enough for two roundings more. -/
theorem isSome_mul_powerOfTen {n k : Nat} {x : Binary64} (hn : 0 < n) (hx : ofNat n = some x)
    (hk : k ≤ 308)
    (hroom : 4 * (n * 10 ^ k * one) ≤ (4 * (2 ^ (53 : Nat) - 3) + 2) * 2 ^ (2045 : Nat)) :
    (x.mul (powerOfTen k)).isSome = true := by
  have hdigits := magnitude_of_ofNat_le hn hx
  have hpower := magnitude_of_ofNat_le (Nat.pow_pos (by decide)) (ofNat_powerOfTen hk)
  have hproduct := Nat.mul_le_mul hdigits hpower
  have hrange : 2 * (x.magnitude * (powerOfTen k).magnitude * one) <
      one * one * ((2 ^ (54 : Nat) - 1) * 2 ^ (2045 : Nat)) := by
    have hpos : 0 < 2 ^ (2045 : Nat) := Nat.two_pow_pos 2045
    generalize 2 ^ (2045 : Nat) = p at hroom hpos ⊢
    generalize x.magnitude = a at hproduct ⊢
    generalize (powerOfTen k).magnitude = b at hproduct ⊢
    generalize 10 ^ k = power at hroom hproduct
    refine Nat.lt_of_mul_lt_mul_right (a := 2 ^ (106 : Nat)) ?_
    calc 2 * (a * b * one) * 2 ^ (106 : Nat)
        = 2 * one * (a * 2 ^ (53 : Nat) * (b * 2 ^ (53 : Nat))) := by ring
      _ ≤ 2 * one * (n * one * (2 ^ (53 : Nat) + 1) * (power * one * (2 ^ (53 : Nat) + 1))) :=
        Nat.mul_le_mul_left _ hproduct
      _ = one * one * (2 ^ (53 : Nat) + 1) ^ (2 : Nat) * (2 * (n * power * one)) := by ring
      _ ≤ one * one * (2 ^ (53 : Nat) + 1) ^ (2 : Nat) * ((2 ^ (54 : Nat) - 5) * p) :=
        Nat.mul_le_mul_left _ (by omega)
      _ = one * one * p * ((2 ^ (53 : Nat) + 1) ^ (2 : Nat) * (2 ^ (54 : Nat) - 5)) := by ring
      _ < one * one * p * ((2 ^ (54 : Nat) - 1) * 2 ^ (106 : Nat)) :=
        Nat.mul_lt_mul_of_pos_left (by decide) (Nat.mul_pos (Nat.mul_pos one_pos one_pos) hpos)
      _ = one * one * ((2 ^ (54 : Nat) - 1) * p) * 2 ^ (106 : Nat) := by ring
  obtain ⟨y, hy⟩ := isSome_ofRatio_of_lt (x.negative != (powerOfTen k).negative)
    (Nat.mul_pos one_pos one_pos) hrange
  rw [mul, hy]
  rfl

/-! ### Numbers in binary floating point -/

/-- The two greatest magnitudes. -/
def Outermost (x : Binary64) : Prop := x.exponent = 2045 ∧ 2 ^ (53 : Nat) - 2 ≤ x.mantissa

theorem isSome_floatValue_outermost {x : Binary64} (hx : x.Outermost) :
    x.numeral.floatValue.isSome = true := by
  obtain ⟨negative, mantissa, exponent, hlt, hle, hnormal⟩ := x
  obtain ⟨rfl, hmantissa⟩ : exponent = 2045 ∧ 2 ^ (53 : Nat) - 2 ≤ mantissa := hx
  obtain rfl | rfl : mantissa = 2 ^ (53 : Nat) - 2 ∨ mantissa = 2 ^ (53 : Nat) - 1 := by omega
  · cases negative <;> decide +kernel +revert
  · cases negative <;> decide +kernel +revert

/-- The upper end of the interval of any other number. -/
theorem upper_le_of_not_outermost {x : Binary64} (hx : ¬ x.Outermost) :
    (4 * x.mantissa + 2) * 2 ^ x.exponent ≤
      (4 * (2 ^ (53 : Nat) - 3) + 2) * 2 ^ (2045 : Nat) := by
  obtain ⟨top, htop⟩ : ∃ top, top = 2045 := ⟨2045, rfl⟩
  have hm := x.mantissa_lt
  have hexponent := x.exponent_le
  unfold Outermost at hx
  rw [← htop] at hx hexponent ⊢
  rcases Nat.lt_or_eq_of_le hexponent with hlt | heq
  · have hpower : 2 ^ x.exponent * 2 ≤ 2 ^ top := by
      rw [← Nat.pow_succ]
      exact Nat.pow_le_pow_right (by decide) hlt
    calc (4 * x.mantissa + 2) * 2 ^ x.exponent
        ≤ (4 * (2 ^ (53 : Nat) - 3) + 2) * 2 * 2 ^ x.exponent :=
          Nat.mul_le_mul_right _ (by omega)
      _ = (4 * (2 ^ (53 : Nat) - 3) + 2) * (2 ^ x.exponent * 2) := by ring
      _ ≤ (4 * (2 ^ (53 : Nat) - 3) + 2) * 2 ^ top := Nat.mul_le_mul_left _ hpower
  · have hmantissa : x.mantissa ≤ 2 ^ (53 : Nat) - 3 := by
      have := mt (And.intro heq) hx
      omega
    rw [heq]
    exact Nat.mul_le_mul_right _ (by omega)

section
variable {x : Binary64} (hx : x.isZero = false)
include hx

theorem digits_numeral_pos : 0 < Nat.ofDigitChars 10 x.numeral.digits 0 := by
  have hpos := (readsAs_shortest hx).1.pos hx
  rw [← exact_numeral hx, Numeral.exact] at hpos
  by_contra hcon
  rw [Nat.eq_zero_of_not_pos hcon, Nat.cast_zero, zero_mul] at hpos
  exact lt_irrefl _ hpos

theorem digits_numeral_le : Nat.ofDigitChars 10 x.numeral.digits 0 ≤ 10 ^ (17 : Nat) := by
  by_cases hplain : -5 ≤ x.textLead ∧ x.textLead < 16
  · obtain ⟨whole, fraction, hnumeral, hdigits, -⟩ := numeral_point hx hplain.1 hplain.2
    rw [hnumeral, Numeral.digits, Option.getD_some, hdigits]
    exact pointed_le hx hplain.2
  · obtain ⟨first, rest, hds, hnumeral⟩ := numeral_scientific hx hplain
    have hfraction : (if rest.isEmpty then none else some rest).getD [] = rest := by
      cases rest <;> rfl
    rw [hnumeral, Numeral.digits, hfraction, List.singleton_append, ← hds,
      Nat.ofDigitChars_ten_toDigits]
    exact (readsAs_shortest hx).2.2

theorem scaled_numeral_le {k : Nat} (hk : x.numeral.scale = k) :
    4 * (Nat.ofDigitChars 10 x.numeral.digits 0 * 10 ^ k * one) ≤
      (4 * x.mantissa + 2) * 2 ^ x.exponent := by
  have hreads := (readsAs_shortest hx).1
  rw [← exact_numeral hx] at hreads
  have hvalue : x.numeral.exact =
      (Nat.ofDigitChars 10 x.numeral.digits 0 * 10 ^ k : Nat) / (1 : Nat) := by
    rw [Numeral.exact, ← Numeral.scale, hk, zpow_natCast]
    push_cast
    rw [div_one]
  have hwithin := (hreads.within Nat.one_pos hvalue).high
  rwa [Nat.one_mul] at hwithin

theorem scale_numeral_le : x.numeral.scale ≤ 308 := by
  by_contra hcon
  obtain ⟨k, hk⟩ := Int.eq_ofNat_of_zero_le (show 0 ≤ x.numeral.scale by omega)
  obtain ⟨n, hn, hone⟩ := exists_one_eq
  obtain ⟨m, l, hm, hl, -, hlimit⟩ := exists_limits_eq
  have hten : 10 ^ (l + 1) ≤ 10 ^ k := Nat.pow_le_pow_right (by decide) (by omega)
  have hpower : 2 ^ x.exponent ≤ 2 ^ (m + n) :=
    Nat.pow_le_pow_right (by decide) (by have := x.exponent_le; omega)
  have hmantissa : 4 * x.mantissa + 2 ≤ 2 ^ (55 : Nat) := by
    have := x.mantissa_lt
    omega
  have hle : 4 * (1 * 10 ^ (l + 1)) * one ≤ 2 ^ (55 : Nat) * 2 ^ m * one := by
    calc 4 * (1 * 10 ^ (l + 1)) * one = 4 * (1 * 10 ^ (l + 1) * one) := Nat.mul_assoc _ _ _
      _ ≤ 4 * (Nat.ofDigitChars 10 x.numeral.digits 0 * 10 ^ k * one) :=
        Nat.mul_le_mul_left 4 (Nat.mul_le_mul_right one
          (Nat.mul_le_mul (digits_numeral_pos hx) hten))
      _ ≤ (4 * x.mantissa + 2) * 2 ^ x.exponent := scaled_numeral_le hx hk
      _ ≤ 2 ^ (55 : Nat) * 2 ^ (m + n) := Nat.mul_le_mul hmantissa hpower
      _ = 2 ^ (55 : Nat) * 2 ^ m * one := by rw [hone, Nat.pow_add, Nat.mul_assoc]
  exact absurd (Nat.le_of_mul_le_mul_right hle one_pos) (Nat.not_le.mpr hlimit)

end

/-- **What is printed of a number is read as a number.** -/
theorem isSome_floatValue_numeral (x : Binary64) : x.numeral.floatValue.isSome = true := by
  cases hx : x.isZero with
  | true =>
    have hnumeral : x.numeral = ⟨x.negative, ['0'], some ['0'], none⟩ := by
      rw [numeral, if_pos hx]
    have hroom : Nat.ofDigitChars 10 ['0', '0'] 0 < 2 ^ (64 : Nat) := by decide
    rw [hnumeral]
    refine Numeral.isSome_floatValue hroom fun y hy => ?_
    exact isSome_scaleByTen_of_neg 4 y (-1) (magnitude_of_ofNat_lt hroom hy) (by decide)
  | false =>
    have hroom : Nat.ofDigitChars 10 x.numeral.digits 0 < 2 ^ (64 : Nat) :=
      Nat.lt_of_le_of_lt (digits_numeral_le hx) (by decide)
    by_cases houter : x.Outermost
    · exact isSome_floatValue_outermost houter
    refine Numeral.isSome_floatValue hroom fun y hy => ?_
    by_cases hscale : x.numeral.scale < 0
    · exact isSome_scaleByTen_of_neg 4 y _ (magnitude_of_ofNat_lt hroom hy) hscale
    · obtain ⟨k, hk⟩ := Int.eq_ofNat_of_zero_le (Int.not_lt.mp hscale)
      have hle := scale_numeral_le hx
      rw [hk] at hle ⊢
      rw [scaleByTen, if_pos (Int.natCast_nonneg k), if_pos hle, Int.toNat_natCast]
      exact isSome_mul_powerOfTen (digits_numeral_pos hx) hy (by omega)
        ((scaled_numeral_le hx hk).trans (upper_le_of_not_outermost houter))

end Binary64

/-! ### All numbers -/

namespace Number

/-- What is read of the text of a number. -/
def reread (a : Number) : Number := a.numeral.value.getD a

theorem value_numeral_integer (n : Int) (fits : leastInteger ≤ n ∧ n < integerLimit) :
    (integer n fits).numeral.value = some (integer n fits) := by
  have hfits : ofInt? n = some (integer n fits) := dif_pos fits
  have hdigits : Nat.ofDigitChars 10 (Nat.toDigits 10 n.natAbs) 0 = n.natAbs :=
    Nat.ofDigitChars_ten_toDigits
  by_cases hneg : n < 0
  · have habs : -(n.natAbs : Int) = n := by omega
    rw [numeral, decide_eq_true hneg, Numeral.value]
    dsimp only
    rw [hdigits, if_pos rfl, if_neg (by omega), habs, hfits]
    rfl
  · have habs : (n.natAbs : Int) = n := by omega
    rw [numeral, decide_eq_false hneg, Numeral.value]
    dsimp only
    rw [hdigits, if_neg Bool.false_ne_true, habs, hfits]
    rfl

/-- **What is printed of a number is read as a number**, although not always as the same. -/
theorem value_numeral (a : Number) : a.numeral.value = some a.reread := by
  have hsome : ∃ b, a.numeral.value = some b := by
    cases a with
    | integer n fits => exact ⟨_, value_numeral_integer n fits⟩
    | float x =>
      obtain ⟨y, hy⟩ := Option.isSome_iff_exists.mp x.isSome_floatValue_numeral
      refine ⟨.float y, ?_⟩
      rw [numeral, Numeral.value_of_pointed x.pointed_numeral, hy, Option.map_some]
  obtain ⟨b, hb⟩ := hsome
  rw [reread, hb, Option.getD_some]

@[simp]
theorem reread_integer (n : Int) (fits : leastInteger ≤ n ∧ n < integerLimit) :
    (integer n fits).reread = integer n fits := by
  rw [reread, value_numeral_integer, Option.getD_some]

end Number
end PageFlow
