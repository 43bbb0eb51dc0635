/-
# The decimal form of a number

The decimal form of a number stands for a decimal that the number is nearest to,
and converts back to the number. Whether a number has a decimal form depends on
its value in binary floating point only: an integer always has one, and so has
the floating point number that an integer is rounded to.

Key definitions: `Decimal.ConvertsTo`, `Number.HasForm`.
Key theorems: `Number.exists_hasForm`, `Number.isSome_decimal?_congr`.
-/
import PageFlow.Json.Order
import PageFlow.Proofs.Number.Conversion
import PageFlow.Proofs.Number.Text

namespace PageFlow

-- Powers are those of the core library, whatever else is imported.
attribute [local instance (2000)] instPowNat

-- The units in one are too many to be computed.
attribute [local irreducible] Binary64.one

open Binary64 (one)

namespace Binary64

theorem ofRatio_eq_map (negative : Bool) (num den : Nat) :
    ofRatio negative num den = (ofRatio false num den).map fun x => { x with negative } := by
  unfold ofRatio ofParts?
  dsimp only
  split <;> split <;> rfl

theorem ofText?_text_zero (negative : Bool) :
    Decimal.ofText? (zero negative).text.toList = some ⟨0, 1, by decide, by decide⟩ := by
  cases negative <;> rfl

theorem negative_eq_true_of_units_neg {x : Binary64} (h : x.units < 0) : x.negative = true := by
  unfold units at h
  split at h
  · assumption
  · omega

theorem negative_eq_false_of_units_pos {x : Binary64} (h : 0 < x.units) : x.negative = false := by
  unfold units at h
  split at h
  · omega
  · simpa using ‹¬ x.negative = true›

/-- A number that is not zero is given by its value. -/
theorem eq_of_units_eq {x y : Binary64} (h : x.units = y.units) (hx : x.isZero = false) :
    x = y := by
  have hmagnitude : x.magnitude = y.magnitude := by
    rw [← natAbs_units, ← natAbs_units, h]
  have hpos := magnitude_pos_iff.mpr hx
  obtain ⟨hmantissa, hexponent⟩ := eq_of_magnitude_eq hmagnitude
  have hnegative : x.negative = y.negative := by
    unfold units at h
    cases hx : x.negative <;> cases hy : y.negative <;> simp [hx, hy] at h ⊢ <;> omega
  obtain ⟨negative, mantissa, exponent, hlt, hle, hnormal⟩ := x
  obtain ⟨negative', mantissa', exponent', hlt', hle', hnormal'⟩ := y
  obtain rfl : negative = negative' := hnegative
  obtain rfl : mantissa = mantissa' := hmantissa
  obtain rfl : exponent = exponent' := hexponent
  rfl

theorem units_withSign (x : Binary64) {n : Nat} (hn : 0 < n) :
    (if signed x.negative n < 0 then ({ x with negative := false } : Binary64).neg
      else { x with negative := false }).units = x.units := by
  obtain ⟨negative, mantissa, exponent, hlt, hle, hnormal⟩ := x
  cases negative with
  | true =>
    have : signed true n < 0 := by
      simp only [signed, if_true]
      omega
    rw [if_pos this]
    rfl
  | false =>
    have : ¬ signed false n < 0 := by
      simp only [signed, Bool.false_eq_true, if_false]
      omega
    rw [if_neg this]

end Binary64

/-- A decimal that converts back to the value of a number. -/
def Decimal.ConvertsTo (d : Decimal) (a : Number) : Prop :=
  ∃ y, d.toBinary64 = some y ∧ y.units = a.toBinary64.units

theorem Decimal.ConvertsTo.magnitude {d : Decimal} {a : Number} (h : d.ConvertsTo a) :
    ∃ y, d.toBinary64 = some y ∧ y.magnitude = a.toBinary64.magnitude := by
  obtain ⟨y, hy, hunits⟩ := h
  refine ⟨y, hy, ?_⟩
  rw [← Binary64.natAbs_units, ← Binary64.natAbs_units, hunits]

namespace Number

/-- The decimal form `d` of a number that is spelled as the decimal `v`, up to sign. -/
structure HasForm (a : Number) (d : Decimal) (v : ℚ) : Prop where
  nearest : a.toBinary64.Nearest (v * one)
  standsFor : d.StandsFor a.toBinary64.negative v
  back : ∃ y, d.toBinary64 = some y ∧ y.magnitude = a.toBinary64.magnitude

theorem natAbs_lt_of_fits {n : Int} (fits : leastInteger ≤ n ∧ n < integerLimit) :
    n.natAbs < 2 ^ (64 : Nat) := by
  obtain ⟨hlow, hhigh⟩ := fits
  unfold leastInteger at hlow
  unfold integerLimit at hhigh
  omega

theorem toBinary64_integer {n : Int} (fits : leastInteger ≤ n ∧ n < integerLimit) :
    Binary64.ofRatio (n < 0) n.natAbs 1 = some (Number.integer n fits).toBinary64 := by
  have hbound : n.natAbs < 1 * 2 ^ (100 : Nat) :=
    Nat.lt_trans (natAbs_lt_of_fits fits) (by decide)
  obtain ⟨x, hx⟩ := Binary64.isSome_ofRatio (n < 0) (by decide) hbound
  rw [toBinary64, Binary64.ofInt, hx]
  rfl

theorem of_decimal?_integer {n : Int} {fits : leastInteger ≤ n ∧ n < integerLimit} {d : Decimal}
    (h : (Number.integer n fits).decimal? = some d) :
    d.units = n ∧ d.scale = 0 ∧ d.ConvertsTo (.integer n fits) := by
  obtain ⟨hunits, hscale⟩ := Decimal.of_ofParts? h
  have hround := toBinary64_integer fits
  rw [Binary64.ofRatio_eq_map] at hround
  obtain ⟨y, hy, hsame⟩ := Option.map_eq_some_iff.mp hround
  refine ⟨hunits, hscale, _,
    Decimal.toBinary64_whole (m := n.natAbs) (by rw [hunits, hscale]; simp) hy, ?_⟩
  rw [← hsame, hunits]
  have hpositive := (Binary64.of_ofRatio Nat.one_pos hy).1
  rcases Int.lt_or_le n 0 with hneg | hnonneg
  · rw [if_pos hneg, decide_eq_true hneg, Binary64.neg, hpositive]
    rfl
  · rw [if_neg (by omega), decide_eq_false (by omega), ← hpositive]

theorem hasForm_integer {n : Int} {fits : leastInteger ≤ n ∧ n < integerLimit} {d : Decimal}
    (h : (Number.integer n fits).decimal? = some d) :
    (Number.integer n fits).HasForm d n.natAbs := by
  obtain ⟨hunits, hscale, hback⟩ := of_decimal?_integer h
  have hround := toBinary64_integer fits
  have hnearest := Binary64.nearest_of_ofRatio (by decide) hround
  refine ⟨?_, ⟨n.natAbs, ?_, ?_⟩, hback.magnitude⟩
  · simpa using hnearest
  · rw [hunits, (Binary64.of_ofRatio (by decide) hround).1]
    unfold signed
    simp only [decide_eq_true_eq]
    split <;> omega
  · exact .inl (by rw [hscale]; simp)

/-- The decimal form of a number in floating point is read from its text, and converts back to
its value. -/
theorem of_decimal?_float {x : Binary64} {d : Decimal} (h : (Number.float x).decimal? = some d) :
    Decimal.ofText? x.text.toList = some d ∧ d.ConvertsTo (.float x) := by
  obtain ⟨f, hf, h⟩ := Option.bind_eq_some_iff.mp h
  obtain ⟨y, hy, h⟩ := Option.bind_eq_some_iff.mp h
  split at h
  · rename_i heq
    obtain rfl := Option.some.inj h
    exact ⟨hf, y, hy, Std.LawfulEqOrd.eq_of_compare heq⟩
  · cases h

/-- Every decimal form is one of a spelling. -/
theorem exists_hasForm {a : Number} {d : Decimal} (h : a.decimal? = some d) :
    ∃ v, a.HasForm d v := by
  cases a with
  | integer n fits => exact ⟨_, hasForm_integer h⟩
  | float x =>
    obtain ⟨hread, hconverts⟩ := of_decimal?_float h
    have hback := hconverts.magnitude
    cases hx : x.isZero with
    | true =>
      have hzero := Binary64.eq_zero_of_isZero hx
      rw [hzero, Binary64.ofText?_text_zero] at hread
      obtain rfl := Option.some.inj hread
      refine ⟨0, ?_, ⟨0, ?_, .inl (by simp)⟩, hback⟩
      · intro z
        rw [toBinary64, hzero, Binary64.magnitude_zero]
        simp
      · unfold signed
        simp
    | false =>
      exact ⟨_, (Binary64.readsAs_shortest hx).1.nearest, Binary64.standsFor_of_text hx hread,
        hback⟩

/-! ### Which numbers have a decimal form -/

theorem isSome_decimal?_integer {n : Int} (fits : leastInteger ≤ n ∧ n < integerLimit) :
    ∃ d, (Number.integer n fits).decimal? = some d := by
  have hbound : n.natAbs < 2 ^ (96 : Nat) := Nat.lt_trans (natAbs_lt_of_fits fits) (by decide)
  exact ⟨_, dif_pos ⟨hbound, by decide⟩⟩

/-- A number whose text can be read has a decimal form if that converts back. -/
theorem decimal?_float {x : Binary64} {d : Decimal} (hd : Decimal.ofText? x.text.toList = some d)
    (hback : d.ConvertsTo (.float x)) : (Number.float x).decimal? = some d := by
  obtain ⟨y, hy, hunits⟩ := hback
  have heq : y.compareValue x = .eq := by
    rw [Binary64.compareValue, hunits]
    exact Std.ReflOrd.compare_self
  dsimp only [decimal?]
  rw [hd, Option.bind_eq_bind, Option.bind_some, hy, Option.bind_eq_bind, Option.bind_some,
    if_pos heq]

theorem isSome_decimal?_zero (negative : Bool) :
    ∃ d, (Number.float (Binary64.zero negative)).decimal? = some d := by
  refine ⟨_, decimal?_float (Binary64.ofText?_text_zero negative)
    ⟨_, Decimal.toBinary64_whole (m := 0) rfl (Binary64.ofRatio_zero false 1), ?_⟩⟩
  cases negative <;> rfl

theorem exists_magnitude_eq_mul_one {negative : Bool} {n : Nat} {x : Binary64}
    (h : Binary64.ofRatio negative n 1 = some x) : ∃ m, x.magnitude = m * one := by
  obtain ⟨-, e, hfits, hx⟩ := Binary64.of_ofRatio (by decide) h
  obtain ⟨k, -, hone⟩ := Binary64.exists_one_eq
  rw [Nat.one_mul] at hx
  rcases Nat.le_total e k with hle | hle
  · -- below the units of one nothing is rounded away
    obtain ⟨m, hm⟩ : 2 ^ e ∣ n * one := by
      rw [hone]
      exact Nat.dvd_mul_left_of_dvd (Nat.pow_dvd_pow 2 hle) n
    refine ⟨n, ?_⟩
    rw [hx, hm, Nat.mul_comm (2 ^ e) m, roundHalfEven_mul m (Nat.two_pow_pos e)]
  · refine ⟨roundHalfEven (n * one) (2 ^ e) * 2 ^ (e - k), ?_⟩
    rw [hx, hone, Nat.mul_assoc, ← Nat.pow_add, Nat.sub_add_cancel hle]

/-- The spelling of the number that an integer is rounded to is not too long. -/
theorem shortest_lt_of_integer {x : Binary64} {n : Nat} (hx : x.isZero = false)
    (hnearest : x.Nearest (n * one)) (hn : n < 2 ^ (64 : Nat)) :
    x.shortest.value < 10 ^ (28 : Nat) := by
  have hone : (0 : ℚ) < one := Nat.cast_pos.mpr Binary64.one_pos
  have hpos : (0 : ℚ) ≤ n * one := mul_nonneg n.cast_nonneg hone.le
  have hle : (x.magnitude : ℚ) ≤ 2 * (n * one) := by
    have hzero := hnearest (Binary64.zero false)
    rw [Binary64.magnitude_zero, Nat.cast_zero, zero_sub, abs_neg, abs_of_nonneg hpos] at hzero
    linarith only [(abs_le.mp hzero).2]
  have hstep : 2 ^ x.exponent ≤ x.magnitude := by
    have : x.mantissa ≠ 0 := by simpa [Binary64.isZero] using hx
    exact Nat.le_mul_of_pos_left _ (Nat.pos_of_ne_zero this)
  have hexponent : x.exponent < 2045 := by
    obtain ⟨k, hk, hpower⟩ := Binary64.exists_one_eq
    have hle : x.magnitude ≤ 2 * (n * one) := by exact_mod_cast hle
    have hlt : 2 ^ x.exponent < 2 ^ (66 + k) := by
      calc 2 ^ x.exponent ≤ 2 * (n * one) := Nat.le_trans hstep hle
        _ = 2 * n * one := (Nat.mul_assoc 2 n one).symm
        _ < 2 ^ (66 : Nat) * one := Nat.mul_lt_mul_of_pos_right (by omega) Binary64.one_pos
        _ = 2 ^ (66 + k) := by rw [hpower, ← Nat.pow_add]
    have := (Nat.pow_lt_pow_iff_right (by decide : 1 < 2)).mp hlt
    omega
  have hhalf := (Binary64.readsAs_shortest hx).1.nearest.le_half_step hexponent
  have hstep : (2 : ℚ) ^ x.exponent ≤ x.magnitude := by exact_mod_cast hstep
  have hlt : (n : ℚ) < 2 ^ (64 : Nat) := by exact_mod_cast hn
  have hvalue : x.shortest.value * one ≤ 3 * n * one := by linarith only [hhalf, hstep, hle]
  have hvalue := le_of_mul_le_mul_right hvalue hone
  linarith only [hvalue, hlt]

theorem isSome_decimal?_of_integer {n : Int} {fits : leastInteger ≤ n ∧ n < integerLimit}
    {x : Binary64} (h : (Number.integer n fits).toBinary64.magnitude = x.magnitude) :
    ∃ d, (Number.float x).decimal? = some d := by
  have hround := toBinary64_integer fits
  have hnearest := (Binary64.nearest_of_ofRatio (by decide) hround).congr h.symm
  cases hx : x.isZero with
  | true =>
    rw [Binary64.eq_zero_of_isZero hx]
    exact isSome_decimal?_zero x.negative
  | false =>
    obtain ⟨m, hm⟩ := exists_magnitude_eq_mul_one hround
    rw [h] at hm
    have hmpos : 0 < m := by
      refine Nat.pos_of_ne_zero fun hzero => ?_
      rw [hzero, Nat.zero_mul] at hm
      have := Binary64.magnitude_pos_iff.mpr hx
      omega
    have hexponent := Binary64.exponent_shortest_nonneg hm hmpos
    obtain ⟨hreads, hdigits, -⟩ := Binary64.readsAs_shortest hx
    have hvalue : x.shortest.value =
        (x.shortest.digits * 10 ^ x.shortest.exponent.toNat : Nat) / (1 : Nat) := by
      obtain ⟨e, he⟩ := Int.eq_ofNat_of_zero_le hexponent
      rw [Scientific.value, he]
      simp
    have hbound : x.shortest.digits * 10 ^ x.shortest.exponent.toNat < 10 ^ (28 : Nat) := by
      have := shortest_lt_of_integer hx (by simpa using hnearest) (natAbs_lt_of_fits fits)
      rw [hvalue, Nat.cast_one, div_one] at this
      exact_mod_cast this
    have hpos : 0 < x.shortest.digits * 10 ^ x.shortest.exponent.toNat :=
      Nat.mul_pos hdigits (Nat.pow_pos (by decide))
    obtain ⟨d, hd, hunits⟩ := Binary64.exists_ofText?_text hx hexponent hbound
    have hwhole : Binary64.ofNat (x.shortest.digits * 10 ^ x.shortest.exponent.toNat) =
        some { x with negative := false } := hreads.ofRatio_eq (by decide) hvalue false
    refine ⟨d, decimal?_float hd
      ⟨_, Decimal.toBinary64_whole (by rw [hunits, natAbs_signed]) hwhole, ?_⟩⟩
    rw [hunits]
    exact Binary64.units_withSign x (Nat.mul_pos hpos (Nat.pow_pos (by decide)))

/-- Of two numbers that are one in binary floating point both have a decimal form, or none. -/
theorem isSome_decimal?_congr {a b : Number} (h : a.toBinary64.units = b.toBinary64.units)
    (ha : ∃ d, a.decimal? = some d) : ∃ d, b.decimal? = some d := by
  cases b with
  | integer n fits => exact isSome_decimal?_integer fits
  | float y =>
    have hmagnitude : a.toBinary64.magnitude = y.magnitude := by
      rw [← Binary64.natAbs_units, ← Binary64.natAbs_units, h]
      rfl
    cases a with
    | integer n fits => exact isSome_decimal?_of_integer hmagnitude
    | float x =>
      cases hy : y.isZero with
      | true =>
        rw [Binary64.eq_zero_of_isZero hy]
        exact isSome_decimal?_zero y.negative
      | false =>
        obtain rfl : y = x := Binary64.eq_of_units_eq h.symm hy
        exact ha

end Number
end PageFlow
