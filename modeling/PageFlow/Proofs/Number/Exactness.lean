/-
# When a number has a decimal form, and an exact one

The decimal form of a number is read from its text and then converted back: where the number
itself comes out it is the decimal form, and where another one comes out there is none. The
text is read exactly if what it denotes fits a decimal, and is rounded to 28 digits behind
the point if it is longer. The way back goes through several roundings. It always ends at the
number for whole numbers, and for numbers of at most fifteen digits with at most 22 of them
behind the point; but not for all numbers whose text fits, and for some whose text does not.

Key definitions: `Decimal.value`, `Decimal.Fits`, `Decimal.ConvertsTo`, `Number.denoted`,
`Number.Moderate`.
Key theorems: `Binary64.exists_ofText?_of_fits`, `Number.value_of_decimal?`,
`Number.exists_decimal?_of_whole`, `Number.exists_decimal?_of_few`,
`Number.exact_decimalForm`, `Number.not_exact_decimalForm`.
-/
import PageFlow.Proofs.Condition.Order
import PageFlow.Proofs.Number.DecimalForm
import PageFlow.Proofs.Number.FewDigits

namespace PageFlow

-- Powers are those of the core library, whatever else is imported.
attribute [local instance (2000)] instPowNat

-- The units in one are too many to be computed.
attribute [local irreducible] Binary64.one

theorem cast_signed (negative : Bool) (n : Nat) :
    (signed negative n : ℚ) = if negative then -(n : ℚ) else n := by
  unfold signed
  split <;> simp

/-! ### Values of decimals -/

namespace Decimal

/-- The value of a decimal. -/
def value (d : Decimal) : ℚ := d.units / 10 ^ d.scale

/-- Some decimal has this value: it has at most 28 digits behind the point, and its digits
without trailing zeros are below `2 ^ 96`. -/
def Fits (v : ℚ) : Prop := ∃ d : Decimal, d.value = v

theorem fits_neg {v : ℚ} (h : Fits v) : Fits (-v) := by
  obtain ⟨d, rfl⟩ := h
  refine ⟨⟨-d.units, d.scale, by rw [Int.natAbs_neg]; exact d.units_lt, d.scale_le⟩, ?_⟩
  simp only [value, Int.cast_neg, neg_div]

theorem fits_signed_iff {negative : Bool} {v : ℚ} :
    Fits (if negative then -v else v) ↔ Fits v := by
  cases negative
  · rfl
  · exact ⟨fun h => neg_neg v ▸ fits_neg h, fits_neg⟩

theorem fits_whole {n : ℤ} (hn : n.natAbs < 2 ^ (96 : Nat)) : Fits n :=
  ⟨⟨n, 0, hn, by decide⟩, by simp [value]⟩

/-- What fits is counted in units of `10 ^ -28`, and is below `2 ^ 96`. -/
theorem Fits.bounds {v : ℚ} (h : Fits v) :
    (∃ k : ℤ, v * 10 ^ (28 : Nat) = k) ∧ |v| < 2 ^ (96 : Nat) := by
  obtain ⟨d, rfl⟩ := h
  have hpower : (0 : ℚ) < 10 ^ d.scale := by positivity
  refine ⟨⟨d.leastUnits, ?_⟩, ?_⟩
  · have hsplit : (10 : ℚ) ^ (28 : Nat) = 10 ^ d.scale * 10 ^ (28 - d.scale) := by
      rw [← pow_add, Nat.add_sub_cancel' d.scale_le]
    rw [value, leastUnits, hsplit, ← mul_assoc, div_mul_cancel₀ _ hpower.ne']
    push_cast
    rfl
  · have hunits : |(d.units : ℚ)| < 2 ^ (96 : Nat) := by
      rw [← Int.cast_abs, Int.abs_eq_natAbs]
      exact_mod_cast d.units_lt
    rw [value, abs_div, abs_of_pos hpower, div_lt_iff₀ hpower]
    exact hunits.trans_le (le_mul_of_one_le_right (by norm_num) (one_le_pow₀ (by norm_num)))

/-- A decimal that stands for `v` has the value `v` if that fits, and else is `v` rounded to
28 digits behind the point. -/
theorem StandsFor.value_eq {d : Decimal} {negative : Bool} {v w : ℚ} (h : d.StandsFor negative v)
    (hw : w = if negative then -v else v) :
    d.value = w ∨ ¬ Fits w ∧ d.scale = 28 ∧ |d.value - w| * 10 ^ (28 : Nat) ≤ 1 / 2 := by
  obtain ⟨n, hn, hv⟩ := h
  have hpower : (10 : ℚ) ^ d.scale ≠ 0 := by positivity
  have hexact : (n : ℚ) = v * 10 ^ d.scale → d.value = w := by
    intro hv
    rw [value, hn, cast_signed, hv, hw]
    cases negative <;> simp [neg_div, hpower]
  rcases hv with hv | ⟨hscale, hlow, hhigh⟩
  · exact .inl (hexact hv)
  by_cases hsame : (n : ℚ) = v * 10 ^ (28 : Nat)
  · exact .inl (hexact (hscale ▸ hsame))
  refine .inr ⟨fun hfits => hsame ?_, hscale, ?_⟩
  · -- two whole numbers that are at most a half apart are the same
    obtain ⟨⟨k, hk⟩, -⟩ := (fits_signed_iff.mp (hw ▸ hfits)).bounds
    rw [hk] at hlow hhigh ⊢
    have hlow : (2 * k : ℚ) - 1 < 2 * n := by linarith only [hlow]
    have hhigh : (2 * n : ℚ) ≤ 2 * k + 1 := by linarith only [hhigh]
    have hlow : 2 * k - 1 < 2 * (n : ℤ) := by exact_mod_cast hlow
    have hhigh : 2 * (n : ℤ) ≤ 2 * k + 1 := by exact_mod_cast hhigh
    have hnk : (n : ℤ) = k := by omega
    exact_mod_cast hnk
  · have hdiff : (d.value - w) * 10 ^ (28 : Nat) =
        if negative then -(n - v * 10 ^ (28 : Nat)) else n - v * 10 ^ (28 : Nat) := by
      rw [sub_mul, value, hn, hscale, div_mul_cancel₀ _ (by norm_num), cast_signed, hw]
      cases negative
      · rfl
      · simp only [if_true]
        ring
    have habs : |(d.value - w) * 10 ^ (28 : Nat)| = |n - v * 10 ^ (28 : Nat)| := by
      rw [hdiff]
      split
      · exact abs_neg _
      · rfl
    rw [← abs_of_pos (show (0 : ℚ) < 10 ^ (28 : Nat) by norm_num), ← abs_mul, habs, abs_le]
    constructor <;> linarith only [hlow, hhigh]

/-- A decimal without a zero at its end has no longer spelling of its value before it. -/
theorem le_of_value_eq {d : Decimal} {n : ℤ} {s : Nat} (h : d.value = n / 10 ^ s)
    (hmod : d.units.natAbs % 10 ≠ 0) : d.scale ≤ s ∧ d.units.natAbs ≤ n.natAbs := by
  have hcross : d.units * 10 ^ s = n * 10 ^ d.scale := by
    rw [value, div_eq_div_iff (by positivity) (by positivity)] at h
    exact_mod_cast h
  have hcross : d.units.natAbs * 10 ^ s = n.natAbs * 10 ^ d.scale := by
    simpa [Int.natAbs_mul, Int.natAbs_pow] using congrArg Int.natAbs hcross
  have hpos : ∀ k : Nat, 0 < 10 ^ k := fun k => Nat.pow_pos (by decide)
  have hscale : d.scale ≤ s := by
    by_contra hlt
    obtain ⟨k, hk⟩ : ∃ k, d.scale = s + (k + 1) := ⟨d.scale - s - 1, by omega⟩
    rw [hk, Nat.pow_add, Nat.mul_left_comm, Nat.mul_comm (10 ^ s)] at hcross
    have hunits := Nat.eq_of_mul_eq_mul_right (hpos s) hcross
    rw [Nat.pow_succ, ← Nat.mul_assoc] at hunits
    omega
  refine ⟨hscale, ?_⟩
  obtain ⟨k, rfl⟩ : ∃ k, s = d.scale + k := ⟨s - d.scale, by omega⟩
  rw [Nat.pow_add, Nat.mul_left_comm, Nat.mul_comm (10 ^ d.scale)] at hcross
  rw [← Nat.eq_of_mul_eq_mul_right (hpos d.scale) hcross]
  exact Nat.le_mul_of_pos_right _ (hpos k)

theorem exists_lower (d : Decimal) {e : Nat} (h : d.scale + e ≤ 28) :
    ∃ f, d.lower e = some f ∧ f.units = d.units := by
  obtain ⟨f, hf, hunits, -⟩ := exists_ofParts? d.units (d.scale + e) d.units_lt h
  exact ⟨f, by rw [lower, if_pos h, hf], hunits⟩

theorem exists_raise_of_le (d : Decimal) {e : Nat} (h : e ≤ d.scale) :
    ∃ f, d.raise e = some f ∧ f.units = d.units := by
  obtain ⟨f, hf, hunits, -⟩ := exists_ofParts? d.units (d.scale - e) d.units_lt
    (by have := d.scale_le; omega)
  exact ⟨f, by rw [raise, if_pos h, hf], hunits⟩

theorem exists_raise_of_lt (d : Decimal) {e : Nat} (h : d.scale < e)
    (hroom : d.units.natAbs * 10 ^ (e - d.scale) < 2 ^ (96 : Nat)) :
    ∃ f, d.raise e = some f ∧ f.scale = 0 := by
  have hroom : (d.units * 10 ^ (e - d.scale)).natAbs < 2 ^ (96 : Nat) := by
    rw [Int.natAbs_mul, Int.natAbs_pow]
    exact hroom
  obtain ⟨f, hf, -, hscale⟩ := exists_ofParts? _ 0 hroom (by decide)
  exact ⟨f, by rw [raise, if_neg (Nat.not_le.mpr h), ofInt?, hf], hscale⟩

end Decimal

/-! ### Text that fits -/

namespace Binary64

theorem textLead_bounds {x : Binary64} (hx : x.isZero = false) :
    (10 : ℚ) ^ x.textLead ≤ x.shortest.value ∧ x.shortest.value < 10 ^ (x.textLead + 1) := by
  obtain ⟨hlow, hhigh⟩ := length_toDigits_bounds (readsAs_shortest hx).2.1
  have hstep : (0 : ℚ) < 10 ^ x.shortest.exponent := zpow_pos (by norm_num) _
  have hsplit : ∀ k : Nat, (10 : ℚ) ^ (x.shortest.exponent + k) =
      10 ^ k * 10 ^ x.shortest.exponent := fun k => by
    rw [← zpow_natCast, ← zpow_add₀ (by norm_num), add_comm]
  obtain ⟨k, hk⟩ : ∃ k, (Nat.toDigits 10 x.shortest.digits).length = k + 1 :=
    ⟨_, (Nat.succ_pred_eq_of_pos Nat.length_toDigits_pos).symm⟩
  have hlead : x.textLead = x.shortest.exponent + k := by
    unfold textLead
    omega
  rw [hk] at hlow hhigh
  have hlow : (10 : ℚ) ^ k ≤ x.shortest.digits := by exact_mod_cast hlow
  have hhigh : (x.shortest.digits : ℚ) < 10 ^ (k + 1) := by exact_mod_cast hhigh
  constructor
  · rw [hlead, hsplit k]
    exact mul_le_mul_of_nonneg_right hlow hstep.le
  · rw [hlead, add_assoc, ← Nat.cast_succ, hsplit (k + 1)]
    exact mul_lt_mul_of_pos_right hhigh hstep

theorem natAbs_textLead_le {x : Binary64} (hx : x.isZero = false)
    (hfits : Decimal.Fits x.shortest.value) : x.textLead.natAbs ≤ 28 := by
  obtain ⟨⟨k, hk⟩, hbound⟩ := hfits.bounds
  obtain ⟨hlow, hhigh⟩ := textLead_bounds hx
  have hpos := (readsAs_shortest hx).1.pos hx
  rw [abs_of_pos hpos] at hbound
  have hupper : x.textLead < 29 := by
    by_contra hcon
    have hgreat : (10 : ℚ) ^ (29 : ℤ) ≤ 10 ^ x.textLead :=
      zpow_le_zpow_right₀ (by norm_num) (by omega)
    have hlimit : (2 : ℚ) ^ (96 : Nat) < 10 ^ (29 : ℤ) := by norm_num
    linarith only [hlow, hbound, hgreat, hlimit]
  have hlower : -29 < x.textLead := by
    by_contra hcon
    have hsmall : (10 : ℚ) ^ (x.textLead + 1) ≤ 10 ^ (-28 : ℤ) :=
      zpow_le_zpow_right₀ (by norm_num) (by omega)
    have hunits : (1 : ℚ) ≤ k := by
      have : (0 : ℚ) < k := hk ▸ mul_pos hpos (by norm_num)
      exact_mod_cast this
    have hbelow : x.shortest.value * 10 ^ (28 : Nat) < 10 ^ (-28 : ℤ) * 10 ^ (28 : Nat) :=
      mul_lt_mul_of_pos_right (hhigh.trans_le hsmall) (by norm_num)
    have hunit : (10 : ℚ) ^ (-28 : ℤ) * 10 ^ (28 : Nat) = 1 := by norm_num
    linarith only [hbelow, hunit, hk, hunits]
  omega

/-- Text that fits has no digits behind the 28th: the last of them would be a zero. -/
theorem exponent_ge_of_fits {x : Binary64} (hx : x.isZero = false)
    (hfits : Decimal.Fits x.shortest.value) : -28 ≤ x.shortest.exponent := by
  by_contra hlong
  obtain ⟨⟨k, hk⟩, -⟩ := hfits.bounds
  obtain ⟨j, hj⟩ : ∃ j : Nat, x.shortest.exponent = -(28 + (j + 1) : Nat) :=
    ⟨(-29 - x.shortest.exponent).toNat, by omega⟩
  have hdigits : (x.shortest.digits : ℚ) = k * 10 ^ (j + 1) := by
    rw [← hk, Scientific.value, hj, zpow_neg, zpow_natCast, pow_add]
    field_simp
  have hdigits : (x.shortest.digits : ℤ) = k * 10 ^ (j + 1) := by exact_mod_cast hdigits
  have hmod := digits_shortest_mod hx
  rw [pow_succ, ← mul_assoc] at hdigits
  omega

theorem whole_lt_of_fits {x : Binary64} {j : Nat} (hexponent : x.shortest.exponent = j)
    (hfits : Decimal.Fits x.shortest.value) :
    x.shortest.digits * 10 ^ j < 2 ^ (96 : Nat) := by
  have hbound := hfits.bounds.2
  have hnonneg : (0 : ℚ) ≤ x.shortest.digits * 10 ^ j := by positivity
  rw [Scientific.value, hexponent, zpow_natCast, abs_of_nonneg hnonneg] at hbound
  exact_mod_cast hbound

/-- **Text that fits is read.** The decimal has the digits of the text, unless it is whole. -/
theorem exists_ofText?_of_fits {x : Binary64} (hx : x.isZero = false)
    (hfits : Decimal.Fits x.shortest.value) :
    ∃ d, Decimal.ofText? x.text.toList = some d ∧
      (d.units.natAbs = x.shortest.digits ∨ ∃ m : Nat, d.units.natAbs = m * 10 ^ d.scale) := by
  by_cases hplain : -5 ≤ x.textLead ∧ x.textLead < 16
  · obtain ⟨d, hd, hscale, hunits⟩ := ofText?_text_point hx hplain.1 hplain.2
    refine ⟨d, hd, ?_⟩
    rw [hunits, natAbs_signed]
    by_cases hexponent : 0 ≤ x.shortest.exponent
    · refine .inr ⟨x.shortest.digits * 10 ^ x.shortest.exponent.toNat, ?_⟩
      have hzeros : (x.shortest.exponent + 1).toNat = x.shortest.exponent.toNat + d.scale := by
        omega
      rw [hzeros, Nat.pow_add, Nat.mul_assoc]
    · have hzeros : (x.shortest.exponent + 1).toNat = 0 := by omega
      rw [hzeros, Nat.pow_zero, Nat.mul_one]
      exact .inl rfl
  obtain ⟨f, hscale, hunits, htext⟩ := ofText?_text_scientific hx hplain
  have hdigits : f.units.natAbs = x.shortest.digits := by rw [hunits, natAbs_signed]
  have hlead : x.textLead =
      x.shortest.exponent + (Nat.toDigits 10 x.shortest.digits).length - 1 := rfl
  have hlength : 0 < (Nat.toDigits 10 x.shortest.digits).length := Nat.length_toDigits_pos
  have hexponent := exponent_ge_of_fits hx hfits
  rw [if_pos (natAbs_textLead_le hx hfits)] at htext
  by_cases hneg : x.textLead < 0
  · rw [if_pos hneg] at htext
    obtain ⟨d, hd, hsame⟩ := f.exists_lower (show f.scale + x.textLead.natAbs ≤ 28 by omega)
    exact ⟨d, htext.trans hd, .inl (by rw [hsame, hdigits])⟩
  rw [if_neg hneg] at htext
  by_cases hle : x.textLead.natAbs ≤ f.scale
  · obtain ⟨d, hd, hsame⟩ := f.exists_raise_of_le hle
    exact ⟨d, htext.trans hd, .inl (by rw [hsame, hdigits])⟩
  · obtain ⟨j, hj⟩ : ∃ j : Nat, x.shortest.exponent = j :=
      ⟨x.shortest.exponent.toNat, by omega⟩
    have hzeros : x.textLead.natAbs - f.scale = j := by omega
    obtain ⟨d, hd, hwhole⟩ := f.exists_raise_of_lt (Nat.lt_of_not_le hle)
      (by rw [hzeros, hdigits]; exact whole_lt_of_fits hj hfits)
    exact ⟨d, htext.trans hd, .inr ⟨_, by rw [hwhole, Nat.pow_zero, Nat.mul_one]⟩⟩

end Binary64

/-! ### What the text of a number denotes -/

namespace Number

/-- What the text of a number denotes. -/
def denoted (a : Number) : ℚ := if a.numeral.negative then -a.numeral.exact else a.numeral.exact

theorem denoted_integer (n : Int) (fits : leastInteger ≤ n ∧ n < integerLimit) :
    (integer n fits).denoted = n := by
  have hexact : (integer n fits).numeral.exact = n.natAbs := by
    have hdigits : Nat.ofDigitChars 10 (Nat.toDigits 10 n.natAbs ++ []) 0 = n.natAbs := by
      rw [List.append_nil, Nat.ofDigitChars_ten_toDigits]
    show (Nat.ofDigitChars 10 (Nat.toDigits 10 n.natAbs ++ []) 0 : ℚ) * 10 ^ (0 - 0 : ℤ) = _
    rw [hdigits, sub_zero, zpow_zero, mul_one]
  have hsign : (integer n fits).numeral.negative = decide (n < 0) := rfl
  rw [denoted, hexact, hsign, Nat.cast_natAbs]
  rcases Int.lt_or_le n 0 with hneg | hnonneg
  · rw [decide_eq_true hneg, if_pos rfl, abs_of_neg hneg, Int.cast_neg, neg_neg]
  · rw [decide_eq_false (by omega), if_neg Bool.false_ne_true, abs_of_nonneg hnonneg]

theorem denoted_float {x : Binary64} (hx : x.isZero = false) :
    (float x).denoted = if x.negative then -x.shortest.value else x.shortest.value := by
  rw [denoted, numeral, x.negative_numeral, x.exact_numeral hx]

theorem denoted_zero (negative : Bool) : (float (.zero negative)).denoted = 0 := by
  have hdigits : Nat.ofDigitChars 10 ['0', '0'] 0 = 0 := by decide
  cases negative <;> simp [denoted, numeral, Binary64.numeral, Binary64.isZero, Binary64.zero,
    Numeral.exact, Numeral.digits, hdigits]

theorem shortest_value_eq {x : Binary64} {d : Decimal} (hx : x.isZero = false)
    (h : d.value = (float x).denoted) :
    x.shortest.value = d.units.natAbs / (10 ^ d.scale : Nat) := by
  have hpos := (Binary64.readsAs_shortest hx).1.pos hx
  have habs : |(float x).denoted| = x.shortest.value := by
    rw [denoted_float hx]
    split
    · rw [abs_neg, abs_of_pos hpos]
    · exact abs_of_pos hpos
  rw [← habs, ← h, Decimal.value, abs_div,
    abs_of_pos (show (0 : ℚ) < 10 ^ d.scale by positivity), Nat.cast_natAbs, Int.cast_abs]
  push_cast
  rfl

/-! ### What a decimal form is -/

theorem value_of_decimal?_integer {n : Int} {fits : leastInteger ≤ n ∧ n < integerLimit}
    {d : Decimal} (h : (integer n fits).decimal? = some d) : d.value = n := by
  obtain ⟨hunits, hscale, -⟩ := of_decimal?_integer h
  rw [Decimal.value, hunits, hscale, pow_zero, div_one]

/-- **A decimal form converts back**, whatever it was read from. -/
theorem convertsTo_of_decimal? {a : Number} {d : Decimal} (h : a.decimal? = some d) :
    d.ConvertsTo a := by
  cases a with
  | integer n fits => exact (of_decimal?_integer h).2.2
  | float x => exact (of_decimal?_float h).2

/-- **A decimal form is what the text denotes**, or that rounded to 28 digits behind the point
if it does not fit. -/
theorem value_of_decimal? {a : Number} {d : Decimal} (h : a.decimal? = some d) :
    d.value = a.denoted ∨ ¬ Decimal.Fits a.denoted ∧ d.scale = 28 ∧
      |d.value - a.denoted| * 10 ^ (28 : Nat) ≤ 1 / 2 := by
  cases a with
  | integer n fits => exact .inl ((value_of_decimal?_integer h).trans (denoted_integer n fits).symm)
  | float x =>
    have hread := (of_decimal?_float h).1
    cases hx : x.isZero with
    | true =>
      rw [Binary64.eq_zero_of_isZero hx] at hread ⊢
      rw [Binary64.ofText?_text_zero] at hread
      obtain rfl := Option.some.inj hread
      refine .inl ?_
      rw [denoted_zero]
      simp [Decimal.value]
    | false => exact (Binary64.standsFor_of_text hx hread).value_eq (denoted_float hx)

/-! ### Which numbers have a decimal form -/

section
variable {x : Binary64} {d : Decimal} (hx : x.isZero = false)
include hx

theorem exists_ofText?_of_denoted (hfits : Decimal.Fits (float x).denoted) :
    ∃ d, Decimal.ofText? x.text.toList = some d ∧ d.value = (float x).denoted ∧
      (d.units.natAbs = x.shortest.digits ∨ ∃ m : Nat, d.units.natAbs = m * 10 ^ d.scale) := by
  have hvalue := denoted_float hx
  obtain ⟨d, hd, hunits⟩ := x.exists_ofText?_of_fits hx
    (Decimal.fits_signed_iff.mp (hvalue ▸ hfits))
  refine ⟨d, hd, ?_, hunits⟩
  exact ((Binary64.standsFor_of_text hx hd).value_eq hvalue).resolve_right fun h => h.1 hfits

theorem units_withSign_of_text (hd : Decimal.ofText? x.text.toList = some d)
    (hvalue : d.value = (float x).denoted) :
    (if d.units < 0 then ({ x with negative := false } : Binary64).neg
      else { x with negative := false }).units = x.units := by
  obtain ⟨n, hn, -⟩ := Binary64.standsFor_of_text hx hd
  have hpos := (Binary64.readsAs_shortest hx).1.pos hx
  rw [shortest_value_eq hx hvalue, hn, natAbs_signed] at hpos
  have hnpos : 0 < n := by
    refine Nat.pos_of_ne_zero fun hzero => ?_
    rw [hzero, Nat.cast_zero, zero_div] at hpos
    exact lt_irrefl _ hpos
  rw [hn]
  exact x.units_withSign hnpos

theorem convertsTo_of_whole (hd : Decimal.ofText? x.text.toList = some d)
    (hvalue : d.value = (float x).denoted) {m : Nat} (hm : d.units.natAbs = m * 10 ^ d.scale) :
    d.ConvertsTo (.float x) := by
  have hratio : x.shortest.value = m / (1 : Nat) := by
    have hpower : ((10 ^ d.scale : Nat) : ℚ) ≠ 0 :=
      Nat.cast_ne_zero.mpr (Nat.pow_pos (by decide)).ne'
    rw [shortest_value_eq hx hvalue, hm, Nat.cast_mul, mul_div_cancel_right₀ _ hpower, Nat.cast_one,
      div_one]
  have hround := (Binary64.readsAs_shortest hx).1.ofRatio_eq Nat.one_pos hratio false
  exact ⟨_, Decimal.toBinary64_whole hm hround, units_withSign_of_text hx hd hvalue⟩

theorem convertsTo_of_few (hd : Decimal.ofText? x.text.toList = some d)
    (hvalue : d.value = (float x).denoted) (hunits : d.units.natAbs < 10 ^ (15 : Nat))
    (hscale : d.scale ≤ 22) : d.ConvertsTo (.float x) := by
  have hreads := (Binary64.readsAs_shortest hx).1
  rw [shortest_value_eq hx hvalue] at hreads
  exact ⟨_, Decimal.toBinary64_of_few hunits hscale hreads, units_withSign_of_text hx hd hvalue⟩

end

/-- Of a number whose text fits, the text is read exactly, and that is its decimal form unless
it converts back to another number. -/
theorem exists_decimal?_of_fits {a : Number} (hfits : Decimal.Fits a.denoted) :
    ∃ d : Decimal, d.value = a.denoted ∧
      (a.decimal? = some d ∨ a.decimal? = none ∧ ¬ d.ConvertsTo a) := by
  by_cases hsome : ∃ d, a.decimal? = some d
  · obtain ⟨d, hd⟩ := hsome
    exact ⟨d, (value_of_decimal? hd).resolve_right fun h => h.1 hfits, .inl hd⟩
  have hnone : a.decimal? = none := Option.eq_none_iff_forall_ne_some.mpr (not_exists.mp hsome)
  cases a with
  | integer n fits => exact absurd (isSome_decimal?_integer fits) hsome
  | float x =>
    cases hx : x.isZero with
    | true => exact absurd (Binary64.eq_zero_of_isZero hx ▸ isSome_decimal?_zero x.negative) hsome
    | false =>
      obtain ⟨d, hd, hvalue, -⟩ := exists_ofText?_of_denoted hx hfits
      exact ⟨d, hvalue, .inr ⟨hnone, fun hback => hsome ⟨d, decimal?_float hd hback⟩⟩⟩

/-- **A whole number has a decimal form if it fits.** -/
theorem exists_decimal?_of_whole {a : Number} {n : ℤ} (hn : a.denoted = n)
    (hfits : Decimal.Fits a.denoted) : ∃ d, a.decimal? = some d := by
  cases a with
  | integer n fits => exact isSome_decimal?_integer fits
  | float x =>
    cases hx : x.isZero with
    | true => exact Binary64.eq_zero_of_isZero hx ▸ isSome_decimal?_zero x.negative
    | false =>
      obtain ⟨d, hd, hvalue, -⟩ := exists_ofText?_of_denoted hx hfits
      have hunits : d.units = n * 10 ^ d.scale := by
        have := hvalue.trans hn
        rw [Decimal.value, div_eq_iff (by positivity)] at this
        exact_mod_cast this
      have hm : d.units.natAbs = n.natAbs * 10 ^ d.scale := by
        rw [hunits, Int.natAbs_mul, Int.natAbs_pow]
        rfl
      exact ⟨d, decimal?_float hd (convertsTo_of_whole hx hd hvalue hm)⟩

/-- **A number of at most fifteen digits, with at most 22 behind the point, has a decimal
form.** -/
theorem exists_decimal?_of_few {a : Number} {n : ℤ} {s : Nat} (hn : a.denoted = n / 10 ^ s)
    (hdigits : n.natAbs < 10 ^ (15 : Nat)) (hs : s ≤ 22) : ∃ d, a.decimal? = some d := by
  have hfits : Decimal.Fits a.denoted :=
    ⟨⟨n, s, Nat.lt_trans hdigits (by decide), by omega⟩, hn.symm⟩
  cases a with
  | integer n fits => exact isSome_decimal?_integer fits
  | float x =>
    cases hx : x.isZero with
    | true => exact Binary64.eq_zero_of_isZero hx ▸ isSome_decimal?_zero x.negative
    | false =>
      obtain ⟨d, hd, hvalue, hunits | ⟨m, hm⟩⟩ := exists_ofText?_of_denoted hx hfits
      · obtain ⟨hscale, hle⟩ := Decimal.le_of_value_eq (hvalue.trans hn)
          (hunits ▸ Binary64.digits_shortest_mod hx)
        exact ⟨d, decimal?_float hd (convertsTo_of_few hx hd hvalue (by omega) (by omega))⟩
      · exact ⟨d, decimal?_float hd (convertsTo_of_whole hx hd hvalue hm)⟩

theorem fits_of_whole {a : Number} {n : ℤ} (hn : a.denoted = n) {d : Decimal}
    (h : a.decimal? = some d) : Decimal.Fits a.denoted := by
  rcases value_of_decimal? h with hvalue | ⟨-, hscale, hdiff⟩
  · exact ⟨d, hvalue⟩
  -- a decimal with 28 digits behind the point is below eight
  have hunits : |(d.units : ℚ)| < 2 ^ (96 : Nat) := by
    rw [← Int.cast_abs, Int.abs_eq_natAbs]
    exact_mod_cast d.units_lt
  have hsmall : |d.value| < 8 := by
    rw [Decimal.value, hscale, abs_div, abs_of_pos (show (0 : ℚ) < 10 ^ (28 : Nat) by norm_num),
      div_lt_iff₀ (by norm_num)]
    exact hunits.trans (by norm_num)
  have hnear : |d.value - n| ≤ 1 := by
    rw [hn] at hdiff
    have hone : |d.value - n| * 1 ≤ |d.value - n| * 10 ^ (28 : Nat) :=
      mul_le_mul_of_nonneg_left (by norm_num) (abs_nonneg _)
    linarith only [hone, hdiff]
  have hbound : |(n : ℚ)| < 9 := by
    have := abs_sub_abs_le_abs_sub (n : ℚ) d.value
    rw [abs_sub_comm] at this
    linarith only [this, hsmall, hnear]
  have hbound : |n| < 9 := by exact_mod_cast hbound
  rw [Int.abs_eq_natAbs] at hbound
  rw [hn]
  exact Decimal.fits_whole (by omega)

/-- A whole number below `2 ^ 96`, or a number of at most fifteen digits with at most 22 of
them behind the point. -/
def Moderate (a : Number) : Prop :=
  (∃ n : ℤ, a.denoted = n ∧ n.natAbs < 2 ^ (96 : Nat)) ∨
  ∃ (n : ℤ) (s : Nat), a.denoted = n / 10 ^ s ∧ n.natAbs < 10 ^ (15 : Nat) ∧ s ≤ 22

theorem Moderate.exists_decimal? {a : Number} (h : a.Moderate) :
    ∃ d, a.decimal? = some d ∧ d.value = a.denoted := by
  have hexact : Decimal.Fits a.denoted ∧ ∃ d, a.decimal? = some d := by
    rcases h with ⟨n, hn, hlt⟩ | ⟨n, s, hn, hlt, hs⟩
    · have hfits : Decimal.Fits a.denoted := hn ▸ Decimal.fits_whole hlt
      exact ⟨hfits, exists_decimal?_of_whole hn hfits⟩
    · exact ⟨⟨⟨n, s, Nat.lt_trans hlt (by decide), by omega⟩, hn.symm⟩,
        exists_decimal?_of_few hn hlt hs⟩
  obtain ⟨hfits, d, hd⟩ := hexact
  exact ⟨d, hd, (value_of_decimal? hd).resolve_right fun h => h.1 hfits⟩

/-- **How exact the decimal form of a number is.** A decimal form converts back to the number,
and has the value that the text denotes, unless that does not fit: then it is rounded to 28
digits behind the point. A number whose text fits has an exact decimal form, unless the exact
decimal converts back to another number. A whole number has one just if it fits, and a
moderate number always has one. -/
theorem exact_decimalForm (a : Number) :
    (∀ d, a.decimal? = some d → d.ConvertsTo a ∧ (d.value = a.denoted ∨
      ¬ Decimal.Fits a.denoted ∧ d.scale = 28 ∧
        |d.value - a.denoted| * 10 ^ (28 : Nat) ≤ 1 / 2)) ∧
    (Decimal.Fits a.denoted → ∃ d : Decimal, d.value = a.denoted ∧
      (a.decimal? = some d ∨ a.decimal? = none ∧ ¬ d.ConvertsTo a)) ∧
    (∀ n : ℤ, a.denoted = n → ((∃ d, a.decimal? = some d) ↔ Decimal.Fits n)) ∧
    (a.Moderate → ∃ d, a.decimal? = some d ∧ d.value = a.denoted) := by
  refine ⟨fun d hd => ⟨convertsTo_of_decimal? hd, value_of_decimal? hd⟩,
    exists_decimal?_of_fits, fun n hn => ⟨?_, fun hfits => ?_⟩, Moderate.exists_decimal?⟩
  · rintro ⟨d, hd⟩
    exact hn ▸ fits_of_whole hn hd
  · exact exists_decimal?_of_whole hn (hn ▸ hfits)

theorem denoted_of_shortest {x : Binary64} {n : Nat} {e : ℤ}
    (h : x.isZero = false ∧ x.negative = false ∧ x.shortest = ⟨n, e⟩) :
    (float x).denoted = n * 10 ^ e := by
  obtain ⟨hzero, hpositive, hshortest⟩ := h
  rw [denoted_float hzero, hpositive, hshortest, if_neg Bool.false_ne_true, Scientific.value]

/-- What a price, 38 ninths and a number of 17 digits denote, the last digit being the 29th
behind the point, and which decimal forms the latter two have. -/
theorem samples :
    (nearest 12345 2).denoted = 12345 / 10 ^ (2 : Nat) ∧
      (nearest 4222222222222222 15).denoted = 4222222222222222 / 10 ^ (15 : Nat) ∧
      (nearest 31371108260737234 29).denoted = 31371108260737234 / 10 ^ (29 : Nat) ∧
      (nearest 4222222222222222 15).decimal? = none ∧
      (nearest 31371108260737234 29).decimal? =
        some ⟨3137110826073723, 28, by decide, by decide⟩ := by
  have hdenoted : ∀ {n k : Nat} {x : Binary64},
      x.isZero = false ∧ x.negative = false ∧ x.shortest = ⟨n, -k⟩ →
        (float x).denoted = n / 10 ^ k := by
    intro n k x h
    rw [denoted_of_shortest h, zpow_neg, zpow_natCast, div_eq_mul_inv]
  exact ⟨hdenoted (by decide +kernel), hdenoted (by decide +kernel),
    hdenoted (by decide +kernel), by decide +kernel, by decide +kernel⟩

/-- A price of `123.45` has an exact decimal form, and so has the greatest integer. A rate of
38 ninths has none: the decimal that spells it converts back to another number. -/
theorem exact_decimalForm_prices :
    (∃ d, (nearest 12345 2).decimal? = some d ∧ d.value = 12345 / 10 ^ (2 : Nat)) ∧
      (∃ d, (integer (2 ^ (64 : Nat) - 1) (by decide)).decimal? = some d) ∧
      ∃ d : Decimal, d.value = 4222222222222222 / 10 ^ (15 : Nat) ∧
        ¬ d.ConvertsTo (nearest 4222222222222222 15) := by
  obtain ⟨hprice, hrate, -, hnone, -⟩ := samples
  refine ⟨?_, ?_, ?_⟩
  · obtain ⟨d, hd, hvalue⟩ := (exact_decimalForm (nearest 12345 2)).2.2.2
      (.inr ⟨12345, 2, hprice, by decide, by decide⟩)
    exact ⟨d, hd, hvalue.trans hprice⟩
  · exact ((exact_decimalForm _).2.2.1 _ (denoted_integer _ _)).mpr
      (Decimal.fits_whole (by decide))
  · obtain ⟨d, hvalue, hsome | ⟨-, hback⟩⟩ := (exact_decimalForm (nearest 4222222222222222 15)).2.1
      ⟨⟨4222222222222222, 15, by decide, by decide⟩, hrate.symm⟩
    · rw [hnone] at hsome
      cases hsome
    · exact ⟨d, hvalue.trans hrate, hback⟩

/-- Of two numbers in floating point one is ordinary and its text fits, but it has no decimal
form. The text of the other does not fit, and it has a decimal form with another value. -/
theorem not_exact_decimalForm :
    (1 / 10 ^ (5 : Nat) ≤ (nearest 4222222222222222 15).denoted ∧
      (nearest 4222222222222222 15).denoted < 10 ^ (16 : Nat) ∧
      Decimal.Fits (nearest 4222222222222222 15).denoted ∧
      (nearest 4222222222222222 15).decimal? = none) ∧
    ¬ Decimal.Fits (nearest 31371108260737234 29).denoted ∧
      ∃ d, (nearest 31371108260737234 29).decimal? = some d ∧
        d.value ≠ (nearest 31371108260737234 29).denoted := by
  obtain ⟨-, hrate, htiny, hnone, hsome⟩ := samples
  refine ⟨⟨?_, ?_, ⟨⟨4222222222222222, 15, by decide, by decide⟩, hrate.symm⟩, hnone⟩,
    fun hfits => ?_, _, hsome, ?_⟩
  · rw [hrate]
    norm_num
  · rw [hrate]
    norm_num
  · obtain ⟨⟨k, hk⟩, -⟩ := hfits.bounds
    have hten : (31371108260737234 : ℚ) = k * 10 := by
      rw [← hk, htiny]
      norm_num
    have hten : (31371108260737234 : ℤ) = k * 10 := by exact_mod_cast hten
    omega
  · rw [htiny, Decimal.value]
    norm_num

end Number
end PageFlow
