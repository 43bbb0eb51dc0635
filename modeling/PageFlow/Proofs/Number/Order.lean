/-
# Numbers of one value are compared alike

Two numbers are compared as decimals, or in binary floating point if one of
them has no decimal form. The two orders fit together: a number is not told from
another of its value by comparing both with a third. What has to be shown for
this is that two numbers with one decimal have no number without a decimal form
between them. They are nearest to decimals that are the same, or differ by the
rounding to 28 digits; then the numbers are neighbours.

Key definitions: `Decimal.leastUnits`.
Key theorems: `Binary64.fewUnits_of_between`, `Decimal.compareValue_eq`,
`Number.HasForm.no_between`, `Number.compareValue_self`, `Number.compareValue_congr`.
-/
import PageFlow.Proofs.Number.DecimalForm

namespace PageFlow

-- Powers are those of the core library, whatever else is imported.
attribute [local instance (2000)] instPowNat

-- The units in one are too many to be computed.
attribute [local irreducible] Binary64.one

namespace Binary64

/-! ### Neighbours -/

theorem two_steps_le {x y z : Binary64} (hxy : x.magnitude < y.magnitude)
    (hyz : y.magnitude < z.magnitude) :
    (x.magnitude : ℚ) + 2 * 2 ^ x.exponent ≤ z.magnitude := by
  have hfirst := step_le_of_magnitude_lt hxy
  have hsecond := step_le_of_magnitude_lt hyz
  have hgrow : 2 ^ x.exponent ≤ 2 ^ y.exponent :=
    Nat.pow_le_pow_right (by decide) (exponent_le_of_magnitude_le hxy.le)
  have : x.magnitude + 2 * 2 ^ x.exponent ≤ z.magnitude := by omega
  exact_mod_cast this

theorem magnitude_le_mul (x : Binary64) :
    (x.magnitude : ℚ) ≤ (2 ^ (53 : Nat) - 1) * 2 ^ x.exponent := by
  have hm : (x.mantissa : ℚ) + 1 ≤ 2 ^ (53 : Nat) := by exact_mod_cast x.mantissa_lt
  have hunit : (0 : ℚ) < 2 ^ x.exponent := by positivity
  rw [magnitude]
  push_cast
  exact mul_le_mul_of_nonneg_right (by linarith) hunit.le

/-- If there is a number between those nearest to two decimals that differ by half a
unit of `10 ^ -28`, then the units are few. -/
theorem fewUnits_of_between {x y z : Binary64} {v w : ℚ} (units : Nat)
    (hx : x.Nearest (v * one)) (hz : z.Nearest (w * one))
    (hxy : x.magnitude < y.magnitude) (hyz : y.magnitude < z.magnitude)
    (hunits : units ≤ v * 10 ^ (28 : Nat) + 1 / 2)
    (hclose : w * 10 ^ (28 : Nat) ≤ v * 10 ^ (28 : Nat) + 1 / 2) :
    x.exponent < 2045 ∧ units ≤ fewUnits := by
  have hone : (0 : ℚ) < one := Nat.cast_pos.mpr one_pos
  obtain ⟨k, hk, hpower⟩ := exists_one_eq
  obtain ⟨j, rfl⟩ : ∃ j, k = j + 95 := ⟨k - 95, by omega⟩
  have hpowerq : (one : ℚ) = 2 ^ j * 2 ^ (95 : Nat) := by
    rw [hpower, Nat.pow_add]
    push_cast
    rfl
  have hgap := hx.gap hz hxy hyz
  have htwo := two_steps_le hxy hyz
  have hle : x.exponent ≤ j := by
    have hsteps : 2 * 2 ^ x.exponent * 10 ^ (28 : Nat) ≤ (one : ℚ) := by
      nlinarith only [hgap, htwo, hclose, hone]
    have hsteps : 2 * 2 ^ x.exponent * 10 ^ (28 : Nat) ≤ one := by exact_mod_cast hsteps
    have hlt : 2 ^ (x.exponent + 1 + 93) < 2 ^ (j + 95) := by
      rw [Nat.pow_add, Nat.pow_succ, Nat.mul_comm (2 ^ x.exponent), ← hpower]
      refine Nat.lt_of_lt_of_le ?_ hsteps
      exact Nat.mul_lt_mul_of_pos_left (by decide)
        (Nat.mul_pos (by decide) (Nat.two_pow_pos _))
    have := (Nat.pow_lt_pow_iff_right (by decide : 1 < 2)).mp hlt
    omega
  have hexponent : x.exponent < 2045 := by omega
  refine ⟨hexponent, ?_⟩
  have hunit : (0 : ℚ) < 2 ^ j := by positivity
  have hgrow : (2 : ℚ) ^ x.exponent ≤ 2 ^ j := pow_le_pow_right₀ (by norm_num) hle
  have hsmall : v * 2 ^ (96 : Nat) ≤ 2 ^ (54 : Nat) - 1 := by
    have hhalf := hx.le_half_step hexponent
    have hmagnitude := x.magnitude_le_mul
    rw [hpowerq] at hhalf
    refine le_of_mul_le_mul_right ?_ hunit
    linarith only [hhalf, hmagnitude, hgrow]
  have hlt : (units : ℚ) < fewUnits + 1 := by
    have hfew : (fewUnits : ℚ) = 2273736754432320 := by norm_num [fewUnits]
    rw [hfew]
    linarith only [hunits, hsmall]
  exact Nat.lt_succ_iff.mp (by exact_mod_cast hlt)

/-- Units are divided by `10 ^ 28`, or by what it is in binary floating point, with
results that have no number between them. -/
theorem no_between_quotients {x y z : Binary64} {v : ℚ} {units : Nat}
    (hv : v * 10 ^ (28 : Nat) = units) (hx : x.Nearest (v * one))
    (hz : z.Nearest (units * one / tenPower28)) (hexponent : x.exponent < 2045)
    (hxy : x.magnitude < y.magnitude) : ¬ y.magnitude < z.magnitude := by
  intro hyz
  have hone : (0 : ℚ) < one := Nat.cast_pos.mpr one_pos
  have hgap := hx.gap hz hxy hyz
  have htwo := two_steps_le hxy hyz
  have hhalf := hx.le_half_step hexponent
  have hmagnitude := x.magnitude_le_mul
  have hunit : (0 : ℚ) < 2 ^ x.exponent := by positivity
  have hquotient : (units : ℚ) * one / tenPower28 = v * one * (10 ^ (28 : Nat) / tenPower28) := by
    rw [← hv]
    ring
  rw [hquotient] at hgap
  norm_num [tenPower28] at hgap
  linarith only [hgap, htwo, hhalf, hmagnitude, hunit]

/-- A number that is nearest to a decimal, and one that is nearest to what is rounded
to the same decimal and converts back from it, have no number between them. -/
theorem no_between_rounded {x y z : Binary64} {d : Decimal} {v w : ℚ}
    (hscale : d.scale = 28) (hv : v * 10 ^ (28 : Nat) = d.units.natAbs)
    (hw : w * 10 ^ (28 : Nat) - 1 / 2 < d.units.natAbs ∧
      (d.units.natAbs : ℚ) ≤ w * 10 ^ (28 : Nat) + 1 / 2)
    (hx : x.Nearest (v * one)) (hz : z.Nearest (w * one))
    (hback : ∃ z', d.toBinary64 = some z' ∧ z'.magnitude = z.magnitude) :
    ¬ (x.magnitude < y.magnitude ∧ y.magnitude < z.magnitude) ∧
      ¬ (z.magnitude < y.magnitude ∧ y.magnitude < x.magnitude) := by
  obtain ⟨hlow, hhigh⟩ := hw
  obtain ⟨z', hz', hmagnitude⟩ := hback
  have hquotient : d.units.natAbs ≤ fewUnits →
      z.Nearest (d.units.natAbs * one / tenPower28) := fun hunits =>
    (Decimal.toBinary64_fraction hscale hunits hz').congr hmagnitude.symm
  constructor
  · rintro ⟨hxy, hyz⟩
    obtain ⟨hexponent, hunits⟩ := fewUnits_of_between d.units.natAbs hx hz hxy hyz
      (by linarith only [hv]) (by linarith only [hv, hlow])
    exact no_between_quotients hv hx (hquotient hunits) hexponent hxy hyz
  · rintro ⟨hzy, hyx⟩
    obtain ⟨-, hunits⟩ := fewUnits_of_between d.units.natAbs hz hx hzy hyx
      (by linarith only [hhigh]) (by linarith only [hv, hhigh])
    -- the power of ten in binary floating point is too small for `z` to be the lesser one
    have hgap := (hquotient hunits).gap hx hzy hyx
    have hone : (0 : ℚ) < one := Nat.cast_pos.mpr one_pos
    have hle : v * one ≤ d.units.natAbs * one / tenPower28 := by
      have hnonneg : 0 ≤ v := by
        have : (0 : ℚ) ≤ v * 10 ^ (28 : Nat) := hv ▸ Nat.cast_nonneg _
        linarith only [this]
      rw [le_div_iff₀ (by norm_num [tenPower28]), ← hv, mul_right_comm v one]
      have hten : (tenPower28 : ℚ) ≤ 10 ^ (28 : Nat) := by norm_num [tenPower28]
      exact mul_le_mul_of_nonneg_right (mul_le_mul_of_nonneg_left hten hnonneg) hone.le
    have hlt : (z.magnitude : ℚ) < x.magnitude := by exact_mod_cast hzy.trans hyx
    linarith only [hgap, hle, hlt]

end Binary64

/-! ### Decimals on one scale -/

theorem compare_mul_right {x y c : Int} (hc : 0 < c) : compare (x * c) (y * c) = compare x y := by
  rcases lt_trichotomy x y with h | h | h
  · rw [compare_lt_iff_lt.mpr h, compare_lt_iff_lt.mpr (Int.mul_lt_mul_of_pos_right h hc)]
  · rw [compare_eq_iff_eq.mpr h, compare_eq_iff_eq.mpr (congrArg (· * c) h)]
  · rw [compare_gt_iff_gt.mpr h, compare_gt_iff_gt.mpr (Int.mul_lt_mul_of_pos_right h hc)]

namespace Decimal

/-- The value in units of `10 ^ -28`, the least of all scales. -/
def leastUnits (d : Decimal) : Int := d.units * 10 ^ (28 - d.scale)

/-- Decimals are ordered as their values on one scale. -/
theorem compareValue_eq (d e : Decimal) :
    d.compareValue e = compare d.leastUnits e.leastUnits := by
  have hpower : ∀ f : Decimal, (10 : Int) ^ (28 : Nat) = 10 ^ f.scale * 10 ^ (28 - f.scale) := by
    intro f
    rw [← pow_add, Nat.add_sub_cancel' f.scale_le]
  have hscale : (0 : Int) < 10 ^ (28 - d.scale) * 10 ^ (28 - e.scale) := by positivity
  calc d.compareValue e
      = compare (d.units * 10 ^ e.scale * (10 ^ (28 - d.scale) * 10 ^ (28 - e.scale)))
          (e.units * 10 ^ d.scale * (10 ^ (28 - d.scale) * 10 ^ (28 - e.scale))) :=
        (compare_mul_right hscale).symm
    _ = compare (d.leastUnits * 10 ^ (28 : Nat)) (e.leastUnits * 10 ^ (28 : Nat)) := by
        congr 1
        · rw [hpower e, leastUnits]
          ring
        · rw [hpower d, leastUnits]
          ring
    _ = compare d.leastUnits e.leastUnits := compare_mul_right (by norm_num)

end Decimal

namespace Number

open Binary64 (one)

/-- **Numbers with one decimal form have no number between them**, up to sign and
neighbours. -/
theorem HasForm.no_between {a b : Number} {d e : Decimal} {v w : ℚ} (ha : a.HasForm d v)
    (hb : b.HasForm e w) (hsame : d.units * 10 ^ e.scale = e.units * 10 ^ d.scale) (x : Binary64) :
    ¬ (a.toBinary64.magnitude < x.magnitude ∧ x.magnitude < b.toBinary64.magnitude) := by
  obtain ⟨n, hn, hv⟩ := ha.standsFor
  obtain ⟨m, hm, hw⟩ := hb.standsFor
  have hn : n = d.units.natAbs := by rw [hn, natAbs_signed]
  have hm : m = e.units.natAbs := by rw [hm, natAbs_signed]
  rw [hn] at hv
  rw [hm] at hw
  have hcross : d.units.natAbs * 10 ^ e.scale = e.units.natAbs * 10 ^ d.scale := by
    have := congrArg Int.natAbs hsame
    rw [Int.natAbs_mul, Int.natAbs_mul, Int.natAbs_pow, Int.natAbs_pow] at this
    exact this
  have hcross : (d.units.natAbs * 10 ^ e.scale : ℚ) = e.units.natAbs * 10 ^ d.scale := by
    exact_mod_cast hcross
  have htend : (10 : ℚ) ^ d.scale ≠ 0 := by positivity
  have htene : (10 : ℚ) ^ e.scale ≠ 0 := by positivity
  rintro ⟨hax, hxb⟩
  rcases hv with hv | ⟨hd, hv⟩
  · rcases hw with hw | ⟨he, hw⟩
    · -- both are nearest to one decimal
      have hvw : v = w := by
        rw [hv, hw] at hcross
        have : v * (10 ^ d.scale * 10 ^ e.scale) = w * (10 ^ d.scale * 10 ^ e.scale) := by
          linarith only [hcross]
        exact mul_right_cancel₀ (mul_ne_zero htend htene) this
      have hgap := ha.nearest.gap (hvw ▸ hb.nearest) hax hxb
      have hlt : (a.toBinary64.magnitude : ℚ) < b.toBinary64.magnitude := by
        exact_mod_cast hax.trans hxb
      linarith only [hgap, hlt]
    · have hexact : v * 10 ^ (28 : Nat) = e.units.natAbs := by
        rw [hv, he] at hcross
        refine mul_right_cancel₀ htend ?_
        linarith only [hcross]
      exact (Binary64.no_between_rounded he hexact hw ha.nearest hb.nearest hb.back).1 ⟨hax, hxb⟩
  · rcases hw with hw | ⟨he, hw⟩
    · have hexact : w * 10 ^ (28 : Nat) = d.units.natAbs := by
        rw [hw, hd] at hcross
        refine mul_right_cancel₀ htene ?_
        linarith only [hcross]
      exact (Binary64.no_between_rounded hd hexact hv hb.nearest ha.nearest ha.back).2 ⟨hax, hxb⟩
    · -- both convert back from one decimal
      obtain ⟨y, hy, hya⟩ := ha.back
      obtain ⟨z, hz, hzb⟩ := hb.back
      obtain ⟨units, scale, hlt, hle⟩ := d
      obtain ⟨units', scale', hlt', hle'⟩ := e
      obtain rfl : scale = 28 := hd
      obtain rfl : scale' = 28 := he
      obtain rfl : units = units' := mul_right_cancel₀ (by positivity) hsame
      obtain rfl : y = z := Option.some.inj (hy.symm.trans hz)
      omega

/-! ### The order of numbers -/

theorem compareValue_of_decimal? {a b : Number} {d e : Decimal} (ha : a.decimal? = some d)
    (hb : b.decimal? = some e) : a.compareValue b = d.compareValue e := by
  simp only [compareValue, ha, hb]

theorem compareValue_of_none {a b : Number} (h : a.decimal? = none ∨ b.decimal? = none) :
    a.compareValue b = a.toBinary64.compareValue b.toBinary64 := by
  unfold compareValue
  rcases h with h | h
  · rw [h]
  · rw [h]
    cases a.decimal? <;> rfl

/-- A number is equal to itself. -/
theorem compareValue_self (a : Number) : a.compareValue a = .eq := by
  cases h : a.decimal? with
  | none =>
    rw [compareValue_of_none (.inl h), Binary64.compareValue]
    exact Std.ReflCmp.compare_self
  | some d =>
    rw [compareValue_of_decimal? h h, Decimal.compareValue]
    exact Std.ReflCmp.compare_self

theorem compareValue_swap (a b : Number) : (a.compareValue b).swap = b.compareValue a := by
  cases ha : a.decimal? with
  | none =>
    rw [compareValue_of_none (.inl ha), compareValue_of_none (.inr ha),
      Binary64.compareValue_swap]
  | some d =>
    cases hb : b.decimal? with
    | none =>
      rw [compareValue_of_none (.inr hb), compareValue_of_none (.inl hb),
        Binary64.compareValue_swap]
    | some e =>
      rw [compareValue_of_decimal? ha hb, compareValue_of_decimal? hb ha, Decimal.compareValue,
        Decimal.compareValue, ← Std.OrientedCmp.eq_swap]

theorem units_mul_eq_of_compareValue {d e : Decimal} (h : d.compareValue e = .eq) :
    d.units * 10 ^ e.scale = e.units * 10 ^ d.scale :=
  Std.LawfulEqOrd.eq_of_compare h

theorem decimal_compareValue_congr {d e : Decimal} (h : d.compareValue e = .eq) (f : Decimal) :
    d.compareValue f = e.compareValue f := by
  rw [Decimal.compareValue_eq, compare_eq_iff_eq] at h
  rw [Decimal.compareValue_eq, Decimal.compareValue_eq, h]

theorem decimal_compareValue_symm {d e : Decimal} (h : d.compareValue e = .eq) :
    e.compareValue d = .eq :=
  compare_eq_iff_eq.mpr (units_mul_eq_of_compareValue h).symm

theorem HasForm.units_eq_zero {a : Number} {d : Decimal} {v : ℚ} (h : a.HasForm d v)
    (hd : d.units = 0) : a.toBinary64.units = 0 := by
  obtain ⟨y, hy, hmagnitude⟩ := h.back
  have hzero := Decimal.toBinary64_whole (d := d) (m := 0) (by rw [hd, Nat.zero_mul]; rfl)
    (Binary64.ofRatio_zero false 1)
  rw [hzero, hd] at hy
  obtain rfl := Option.some.inj hy
  rw [← Int.natAbs_eq_zero, Binary64.natAbs_units, ← hmagnitude]
  rfl

theorem HasForm.not_opposite {a b : Number} {d e : Decimal} {v w : ℚ} (ha : a.HasForm d v)
    (hb : b.HasForm e w) (hsame : d.units * 10 ^ e.scale = e.units * 10 ^ d.scale)
    (hneg : a.toBinary64.units < 0) : b.toBinary64.units ≤ 0 := by
  by_contra hpos
  obtain ⟨n, hn, -⟩ := ha.standsFor
  obtain ⟨m, hm, -⟩ := hb.standsFor
  rw [Binary64.negative_eq_true_of_units_neg hneg] at hn
  rw [Binary64.negative_eq_false_of_units_pos (Int.not_le.mp hpos)] at hm
  have hd : d.units ≤ 0 := by
    rw [hn, signed, if_pos rfl]
    omega
  have he : 0 ≤ e.units := by
    rw [hm, signed, if_neg (by decide)]
    omega
  have hle : d.units * 10 ^ e.scale ≤ 0 := mul_nonpos_of_nonpos_of_nonneg hd (by positivity)
  have hge : 0 ≤ e.units * 10 ^ d.scale := mul_nonneg he (by positivity)
  have hzero : d.units * 10 ^ e.scale = 0 := by omega
  have hzero : d.units = 0 := (mul_eq_zero.mp hzero).resolve_right (by positivity)
  rw [ha.units_eq_zero hzero] at hneg
  omega

/-- Between two numbers of one decimal form, ends included, all have a decimal form. -/
theorem isSome_decimal?_of_between {a b c : Number} {d e : Decimal} (ha : a.decimal? = some d)
    (hc : c.decimal? = some e) (h : d.compareValue e = .eq)
    (hab : a.toBinary64.units ≤ b.toBinary64.units)
    (hbc : b.toBinary64.units ≤ c.toBinary64.units) : ∃ f, b.decimal? = some f := by
  rcases hab.eq_or_lt with hab | hab
  · exact isSome_decimal?_congr hab ⟨d, ha⟩
  rcases hbc.eq_or_lt with hbc | hbc
  · exact isSome_decimal?_congr hbc.symm ⟨e, hc⟩
  obtain ⟨v, hv⟩ := exists_hasForm ha
  obtain ⟨w, hw⟩ := exists_hasForm hc
  have hsame := units_mul_eq_of_compareValue h
  have hmagnitude := Binary64.natAbs_units
  exfalso
  rcases Int.lt_or_le a.toBinary64.units 0 with hneg | hnonneg
  · have hnonpos := hv.not_opposite hw hsame hneg
    refine hw.no_between hv hsame.symm b.toBinary64 ⟨?_, ?_⟩
    · rw [← hmagnitude, ← hmagnitude]
      omega
    · rw [← hmagnitude, ← hmagnitude]
      omega
  · refine hv.no_between hw hsame b.toBinary64 ⟨?_, ?_⟩
    · rw [← hmagnitude, ← hmagnitude]
      omega
    · rw [← hmagnitude, ← hmagnitude]
      omega

/-- A number without a decimal form lies on the same side of two numbers of one value. -/
theorem compareValue_congr_of_none {a b c : Number} {d e : Decimal} (ha : a.decimal? = some d)
    (hb : b.decimal? = some e) (hc : c.decimal? = none) (h : d.compareValue e = .eq) :
    a.compareValue c = b.compareValue c := by
  have hbetween : ∀ {x y : Number} {f g : Decimal}, x.decimal? = some f → y.decimal? = some g →
      f.compareValue g = .eq →
      ¬ (x.toBinary64.units ≤ c.toBinary64.units ∧ c.toBinary64.units ≤ y.toBinary64.units) := by
    rintro x y f g hx hy hfg ⟨hxc, hcy⟩
    obtain ⟨i, hi⟩ := isSome_decimal?_of_between hx hy hfg hxc hcy
    rw [hc] at hi
    cases hi
  have hab := hbetween ha hb h
  have hba := hbetween hb ha (decimal_compareValue_symm h)
  rw [compareValue_of_none (.inr hc), compareValue_of_none (.inr hc), Binary64.compareValue,
    Binary64.compareValue]
  rcases lt_trichotomy a.toBinary64.units c.toBinary64.units with hac | hac | hac
  · have hbc : b.toBinary64.units < c.toBinary64.units := by omega
    rw [compare_lt_iff_lt.mpr hac, compare_lt_iff_lt.mpr hbc]
  · omega
  · have hbc : c.toBinary64.units < b.toBinary64.units := by omega
    rw [compare_gt_iff_gt.mpr hac, compare_gt_iff_gt.mpr hbc]

/-- **Numbers of one value are compared alike with any number.** -/
theorem compareValue_congr {a b : Number} (h : a.compareValue b = .eq) (c : Number) :
    a.compareValue c = b.compareValue c := by
  cases ha : a.decimal? with
  | none =>
    rw [compareValue_of_none (.inl ha)] at h
    have hunits : a.toBinary64.units = b.toBinary64.units := Std.LawfulEqOrd.eq_of_compare h
    have hb : b.decimal? = none := by
      cases hb : b.decimal? with
      | none => rfl
      | some e =>
        obtain ⟨d, hd⟩ := isSome_decimal?_congr hunits.symm ⟨e, hb⟩
        rw [ha] at hd
        cases hd
    rw [compareValue_of_none (.inl ha), compareValue_of_none (.inl hb), Binary64.compareValue,
      Binary64.compareValue, hunits]
  | some d =>
    cases hb : b.decimal? with
    | none =>
      rw [compareValue_of_none (.inr hb)] at h
      obtain ⟨e, he⟩ := isSome_decimal?_congr (Std.LawfulEqOrd.eq_of_compare h) ⟨d, ha⟩
      rw [hb] at he
      cases he
    | some e =>
      rw [compareValue_of_decimal? ha hb] at h
      cases hc : c.decimal? with
      | some f =>
        rw [compareValue_of_decimal? ha hc, compareValue_of_decimal? hb hc,
          decimal_compareValue_congr h]
      | none => exact compareValue_congr_of_none ha hb hc h

end Number
end PageFlow
