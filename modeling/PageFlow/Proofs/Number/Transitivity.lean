/-
# The order of numbers is transitive

Of three numbers two may be compared as decimals and the others in binary floating
point. The two orders agree as far as they can: a decimal that is less than another is
the form of a number that is no greater. Then there is no way around three numbers, each
less than the next: the three would be one in binary floating point, so all of them
would have a decimal form, or none, and be compared in one way.

Key theorems: `Binary64.Nearest.mono`, `Number.HasForm.units_le`,
`Number.compareValue_lt_trans`, and the instance of `Std.TransCmp` for
`Number.compareValue`.
-/
import PageFlow.Proofs.Number.Order

namespace PageFlow

-- Powers are those of the core library, whatever else is imported.
attribute [local instance (2000)] instPowNat

-- The units in one are too many to be computed.
attribute [local irreducible] Binary64.one

open Binary64 (one)

/-! ### Rounding keeps the order -/

/-- A decimal is at most half a least unit above what it stands for, and less than that below. -/
theorem Decimal.StandsFor.leastUnits {d : Decimal} {negative : Bool} {v : ℚ}
    (h : d.StandsFor negative v) : ∃ n : Nat, d.leastUnits = signed negative n ∧
      v * 10 ^ (28 : Nat) - 1 / 2 < n ∧ (n : ℚ) ≤ v * 10 ^ (28 : Nat) + 1 / 2 := by
  obtain ⟨n, hn, hv⟩ := h
  have hunits : d.leastUnits = signed negative (n * 10 ^ (28 - d.scale)) := by
    rw [Decimal.leastUnits, hn]
    unfold signed
    split <;> push_cast <;> ring
  refine ⟨_, hunits, ?_⟩
  rcases hv with hv | ⟨hscale, hv⟩
  · have hexact : ((n * 10 ^ (28 - d.scale) : Nat) : ℚ) = v * 10 ^ (28 : Nat) := by
      push_cast
      rw [hv, mul_assoc, ← pow_add, Nat.add_sub_cancel' d.scale_le]
    rw [hexact]
    constructor <;> linarith
  · rw [hscale, Nat.sub_self, Nat.pow_zero, Nat.mul_one]
    exact hv

/-- Of two values the greater one has no smaller nearest number. -/
theorem Binary64.Nearest.mono {x y : Binary64} {v w : ℚ} (hx : x.Nearest v)
    (hy : y.Nearest w) (h : v < w) : x.magnitude ≤ y.magnitude := by
  by_contra hlt
  have hlt := Nat.lt_of_not_le hlt
  have hlow := hx.midpoint_le hlt
  have hhigh := hy.le_midpoint hlt
  linarith

namespace Number

/-- Without the signs, a number with a lesser decimal form is no greater. -/
theorem HasForm.magnitude_le {a b : Number} {d e : Decimal} {v w : ℚ} (ha : a.HasForm d v)
    (hb : b.HasForm e w) (h : d.leastUnits.natAbs < e.leastUnits.natAbs) :
    a.toBinary64.magnitude ≤ b.toBinary64.magnitude := by
  obtain ⟨n, hn, hlow, -⟩ := ha.standsFor.leastUnits
  obtain ⟨m, hm, -, hhigh⟩ := hb.standsFor.leastUnits
  rw [hn, hm, natAbs_signed, natAbs_signed] at h
  have hstep : (n : ℚ) + 1 ≤ m := by exact_mod_cast h
  have hvw : v < w := by linarith only [hlow, hhigh, hstep]
  have hone : (0 : ℚ) < one := Nat.cast_pos.mpr Binary64.one_pos
  exact ha.nearest.mono hb.nearest (mul_lt_mul_of_pos_right hvw hone)

/-- **A number with a lesser decimal form is no greater in binary floating point.** -/
theorem HasForm.units_le {a b : Number} {d e : Decimal} {v w : ℚ} (ha : a.HasForm d v)
    (hb : b.HasForm e w) (h : d.leastUnits < e.leastUnits) :
    a.toBinary64.units ≤ b.toBinary64.units := by
  obtain ⟨n, hn, -⟩ := ha.standsFor.leastUnits
  obtain ⟨m, hm, -⟩ := hb.standsFor.leastUnits
  have hup := ha.magnitude_le hb
  have hdown := hb.magnitude_le ha
  rw [hn, hm, natAbs_signed, natAbs_signed] at hup hdown
  rw [hn, hm] at h
  unfold signed at h
  unfold Binary64.units
  cases ha' : a.toBinary64.negative <;> cases hb' : b.toBinary64.negative <;>
    simp only [ha', hb', if_true, Bool.false_eq_true, if_false] at h ⊢ <;> omega

theorem units_le_of_compareValue {a b : Number} (h : a.compareValue b = .lt) :
    a.toBinary64.units ≤ b.toBinary64.units := by
  by_cases hnone : a.decimal? = none ∨ b.decimal? = none
  · rw [compareValue_of_none hnone, Binary64.compareValue, compare_lt_iff_lt] at h
    exact h.le
  · rw [not_or] at hnone
    obtain ⟨d, hd⟩ := Option.ne_none_iff_exists'.mp hnone.1
    obtain ⟨e, he⟩ := Option.ne_none_iff_exists'.mp hnone.2
    obtain ⟨v, hv⟩ := exists_hasForm hd
    obtain ⟨w, hw⟩ := exists_hasForm he
    rw [compareValue_of_decimal? hd he, Decimal.compareValue_eq, compare_lt_iff_lt] at h
    exact hv.units_le hw h

/-! ### Transitivity -/

/-- Three numbers are not each less than the next, all around. -/
theorem no_cycle {a b c : Number} (hab : a.compareValue b = .lt) (hbc : b.compareValue c = .lt) :
    c.compareValue a ≠ .lt := by
  intro hca
  have hleab := units_le_of_compareValue hab
  have hlebc := units_le_of_compareValue hbc
  have hleca := units_le_of_compareValue hca
  -- the three are one in floating point, so all of them have a decimal form or none has
  cases ha : a.decimal? with
  | none =>
    rw [compareValue_of_none (.inl ha), Binary64.compareValue, compare_lt_iff_lt] at hab
    omega
  | some d =>
    obtain ⟨e, he⟩ := isSome_decimal?_congr (b := b) (by omega) ⟨d, ha⟩
    obtain ⟨f, hf⟩ := isSome_decimal?_congr (b := c) (by omega) ⟨d, ha⟩
    rw [compareValue_of_decimal? ha he, Decimal.compareValue_eq, compare_lt_iff_lt] at hab
    rw [compareValue_of_decimal? he hf, Decimal.compareValue_eq, compare_lt_iff_lt] at hbc
    rw [compareValue_of_decimal? hf ha, Decimal.compareValue_eq, compare_lt_iff_lt] at hca
    omega

theorem compareValue_lt_trans {a b c : Number} (hab : a.compareValue b = .lt)
    (hbc : b.compareValue c = .lt) : a.compareValue c = .lt := by
  cases hac : a.compareValue c with
  | lt => rfl
  | eq =>
    -- `a` and `c` would lie on one side of `b`
    have hcb := compareValue_congr hac b
    rw [hab, ← compareValue_swap b c, hbc] at hcb
    cases hcb
  | gt =>
    have hca : c.compareValue a = .lt := by
      rw [← compareValue_swap, hac]
      rfl
    exact absurd hca (no_cycle hab hbc)

/-- **The numbers are ordered by value**, in whatever way two of them are compared. -/
instance : Std.TransCmp compareValue where
  eq_swap := (compareValue_swap _ _).symm
  isLE_trans {a b c} hab hbc := by
    cases hab' : a.compareValue b with
    | eq => rwa [compareValue_congr hab' c]
    | gt =>
      rw [hab'] at hab
      cases hab
    | lt =>
      cases hbc' : b.compareValue c with
      | lt =>
        rw [compareValue_lt_trans hab' hbc']
        rfl
      | eq =>
        have hcb : c.compareValue b = .eq := by
          rw [← compareValue_swap, hbc']
          rfl
        rw [← compareValue_swap, compareValue_congr hcb a, compareValue_swap, hab']
        rfl
      | gt =>
        rw [hbc'] at hbc
        cases hbc

end Number
end PageFlow
