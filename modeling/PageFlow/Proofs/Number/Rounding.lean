/-
# Rounding to binary floating point

The number that a ratio is rounded to is nearest to it: no finite number lies
closer. So two ratios whose roundings have a third number between them lie at
least half as far apart as the roundings. A ratio is counted in units of the
least exponent, as magnitudes are.

Key definitions: `Binary64.FitsAt`, `Binary64.Nearest`.
Key theorems: `roundHalfEven_eq`, `Binary64.ofRatio_of_fitsAt`,
`Binary64.nearest_of_ofRatio`, `Binary64.Nearest.gap`, `Binary64.isSome_ofRatio`.
-/
import Mathlib.Data.Rat.Cast.Order
import Mathlib.Tactic.FieldSimp
import Mathlib.Tactic.GCongr
import Mathlib.Tactic.Linarith
import Mathlib.Tactic.Positivity
import Mathlib.Tactic.Ring
import PageFlow.Number.Binary64

namespace PageFlow

-- Powers are those of the core library, whatever else is imported.
attribute [local instance (2000)] instPowNat

/-! ### Rounding to a natural -/

theorem roundHalfEven_bounds (num : Nat) {den : Nat} (hden : 0 < den) :
    2 * num ≤ 2 * roundHalfEven num den * den + den ∧
      2 * roundHalfEven num den * den ≤ 2 * num + den := by
  have hsplit := Nat.div_add_mod num den
  have hmod := Nat.mod_lt num hden
  have hup : 2 * (num / den + 1) * den = 2 * (den * (num / den)) + 2 * den := by ring
  have hdown : 2 * (num / den) * den = 2 * (den * (num / den)) := by ring
  unfold roundHalfEven
  dsimp only
  split
  · omega
  · split
    · omega
    · split <;> omega

/-- A natural that is less than a half off, or a half off and even, is the
rounded quotient. -/
theorem roundHalfEven_eq {num den m : Nat} (hden : 0 < den)
    (hlow : 2 * m * den ≤ 2 * num + den) (hhigh : 2 * num ≤ 2 * m * den + den)
    (hodd : m % 2 = 1 → 2 * m * den < 2 * num + den ∧ 2 * num < 2 * m * den + den) :
    roundHalfEven num den = m := by
  have hsplit := Nat.div_add_mod num den
  have hmod := Nat.mod_lt num hden
  have hle : m ≤ num / den + 1 := by
    by_contra hcon
    have : (num / den + 2) * den ≤ m * den := Nat.mul_le_mul_right den (by omega)
    have : (num / den + 2) * den = den * (num / den) + 2 * den := by ring
    have : 2 * m * den = 2 * (m * den) := by ring
    omega
  have hge : num / den ≤ m := by
    by_contra hcon
    have : (m + 1) * den ≤ num / den * den := Nat.mul_le_mul_right den (by omega)
    have : (m + 1) * den = m * den + den := by ring
    have : num / den * den = den * (num / den) := by ring
    have : 2 * m * den = 2 * (m * den) := by ring
    omega
  unfold roundHalfEven
  dsimp only
  obtain rfl | rfl : m = num / den ∨ m = num / den + 1 := by omega
  · have : 2 * (num / den) * den = 2 * (den * (num / den)) := by ring
    split
    · rfl
    · split
      · omega
      · split <;> omega
  · have : 2 * (num / den + 1) * den = 2 * (den * (num / den)) + 2 * den := by ring
    split
    · omega
    · split
      · rfl
      · split <;> omega

theorem roundHalfEven_mul (m : Nat) {den : Nat} (hden : 0 < den) :
    roundHalfEven (m * den) den = m := by
  have : 2 * m * den = 2 * (m * den) := Nat.mul_assoc 2 m den
  refine roundHalfEven_eq hden ?_ ?_ fun _ => ⟨?_, ?_⟩ <;> omega

theorem abs_roundHalfEven_sub_le (num : Nat) {den : Nat} (hden : 0 < den) :
    |(roundHalfEven num den : ℚ) - num / den| ≤ 1 / 2 := by
  have hq : (0 : ℚ) < den := by exact_mod_cast hden
  obtain ⟨hhigh, hlow⟩ := roundHalfEven_bounds num hden
  have hhigh : (2 * num : ℚ) ≤ 2 * roundHalfEven num den * den + den := by exact_mod_cast hhigh
  have hlow : (2 * roundHalfEven num den * den : ℚ) ≤ 2 * num + den := by exact_mod_cast hlow
  rw [abs_le]
  constructor
  · have : (num : ℚ) / den ≤ roundHalfEven num den + 1 / 2 := by
      rw [div_le_iff₀ hq]
      linarith
    linarith
  · have : (roundHalfEven num den : ℚ) - 1 / 2 ≤ num / den := by
      rw [le_div_iff₀ hq]
      linarith
    linarith

theorem roundHalfEven_nearest (num : Nat) {den : Nat} (hden : 0 < den) (k : Nat) :
    |(roundHalfEven num den : ℚ) - num / den| ≤ |(k : ℚ) - num / den| := by
  have hhalf := abs_roundHalfEven_sub_le num hden
  by_cases hk : k = roundHalfEven num den
  · rw [hk]
  · have hapart : (1 : ℚ) ≤ |(k : ℚ) - roundHalfEven num den| := by
      have : (1 : ℤ) ≤ |(k : ℤ) - roundHalfEven num den| :=
        Int.one_le_abs (by omega)
      exact_mod_cast this
    have := abs_sub_le (k : ℚ) (num / den) (roundHalfEven num den)
    rw [abs_sub_comm ((num : ℚ) / den)] at this
    linarith

namespace Binary64

/-- The units of one are a power of two. The power is too large to be computed with. -/
theorem exists_one_eq : ∃ k, k = 1074 ∧ one = 2 ^ k := ⟨1074, rfl, by decide +kernel⟩

theorem one_pos : 0 < one := by
  obtain ⟨k, -, hone⟩ := exists_one_eq
  rw [hone]
  exact Nat.two_pow_pos k

/-! ### The exponent of a rounding -/

/-- At exponent `e` the quotient has 53 bits, or fewer if `e` is the least exponent. -/
def FitsAt (num den e : Nat) : Prop :=
  num < den * 2 ^ (e + 53) ∧ (e = 0 ∨ den * 2 ^ (e + 52) ≤ num)

theorem fitsAt_log2 (num : Nat) {den : Nat} (hden : 0 < den) :
    FitsAt num den ((num / den).log2 - 52) := by
  constructor
  · rw [Nat.mul_comm, ← Nat.div_lt_iff_lt_mul hden]
    refine Nat.lt_of_lt_of_le Nat.lt_log2_self (Nat.pow_le_pow_right (by decide) (by omega))
  · by_cases h : (num / den).log2 ≤ 52
    · exact .inl (by omega)
    · refine .inr ?_
      have hne : num / den ≠ 0 := by
        intro hzero
        rw [hzero] at h
        exact h (by decide)
      rw [Nat.mul_comm, ← Nat.le_div_iff_mul_le hden]
      refine Nat.le_trans (Nat.pow_le_pow_right (by decide) (by omega)) (Nat.log2_self_le hne)

theorem FitsAt.unique {num den e e' : Nat} (h : FitsAt num den e) (h' : FitsAt num den e') :
    e = e' := by
  have hle : ∀ {e e' : Nat}, FitsAt num den e → FitsAt num den e' → e ≤ e' := by
    intro e e' h h'
    by_contra hcon
    have hlow := h.2.resolve_left (by omega)
    have : 2 ^ (e' + 53) ≤ 2 ^ (e + 52) := Nat.pow_le_pow_right (by decide) (by omega)
    have := Nat.mul_le_mul_left den this
    have := h'.1
    omega
  exact Nat.le_antisymm (hle h h') (hle h' h)

/-- A ratio is rounded at the exponent at which it fits. -/
theorem ofRatio_of_fitsAt {negative : Bool} {num den e : Nat} (hden : 0 < den)
    (h : FitsAt (num * one) den e) :
    ofRatio negative num den =
      if roundHalfEven (num * one) (den * 2 ^ e) = 2 ^ (53 : Nat) then
        ofParts? negative (2 ^ (52 : Nat)) (e + 1)
      else ofParts? negative (roundHalfEven (num * one) (den * 2 ^ e)) e := by
  unfold ofRatio
  dsimp only
  rw [(fitsAt_log2 (num * one) hden).unique h]

theorem of_ofParts? {negative : Bool} {mantissa exponent : Nat} {x : Binary64}
    (h : ofParts? negative mantissa exponent = some x) :
    x.negative = negative ∧ x.mantissa = mantissa ∧ x.exponent = exponent := by
  unfold ofParts? at h
  split at h
  · obtain rfl := Option.some.inj h
    exact ⟨rfl, rfl, rfl⟩
  · cases h

/-- What a ratio is rounded to is a multiple of the power at which it fits. -/
theorem of_ofRatio {negative : Bool} {num den : Nat} {x : Binary64} (hden : 0 < den)
    (h : ofRatio negative num den = some x) :
    x.negative = negative ∧ ∃ e, FitsAt (num * one) den e ∧
      x.magnitude = roundHalfEven (num * one) (den * 2 ^ e) * 2 ^ e := by
  have hfits := fitsAt_log2 (num * one) hden
  rw [ofRatio_of_fitsAt hden hfits] at h
  generalize (num * one / den).log2 - 52 = e at h hfits
  unfold magnitude
  split at h
  · rename_i hcarry
    obtain ⟨hnegative, hmantissa, hexponent⟩ := of_ofParts? h
    refine ⟨hnegative, e, hfits, ?_⟩
    rw [hmantissa, hexponent, hcarry, Nat.pow_succ 2 e, Nat.mul_comm (2 ^ e), ← Nat.mul_assoc]
  · obtain ⟨hnegative, hmantissa, hexponent⟩ := of_ofParts? h
    exact ⟨hnegative, e, hfits, by rw [hmantissa, hexponent]⟩

/-! ### Nearest numbers -/

/-- No finite number is closer to `w` units. -/
def Nearest (x : Binary64) (w : ℚ) : Prop :=
  ∀ y : Binary64, |(x.magnitude : ℚ) - w| ≤ |(y.magnitude : ℚ) - w|

/-- A number with a lesser exponent lies below all mantissas of the greater one. -/
theorem magnitude_lt_of_exponent_lt {y : Binary64} {e : Nat} (h : y.exponent < e) :
    y.magnitude < 2 ^ (e + 52) := by
  have hpower : 2 ^ y.exponent ≤ 2 ^ (e - 1) := Nat.pow_le_pow_right (by decide) (by omega)
  calc y.magnitude < 2 ^ (53 : Nat) * 2 ^ y.exponent :=
        Nat.mul_lt_mul_of_pos_right y.mantissa_lt (Nat.two_pow_pos _)
    _ ≤ 2 ^ (53 : Nat) * 2 ^ (e - 1) := Nat.mul_le_mul_left _ hpower
    _ = 2 ^ (e + 52) := by
      rw [← Nat.pow_add]
      congr 1
      omega

theorem magnitude_eq_mul_of_le {y : Binary64} {e : Nat} (h : e ≤ y.exponent) :
    y.magnitude = y.mantissa * 2 ^ (y.exponent - e) * 2 ^ e := by
  rw [magnitude, Nat.mul_assoc, ← Nat.pow_add, Nat.sub_add_cancel h]

theorem roundHalfEven_mul_nearest (num : Nat) {den : Nat} (hden : 0 < den) (e k : Nat) :
    |(roundHalfEven num (den * 2 ^ e) * 2 ^ e : ℚ) - num / den| ≤
      |(k * 2 ^ e : ℚ) - num / den| := by
  have hpower : (0 : ℚ) < 2 ^ e := by positivity
  have hq : (0 : ℚ) < den := by exact_mod_cast hden
  have hscale : ∀ m : ℚ, |m * 2 ^ e - (num : ℚ) / den| =
      |m - (num : ℚ) / ((den * 2 ^ e : Nat) : ℚ)| * 2 ^ e := by
    intro m
    rw [← abs_of_pos hpower, ← abs_mul, abs_of_pos hpower]
    congr 1
    push_cast
    field_simp
  rw [hscale, hscale]
  refine mul_le_mul_of_nonneg_right ?_ hpower.le
  exact roundHalfEven_nearest num (Nat.mul_pos hden (Nat.two_pow_pos e)) k

/-- What a ratio is rounded to is nearest to it. -/
theorem nearest_of_ofRatio {negative : Bool} {num den : Nat} {x : Binary64} (hden : 0 < den)
    (h : ofRatio negative num den = some x) : x.Nearest (num * one / den) := by
  obtain ⟨-, e, hfits, hx⟩ := of_ofRatio hden h
  intro y
  have hmultiple := fun k => roundHalfEven_mul_nearest (num * one) hden e k
  simp only [Nat.cast_mul num] at hmultiple
  rw [hx]
  push_cast
  by_cases hy : e ≤ y.exponent
  · have := hmultiple (y.mantissa * 2 ^ (y.exponent - e))
    rw [magnitude_eq_mul_of_le hy]
    push_cast at this ⊢
    exact this
  · -- such a number lies below the least mantissa at this exponent, and so below the ratio
    have hlow := hfits.2.resolve_left (by omega)
    have hbelow : (y.magnitude : ℚ) ≤ (2 ^ (52 : Nat) : Nat) * 2 ^ e := by
      have := (magnitude_lt_of_exponent_lt (Nat.lt_of_not_le hy)).le
      rw [Nat.add_comm, Nat.pow_add] at this
      exact_mod_cast this
    have hratio : ((2 ^ (52 : Nat) : Nat) * 2 ^ e : ℚ) ≤ num * one / den := by
      rw [le_div_iff₀ (by exact_mod_cast hden)]
      rw [Nat.add_comm, Nat.pow_add, Nat.mul_comm] at hlow
      exact_mod_cast hlow
    refine (hmultiple (2 ^ (52 : Nat))).trans ?_
    rw [abs_of_nonpos (sub_nonpos.mpr hratio), abs_of_nonpos (sub_nonpos.mpr (hbelow.trans hratio))]
    exact neg_le_neg (sub_le_sub_right hbelow _)

theorem Nearest.le_midpoint {x y : Binary64} {w : ℚ} (h : x.Nearest w)
    (hlt : x.magnitude < y.magnitude) : 2 * w ≤ x.magnitude + y.magnitude := by
  have hlt : (x.magnitude : ℚ) < y.magnitude := by exact_mod_cast hlt
  have hsquare := sq_le_sq.mpr (h y)
  by_contra hcon
  nlinarith

theorem Nearest.midpoint_le {x y : Binary64} {w : ℚ} (h : x.Nearest w)
    (hlt : y.magnitude < x.magnitude) : (y.magnitude + x.magnitude : ℚ) ≤ 2 * w := by
  have hlt : (y.magnitude : ℚ) < x.magnitude := by exact_mod_cast hlt
  have hsquare := sq_le_sq.mpr (h y)
  by_contra hcon
  nlinarith

/-- If a number lies between those nearest to `v` and `w`, then `w` is above `v` by
half their distance at least. -/
theorem Nearest.gap {x y z : Binary64} {v w : ℚ} (hx : x.Nearest v) (hz : z.Nearest w)
    (hxy : x.magnitude < y.magnitude) (hyz : y.magnitude < z.magnitude) :
    (z.magnitude - x.magnitude : ℚ) ≤ 2 * (w - v) := by
  have hlow := hx.le_midpoint hxy
  have hhigh := hz.midpoint_le hyz
  linarith

theorem Nearest.magnitude_eq {x y : Binary64} (h : x.Nearest y.magnitude) :
    x.magnitude = y.magnitude := by
  have := h y
  rw [sub_self, abs_zero, abs_nonpos_iff, sub_eq_zero] at this
  exact_mod_cast this

/-! ### Neighbours -/

theorem magnitude_pos_iff {x : Binary64} : 0 < x.magnitude ↔ x.isZero = false := by
  rw [magnitude, Nat.mul_pos_iff_of_pos_right (Nat.two_pow_pos _), Nat.pos_iff_ne_zero]
  simp [isZero]

theorem two_pow_le_magnitude {x : Binary64} (h : x.exponent ≠ 0) :
    2 ^ (x.exponent + 52) ≤ x.magnitude := by
  rw [Nat.add_comm, Nat.pow_add]
  exact Nat.mul_le_mul_right _ (x.normal.resolve_right h)

theorem exponent_le_of_magnitude_le {x y : Binary64} (h : x.magnitude ≤ y.magnitude) :
    x.exponent ≤ y.exponent := by
  by_contra hcon
  have hlt := magnitude_lt_of_exponent_lt (Nat.lt_of_not_le hcon)
  have hle := two_pow_le_magnitude (x := x) (by omega)
  omega

theorem eq_of_magnitude_eq {x y : Binary64} (h : x.magnitude = y.magnitude) :
    x.mantissa = y.mantissa ∧ x.exponent = y.exponent := by
  have hexponent := Nat.le_antisymm (exponent_le_of_magnitude_le h.le)
    (exponent_le_of_magnitude_le h.ge)
  refine ⟨?_, hexponent⟩
  unfold magnitude at h
  rw [hexponent] at h
  exact Nat.eq_of_mul_eq_mul_right (Nat.two_pow_pos _) h

/-- The next number is a step of the exponent away at least. -/
theorem step_le_of_magnitude_lt {x y : Binary64} (h : x.magnitude < y.magnitude) :
    x.magnitude + 2 ^ x.exponent ≤ y.magnitude := by
  have hexponent := exponent_le_of_magnitude_le h.le
  rw [magnitude_eq_mul_of_le hexponent] at h ⊢
  unfold magnitude at h ⊢
  have hlt := Nat.lt_of_mul_lt_mul_right h
  rw [← Nat.succ_mul]
  exact Nat.mul_le_mul_right _ hlt

/-- A number that is not among the greatest has a neighbour one step above. -/
theorem exists_magnitude_succ {x : Binary64} (h : x.exponent < 2045) :
    ∃ y : Binary64, y.magnitude = x.magnitude + 2 ^ x.exponent := by
  have hm := x.mantissa_lt
  by_cases hlast : x.mantissa + 1 < 2 ^ (53 : Nat)
  · refine ⟨⟨false, x.mantissa + 1, x.exponent, hlast, x.exponent_le, ?_⟩, Nat.succ_mul _ _⟩
    exact x.normal.imp_left Nat.le_succ_of_le
  · refine ⟨⟨false, 2 ^ (52 : Nat), x.exponent + 1, by decide, by omega, .inl (Nat.le_refl _)⟩, ?_⟩
    have hmantissa : x.mantissa + 1 = 2 ^ (52 : Nat) * 2 := by omega
    simp only [magnitude]
    rw [← Nat.succ_mul, Nat.succ_eq_add_one, hmantissa, Nat.pow_succ 2 x.exponent,
      Nat.mul_comm (2 ^ x.exponent), Nat.mul_assoc]

/-- What a number is nearest to is at most half a step above it. -/
theorem Nearest.le_half_step {x : Binary64} {w : ℚ} (h : x.Nearest w) (hx : x.exponent < 2045) :
    2 * w ≤ 2 * x.magnitude + 2 ^ x.exponent := by
  obtain ⟨y, hy⟩ := exists_magnitude_succ hx
  have hlt : x.magnitude < y.magnitude := by
    have := Nat.two_pow_pos x.exponent
    omega
  have := h.le_midpoint hlt
  rw [hy] at this
  push_cast at this
  linarith

/-! ### Range -/

/-- At the exponent at which a quotient fits, it is rounded to 53 bits or the first
number with more. -/
theorem FitsAt.roundHalfEven_le {num den e : Nat} (hden : 0 < den) (h : FitsAt num den e) :
    roundHalfEven num (den * 2 ^ e) ≤ 2 ^ (53 : Nat) ∧
      (2 ^ (52 : Nat) ≤ roundHalfEven num (den * 2 ^ e) ∨ e = 0) := by
  have hpos : 0 < den * 2 ^ e := Nat.mul_pos hden (Nat.two_pow_pos e)
  obtain ⟨hhigh, hlow⟩ := roundHalfEven_bounds num hpos
  obtain ⟨hlt, hge⟩ := h
  rw [Nat.pow_add, ← Nat.mul_assoc] at hlt
  rw [Nat.pow_add, ← Nat.mul_assoc] at hge
  generalize den * 2 ^ e = unit at *
  generalize roundHalfEven num unit = m at *
  constructor
  · by_contra hcon
    have : (2 ^ (53 : Nat) + 1) * unit ≤ m * unit := Nat.mul_le_mul_right unit (by omega)
    rw [Nat.mul_assoc] at hlow
    omega
  · refine hge.symm.imp_left fun hge => ?_
    by_contra hcon
    have : (m + 1) * unit ≤ 2 ^ (52 : Nat) * unit := Nat.mul_le_mul_right unit (by omega)
    rw [Nat.mul_assoc] at hhigh
    rw [Nat.add_mul] at this
    omega

/-- A ratio below `2 ^ 100` is rounded to a finite number. -/
theorem isSome_ofRatio (negative : Bool) {num den : Nat} (hden : 0 < den)
    (h : num < den * 2 ^ (100 : Nat)) : ∃ x, ofRatio negative num den = some x := by
  have hfits := fitsAt_log2 (num * one) hden
  rw [ofRatio_of_fitsAt hden hfits]
  generalize (num * one / den).log2 - 52 = e at hfits ⊢
  obtain ⟨hle, hge⟩ := hfits.roundHalfEven_le hden
  have he : e ≤ 2000 := by
    rcases hfits.2 with h0 | hbits
    · omega
    · obtain ⟨k, hk, hone⟩ := exists_one_eq
      have hlt : den * 2 ^ (e + 52) < den * 2 ^ (100 + k) := by
        calc den * 2 ^ (e + 52) ≤ num * one := hbits
          _ < den * 2 ^ (100 : Nat) * one := Nat.mul_lt_mul_of_pos_right h one_pos
          _ = den * 2 ^ (100 + k) := by rw [hone, Nat.mul_assoc, ← Nat.pow_add]
      have := (Nat.pow_lt_pow_iff_right (by decide : 1 < 2)).mp (Nat.lt_of_mul_lt_mul_left hlt)
      omega
  unfold ofParts?
  split
  · exact ⟨_, dif_pos ⟨by decide, by omega, .inl (Nat.le_refl _)⟩⟩
  · exact ⟨_, dif_pos ⟨by omega, by omega, hge⟩⟩

end Binary64
end PageFlow
