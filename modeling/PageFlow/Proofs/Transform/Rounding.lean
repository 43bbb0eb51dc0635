/-
# Rounding to whole numbers

Three functions give the whole number below a value, above it, and nearest to it, a half
going away from zero. They work on the decimal that a number or a string stands for, and give
an integer where this has at most 63 bits and a sign. So they lie in order, an integer stays as
it is, and for the opposite value the same numbers come out with the opposite sign.

Key definitions: `NearestAway`, `Transform.GivesInteger`.
Key theorems: `NearestAway.unique`, `Decimal.isGreatest_floorUnits`,
`Decimal.isLeast_ceilUnits`, `Decimal.nearestAway_roundUnits`, `Transform.rounded_apply`.
-/
import Mathlib.Data.Rat.Floor
import PageFlow.Proofs.Transform.Number

namespace PageFlow

-- Powers are those of the core library, whatever else is imported.
attribute [local instance (2000)] instPowNat

/-! ### The nearest whole number -/

/-- No whole number is nearer to `q`, and of two that are equally near this is the one
further from zero. -/
def NearestAway (q : ℚ) (n : ℤ) : Prop :=
  (∀ m : ℤ, |q - n| ≤ |q - m|) ∧ ∀ m : ℤ, |q - m| = |q - n| → |m| ≤ |n|

namespace NearestAway

variable {q : ℚ} {m n : ℤ}

theorem neg (h : NearestAway q n) : NearestAway (-q) (-n) := by
  have hdist : ∀ m : ℤ, |-q - m| = |q - (-m : ℤ)| := by
    intro m
    rw [← abs_neg]
    congr 1
    push_cast
    ring
  constructor
  · intro m
    rw [hdist, hdist, neg_neg]
    exact h.1 (-m)
  · intro m hm
    rw [hdist, hdist, neg_neg] at hm
    simpa using h.2 (-m) hm

/-- Only one whole number is nearest. -/
theorem unique (hm : NearestAway q m) (hn : NearestAway q n) : m = n := by
  have hdist : |q - m| = |q - n| := le_antisymm (hm.1 n) (hn.1 m)
  have habs : |m| = |n| := le_antisymm (hn.2 m hdist) (hm.2 n hdist.symm)
  rcases abs_eq_abs.mp habs with hsame | rfl
  · exact hsame
  · -- Opposite numbers are equally near to zero only, to which zero is nearest.
    rcases abs_eq_abs.mp hdist with hq | hq
    · have : (n : ℚ) = 0 := by push_cast at hq; linarith
      have : n = 0 := by exact_mod_cast this
      omega
    · have hzero : q = 0 := by push_cast at hq; linarith
      have hnear := hn.1 0
      simp [hzero] at hnear
      simp [hnear]

/-- A number within a half of a value is the nearest one, the lower half left out. -/
theorem of_bounds (hq : 0 ≤ q) (hlt : q - 1 / 2 < n) (hle : n ≤ q + 1 / 2) : NearestAway q n := by
  have hnear : |q - n| ≤ 1 / 2 := abs_le.mpr ⟨by linarith, by linarith⟩
  have habove : ∀ m : ℤ, n < m → 1 / 2 < |q - m| := by
    intro m hm
    have : (n : ℚ) + 1 ≤ m := by exact_mod_cast hm
    exact lt_abs.mpr (.inr (by linarith))
  have hbelow : ∀ m : ℤ, m < n → 1 / 2 ≤ |q - m| := by
    intro m hm
    have : (m : ℚ) + 1 ≤ n := by exact_mod_cast hm
    exact le_abs.mpr (.inl (by linarith))
  constructor
  · intro m
    rcases lt_trichotomy m n with hm | rfl | hm
    · exact hnear.trans (hbelow m hm)
    · exact le_rfl
    · exact hnear.trans (habove m hm).le
  · intro m hm
    have hmn : m ≤ n := by
      by_contra h
      have := habove m (not_le.mp h)
      linarith
    have hpos : 0 ≤ m := by
      by_contra h
      have : (m : ℚ) ≤ -1 := by exact_mod_cast show m ≤ -1 by omega
      have : 1 ≤ |q - m| := le_abs.mpr (.inl (by linarith))
      linarith
    rw [abs_of_nonneg hpos, abs_of_nonneg (hpos.trans hmn)]
    exact hmn

end NearestAway

theorem isGreatest_neg_iff {q : ℚ} {n : ℤ} :
    IsGreatest {m : ℤ | (m : ℚ) ≤ -q} (-n) ↔ IsLeast {m : ℤ | q ≤ m} n := by
  have hmem : ∀ m : ℤ, ((-m : ℤ) : ℚ) ≤ -q ↔ q ≤ m := by
    intro m
    push_cast
    exact neg_le_neg_iff
  constructor
  · rintro ⟨hle, hgreatest⟩
    refine ⟨(hmem n).mp hle, fun m hm => ?_⟩
    have := hgreatest ((hmem m).mpr hm)
    omega
  · rintro ⟨hle, hleast⟩
    refine ⟨(hmem n).mpr hle, fun m hm => ?_⟩
    have := hleast ((hmem (-m)).mp (by simpa using hm))
    omega

theorem NearestAway.le_of_isGreatest {q : ℚ} {low near : ℤ} (h : NearestAway q near)
    (hlow : IsGreatest {m : ℤ | (m : ℚ) ≤ q} low) : low ≤ near := by
  by_contra hlt
  have hstep : (near : ℚ) + 1 ≤ low := by exact_mod_cast not_le.mp hlt
  have hle : (low : ℚ) ≤ q := hlow.1
  have hdist := h.1 low
  rw [abs_of_nonneg (by linarith), abs_of_nonneg (by linarith)] at hdist
  linarith

theorem NearestAway.le_of_isLeast {q : ℚ} {near high : ℤ} (h : NearestAway q near)
    (hhigh : IsLeast {m : ℤ | q ≤ m} high) : near ≤ high := by
  have := h.neg.le_of_isGreatest (isGreatest_neg_iff.mpr hhigh)
  omega

/-! ### Decimals -/

namespace Decimal

variable (d : Decimal)

theorem value_eq_natCast : d.value = d.units / ((10 ^ d.scale : Nat) : ℚ) := by
  rw [value]
  push_cast
  rfl

theorem isGreatest_fdiv (units : ℤ) (power : ℕ) :
    IsGreatest {m : ℤ | (m : ℚ) ≤ units / (power : ℚ)} (units.fdiv power) := by
  have hfloor : units.fdiv power = ⌊(units / (power : ℚ) : ℚ)⌋ := by
    rw [Rat.floor_intCast_div_natCast, Int.fdiv_eq_ediv_of_nonneg _ (by positivity)]
  rw [hfloor]
  constructor
  · exact Int.floor_le (units / (power : ℚ))
  · exact fun m hm => Int.le_floor.mpr hm

theorem isGreatest_floorUnits : IsGreatest {m : ℤ | (m : ℚ) ≤ d.value} d.floorUnits := by
  have h := isGreatest_fdiv d.units (10 ^ d.scale)
  rw [← d.value_eq_natCast] at h
  exact_mod_cast h

theorem isLeast_ceilUnits : IsLeast {m : ℤ | d.value ≤ m} d.ceilUnits := by
  have h := isGreatest_fdiv (-d.units) (10 ^ d.scale)
  rw [Int.cast_neg, neg_div, ← d.value_eq_natCast] at h
  rw [← isGreatest_neg_iff, ceilUnits, neg_neg]
  exact_mod_cast h

/-- The nearest number of the absolute value is given the sign. -/
theorem nearestAway_roundUnits : NearestAway d.value d.roundUnits := by
  have hpower : 0 < 10 ^ d.scale := Nat.pow_pos (by decide)
  obtain ⟨hlt, hle⟩ := roundHalfUp_bounds d.units.natAbs hpower
  have hnear : NearestAway |d.value| (roundHalfUp d.units.natAbs (10 ^ d.scale) : ℕ) := by
    have habs : |d.value| = d.units.natAbs / ((10 ^ d.scale : Nat) : ℚ) := by
      rw [value_eq_natCast, abs_div, Nat.abs_cast, Nat.cast_natAbs, Int.cast_abs]
    rw [habs]
    exact .of_bounds (by positivity) (by exact_mod_cast hlt) (by exact_mod_cast hle)
  unfold roundUnits
  dsimp only
  by_cases hneg : d.units < 0
  · have hvalue : d.value ≤ 0 := by
      rw [value_eq_natCast]
      exact div_nonpos_of_nonpos_of_nonneg (by exact_mod_cast hneg.le) (by positivity)
    rw [if_pos hneg, ← neg_neg d.value, ← abs_of_nonpos hvalue]
    exact hnear.neg
  · have hvalue : 0 ≤ d.value := by
      rw [value_eq_natCast]
      exact div_nonneg (by exact_mod_cast not_lt.mp hneg) (by positivity)
    rw [if_neg hneg, ← abs_of_nonneg hvalue]
    exact hnear

end Decimal

/-! ### The functions -/

/-- An integer has at most 63 bits and a sign. -/
def IsSigned (n : ℤ) : Prop := leastInteger ≤ n ∧ n < 2 ^ (63 : Nat)

instance (n : ℤ) : Decidable (IsSigned n) := inferInstanceAs (Decidable (_ ∧ _))

theorem IsSigned.fits {n : ℤ} (h : IsSigned n) : leastInteger ≤ n ∧ n < integerLimit :=
  ⟨h.1, h.2.trans (by decide)⟩

theorem Decimal.ofWhole_signed {n : ℤ} (h : IsSigned n) :
    (ofWhole n).units = n ∧ (ofWhole n).scale = 0 := by
  have hlt : n.natAbs < 2 ^ (96 : Nat) := by
    obtain ⟨hlow, hhigh⟩ := h
    unfold leastInteger at hlow
    omega
  rw [ofWhole, ofInt?, ofParts?, dif_pos ⟨hlt, Nat.zero_le 28⟩]
  exact ⟨rfl, rfl⟩

namespace Transform

/-- A function gives an integer for a value, if the integer has at most 63 bits and a sign, and
gives it again for that integer. -/
def GivesInteger (name : String) (value : Json) (n : ℤ) : Prop :=
  ∀ h : IsSigned n, apply (name ++ "($)") value = .ok (.number (.integer n h.fits)) ∧
    apply (name ++ "($)") (.number (.integer n h.fits)) = .ok (.number (.integer n h.fits))

/-- A function that makes decimals whole gives the integers that they become. -/
theorem givesInteger_of_whole {name : String} {f : Decimal → Decimal}
    (hname : name ∈ ["number", "floor", "ceil", "round"])
    (hf : function? name = some (onNumber f)) {value : Json} {d : Decimal}
    (hd : value.decimal? = some d) {n : ℤ} (hn : f d = Decimal.ofWhole n) :
    GivesInteger name value n := by
  intro h
  have htable : ∀ name ∈ ["number", "floor", "ceil", "round"], name ∈ functions.map (·.1) := by
    decide
  constructor
  · obtain ⟨hunits, hscale⟩ := Decimal.ofWhole_signed h
    have hvalue : onNumber f value = .number (.integer n h.fits) := by
      unfold onNumber
      rw [hd]
      dsimp only
      rw [hn, Decimal.json_of_whole hscale h.fits hunits, if_pos h.2]
    rw [apply_call name (onNumber f) (htable name hname) hf, hvalue]
  · obtain ⟨e, he⟩ := Number.isSome_decimal?_integer h.fits
    obtain ⟨hunits, hscale, -⟩ := Number.of_decimal?_integer he
    rw [apply_whole he name hname, Decimal.json_of_whole hscale h.fits hunits, if_pos h.2]

section
variable {value : Json} {d : Decimal} (hd : value.decimal? = some d) {n : ℤ}
include hd

theorem givesInteger_floor (hn : IsGreatest {m : ℤ | (m : ℚ) ≤ d.value} n) :
    GivesInteger "floor" value n := by
  have hunits : d.floorUnits = n := d.isGreatest_floorUnits.unique hn
  apply givesInteger_of_whole (by decide) rfl hd
  rw [Decimal.floor, hunits]

theorem givesInteger_ceil (hn : IsLeast {m : ℤ | d.value ≤ m} n) :
    GivesInteger "ceil" value n := by
  have hunits : d.ceilUnits = n := d.isLeast_ceilUnits.unique hn
  apply givesInteger_of_whole (by decide) rfl hd
  rw [Decimal.ceil, hunits]

theorem givesInteger_round (hn : NearestAway d.value n) : GivesInteger "round" value n := by
  have hunits : d.roundUnits = n := d.nearestAway_roundUnits.unique hn
  apply givesInteger_of_whole (by decide) rfl hd
  rw [Decimal.round, hunits]

end

/-- **The functions that round give the whole numbers of arithmetic.** For every value that
stands for a decimal there are the greatest whole number that is not above it, the nearest
one, a half going away from zero, and the least one that is not below it, in this order. The
three functions give these as integers, where they have at most 63 bits and a sign, and leave
such an integer as it is. For a value that stands for the opposite decimal they give the
opposite numbers, the first and the last having changed their places. -/
theorem rounded_apply {value : Json} {d : Decimal} (hd : value.decimal? = some d) :
    ∃ low near high : ℤ,
      IsGreatest {n : ℤ | (n : ℚ) ≤ d.value} low ∧ NearestAway d.value near ∧
      IsLeast {n : ℤ | d.value ≤ n} high ∧ low ≤ near ∧ near ≤ high ∧
      (GivesInteger "floor" value low ∧ GivesInteger "round" value near ∧
        GivesInteger "ceil" value high) ∧
      ∀ mirror e, mirror.decimal? = some e → e.value = -d.value →
        GivesInteger "ceil" mirror (-low) ∧ GivesInteger "round" mirror (-near) ∧
          GivesInteger "floor" mirror (-high) := by
  have hlow := d.isGreatest_floorUnits
  have hhigh := d.isLeast_ceilUnits
  have hnear := d.nearestAway_roundUnits
  refine ⟨_, _, _, hlow, hnear, hhigh, hnear.le_of_isGreatest hlow, hnear.le_of_isLeast hhigh,
    ⟨givesInteger_floor hd hlow, givesInteger_round hd hnear, givesInteger_ceil hd hhigh⟩, ?_⟩
  intro mirror e he hvalue
  refine ⟨givesInteger_ceil he ?_, givesInteger_round he ?_, givesInteger_floor he ?_⟩
  · rw [← isGreatest_neg_iff, hvalue, neg_neg, neg_neg]
    exact hlow
  · rw [hvalue]
    exact hnear.neg
  · rw [hvalue]
    exact isGreatest_neg_iff.mpr hhigh

/-- A debt of two and a half, and the same sum without its sign and with one more digit. -/
theorem rounded_apply_debt :
    (Json.string " -2.5").decimal? = some ⟨-25, 1, by decide, by decide⟩ ∧
      (Json.string "2.50").decimal? = some ⟨250, 2, by decide, by decide⟩ ∧
      apply "floor($)" (.string " -2.5") = .ok (.number (.integer (-3) (by decide))) ∧
      apply "round($)" (.string " -2.5") = .ok (.number (.integer (-3) (by decide))) ∧
      apply "ceil($)" (.string " -2.5") = .ok (.number (.integer (-2) (by decide))) ∧
      apply "round($)" (.string "2.50") = .ok (.number (.integer 3 (by decide))) := by
  have hdebt : (Json.string " -2.5").decimal? = some ⟨-25, 1, by decide, by decide⟩ := rfl
  have hsum : (Json.string "2.50").decimal? = some ⟨250, 2, by decide, by decide⟩ := rfl
  obtain ⟨low, near, high, hlow, hnear, hhigh, -, -, ⟨hfloor, hround, hceil⟩, hmirror⟩ :=
    rounded_apply hdebt
  obtain ⟨-, hopposite, -⟩ := hmirror _ _ hsum (by norm_num [Decimal.value])
  have hvalue : Decimal.value ⟨-25, 1, by decide, by decide⟩ = -(5 / 2) := by
    norm_num [Decimal.value]
  rw [hvalue] at hlow hnear hhigh
  obtain rfl : near = -3 := by
    have hthree : NearestAway (5 / 2) 3 := .of_bounds (by norm_num) (by norm_num) (by norm_num)
    exact hnear.unique hthree.neg
  obtain rfl : low = -3 := by
    refine hlow.unique ⟨by norm_num, fun m hm => ?_⟩
    have : (m : ℚ) < -2 := lt_of_le_of_lt hm (by norm_num)
    have : m < -2 := by exact_mod_cast this
    omega
  obtain rfl : high = -2 := by
    refine hhigh.unique ⟨by norm_num, fun m hm => ?_⟩
    have : (-3 : ℚ) < m := lt_of_lt_of_le (by norm_num) hm
    have : -3 < m := by exact_mod_cast this
    omega
  exact ⟨hdebt, hsum, (hfloor (by decide)).1, (hround (by decide)).1, (hceil (by decide)).1,
    (hopposite (by decide)).1⟩

end Transform
end PageFlow
