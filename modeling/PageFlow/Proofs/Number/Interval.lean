/-
# Decimals that read back

The interval of a number is the set of the ratios that are rounded to it: the
test by which the text of a number is picked agrees with rounding, ties
included. A ratio closer than `2 ^ -54` of the number is in the interval.

Key definitions: `Binary64.Within`, `Binary64.ReadsAs`.
Key theorems: `Binary64.ReadsAs.ofRatio_eq`, `Binary64.ReadsAs.nearest`,
`Binary64.reads_of_near`.
-/
import PageFlow.Number.Shortest
import PageFlow.Proofs.Number.Rounding

namespace PageFlow
namespace Binary64

-- Powers are those of the core library, whatever else is imported.
attribute [local instance (2000)] instPowNat

-- The units in one are too many to be computed.
attribute [local irreducible] Binary64.one

/-- The ratio `n / (4 * unit)` is between the midpoints to the neighbours of `x`, in units
of the exponent of `x`. The midpoints do not count if the mantissa is odd. -/
structure Within (x : Binary64) (n unit : Nat) : Prop where
  low : (4 * x.mantissa - 2) * unit ≤ n
  high : n ≤ (4 * x.mantissa + 2) * unit
  /-- The neighbour below the least mantissa is half as far away. -/
  least : x.mantissa = 2 ^ (52 : Nat) → x.exponent ≠ 0 → (4 * x.mantissa - 1) * unit ≤ n
  odd : x.mantissa % 2 = 1 → (4 * x.mantissa - 2) * unit < n ∧ n < (4 * x.mantissa + 2) * unit

theorem within_of_reads {x : Binary64} {p q : Nat} (h : x.reads p q = true) :
    x.Within p (2 ^ x.exponent * q) := by
  unfold reads interval at h
  simp only [Nat.mul_assoc] at h
  by_cases hleast : x.mantissa = 2 ^ (52 : Nat) ∧ x.exponent ≠ 0
  · have heven : x.mantissa % 2 = 0 := by rw [hleast.1]
    simp only [if_pos hleast, if_pos heven, Bool.and_eq_true, decide_eq_true_eq] at h
    refine ⟨le_trans ?_ h.1, h.2, fun _ _ => h.1, by omega⟩
    exact Nat.mul_le_mul_right _ (by omega)
  · simp only [if_neg hleast] at h
    split at h
    · simp only [Bool.and_eq_true, decide_eq_true_eq] at h
      exact ⟨h.1, h.2, fun hm he => absurd ⟨hm, he⟩ hleast, by omega⟩
    · simp only [Bool.and_eq_true, decide_eq_true_eq] at h
      exact ⟨h.1.le, h.2.le, fun hm he => absurd ⟨hm, he⟩ hleast, fun _ => h⟩

namespace Within

variable {x : Binary64} {n unit : Nat}

theorem scale {n' unit' c c' : Nat} (h : x.Within n unit) (hc : 0 < c) (hc' : 0 < c')
    (hn : n * c = n' * c') (hunit : unit * c = unit' * c') : x.Within n' unit' := by
  have hle : ∀ a, a * unit' ≤ n' ↔ a * unit ≤ n := by
    intro a
    rw [← Nat.mul_le_mul_right_iff hc', ← hn, Nat.mul_assoc, ← hunit, ← Nat.mul_assoc,
      Nat.mul_le_mul_right_iff hc]
  have hge : ∀ a, n' ≤ a * unit' ↔ n ≤ a * unit := by
    intro a
    rw [← Nat.mul_le_mul_right_iff hc', ← hn, Nat.mul_assoc, ← hunit, ← Nat.mul_assoc,
      Nat.mul_le_mul_right_iff hc]
  refine ⟨(hle _).mpr h.low, (hge _).mpr h.high, fun hm he => (hle _).mpr (h.least hm he),
    fun hm => ⟨?_, ?_⟩⟩
  · rw [← Nat.not_le, hge, Nat.not_le]
    exact (h.odd hm).1
  · rw [← Nat.not_le, hle, Nat.not_le]
    exact (h.odd hm).2

/-- In units of its exponent the ratio is rounded to the mantissa. -/
theorem roundHalfEven_eq_mantissa (h : x.Within (4 * n) unit) (hunit : 0 < unit) :
    roundHalfEven n unit = x.mantissa := by
  obtain ⟨hlow, hhigh, -, hodd⟩ := h
  rw [Nat.add_mul, Nat.mul_assoc] at hhigh hodd
  rw [Nat.sub_mul, Nat.mul_assoc] at hlow hodd
  refine roundHalfEven_eq hunit ?_ ?_ fun h => ?_
  · rw [Nat.mul_assoc]
    omega
  · rw [Nat.mul_assoc]
    omega
  · rw [Nat.mul_assoc]
    have := hodd h
    omega

theorem lt_limit (h : x.Within (4 * n) unit) (hunit : 0 < unit) : n < unit * 2 ^ (53 : Nat) := by
  have hm := x.mantissa_lt
  have hle : (4 * x.mantissa + 2) * unit ≤ (4 * 2 ^ (53 : Nat) - 2) * unit :=
    Nat.mul_le_mul_right unit (by omega)
  have := h.high
  omega

/-- A ratio below the least mantissa is rounded with the next smaller exponent, to a
mantissa that is one too large for it. -/
theorem of_lt_least {den : Nat} (h : x.Within (4 * n) (den * 2 ^ x.exponent)) (hden : 0 < den)
    (hexponent : x.exponent ≠ 0) (hbelow : n < den * 2 ^ x.exponent * 2 ^ (52 : Nat)) :
    x.mantissa = 2 ^ (52 : Nat) ∧ ∃ e, x.exponent = e + 1 ∧ FitsAt n den e ∧
      roundHalfEven n (den * 2 ^ e) = 2 ^ (53 : Nat) := by
  obtain ⟨hlow, hhigh, hleast, -⟩ := h
  have hmantissa : x.mantissa = 2 ^ (52 : Nat) := by
    have := x.normal.resolve_right hexponent
    by_contra hne
    have : (4 * 2 ^ (52 : Nat) + 2) * (den * 2 ^ x.exponent) ≤
        (4 * x.mantissa - 2) * (den * 2 ^ x.exponent) := Nat.mul_le_mul_right _ (by omega)
    omega
  have hclose := hleast hmantissa hexponent
  obtain ⟨e, he⟩ := Nat.exists_eq_succ_of_ne_zero hexponent
  have hunit : den * 2 ^ x.exponent = 2 * (den * 2 ^ e) := by
    rw [he, Nat.pow_succ]
    ring
  have hpos : 0 < den * 2 ^ e := Nat.mul_pos hden (Nat.two_pow_pos e)
  rw [hmantissa, hunit] at hclose hhigh
  rw [hunit] at hbelow
  refine ⟨hmantissa, e, he, ?_, ?_⟩
  · unfold FitsAt
    rw [Nat.pow_add, Nat.pow_add, ← Nat.mul_assoc, ← Nat.mul_assoc]
    omega
  · exact roundHalfEven_eq hpos (by omega) (by omega) (by omega)

end Within

/-! ### Reading back -/

/-- A decimal `v` reads back as the absolute value of `x`. -/
def ReadsAs (x : Binary64) (v : ℚ) : Prop :=
  ∃ p q : Nat, 0 < q ∧ x.reads p q = true ∧ (p : ℚ) = 4 * one * v * q

/-- A ratio that reads back is in the interval, with the denominator of its own. -/
theorem ReadsAs.within {x : Binary64} {v : ℚ} {num den : Nat} (h : x.ReadsAs v)
    (hden : 0 < den) (hv : v = num / den) :
    x.Within (4 * (num * one)) (den * 2 ^ x.exponent) := by
  obtain ⟨p, q, hq, hreads, hp⟩ := h
  have hcross : p * den = 4 * (num * one) * q := by
    have hne : (den : ℚ) ≠ 0 := by exact_mod_cast hden.ne'
    rw [hv] at hp
    field_simp at hp
    have : (p * den : ℚ) = 4 * (num * one) * q := by linarith
    exact_mod_cast this
  exact (within_of_reads hreads).scale hden hq hcross (by ring)

/-- **What reads back is rounded back.** -/
theorem ReadsAs.ofRatio_eq {x : Binary64} {v : ℚ} {num den : Nat} (h : x.ReadsAs v)
    (hden : 0 < den) (hv : v = num / den) (negative : Bool) :
    ofRatio negative num den = some { x with negative } := by
  have hwithin := h.within hden hv
  have hpos : 0 < den * 2 ^ x.exponent := Nat.mul_pos hden (Nat.two_pow_pos _)
  by_cases hfits : x.exponent = 0 ∨ den * 2 ^ (x.exponent + 52) ≤ num * one
  · have hfitsAt : FitsAt (num * one) den x.exponent := by
      refine ⟨?_, hfits⟩
      rw [Nat.pow_add, ← Nat.mul_assoc]
      exact hwithin.lt_limit hpos
    have hm := x.mantissa_lt
    rw [ofRatio_of_fitsAt hden hfitsAt, hwithin.roundHalfEven_eq_mantissa hpos, if_neg (by omega)]
    exact dif_pos ⟨hm, x.exponent_le, x.normal⟩
  · rw [not_or, Nat.not_le, Nat.pow_add, ← Nat.mul_assoc] at hfits
    obtain ⟨hmantissa, e, he, hfitsAt, hround⟩ := hwithin.of_lt_least hden hfits.1 hfits.2
    rw [ofRatio_of_fitsAt hden hfitsAt, hround, if_pos rfl]
    obtain ⟨sign, mantissa, exponent, hlt, hle, hnormal⟩ := x
    obtain rfl : mantissa = 2 ^ (52 : Nat) := hmantissa
    obtain rfl : exponent = e + 1 := he
    exact dif_pos ⟨hlt, hle, hnormal⟩

theorem ReadsAs.unique {x y : Binary64} {v : ℚ} (hx : x.ReadsAs v) (hy : y.ReadsAs v)
    (hv : 0 ≤ v) (hsign : x.negative = y.negative) : x = y := by
  obtain ⟨num, hnum⟩ : ∃ num : Nat, v.num = num := Int.eq_ofNat_of_zero_le (Rat.num_nonneg.mpr hv)
  have hratio : v = num / v.den := by
    rw [← Int.cast_natCast (R := ℚ), ← hnum, Rat.num_div_den]
  have hxround : ofRatio x.negative num v.den = some x :=
    hx.ofRatio_eq v.den_pos hratio x.negative
  have hyround : ofRatio y.negative num v.den = some y :=
    hy.ofRatio_eq v.den_pos hratio y.negative
  exact Option.some.inj (hxround.symm.trans (hsign ▸ hyround))

theorem ReadsAs.nearest {x : Binary64} {v : ℚ} (h : x.ReadsAs v) : x.Nearest (v * one) := by
  obtain ⟨p, q, hq, hreads, hp⟩ := h
  have hden : 0 < 4 * one * q := Nat.mul_pos (Nat.mul_pos (by decide) one_pos) hq
  have hone : (one : ℚ) ≠ 0 := by exact_mod_cast one_pos.ne'
  have hq' : (q : ℚ) ≠ 0 := by exact_mod_cast hq.ne'
  have hv : v = (p : ℚ) / (4 * one * q : Nat) := by
    push_cast
    rw [hp]
    field_simp
  have hround := ReadsAs.ofRatio_eq ⟨p, q, hq, hreads, hp⟩ hden hv x.negative
  have hnearest := nearest_of_ofRatio hden hround
  rw [mul_div_right_comm, ← hv] at hnearest
  exact hnearest

/-! ### Ratios that are close enough -/

theorem reads_of_lt {x : Binary64} {p q : Nat}
    (hlow : (4 * x.mantissa - 2) * 2 ^ x.exponent * q < p)
    (hleast : x.mantissa = 2 ^ (52 : Nat) → (4 * x.mantissa - 1) * 2 ^ x.exponent * q < p)
    (hhigh : p < (4 * x.mantissa + 2) * 2 ^ x.exponent * q) : x.reads p q = true := by
  unfold reads interval
  dsimp only
  by_cases hm : x.mantissa = 2 ^ (52 : Nat) ∧ x.exponent ≠ 0
  · have := hleast hm.1
    simp only [if_pos hm]
    split <;> simp only [Bool.and_eq_true, decide_eq_true_eq] <;> omega
  · simp only [if_neg hm]
    split <;> simp only [Bool.and_eq_true, decide_eq_true_eq] <;> omega

/-- What is closer to `x` than `2 ^ -54` of it reads back as `x`. -/
theorem reads_of_near {x : Binary64} {v : ℚ} {p q : Nat} (hq : 0 < q)
    (hp : (p : ℚ) = 4 * one * v * q)
    (hnear : |v * one - x.magnitude| * 2 ^ (54 : Nat) < x.magnitude) : x.reads p q = true := by
  have hq : (0 : ℚ) < q := by exact_mod_cast hq
  have hunit : (0 : ℚ) < 2 ^ x.exponent := by positivity
  have hmagnitude : (x.magnitude : ℚ) = x.mantissa * 2 ^ x.exponent := by
    simp [magnitude]
  have hm : (x.mantissa : ℚ) + 1 ≤ 2 ^ (53 : Nat) := by exact_mod_cast x.mantissa_lt
  have hm1 : 1 ≤ x.mantissa := by
    by_contra hcon
    have hzero : x.mantissa = 0 := by omega
    rw [hmagnitude, hzero] at hnear
    have := abs_nonneg (v * one - ((0 : Nat) : ℚ) * 2 ^ x.exponent)
    norm_num at hnear this
    linarith
  obtain ⟨hlow, hhigh⟩ := abs_lt.mp (lt_div_iff₀ (by norm_num) |>.mpr hnear)
  rw [hmagnitude] at hlow hhigh
  have hhalf : (x.mantissa * 2 ^ x.exponent : ℚ) / 2 ^ (54 : Nat) < 2 ^ x.exponent / 2 := by
    rw [div_lt_div_iff₀ (by norm_num) (by norm_num)]
    nlinarith
  refine reads_of_lt ?_ (fun hleast => ?_) ?_
  · have : ((4 * x.mantissa - 2 : Nat) : ℚ) * 2 ^ x.exponent * q < p := by
      rw [hp, Nat.cast_sub (by omega)]
      push_cast
      exact mul_lt_mul_of_pos_right (by linarith) hq
    exact_mod_cast this
  · have hquarter : (x.mantissa * 2 ^ x.exponent : ℚ) / 2 ^ (54 : Nat) = 2 ^ x.exponent / 4 := by
      rw [hleast]
      push_cast
      ring
    have : ((4 * x.mantissa - 1 : Nat) : ℚ) * 2 ^ x.exponent * q < p := by
      rw [hp, Nat.cast_sub (by omega)]
      push_cast
      exact mul_lt_mul_of_pos_right (by linarith) hq
    exact_mod_cast this
  · have : (p : ℚ) < ((4 * x.mantissa + 2 : Nat) : ℚ) * 2 ^ x.exponent * q := by
      rw [hp]
      push_cast
      exact mul_lt_mul_of_pos_right (by linarith) hq
    exact_mod_cast this

end Binary64
end PageFlow
