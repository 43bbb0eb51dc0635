/-
# The text of a number as a decimal

The text of a number in binary floating point is read as its shortest decimal,
except that of a number so small that it has more than 28 digits behind the
point, which is rounded to 28. The text of a whole number that is not too large
can always be read.

Key definitions: `Decimal.StandsFor`.
Key theorems: `Binary64.ofText?_text_point`, `Binary64.standsFor_of_text`,
`Binary64.exists_ofText?_text`.
-/
import PageFlow.Proofs.Number.Numeral

namespace PageFlow

-- Powers are those of the core library, whatever else is imported.
attribute [local instance (2000)] instPowNat

/-- A decimal that is `v` with a sign, or `v` rounded to 28 digits behind the point, a half
upwards. -/
def Decimal.StandsFor (d : Decimal) (negative : Bool) (v : ℚ) : Prop :=
  ∃ n : Nat, d.units = signed negative n ∧
    ((n : ℚ) = v * 10 ^ d.scale ∨
      d.scale = 28 ∧ v * 10 ^ (28 : Nat) - 1 / 2 < n ∧ (n : ℚ) ≤ v * 10 ^ (28 : Nat) + 1 / 2)

theorem Decimal.of_ofParts? {units : Int} {scale : Nat} {d : Decimal}
    (h : ofParts? units scale = some d) : d.units = units ∧ d.scale = scale := by
  unfold ofParts? at h
  split at h
  · obtain rfl := Option.some.inj h
    exact ⟨rfl, rfl⟩
  · cases h

theorem Decimal.exists_ofParts? (units : Int) (scale : Nat) (hunits : units.natAbs < 2 ^ (96 : Nat))
    (hscale : scale ≤ 28) :
    ∃ d, ofParts? units scale = some d ∧ d.units = units ∧ d.scale = scale :=
  ⟨_, dif_pos ⟨hunits, hscale⟩, rfl, rfl⟩

/-! ### The text of a number -/

namespace Binary64

theorem shortest_lt {x : Binary64} (hx : x.isZero = false) :
    x.shortest.digits < Decimal.unitLimit :=
  Nat.lt_of_le_of_lt (readsAs_shortest hx).2.2 (by decide)

theorem length_toDigits_shortest {x : Binary64} (hx : x.isZero = false) :
    (Nat.toDigits 10 x.shortest.digits).length ≤ 18 := by
  rw [Nat.length_toDigits_le_iff (by decide) (by decide)]
  exact Nat.lt_of_le_of_lt (readsAs_shortest hx).2.2 (by decide)

/-- The digits of a number that is written with a point are no more than those of any
shortest decimal. -/
theorem pointed_le {x : Binary64} (hx : x.isZero = false) (hhigh : x.textLead < 16) :
    x.shortest.digits * 10 ^ (x.shortest.exponent + 1).toNat ≤ 10 ^ (17 : Nat) := by
  by_cases hwhole : 0 ≤ x.shortest.exponent
  · have hlt := (length_toDigits_bounds (readsAs_shortest hx).2.1).2
    have hcount : (Nat.toDigits 10 x.shortest.digits).length +
        (x.shortest.exponent + 1).toNat ≤ 17 := by
      unfold textLead at hhigh
      omega
    calc x.shortest.digits * 10 ^ (x.shortest.exponent + 1).toNat
        ≤ 10 ^ (Nat.toDigits 10 x.shortest.digits).length *
            10 ^ (x.shortest.exponent + 1).toNat := Nat.mul_le_mul_right _ hlt.le
      _ = 10 ^ ((Nat.toDigits 10 x.shortest.digits).length +
            (x.shortest.exponent + 1).toNat) := (Nat.pow_add _ _ _).symm
      _ ≤ 10 ^ (17 : Nat) := Nat.pow_le_pow_right (by decide) hcount
  · have hzeros : (x.shortest.exponent + 1).toNat = 0 := by omega
    rw [hzeros, Nat.pow_zero, Nat.mul_one]
    exact (readsAs_shortest hx).2.2

theorem pointed_lt {x : Binary64} (hx : x.isZero = false) (hhigh : x.textLead < 16) :
    x.shortest.digits * 10 ^ (x.shortest.exponent + 1).toNat < Decimal.unitLimit :=
  Nat.lt_of_le_of_lt (pointed_le hx hhigh) (by decide)

/-- The text of a number that is written with a point. -/
theorem ofText?_text_point {x : Binary64} (hx : x.isZero = false) (hlow : -5 ≤ x.textLead)
    (hhigh : x.textLead < 16) :
    ∃ d, Decimal.ofText? x.text.toList = some d ∧
      (d.scale : Int) = (x.shortest.exponent + 1).toNat - x.shortest.exponent ∧
      d.units = signed x.negative
        (x.shortest.digits * 10 ^ (x.shortest.exponent + 1).toNat) := by
  obtain ⟨whole, fraction, hnumeral, hread, hcount⟩ := numeral_point hx hlow hhigh
  have hplain : Numeral.WellFormed ⟨x.negative, whole, some fraction, none⟩ :=
    hnumeral ▸ x.wellFormed_numeral
  have hscale : fraction.length ≤ 28 := by
    have hlength := length_toDigits_shortest hx
    unfold textLead at hlow hhigh
    omega
  have hbound := pointed_lt hx hhigh
  obtain ⟨d, hd, hunits, hdscale⟩ := Decimal.exists_ofParts?
    (signed x.negative (x.shortest.digits * 10 ^ (x.shortest.exponent + 1).toNat))
    fraction.length (by rw [natAbs_signed]; exact hbound) hscale
  refine ⟨d, ?_, by rw [hdscale, hcount], hunits⟩
  have htext : x.text.toList = signChars x.negative ++ (whole ++ '.' :: fraction) := by
    rw [toList_text, hnumeral]
    simp [Numeral.chars, Numeral.body, Numeral.fractionChars, Numeral.exponentChars]
  rw [htext, Decimal.ofText?, Decimal.ofPlain?_point x.negative hplain.whole.2
    (hplain.fraction fraction rfl).2 hplain.whole.1 hscale (by rw [hread]; exact hbound), hread,
    hd, Option.some_or]

/-- The text of a very small or a very large number is its mantissa, lowered or raised. -/
theorem ofText?_text_scientific {x : Binary64} (hx : x.isZero = false)
    (hlead : ¬ (-5 ≤ x.textLead ∧ x.textLead < 16)) :
    ∃ d : Decimal, d.scale = (Nat.toDigits 10 x.shortest.digits).length - 1 ∧
      d.units = signed x.negative x.shortest.digits ∧
      Decimal.ofText? x.text.toList =
        if x.textLead.natAbs ≤ 28 then
          if x.textLead < 0 then d.lower x.textLead.natAbs else d.raise x.textLead.natAbs
        else none := by
  obtain ⟨first, rest, hds, hnumeral⟩ := numeral_scientific hx hlead
  have htext : x.text.toList = signChars x.negative ++ (Decimal.mantissaChars first rest ++
      'e' :: (if decide (x.textLead < 0) = true then '-' else '+') ::
        Nat.toDigits 10 x.textLead.natAbs) := by
    rw [toList_text, hnumeral]
    cases rest <;> simp [Numeral.chars, Numeral.body, Numeral.fractionChars,
      Numeral.exponentChars, Decimal.mantissaChars]
  have hdigits : AreDigits (first :: rest) := hds ▸ areDigits_toDigits x.shortest.digits
  have hvalue : Nat.ofDigitChars 10 (first :: rest) 0 = x.shortest.digits := by
    rw [← hds, Nat.ofDigitChars_ten_toDigits]
  have hscale : rest.length < 28 := by
    have hlength := length_toDigits_shortest hx
    rw [hds, List.length_cons] at hlength
    omega
  have hbound := shortest_lt hx
  obtain ⟨d, hd, hunits, hdscale⟩ := Decimal.exists_ofParts?
    (signed x.negative x.shortest.digits) rest.length
    (by rw [natAbs_signed]; exact hbound) hscale.le
  refine ⟨d, by rw [hdscale, hds]; rfl, hunits, ?_⟩
  rw [htext, Decimal.ofText?_scientific x.negative _ (hdigits.2 first List.mem_cons_self)
    (fun c hc => hdigits.2 c (List.mem_cons_of_mem _ hc)) hscale (by rw [hvalue]; exact hbound),
    hvalue, hd, Option.bind_some]
  simp only [decide_eq_true_eq]

end Binary64

/-! ### What the text stands for -/

namespace Decimal

theorem roundHalfUp_bounds (num : Nat) {den : Nat} (hden : 0 < den) :
    (num : ℚ) / den - 1 / 2 < roundHalfUp num den ∧
      (roundHalfUp num den : ℚ) ≤ num / den + 1 / 2 := by
  have hq : (0 : ℚ) < den := by exact_mod_cast hden
  have hle := Nat.div_mul_le_self (2 * num + den) (2 * den)
  have hlt := Nat.lt_mul_div_succ (2 * num + den) (b := 2 * den) (by omega)
  have hle : ((2 * num + den) / (2 * den) : Nat) * (2 * den : ℚ) ≤ 2 * num + den := by
    exact_mod_cast hle
  have hlt : (2 * num + den : ℚ) < 2 * den * (((2 * num + den) / (2 * den) : Nat) + 1) := by
    exact_mod_cast hlt
  unfold roundHalfUp
  constructor
  · have : (num : ℚ) / den < ((2 * num + den) / (2 * den) : Nat) + 1 / 2 := by
      rw [div_lt_iff₀ hq]
      linarith
    linarith
  · have : (((2 * num + den) / (2 * den) : Nat) : ℚ) - 1 / 2 ≤ num / den := by
      rw [le_div_iff₀ hq]
      linarith
    linarith

theorem signed_of_lt {negative : Bool} {n m : Nat} (hn : 0 < n) :
    (if signed negative n < 0 then -(m : Int) else m) = signed negative m := by
  unfold signed
  cases negative
  · simp
  · simp only [if_true]
    rw [if_pos (by omega)]

theorem standsFor_raise {d f : Decimal} {negative : Bool} {n e : Nat}
    (hunits : d.units = signed negative n) (h : d.raise e = some f) :
    f.StandsFor negative (n * 10 ^ ((e : ℤ) - d.scale)) := by
  unfold raise at h
  split at h
  · rename_i hle
    obtain ⟨hf, hscale⟩ := of_ofParts? h
    refine ⟨n, hf.trans hunits, .inl ?_⟩
    rw [hscale, mul_assoc, ← zpow_natCast, ← zpow_add₀ (by norm_num)]
    have : (e : ℤ) - d.scale + (d.scale - e : Nat) = 0 := by omega
    rw [this, zpow_zero, mul_one]
  · rename_i hlt
    obtain ⟨hf, hscale⟩ := of_ofParts? h
    refine ⟨n * 10 ^ (e - d.scale), ?_, .inl ?_⟩
    · rw [hf, hunits]
      unfold signed
      split <;> push_cast <;> ring
    · rw [hscale, pow_zero, mul_one]
      push_cast
      rw [← zpow_natCast]
      congr 2
      omega

/-- Lowering a decimal divides it, exactly or up to 28 digits behind the point. -/
theorem standsFor_lower {d f : Decimal} {negative : Bool} {n e : Nat} (hn : 0 < n)
    (hunits : d.units = signed negative n) (h : d.lower e = some f) :
    f.StandsFor negative (n * 10 ^ (-(e : ℤ) - d.scale)) := by
  unfold lower at h
  split at h
  · obtain ⟨hf, hscale⟩ := of_ofParts? h
    refine ⟨n, hf.trans hunits, .inl ?_⟩
    rw [hscale, mul_assoc, ← zpow_natCast, ← zpow_add₀ (by norm_num)]
    have : -(e : ℤ) - d.scale + (d.scale + e : Nat) = 0 := by omega
    rw [this, zpow_zero, mul_one]
  · rename_i hlt
    obtain ⟨hf, hscale⟩ := of_ofParts? h
    rw [hunits, natAbs_signed, signed_of_lt hn] at hf
    refine ⟨_, hf, .inr ⟨hscale, ?_⟩⟩
    have hround := roundHalfUp_bounds n (Nat.pow_pos (by decide) : 0 < 10 ^ (d.scale + e - 28))
    have hvalue : (n : ℚ) * 10 ^ (-(e : ℤ) - d.scale) * 10 ^ (28 : Nat) =
        n / (10 ^ (d.scale + e - 28) : Nat) := by
      push_cast
      rw [mul_assoc, div_eq_mul_inv, ← zpow_natCast, ← zpow_natCast, ← zpow_neg,
        ← zpow_add₀ (by norm_num)]
      congr 2
      omega
    rw [hvalue]
    exact hround

end Decimal

namespace Binary64

/-- What the text of a number is read as stands for its shortest decimal. -/
theorem standsFor_of_text {x : Binary64} {d : Decimal} (hx : x.isZero = false)
    (h : Decimal.ofText? x.text.toList = some d) : d.StandsFor x.negative x.shortest.value := by
  have hlead : x.textLead = x.shortest.exponent + (Nat.toDigits 10 x.shortest.digits).length - 1 :=
    rfl
  have hlength : 0 < (Nat.toDigits 10 x.shortest.digits).length := Nat.length_toDigits_pos
  unfold Scientific.value
  by_cases hplain : -5 ≤ x.textLead ∧ x.textLead < 16
  · obtain ⟨f, hf, hscale, hunits⟩ := ofText?_text_point hx hplain.1 hplain.2
    obtain rfl : f = d := Option.some.inj (hf.symm.trans h)
    refine ⟨_, hunits, .inl ?_⟩
    rw [Nat.cast_mul, Nat.cast_pow, Nat.cast_ofNat, mul_assoc, ← zpow_natCast _ f.scale,
      ← zpow_add₀ (by norm_num), hscale, ← zpow_natCast]
    congr 2
    omega
  · obtain ⟨f, hscale, hunits, hf⟩ := ofText?_text_scientific hx hplain
    rw [hf] at h
    split at h
    · split at h
      · have hexponent : x.shortest.exponent = -(x.textLead.natAbs : ℤ) - f.scale := by omega
        rw [hexponent]
        exact Decimal.standsFor_lower (readsAs_shortest hx).2.1 hunits h
      · have hexponent : x.shortest.exponent = (x.textLead.natAbs : ℤ) - f.scale := by omega
        rw [hexponent]
        exact Decimal.standsFor_raise hunits h
    · cases h

/-- The text of a whole number that is not too large can be read, and exactly. -/
theorem exists_ofText?_text {x : Binary64} (hx : x.isZero = false)
    (hexponent : 0 ≤ x.shortest.exponent)
    (hbound : x.shortest.digits * 10 ^ x.shortest.exponent.toNat < 10 ^ (28 : Nat)) :
    ∃ d, Decimal.ofText? x.text.toList = some d ∧ d.units =
      signed x.negative (x.shortest.digits * 10 ^ x.shortest.exponent.toNat * 10 ^ d.scale) := by
  have hlead : x.textLead = x.shortest.exponent + (Nat.toDigits 10 x.shortest.digits).length - 1 :=
    rfl
  have hlength : 0 < (Nat.toDigits 10 x.shortest.digits).length := Nat.length_toDigits_pos
  by_cases hplain : x.textLead < 16
  · obtain ⟨d, hd, hscale, hunits⟩ := ofText?_text_point hx (by omega) hplain
    have hzeros : (x.shortest.exponent + 1).toNat = x.shortest.exponent.toNat + d.scale := by omega
    exact ⟨d, hd, by rw [hunits, hzeros, Nat.pow_add, Nat.mul_assoc]⟩
  · obtain ⟨f, hscale, hunits, hf⟩ := ofText?_text_scientific hx fun h => hplain h.2
    have hsmall : x.textLead.natAbs ≤ 28 := by
      have hle := (length_toDigits_bounds (readsAs_shortest hx).2.1).1
      have hpow : 10 ^ ((Nat.toDigits 10 x.shortest.digits).length - 1 +
          x.shortest.exponent.toNat) < 10 ^ (28 : Nat) := by
        rw [Nat.pow_add]
        exact Nat.lt_of_le_of_lt (Nat.mul_le_mul_right _ hle) hbound
      have := (Nat.pow_lt_pow_iff_right (by decide : 1 < 10)).mp hpow
      omega
    rw [if_pos hsmall, if_neg (by omega)] at hf
    have hroom : x.shortest.digits * 10 ^ x.shortest.exponent.toNat < 2 ^ (96 : Nat) :=
      Nat.lt_trans hbound (by decide)
    unfold Decimal.raise at hf
    split at hf
    · rename_i hle
      have hzero : x.shortest.exponent.toNat = 0 := by omega
      rw [hzero, Nat.pow_zero, Nat.mul_one] at hroom ⊢
      obtain ⟨d, hd, hdunits, hdscale⟩ := Decimal.exists_ofParts?
        f.units (f.scale - x.textLead.natAbs)
        (by rw [hunits, natAbs_signed]; exact hroom) (by have := f.scale_le; omega)
      refine ⟨d, hf.trans hd, ?_⟩
      have : f.scale - x.textLead.natAbs = 0 := by omega
      rw [hdunits, hdscale, hunits, this, Nat.pow_zero, Nat.mul_one]
    · rename_i hlt
      have hpower : x.textLead.natAbs - f.scale = x.shortest.exponent.toNat := by omega
      have hproduct : f.units * 10 ^ (x.textLead.natAbs - f.scale) =
          signed x.negative (x.shortest.digits * 10 ^ x.shortest.exponent.toNat) := by
        rw [hunits, hpower]
        unfold signed
        split <;> push_cast <;> ring
      obtain ⟨d, hd, hdunits, hdscale⟩ := Decimal.exists_ofParts?
        (f.units * 10 ^ (x.textLead.natAbs - f.scale)) 0
        (by rw [hproduct, natAbs_signed]; exact hroom) (by decide)
      refine ⟨d, hf.trans hd, ?_⟩
      rw [hdunits, hdscale, hproduct, Nat.pow_zero, Nat.mul_one]

end Binary64
end PageFlow
