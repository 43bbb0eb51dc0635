/-
# Reading the text of a decimal

A numeral in plain form, with or without a point, is read as the number of its
digits, scaled by the digits behind the point, as long as they fit. One with an
exponent is not a plain numeral: it is read as its mantissa, raised or lowered.

Key definitions: `signChars`, `signed`.
Key theorems: `Decimal.Digits.read_digits`, `Decimal.ofPlain?_point`,
`Decimal.ofPlain?_whole`, `Decimal.ofText?_scientific`.
-/
import Mathlib.Data.List.Basic
import PageFlow.Number.Decimal

namespace PageFlow

-- Powers are those of the core library, whatever else is imported.
attribute [local instance (2000)] instPowNat

/-- The sign in front of a numeral. -/
def signChars (negative : Bool) : List Char := if negative then ['-'] else []

/-- A number with a sign. -/
def signed (negative : Bool) (n : Nat) : Int := if negative then -n else n

theorem natAbs_signed (negative : Bool) (n : Nat) : (signed negative n).natAbs = n := by
  unfold signed
  split <;> omega

namespace Decimal

/-! ### Digits -/

theorem le_ofDigitChars (ds : List Char) (init : Nat) : init ≤ Nat.ofDigitChars 10 ds init := by
  rw [Nat.ofDigitChars_eq_ofDigitChars_zero]
  exact Nat.le_trans (Nat.le_mul_of_pos_left init (Nat.pow_pos (by decide))) (Nat.le_add_right _ _)

/-- Digits that fit are read one after the other. -/
theorem Digits.read_digits : ∀ (ds rest : List Char) (s : Digits),
    (∀ c ∈ ds, c.isDigit = true) → Nat.ofDigitChars 10 ds s.units < unitLimit →
      (s.point = true → s.scale + ds.length ≤ 28) → (s.point = false → s.scale = 0) →
      s.read (ds ++ rest) = Digits.read
        ⟨Nat.ofDigitChars 10 ds s.units, if s.point then s.scale + ds.length else 0, s.point,
          s.any || !ds.isEmpty⟩ rest
  | [], rest, ⟨units, scale, point, any⟩, _, _, _, hwhole => by
    cases point
    · obtain rfl : scale = 0 := hwhole rfl
      simp
    · simp
  | c :: ds, rest, ⟨units, scale, point, any⟩, hdigits, hroom, hscale, hwhole => by
    have hc : c.isDigit = true := hdigits c List.mem_cons_self
    dsimp only at hroom hscale hwhole
    rw [Nat.ofDigitChars_cons] at hroom ⊢
    have hunits : units * 10 + digitValue c < unitLimit := by
      have := le_ofDigitChars ds (10 * units + (c.toNat - '0'.toNat))
      unfold digitValue
      omega
    have hstop : (point && decide (28 ≤ scale)) = false := by
      cases point
      · rfl
      · have := hscale rfl
        simp only [List.length_cons] at this
        simp only [Bool.true_and, decide_eq_false_iff_not]
        omega
    rw [List.cons_append, Digits.read]
    simp only [hstop, Bool.false_eq_true, if_false, hc, if_true, hunits]
    rw [Digits.read_digits ds rest]
    · unfold digitValue
      rw [Nat.mul_comm units 10]
      cases point
      · simp
      · simp [Nat.add_assoc, Nat.add_comm 1]
    · exact fun c' hc' => hdigits c' (List.mem_cons_of_mem _ hc')
    · unfold digitValue
      rw [Nat.mul_comm units 10]
      exact hroom
    · rintro rfl
      have := hscale rfl
      simp only [List.length_cons] at this
      simp only [if_true]
      omega
    · rintro rfl
      rfl

/-- Digits, a point and digits are read as all the digits, with the scale of the
second part. -/
theorem Digits.read_point {whole fraction : List Char} (rest : List Char)
    (hwhole : ∀ c ∈ whole, c.isDigit = true) (hfraction : ∀ c ∈ fraction, c.isDigit = true)
    (hne : whole ≠ []) (hscale : fraction.length ≤ 28)
    (hroom : Nat.ofDigitChars 10 (whole ++ fraction) 0 < unitLimit) :
    Digits.read ⟨0, 0, false, false⟩ (whole ++ '.' :: (fraction ++ rest)) =
      Digits.read ⟨Nat.ofDigitChars 10 (whole ++ fraction) 0, fraction.length, true, true⟩
        rest := by
  rw [Nat.ofDigitChars_append] at hroom ⊢
  have hfirst : Nat.ofDigitChars 10 whole 0 < unitLimit :=
    Nat.lt_of_le_of_lt (le_ofDigitChars fraction _) hroom
  rw [Digits.read_digits whole _ _ hwhole hfirst (by simp) (by simp)]
  rw [Digits.read]
  simp only [Bool.false_and, Bool.false_eq_true, if_false, and_self, if_true,
    show ('.' : Char).isDigit = false from rfl]
  rw [Digits.read_digits fraction rest _ hfraction hroom (by simpa using hscale) (by simp)]
  have hany : whole.isEmpty = false := by simpa using hne
  simp [hany]

/-! ### Plain numerals -/

theorem ofPlain?_signed (negative : Bool) {cs : List Char}
    (hcs : ∃ c rest, cs = c :: rest ∧ c.isDigit = true) :
    ofPlain? (signChars negative ++ cs) =
      (Digits.read ⟨0, 0, false, false⟩ cs).bind fun s =>
        ofParts? (signed negative s.units) s.scale := by
  obtain ⟨c, rest, rfl, hc⟩ := hcs
  cases negative with
  | true => rfl
  | false =>
    unfold ofPlain? signChars
    have hminus : c ≠ '-' := by
      rintro rfl
      cases hc
    have hplus : c ≠ '+' := by
      rintro rfl
      cases hc
    simp only [Bool.false_eq_true, if_false, List.nil_append]
    split
    · rename_i h
      exact absurd (List.cons.inj h).1 hminus
    · rename_i h
      exact absurd (List.cons.inj h).1 hplus
    · rfl

theorem exists_digit_of_ne_nil {whole : List Char} (rest : List Char) (hne : whole ≠ [])
    (hwhole : ∀ c ∈ whole, c.isDigit = true) :
    ∃ c tail, whole ++ rest = c :: tail ∧ c.isDigit = true := by
  obtain ⟨c, tail, rfl⟩ := List.exists_cons_of_ne_nil hne
  exact ⟨c, tail ++ rest, rfl, hwhole c List.mem_cons_self⟩

/-- A numeral with a point. -/
theorem ofPlain?_point (negative : Bool) {whole fraction : List Char}
    (hwhole : ∀ c ∈ whole, c.isDigit = true) (hfraction : ∀ c ∈ fraction, c.isDigit = true)
    (hne : whole ≠ []) (hscale : fraction.length ≤ 28)
    (hroom : Nat.ofDigitChars 10 (whole ++ fraction) 0 < unitLimit) :
    ofPlain? (signChars negative ++ (whole ++ '.' :: fraction)) =
      ofParts? (signed negative (Nat.ofDigitChars 10 (whole ++ fraction) 0)) fraction.length := by
  have hread := Digits.read_point [] hwhole hfraction hne hscale hroom
  rw [List.append_nil] at hread
  rw [ofPlain?_signed negative (exists_digit_of_ne_nil _ hne hwhole), hread]
  rfl

/-- A numeral without a point. -/
theorem ofPlain?_whole (negative : Bool) {whole : List Char}
    (hwhole : ∀ c ∈ whole, c.isDigit = true) (hne : whole ≠ [])
    (hroom : Nat.ofDigitChars 10 whole 0 < unitLimit) :
    ofPlain? (signChars negative ++ whole) =
      ofParts? (signed negative (Nat.ofDigitChars 10 whole 0)) 0 := by
  have hread := Digits.read_digits whole [] ⟨0, 0, false, false⟩ hwhole hroom (by simp) (by simp)
  have hany : whole.isEmpty = false := by simpa using hne
  have hcs := exists_digit_of_ne_nil [] hne hwhole
  rw [List.append_nil] at hread hcs
  rw [ofPlain?_signed negative hcs, hread]
  simp only [hany, Bool.false_eq_true, if_false, Bool.not_false, Bool.or_true]
  rfl

/-! ### Numerals with an exponent -/

/-- The digits of a mantissa, with a point behind the first if there are more. -/
def mantissaChars (first : Char) (fraction : List Char) : List Char :=
  first :: if fraction.isEmpty then [] else '.' :: fraction

theorem ofPlain?_mantissa (negative : Bool) {first : Char} {fraction : List Char}
    (hfirst : first.isDigit = true) (hfraction : ∀ c ∈ fraction, c.isDigit = true)
    (hscale : fraction.length ≤ 28)
    (hroom : Nat.ofDigitChars 10 (first :: fraction) 0 < unitLimit) :
    ofPlain? (signChars negative ++ mantissaChars first fraction) =
      ofParts? (signed negative (Nat.ofDigitChars 10 (first :: fraction) 0)) fraction.length := by
  have hwhole : ∀ c ∈ [first], c.isDigit = true := by simpa using hfirst
  unfold mantissaChars
  cases fraction with
  | nil => exact ofPlain?_whole negative hwhole (by simp) hroom
  | cons c rest => exact ofPlain?_point negative hwhole hfraction (by simp) hscale hroom

theorem ofPlain?_exponent (negative : Bool) {first : Char} {fraction : List Char}
    (hfirst : first.isDigit = true) (hfraction : ∀ c ∈ fraction, c.isDigit = true)
    (hscale : fraction.length < 28)
    (hroom : Nat.ofDigitChars 10 (first :: fraction) 0 < unitLimit) (exponent : List Char) :
    ofPlain? (signChars negative ++ (mantissaChars first fraction ++ 'e' :: exponent)) = none := by
  have hwhole : ∀ c ∈ [first], c.isDigit = true := by simpa using hfirst
  -- at the letter the reading ends
  have hend : ∀ s : Digits, (s.point && decide (28 ≤ s.scale)) = false →
      s.read ('e' :: exponent) = none := by
    intro s hs
    rw [Digits.read]
    simp [hs, show ('e' : Char).isDigit = false from rfl]
  have hcs : ∃ c tail, mantissaChars first fraction ++ 'e' :: exponent = c :: tail ∧
      c.isDigit = true := ⟨first, _, rfl, hfirst⟩
  rw [ofPlain?_signed negative hcs]
  unfold mantissaChars
  cases fraction with
  | nil =>
    have hread := Digits.read_digits [first] ('e' :: exponent) ⟨0, 0, false, false⟩ hwhole hroom
      (by simp) (by simp)
    rw [hend _ rfl] at hread
    exact congrArg (Option.bind · _) hread
  | cons c rest =>
    have hread := Digits.read_point ('e' :: exponent) hwhole hfraction (by simp)
      (Nat.le_of_lt hscale) hroom
    have hstop : (true && decide (28 ≤ (c :: rest).length)) = false :=
      decide_eq_false (Nat.not_le.mpr hscale)
    rw [hend _ hstop] at hread
    exact congrArg (Option.bind · _) hread

/-- The text in front of an exponent has no letter. -/
theorem splitExponent_append : ∀ {front : List Char} (exponent : List Char),
    (∀ c ∈ front, c ≠ 'e' ∧ c ≠ 'E') →
      splitExponent (front ++ 'e' :: exponent) = some (front, exponent)
  | [], exponent, _ => by simp [splitExponent]
  | c :: front, exponent, h => by
    have hc := h c List.mem_cons_self
    rw [List.cons_append, splitExponent, if_neg (by simp [hc.1, hc.2]),
      splitExponent_append exponent fun c' hc' => h c' (List.mem_cons_of_mem _ hc')]
    rfl

theorem exponent?_digits {ds : List Char} (hdigits : ∀ c ∈ ds, c.isDigit = true) (hne : ds ≠ []) :
    exponent? ds =
        (if Nat.ofDigitChars 10 ds 0 ≤ 28 then some (Nat.ofDigitChars 10 ds 0) else none) ∧
      exponent? ('+' :: ds) = exponent? ds := by
  obtain ⟨c, rest, rfl⟩ := List.exists_cons_of_ne_nil hne
  have hall : (c :: rest).all Char.isDigit = true := List.all_eq_true.mpr hdigits
  have hplus : c ≠ '+' := by
    rintro rfl
    cases hdigits '+' List.mem_cons_self
  have hself : exponent? (c :: rest) = (if Nat.ofDigitChars 10 (c :: rest) 0 ≤ 28 then
      some (Nat.ofDigitChars 10 (c :: rest) 0) else none) := by
    unfold exponent?
    split
    · rename_i h
      exact absurd (List.cons.inj h).1 hplus
    · simp [hall]
  refine ⟨hself, hself ▸ ?_⟩
  unfold exponent?
  simp [hall]

/-- A numeral with an exponent is its mantissa, raised or lowered. -/
theorem ofText?_scientific (negative below : Bool) {first : Char} {fraction : List Char} {e : Nat}
    (hfirst : first.isDigit = true) (hfraction : ∀ c ∈ fraction, c.isDigit = true)
    (hscale : fraction.length < 28)
    (hroom : Nat.ofDigitChars 10 (first :: fraction) 0 < unitLimit) :
    ofText? (signChars negative ++ (mantissaChars first fraction ++
        'e' :: (if below then '-' else '+') :: Nat.toDigits 10 e)) =
      (ofParts? (signed negative (Nat.ofDigitChars 10 (first :: fraction) 0))
        fraction.length).bind fun d =>
          if e ≤ 28 then if below then d.lower e else d.raise e else none := by
  have hdigits : ∀ c ∈ Nat.toDigits 10 e, c.isDigit = true := fun c hc =>
    Nat.isDigit_of_mem_toDigits (by decide) (by decide) hc
  obtain ⟨hexponent, hplus⟩ := exponent?_digits hdigits Nat.toDigits_ne_nil
  rw [Nat.ofDigitChars_ten_toDigits] at hexponent
  have hletters : ∀ c ∈ signChars negative ++ mantissaChars first fraction, c ≠ 'e' ∧ c ≠ 'E' := by
    intro c hc
    have hcases : c.isDigit = true ∨ c = '-' ∨ c = '.' := by
      rcases List.mem_append.mp hc with hsign | hmantissa
      · unfold signChars at hsign
        split at hsign
        · exact .inr (.inl (List.mem_singleton.mp hsign))
        · cases hsign
      · unfold mantissaChars at hmantissa
        rcases List.mem_cons.mp hmantissa with rfl | hmantissa
        · exact .inl hfirst
        · split at hmantissa
          · cases hmantissa
          · rcases List.mem_cons.mp hmantissa with rfl | hmantissa
            · exact .inr (.inr rfl)
            · exact .inl (hfraction c hmantissa)
    constructor
    · rintro rfl
      rcases hcases with h | h | h <;> cases h
    · rintro rfl
      rcases hcases with h | h | h <;> cases h
  unfold ofText?
  rw [ofPlain?_exponent negative hfirst hfraction hscale hroom, Option.none_or, ofScientific?,
    ← List.append_assoc, splitExponent_append _ hletters]
  simp only [Option.bind_eq_bind, Option.bind_some,
    ofPlain?_mantissa negative hfirst hfraction (Nat.le_of_lt hscale) hroom]
  congr 1
  funext d
  cases below with
  | true =>
    simp only [if_true, hexponent]
    split <;> rfl
  | false =>
    simp only [Bool.false_eq_true, if_false, hplus, hexponent]
    split
    · rename_i h
      cases (List.cons.inj h).1
    · split <;> rfl

end Decimal
end PageFlow
