/-
# Transforms of numbers

The functions on numbers work on decimal forms. They leave a whole number as it is, and give
it back as an integer if it has at most 63 bits and a sign. A larger one is given back in
binary floating point, with the text of the number that it is rounded to.

A number counts as true if its decimal form is not zero. A number without decimal form counts
as false, although it is not equal to zero.

Key theorems: `Decimal.json_of_whole`, `Number.compareValue_float_integer`,
`Number.compareValue_zero_iff`, `Transform.apply_integer`, `Transform.boolean_number`.
-/
import PageFlow.Proofs.Number.Exactness
import PageFlow.Transform

namespace PageFlow

-- Powers are those of the core library, whatever else is imported.
attribute [local instance (2000)] instPowNat

-- The units in one are too many to be computed.
attribute [local irreducible] Binary64.one

/-! ### Whole decimals -/

namespace Decimal

section
variable {d : Decimal} (h : d.scale = 0)
include h

theorem ofWhole_units : ofWhole d.units = d := by
  obtain ⟨units, scale, hunits, hscale⟩ := d
  obtain rfl : scale = 0 := h
  rw [ofWhole, ofInt?, ofParts?, dif_pos ⟨hunits, hscale⟩, Option.getD_some]

theorem floor_whole : d.floor = d := by
  rw [floor, floorUnits, h, Int.pow_zero, Int.fdiv_one, ofWhole_units h]

theorem ceil_whole : d.ceil = d := by
  rw [ceil, ceilUnits, h, Int.pow_zero, Int.fdiv_one, Int.neg_neg, ofWhole_units h]

theorem round_whole : d.round = d := by
  have hround : d.roundUnits = d.units := by
    have hself : roundHalfUp d.units.natAbs 1 = d.units.natAbs := by
      unfold roundHalfUp
      omega
    unfold roundUnits
    rw [h, Nat.pow_zero, hself]
    dsimp only
    split <;> omega
  rw [round, hround, ofWhole_units h]

/-- A whole number is given back as an integer if it fits 63 bits and a sign, and else as the
number in floating point that it is rounded to. -/
theorem json_of_whole {n : Int} (fits : leastInteger ≤ n ∧ n < integerLimit) (hn : d.units = n) :
    d.json = .number (if n < 2 ^ (63 : Nat) then .integer n fits
      else .float (Number.integer n fits).toBinary64) := by
  have hnormal : d.normalize = d := by
    rw [normalize, h]
    rfl
  have hcut : d.units.tdiv (10 ^ d.scale) = n := by
    rw [hn, h, Int.pow_zero, Int.tdiv_one]
  have hlimit : -leastInteger = 2 ^ (63 : Nat) := by rw [leastInteger, Int.neg_neg]
  unfold json
  dsimp only
  rw [hnormal, if_pos h, toInt?, hcut, hlimit]
  by_cases hlt : n < 2 ^ (63 : Nat)
  · rw [if_pos hlt, if_pos ⟨fits.1, hlt⟩, Option.bind_some, Number.ofInt?, dif_pos fits]
  · rw [if_neg hlt, if_neg fun h => hlt h.2, Option.bind_none]
    have hlarge : ¬ n < 0 := by omega
    have hround := Number.toBinary64_integer fits
    rw [decide_eq_false hlarge] at hround
    have hback := toBinary64_whole (d := d) (m := n.natAbs)
      (by rw [hn, h, Nat.pow_zero, Nat.mul_one]) hround
    rw [hn, if_neg hlarge] at hback
    rw [hback]

end

theorem isZero_iff {d : Decimal} : d.isZero = true ↔ d.value = 0 := by
  have hpower : (10 : ℚ) ^ d.scale ≠ 0 := by positivity
  rw [isZero, beq_iff_eq, value, div_eq_zero_iff, or_iff_left hpower, Int.cast_eq_zero]

theorem compareValue_eq_iff {d e : Decimal} : d.compareValue e = .eq ↔ d.value = e.value := by
  rw [compareValue, compare_eq_iff_eq, value, value, div_eq_div_iff (by positivity) (by positivity)]
  norm_cast

end Decimal

/-! ### Comparing with integers -/

namespace Number

theorem exists_denoted_toBinary64 (n : Int) (fits : leastInteger ≤ n ∧ n < integerLimit) :
    ∃ m : ℤ, (float (integer n fits).toBinary64).denoted = m := by
  obtain ⟨m, hm⟩ := exists_magnitude_eq_mul_one (toBinary64_integer fits)
  generalize (integer n fits).toBinary64 = x at hm ⊢
  cases hx : x.isZero with
  | true =>
    rw [Binary64.eq_zero_of_isZero hx]
    exact ⟨0, (denoted_zero _).trans Int.cast_zero.symm⟩
  | false =>
    have hmpos : 0 < m := by
      refine Nat.pos_of_ne_zero fun hzero => ?_
      have := Binary64.magnitude_pos_iff.mpr hx
      rw [hm, hzero, Nat.zero_mul] at this
      omega
    obtain ⟨e, he⟩ := Int.eq_ofNat_of_zero_le (Binary64.exponent_shortest_nonneg hm hmpos)
    refine ⟨signed x.negative (x.shortest.digits * 10 ^ e), ?_⟩
    rw [denoted_float hx, cast_signed, Scientific.value, he]
    push_cast
    rfl

/-- An integer equals the number that it is rounded to just if that denotes it. -/
theorem compareValue_float_integer (n : Int) (fits : leastInteger ≤ n ∧ n < integerLimit) :
    (float (integer n fits).toBinary64).compareValue (integer n fits) = .eq ↔
      (float (integer n fits).toBinary64).denoted = n := by
  obtain ⟨d, hd⟩ : ∃ d, (float (integer n fits).toBinary64).decimal? = some d :=
    isSome_decimal?_of_integer rfl
  obtain ⟨e, he⟩ := isSome_decimal?_integer fits
  obtain ⟨m, hm⟩ := exists_denoted_toBinary64 n fits
  have hvalue := (value_of_decimal? hd).resolve_right fun h => h.1 (fits_of_whole hm hd)
  rw [compareValue_of_decimal? hd he, Decimal.compareValue_eq_iff, hvalue,
    value_of_decimal?_integer he]

/-- A number equals zero just if its decimal form is zero; without one it does not. -/
theorem compareValue_zero_iff {a : Number} :
    a.compareValue .zero = .eq ↔ ∃ d, a.decimal? = some d ∧ d.isZero = true := by
  obtain ⟨e, he⟩ : ∃ e, Number.zero.decimal? = some e := isSome_decimal?_integer (by decide)
  have hzero : e.value = 0 := (value_of_decimal?_integer he).trans Int.cast_zero
  have hsome : a.compareValue .zero = .eq → ∃ d, a.decimal? = some d := by
    intro h
    cases ha : a.decimal? with
    | some d => exact ⟨d, rfl⟩
    | none =>
      rw [compareValue_of_none (.inl ha)] at h
      have hunits : a.toBinary64.units = Number.zero.toBinary64.units :=
        Std.LawfulEqOrd.eq_of_compare h
      rw [← ha]
      exact isSome_decimal?_congr hunits.symm ⟨e, he⟩
  constructor
  · intro h
    obtain ⟨d, hd⟩ := hsome h
    rw [compareValue_of_decimal? hd he, Decimal.compareValue_eq_iff, hzero] at h
    exact ⟨d, hd, Decimal.isZero_iff.mpr h⟩
  · rintro ⟨d, hd, hdzero⟩
    rw [compareValue_of_decimal? hd he, Decimal.compareValue_eq_iff, hzero]
    exact Decimal.isZero_iff.mp hdzero

end Number

theorem Json.equal_number_iff {a b : Number} :
    (Json.number a).equal (.number b) = true ↔ a.compareValue b = .eq := by
  rw [equal, beq_iff_eq]

/-! ### Functions of numbers -/

namespace Transform

theorem parse_call : ∀ name ∈ functions.map (·.1), parse (name ++ "($)") = .ok name := by
  decide +kernel

theorem apply_call (name : String) (f : Json → Json) (hname : name ∈ functions.map (·.1))
    (hf : function? name = some f) (value : Json) :
    apply (name ++ "($)") value = .ok (f value) := by
  rw [apply, compile, parse_call name hname]
  dsimp only
  rw [hf]
  rfl

theorem apply_whole {n : Int} {fits : leastInteger ≤ n ∧ n < integerLimit} {d : Decimal}
    (hd : (Number.integer n fits).decimal? = some d) :
    ∀ name ∈ ["number", "floor", "ceil", "round"],
      apply (name ++ "($)") (.number (.integer n fits)) = .ok d.json := by
  have hscale := (Number.of_decimal?_integer hd).2.1
  have hform : (Json.number (.integer n fits)).decimal? = some d := hd
  have hnumber : number (.number (.integer n fits)) = d.json := by
    unfold number
    dsimp only
    rw [hform]
  have hround : ∀ f : Decimal → Decimal, f d = d →
      onNumber f (.number (.integer n fits)) = d.json := by
    intro f hf
    unfold onNumber
    rw [hform]
    dsimp only
    rw [hf]
  intro name hname
  simp only [List.mem_cons, List.not_mem_nil, or_false] at hname
  rcases hname with rfl | rfl | rfl | rfl
  · rw [apply_call "number" number (by decide) rfl, hnumber]
  · rw [apply_call "floor" (onNumber Decimal.floor) (by decide) rfl,
      hround _ (Decimal.floor_whole hscale)]
  · rw [apply_call "ceil" (onNumber Decimal.ceil) (by decide) rfl,
      hround _ (Decimal.ceil_whole hscale)]
  · rw [apply_call "round" (onNumber Decimal.round) (by decide) rfl,
      hround _ (Decimal.round_whole hscale)]

/-- **What becomes of integers.** The functions that make numbers of values and round them give
an integer of at most 63 bits and a sign back as it is. They give a larger one back as the
number in floating point that it is rounded to, and that equals the integer just if it denotes
it. -/
theorem apply_integer (n : Int) (fits : leastInteger ≤ n ∧ n < integerLimit) :
    ∀ name ∈ ["number", "floor", "ceil", "round"],
      ∃ b, apply (name ++ "($)") (.number (.integer n fits)) = .ok (.number b) ∧
        (n < 2 ^ (63 : Nat) → b = .integer n fits) ∧
        (2 ^ (63 : Nat) ≤ n → b = .float (Number.integer n fits).toBinary64) ∧
        ((Json.number b).equal (.number (.integer n fits)) = true ↔
          n < 2 ^ (63 : Nat) ∨ b.denoted = n) := by
  intro name hname
  obtain ⟨d, hd⟩ := Number.isSome_decimal?_integer fits
  obtain ⟨hunits, hscale, -⟩ := Number.of_decimal?_integer hd
  have happly := apply_whole hd name hname
  rw [Decimal.json_of_whole hscale fits hunits] at happly
  refine ⟨_, happly, fun hlt => if_pos hlt, fun hle => if_neg hle.not_gt, ?_⟩
  rw [Json.equal_number_iff]
  by_cases hlt : n < 2 ^ (63 : Nat)
  · rw [if_pos hlt]
    exact iff_of_true (Number.compareValue_self _) (.inl hlt)
  · rw [if_neg hlt, Number.compareValue_float_integer, or_iff_right hlt]

/-- The greatest integer. -/
def greatestInteger : Number := .integer (2 ^ (64 : Nat) - 1) (by decide)

/-- What two large integers are rounded to, and a number that is too large for a decimal. -/
theorem largeSamples :
    (Number.float (Number.integer 9223372036854776000 (by decide)).toBinary64).denoted =
        9223372036854776000 ∧
      (Number.float greatestInteger.toBinary64).denoted = 18446744073709552000 ∧
      (Number.nearest (Nat.pow 10 30) 0).decimal? = none := by
  have hdenoted : ∀ {n : Nat} {x : Binary64},
      x.isZero = false ∧ x.negative = false ∧ x.shortest = ⟨n, 3⟩ →
        (Number.float x).denoted = n * 1000 := by
    intro n x h
    rw [Number.denoted_of_shortest h]
    norm_num
  refine ⟨(hdenoted (n := 9223372036854776) (by decide +kernel)).trans (by norm_num),
    (hdenoted (n := 18446744073709552) (by decide +kernel)).trans (by norm_num),
    by decide +kernel⟩

/-- The last integer of 63 bits and a sign stays as it is. A larger one that has the digits of
a number in floating point equals that. -/
theorem apply_integer_limit :
    (∀ name ∈ ["number", "floor", "ceil", "round"],
      apply (name ++ "($)") (.number (.integer 9223372036854775807 (by decide))) =
        .ok (.number (.integer 9223372036854775807 (by decide)))) ∧
    ∃ b, apply "floor($)" (.number (.integer 9223372036854776000 (by decide))) =
        .ok (.number b) ∧
      (Json.number b).equal (.number (.integer 9223372036854776000 (by decide))) = true := by
  constructor
  · intro name hname
    obtain ⟨b, happly, hsame, -⟩ := apply_integer 9223372036854775807 (by decide) name hname
    rw [happly, hsame (by decide)]
  · obtain ⟨b, happly, -, hfloat, hequal⟩ :=
      apply_integer 9223372036854776000 (by decide) "floor" (by decide)
    obtain rfl := hfloat (by decide)
    exact ⟨_, happly, hequal.mpr (.inr (largeSamples.1.trans (by norm_num)))⟩

/-- The greatest integer does not equal what becomes of it. -/
theorem not_apply_integer_greatest :
    (apply "number($)" (.number greatestInteger) =
        .ok (.number (.float greatestInteger.toBinary64)) ∧
      apply "floor($)" (.number greatestInteger) =
        .ok (.number (.float greatestInteger.toBinary64)) ∧
      apply "ceil($)" (.number greatestInteger) =
        .ok (.number (.float greatestInteger.toBinary64)) ∧
      apply "round($)" (.number greatestInteger) =
        .ok (.number (.float greatestInteger.toBinary64))) ∧
    (Json.number (.float greatestInteger.toBinary64)).equal (.number greatestInteger) = false := by
  obtain ⟨d, hd⟩ : ∃ d, greatestInteger.decimal? = some d :=
    Number.isSome_decimal?_integer (by decide)
  obtain ⟨hunits, hscale, -⟩ := Number.of_decimal?_integer hd
  have happly := apply_whole hd
  rw [Decimal.json_of_whole hscale (by decide) hunits, if_neg (by decide)] at happly
  refine ⟨⟨happly "number" (by decide), happly "floor" (by decide), happly "ceil" (by decide),
    happly "round" (by decide)⟩, ?_⟩
  rw [← Bool.not_eq_true, Json.equal_number_iff]
  intro h
  have hsame := (Number.compareValue_float_integer (2 ^ (64 : Nat) - 1) (by decide)).mp h
  have hother : (18446744073709552000 : ℚ) = (2 ^ (64 : Nat) - 1 : ℤ) :=
    largeSamples.2.1.symm.trans hsame
  norm_num at hother

/-! ### Truth of numbers -/

theorem apply_boolean (value : Json) : apply "boolean($)" value = .ok (.bool (truth value)) :=
  apply_call "boolean" (fun value => .bool (truth value)) (by decide) rfl value

/-- A number counts as false if it equals zero, and also if it has no decimal form. -/
theorem truth_number_iff {a : Number} :
    truth (.number a) = false ↔ a.decimal? = none ∨ a.compareValue .zero = .eq := by
  rw [Number.compareValue_zero_iff, truth]
  cases a.decimal? with
  | none => simp only [Option.any_none, true_or]
  | some d => simp

theorem equal_zero_of_none {a : Number} (h : a.decimal? = none) :
    (Json.number a).equal (.number .zero) = false := by
  rw [← Bool.not_eq_true, Json.equal_number_iff, Number.compareValue_zero_iff, h]
  rintro ⟨d, hd, -⟩
  cases hd

/-- **What counts as zero.** A number with a decimal form, as every moderate one is, counts as
false just if it equals zero. A number without decimal form counts as false, and does not
equal zero. -/
theorem boolean_number (a : Number) :
    ∃ b, apply "boolean($)" (.number a) = .ok (.bool b) ∧
      ((∃ d, a.decimal? = some d) →
        (b = false ↔ (Json.number a).equal (.number .zero) = true)) ∧
      (a.Moderate → (b = false ↔ (Json.number a).equal (.number .zero) = true)) ∧
      (a.decimal? = none → b = false ∧ (Json.number a).equal (.number .zero) = false) := by
  have hform : (∃ d, a.decimal? = some d) →
      (truth (.number a) = false ↔ (Json.number a).equal (.number .zero) = true) := by
    rintro ⟨d, hd⟩
    rw [truth_number_iff, Json.equal_number_iff, or_iff_right (by simp [hd])]
  refine ⟨_, apply_boolean (.number a), hform, fun hmoderate => ?_, fun hnone => ?_⟩
  · obtain ⟨d, hd, -⟩ := hmoderate.exists_decimal?
    exact hform ⟨d, hd⟩
  · exact ⟨truth_number_iff.mpr (.inl hnone), equal_zero_of_none hnone⟩

/-- A price of `123.45` counts as true. Minus zero counts as false, as it equals zero. -/
theorem boolean_number_price :
    apply "boolean($)" (.number (.nearest 12345 2)) = .ok (.bool true) ∧
      apply "boolean($)" (.number (.float (.zero true))) = .ok (.bool false) := by
  constructor
  · obtain ⟨b, happly, -, hmoderate, -⟩ := boolean_number (.nearest 12345 2)
    have hprice := Number.samples.1
    have hmod : (Number.nearest 12345 2).Moderate :=
      .inr ⟨12345, 2, hprice, by decide, by decide⟩
    have hiff := hmoderate hmod
    obtain ⟨d, hd, hvalue⟩ := hmod.exists_decimal?
    have hother : ¬ (Json.number (.nearest 12345 2)).equal (.number .zero) = true := by
      rw [Json.equal_number_iff, Number.compareValue_zero_iff]
      rintro ⟨e, he, hzero⟩
      obtain rfl := Option.some.inj (hd.symm.trans he)
      rw [Decimal.isZero_iff, hvalue, hprice] at hzero
      norm_num at hzero
    cases b with
    | true => exact happly
    | false => exact absurd (hiff.mp rfl) hother
  · obtain ⟨b, happly, hform, -⟩ := boolean_number (.float (.zero true))
    have hfalse := (hform (Number.isSome_decimal?_zero true)).mpr (by decide +kernel)
    rw [happly, hfalse]

/-- An ordinary number and a large one count as false, and do not equal zero. -/
theorem not_boolean_number :
    (apply "boolean($)" (.number (.nearest 4222222222222222 15)) = .ok (.bool false) ∧
      (Json.number (.nearest 4222222222222222 15)).equal (.number .zero) = false) ∧
    apply "boolean($)" (.number (.nearest (Nat.pow 10 30) 0)) = .ok (.bool false) ∧
      (Json.number (.nearest (Nat.pow 10 30) 0)).equal (.number .zero) = false := by
  have hnone : ∀ {a : Number}, a.decimal? = none →
      apply "boolean($)" (.number a) = .ok (.bool false) ∧
        (Json.number a).equal (.number .zero) = false := by
    intro a ha
    refine ⟨?_, equal_zero_of_none ha⟩
    rw [apply_boolean, truth_number_iff.mpr (.inl ha)]
  exact ⟨hnone Number.samples.2.2.2.1, hnone largeSamples.2.2⟩

end Transform
end PageFlow
