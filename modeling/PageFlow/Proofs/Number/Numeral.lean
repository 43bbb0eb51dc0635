/-
# The numeral of a number

The text of a number is a numeral: a sign, digits, and perhaps a point with more
digits and an exponent. What the digits stand for exactly is the shortest decimal
of a number in binary floating point, which reads back as the number. So two
numbers with one numeral are the same number, and an integer never has the numeral
of a number in floating point: that has a point or an exponent.

Key definitions: `Numeral.chars`, `Numeral.exact`, `Numeral.WellFormed`, `Number.numeral`.
Key theorems: `Number.toList_text`, `Number.wellFormed_numeral`, `Number.numeral_inj`.
-/
import PageFlow.Json.Number
import PageFlow.Proofs.Number.Reading
import PageFlow.Proofs.Number.Shortest

namespace PageFlow

-- Powers are those of the core library, whatever else is imported.
attribute [local instance (2000)] instPowNat

/-- One digit or more. -/
def AreDigits (cs : List Char) : Prop := cs ≠ [] ∧ ∀ c ∈ cs, c.isDigit = true

/-! ### The characters of a numeral -/

namespace Numeral

/-- A point and the digits behind it. -/
def fractionChars : Option (List Char) → List Char
  | none => []
  | some ds => '.' :: ds

/-- The letter of an exponent, its sign and its digits. -/
def exponentChars : Option (Bool × List Char) → List Char
  | none => []
  | some (below, ds) => 'e' :: (if below then '-' else '+') :: ds

/-- The characters behind the sign. -/
def body (n : Numeral) : List Char :=
  n.whole ++ (fractionChars n.fraction ++ exponentChars n.exponent)

/-- The characters of a numeral. -/
def chars (n : Numeral) : List Char := signChars n.negative ++ n.body

/-- All digits without the point. -/
def digits (n : Numeral) : List Char := n.whole ++ n.fraction.getD []

/-- What a numeral stands for, but for its sign. -/
def exact (n : Numeral) : ℚ :=
  Nat.ofDigitChars 10 n.digits 0 * 10 ^ (n.writtenExponent - (n.fraction.getD []).length)

/-- A numeral as it is written in a document: digits where digits belong, at least
one in each place, and no zero in front of others. -/
structure WellFormed (n : Numeral) : Prop where
  whole : AreDigits n.whole
  first : n.whole.head? = some '0' → n.whole = ['0']
  fraction : ∀ ds ∈ n.fraction, AreDigits ds
  exponent : ∀ e ∈ n.exponent, AreDigits e.2

theorem wellFormed_point (negative : Bool) {whole fraction : List Char} (hwhole : AreDigits whole)
    (hfirst : whole.head? = some '0' → whole = ['0']) (hfraction : AreDigits fraction) :
    WellFormed ⟨negative, whole, some fraction, none⟩ where
  whole := hwhole
  first := hfirst
  fraction _ h := Option.some.inj h ▸ hfraction
  exponent := nofun

end Numeral

theorem head?_toDigits {n : Nat} (h : (Nat.toDigits 10 n).head? = some '0') : n = 0 := by
  induction n using Nat.strongRecOn with
  | ind n ih =>
    by_cases hsmall : n < 10
    · rw [Nat.toDigits_of_lt_base hsmall, List.head?_cons, Option.some.injEq] at h
      have hdigit : ∀ m < 10, Nat.digitChar m = '0' → m = 0 := by decide
      exact hdigit n hsmall h
    · rw [Nat.toDigits_of_base_le (by decide) (by omega), List.head?_append_of_ne_nil _
        Nat.toDigits_ne_nil] at h
      have := ih (n / 10) (by omega) h
      omega

theorem areDigits_toDigits (n : Nat) : AreDigits (Nat.toDigits 10 n) :=
  ⟨Nat.toDigits_ne_nil, fun _ hc => Nat.isDigit_of_mem_toDigits (by decide) (by decide) hc⟩

theorem isDigit_of_mem_zeros {n : Nat} : ∀ c ∈ List.replicate n '0', c.isDigit = true := by
  intro c hc
  rw [List.eq_of_mem_replicate hc]
  rfl

theorem AreDigits.append_zeros {ds : List Char} (h : AreDigits ds) (n : Nat) :
    AreDigits (ds ++ List.replicate n '0') :=
  ⟨List.append_ne_nil_of_left_ne_nil h.1 _, fun c hc =>
    (List.mem_append.mp hc).elim (h.2 c) (isDigit_of_mem_zeros c)⟩

theorem AreDigits.zeros_append {ds : List Char} (h : AreDigits ds) (n : Nat) :
    AreDigits (List.replicate n '0' ++ ds) :=
  ⟨List.append_ne_nil_of_right_ne_nil _ h.1, fun c hc =>
    (List.mem_append.mp hc).elim (isDigit_of_mem_zeros c) (h.2 c)⟩

theorem AreDigits.take {ds : List Char} (h : AreDigits ds) (n : Nat) :
    AreDigits (ds.take (n + 1)) := by
  refine ⟨fun hnil => h.1 ?_, fun c hc => h.2 c (List.mem_of_mem_take hc)⟩
  exact (List.take_eq_nil_iff.mp hnil).resolve_left (Nat.succ_ne_zero n)

theorem AreDigits.drop {ds : List Char} (h : AreDigits ds) {n : Nat} (hn : n < ds.length) :
    AreDigits (ds.drop n) := by
  refine ⟨fun hnil => ?_, fun c hc => h.2 c (List.mem_of_mem_drop hc)⟩
  have := List.drop_eq_nil_iff.mp hnil
  omega

/-! ### Numbers in binary floating point -/

namespace Binary64

/-- The exponent of the leading digit of the text. -/
def textLead (x : Binary64) : Int :=
  x.shortest.exponent + (Nat.toDigits 10 x.shortest.digits).length - 1

/-- The numeral that is the text of a number. -/
def numeral (x : Binary64) : Numeral :=
  let s := x.shortest
  let ds := Nat.toDigits 10 s.digits
  if x.isZero then ⟨x.negative, ['0'], some ['0'], none⟩
  else if -5 ≤ x.textLead ∧ x.textLead < 16 then
    if 0 ≤ s.exponent then
      ⟨x.negative, ds ++ List.replicate s.exponent.toNat '0', some ['0'], none⟩
    else if 0 ≤ x.textLead then
      ⟨x.negative, ds.take (x.textLead.toNat + 1), some (ds.drop (x.textLead.toNat + 1)), none⟩
    else ⟨x.negative, ['0'], some (List.replicate ((-x.textLead).toNat - 1) '0' ++ ds), none⟩
  else
    ⟨x.negative, ds.take 1, if ds.length = 1 then none else some (ds.drop 1),
      some (decide (x.textLead < 0), Nat.toDigits 10 x.textLead.natAbs)⟩

theorem toList_text (x : Binary64) : x.text.toList = x.numeral.chars := by
  have hsign : (if x.negative then "-" else "").toList = signChars x.negative := by
    cases x.negative <;> rfl
  unfold text numeral
  dsimp only
  split
  · rw [String.toList_append, hsign]
    rfl
  · rw [String.toList_append, hsign, String.toList_ofList, ← textLead]
    repeat' split
    all_goals simp_all [Numeral.chars, Numeral.body, Numeral.fractionChars, Numeral.exponentChars]

theorem negative_numeral (x : Binary64) : x.numeral.negative = x.negative := by
  unfold numeral
  dsimp only
  repeat' split
  all_goals rfl

theorem ofDigitChars_zeros_append (zeros : Nat) (ds : List Char) :
    Nat.ofDigitChars 10 (List.replicate zeros '0' ++ ds) 0 = Nat.ofDigitChars 10 ds 0 := by
  rw [Nat.ofDigitChars_append, Nat.ofDigitChars_replicate_zero, Nat.mul_zero]

theorem ofDigitChars_append_zeros (ds : List Char) (zeros : Nat) :
    Nat.ofDigitChars 10 (ds ++ List.replicate zeros '0') 0 =
      Nat.ofDigitChars 10 ds 0 * 10 ^ zeros := by
  rw [Nat.ofDigitChars_append, Nat.ofDigitChars_replicate_zero, Nat.mul_comm]

/-- With a point the digits are those of the shortest decimal, wherever the point stands;
those of a whole number have zeros behind them, the last one behind the point. -/
theorem numeral_point {x : Binary64} (hx : x.isZero = false) (hlow : -5 ≤ x.textLead)
    (hhigh : x.textLead < 16) :
    ∃ whole fraction, x.numeral = ⟨x.negative, whole, some fraction, none⟩ ∧
      Nat.ofDigitChars 10 (whole ++ fraction) 0 =
        x.shortest.digits * 10 ^ (x.shortest.exponent + 1).toNat ∧
      (fraction.length : Int) = (x.shortest.exponent + 1).toNat - x.shortest.exponent := by
  have hvalue : Nat.ofDigitChars 10 (Nat.toDigits 10 x.shortest.digits) 0 = x.shortest.digits :=
    Nat.ofDigitChars_ten_toDigits
  have hlead : x.textLead = x.shortest.exponent + (Nat.toDigits 10 x.shortest.digits).length - 1 :=
    rfl
  unfold numeral
  simp only [hx, Bool.false_eq_true, if_false, hlow, hhigh, and_self, if_true]
  split
  · next hexponent =>
    have hzeros : (x.shortest.exponent + 1).toNat = x.shortest.exponent.toNat + 1 := by omega
    refine ⟨_, _, rfl, ?_, ?_⟩
    · rw [List.append_assoc, ← List.replicate_succ', ofDigitChars_append_zeros, hvalue, hzeros]
    · rw [List.length_singleton]
      omega
  · next hexponent =>
    have hzeros : (x.shortest.exponent + 1).toNat = 0 := by omega
    rw [hzeros, pow_zero, mul_one]
    split
    · refine ⟨_, _, rfl, ?_, ?_⟩
      · rw [List.take_append_drop, hvalue]
      · rw [List.length_drop]
        omega
    · refine ⟨_, _, rfl, ?_, ?_⟩
      · rw [← List.append_assoc, List.singleton_append, ← List.replicate_succ,
          ofDigitChars_zeros_append, hvalue]
      · rw [List.length_append, List.length_replicate]
        omega

theorem numeral_scientific {x : Binary64} (hx : x.isZero = false)
    (hlead : ¬ (-5 ≤ x.textLead ∧ x.textLead < 16)) :
    ∃ first rest, Nat.toDigits 10 x.shortest.digits = first :: rest ∧
      x.numeral = ⟨x.negative, [first], if rest.isEmpty then none else some rest,
        some (decide (x.textLead < 0), Nat.toDigits 10 x.textLead.natAbs)⟩ := by
  unfold numeral
  simp only [hx, Bool.false_eq_true, if_false, if_neg hlead]
  obtain ⟨first, rest, hds⟩ := List.exists_cons_of_ne_nil
    (Nat.toDigits_ne_nil : Nat.toDigits 10 x.shortest.digits ≠ [])
  refine ⟨first, rest, hds, ?_⟩
  rw [hds]
  cases rest <;> rfl

/-- **The digits of the text stand for the shortest decimal.** -/
theorem exact_numeral {x : Binary64} (hx : x.isZero = false) :
    x.numeral.exact = x.shortest.value := by
  unfold Numeral.exact Scientific.value
  by_cases hplain : -5 ≤ x.textLead ∧ x.textLead < 16
  · obtain ⟨whole, fraction, hnumeral, hdigits, hlength⟩ :=
      numeral_point hx hplain.1 hplain.2
    rw [hnumeral, Numeral.digits, Option.getD_some, hdigits, hlength]
    show _ * (10 : ℚ) ^ (0 - _ : Int) = _
    rw [Nat.cast_mul, Nat.cast_pow, Nat.cast_ofNat, mul_assoc, ← zpow_natCast,
      ← zpow_add₀ (by norm_num)]
    congr 2
    omega
  · obtain ⟨first, rest, hds, hnumeral⟩ := numeral_scientific hx hplain
    have hfraction : (if rest.isEmpty then none else some rest).getD [] = rest := by
      cases rest <;> rfl
    have hexponent : x.numeral.writtenExponent = x.textLead := by
      rw [hnumeral]
      show (if decide (x.textLead < 0) = true then
        -(Nat.ofDigitChars 10 (Nat.toDigits 10 x.textLead.natAbs) 0 : Int)
        else Nat.ofDigitChars 10 (Nat.toDigits 10 x.textLead.natAbs) 0) = x.textLead
      rw [Nat.ofDigitChars_ten_toDigits]
      simp only [decide_eq_true_eq]
      omega
    have hvalue : Nat.ofDigitChars 10 (first :: rest) 0 = x.shortest.digits := by
      rw [← hds, Nat.ofDigitChars_ten_toDigits]
    have hlead : x.textLead = x.shortest.exponent + (first :: rest).length - 1 := hds ▸ rfl
    rw [hexponent, hnumeral, Numeral.digits, hfraction, List.singleton_append, hvalue, hlead]
    congr 2
    rw [List.length_cons]
    omega

/-- The numeral of a number is written as in a document. -/
theorem wellFormed_numeral (x : Binary64) : x.numeral.WellFormed := by
  have hzero : AreDigits ['0'] :=
    ⟨List.cons_ne_nil _ _, fun c hc => List.mem_singleton.mp hc ▸ rfl⟩
  cases hx : x.isZero with
  | true =>
    rw [numeral, if_pos hx]
    exact Numeral.wellFormed_point _ hzero (fun _ => rfl) hzero
  | false =>
    have hds : AreDigits (Nat.toDigits 10 x.shortest.digits) := areDigits_toDigits _
    have hfirst : (Nat.toDigits 10 x.shortest.digits).head? ≠ some '0' := fun h =>
      (readsAs_shortest hx).2.1.ne' (head?_toDigits h)
    have hlead : x.textLead =
        x.shortest.exponent + (Nat.toDigits 10 x.shortest.digits).length - 1 := rfl
    unfold numeral
    simp only [hx, Bool.false_eq_true, if_false]
    split
    · split
      · refine Numeral.wellFormed_point _ (hds.append_zeros _) (fun h => ?_) hzero
        exact absurd (List.head?_append_of_ne_nil _ hds.1 ▸ h) hfirst
      split
      · refine Numeral.wellFormed_point _ (hds.take _) (fun h => ?_) (hds.drop (by omega))
        exact absurd (List.head?_take ▸ h) (by simpa using hfirst)
      · exact Numeral.wellFormed_point _ hzero (fun _ => rfl) (hds.zeros_append _)
    · exact
        { whole := hds.take 0
          first := fun h => absurd (List.head?_take ▸ h) (by simpa using hfirst)
          fraction := by
            intro ds hfraction
            split at hfraction
            · exact nomatch hfraction
            · next hone =>
              obtain rfl := Option.some.inj hfraction
              have := List.length_pos_iff.mpr hds.1
              exact hds.drop (by omega)
          exponent := fun _ hexponent => Option.some.inj hexponent ▸ areDigits_toDigits _ }

/-- A number in floating point has a point or an exponent. -/
theorem pointed_numeral (x : Binary64) :
    x.numeral.fraction.isSome = true ∨ x.numeral.exponent.isSome = true := by
  unfold numeral
  dsimp only
  repeat' split
  all_goals simp

theorem eq_zero_of_isZero {x : Binary64} (hx : x.isZero = true) : x = zero x.negative := by
  obtain ⟨negative, mantissa, exponent, hlt, hle, hnormal⟩ := x
  obtain rfl : mantissa = 0 := by simpa [isZero] using hx
  obtain rfl : exponent = 0 := hnormal.resolve_left (by decide)
  rfl

/-- **A number in floating point is given by its numeral.** -/
theorem numeral_inj {x y : Binary64} (h : x.numeral = y.numeral) : x = y := by
  have hsign : x.negative = y.negative := by
    rw [← negative_numeral x, ← negative_numeral y, h]
  have hzero : ∀ {z : Binary64}, z.isZero = true → z.numeral.exact = 0 := by
    intro z hz
    rw [numeral, if_pos hz]
    simp [Numeral.exact, Numeral.digits, Nat.ofDigitChars_cons]
  have hpos : ∀ {z : Binary64}, z.isZero = false → 0 < z.numeral.exact := by
    intro z hz
    rw [exact_numeral hz]
    exact (readsAs_shortest hz).1.pos hz
  cases hx : x.isZero <;> cases hy : y.isZero
  · have hxreads := (readsAs_shortest hx).1
    have hyreads := (readsAs_shortest hy).1
    rw [← exact_numeral hy, ← h, exact_numeral hx] at hyreads
    exact hxreads.unique hyreads (hxreads.pos hx).le hsign
  · exact absurd (h ▸ hzero hy) (hpos hx).ne'
  · exact absurd (h ▸ hzero hx) (hpos hy).ne'
  · rw [eq_zero_of_isZero hx, eq_zero_of_isZero hy, hsign]

end Binary64

/-! ### All numbers -/

namespace Number

/-- The numeral that is the text of a number. -/
def numeral : Number → Numeral
  | .integer n _ => ⟨decide (n < 0), Nat.toDigits 10 n.natAbs, none, none⟩
  | .float x => x.numeral

theorem toList_text (a : Number) : a.text.toList = a.numeral.chars := by
  cases a with
  | float x => exact x.toList_text
  | integer n fits =>
    cases n with
    | ofNat n =>
      show (toString n).toList = Nat.toDigits 10 n ++ []
      rw [Nat.toString_eq_ofList_toDigits, String.toList_ofList, List.append_nil]
    | negSucc n =>
      have hsign : decide (Int.negSucc n < 0) = true := decide_eq_true (Int.negSucc_lt_zero n)
      show ("-" ++ toString (n + 1)).toList = signChars (decide (Int.negSucc n < 0)) ++
        (Nat.toDigits 10 (n + 1) ++ [])
      rw [hsign, Nat.toString_eq_ofList_toDigits, String.toList_append, String.toList_ofList,
        String.toList_ofList, List.append_nil]
      rfl

theorem wellFormed_numeral (a : Number) : a.numeral.WellFormed := by
  cases a with
  | float x => exact x.wellFormed_numeral
  | integer n fits =>
    exact
      { whole := areDigits_toDigits _
        first := fun h => by
          show Nat.toDigits 10 n.natAbs = ['0']
          rw [head?_toDigits h, Nat.toDigits_zero]
        fraction := nofun
        exponent := nofun }

theorem numeral_float_ne_integer (x : Binary64) (n : Int)
    (fits : leastInteger ≤ n ∧ n < integerLimit) :
    (float x).numeral ≠ (integer n fits).numeral := by
  intro h
  have hfraction : x.numeral.fraction = none := congrArg Numeral.fraction h
  have hexponent : x.numeral.exponent = none := congrArg Numeral.exponent h
  have hpointed := x.pointed_numeral
  rw [hfraction, hexponent] at hpointed
  exact absurd hpointed (by decide)

/-- **A number is given by its numeral.** -/
theorem numeral_inj {a b : Number} (h : a.numeral = b.numeral) : a = b := by
  cases a with
  | float x =>
    cases b with
    | float y => exact congrArg _ (Binary64.numeral_inj h)
    | integer n fits => exact absurd h (numeral_float_ne_integer x n fits)
  | integer m fits =>
    cases b with
    | float y => exact absurd h.symm (numeral_float_ne_integer y m fits)
    | integer n fits =>
      have hsign : decide (m < 0) = decide (n < 0) := congrArg Numeral.negative h
      have hdigits : m.natAbs = n.natAbs := by
        have hwhole : Nat.toDigits 10 m.natAbs = Nat.toDigits 10 n.natAbs :=
          congrArg Numeral.whole h
        rw [← Nat.ofDigitChars_ten_toDigits (n := m.natAbs), hwhole,
          Nat.ofDigitChars_ten_toDigits]
      rw [decide_eq_decide] at hsign
      obtain rfl : m = n := by omega
      rfl

end Number
end PageFlow
