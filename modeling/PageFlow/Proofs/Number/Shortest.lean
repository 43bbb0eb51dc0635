/-
# The text decimal of a number

The search for the shortest decimal always ends with one that reads back as the
number: on the last grid the step is so small that a point next to the number
is in its interval. A number that is whole is found on a grid of whole numbers.
The decimal has at most seventeen digits, or is the first power of ten behind, and no
zeros at its end.

Key definitions: `Scientific.value`.
Key theorems: `Binary64.readsAs_of_onGrid`, `Binary64.isSome_onGrid_of_fine`,
`Binary64.leadingExponent_bounds`, `Binary64.readsAs_shortest`,
`Binary64.digits_shortest_mod`, `Binary64.exponent_shortest_nonneg`.
-/
import PageFlow.Proofs.Number.Interval

namespace PageFlow

-- Powers are those of the core library, whatever else is imported.
attribute [local instance (2000)] instPowNat

/-- The value of a decimal in scientific form. -/
def Scientific.value (s : Scientific) : ℚ := s.digits * 10 ^ s.exponent

/-- Moving zeros into the exponent keeps the value and makes nothing finer. -/
theorem Scientific.trim_spec : ∀ (fuel : Nat) (s : Scientific),
    (s.trim fuel).value = s.value ∧ (s.trim fuel).digits ≤ s.digits ∧
      (0 < s.digits → 0 < (s.trim fuel).digits) ∧ s.exponent ≤ (s.trim fuel).exponent
  | 0, s => ⟨rfl, Nat.le_refl _, id, Int.le_refl _⟩
  | fuel + 1, s => by
    unfold trim
    split
    · rename_i hzero
      obtain ⟨hvalue, hle, hpos, hexponent⟩ := trim_spec fuel ⟨s.digits / 10, s.exponent + 1⟩
      dsimp only at hle hpos hexponent
      have hdigits : s.digits = s.digits / 10 * 10 := by omega
      refine ⟨?_, by omega, fun _ => hpos (by omega), by omega⟩
      rw [hvalue, value, value, zpow_add_one₀ (by norm_num)]
      have : (s.digits : ℚ) = (s.digits / 10 : Nat) * 10 := by exact_mod_cast hdigits
      rw [this]
      ring
    · exact ⟨rfl, Nat.le_refl _, id, Int.le_refl _⟩

/-- With fuel for all digits but one no zero is left at the end. -/
theorem Scientific.trim_mod : ∀ (fuel : Nat) (s : Scientific), 0 < s.digits →
    s.digits < 10 ^ (fuel + 1) → (s.trim fuel).digits % 10 ≠ 0
  | 0, s, hpos, hlt => by
    rw [Nat.zero_add, Nat.pow_one] at hlt
    rw [trim, Nat.mod_eq_of_lt hlt]
    exact hpos.ne'
  | fuel + 1, s, hpos, hlt => by
    unfold trim
    split
    · refine trim_mod fuel _ (by dsimp only; omega) ?_
      rw [Nat.pow_succ] at hlt
      dsimp only
      omega
    · omega

namespace Binary64

/-! ### Grids -/

theorem ten_zpow_mul (k : ℤ) : (10 : ℚ) ^ k * (10 ^ (-k).toNat : Nat) = (10 ^ k.toNat : Nat) := by
  push_cast
  rw [← zpow_natCast, ← zpow_natCast, ← zpow_add₀ (by norm_num)]
  congr 1
  omega

theorem gridPoint_eq (k : ℤ) (b : Nat) :
    ((b * (10 ^ k.toNat * (4 * one)) : Nat) : ℚ) =
      4 * one * (b * 10 ^ k) * (10 ^ (-k).toNat : Nat) := by
  have := ten_zpow_mul k
  rw [Nat.cast_mul, Nat.cast_mul, ← this]
  push_cast
  ring

theorem gridPoint_bounds (x : Binary64) (k : ℤ) :
    ((x.interval.2.1 * 10 ^ (-k).toNat / (10 ^ k.toNat * (4 * one)) : Nat) : ℚ) * 10 ^ k * one ≤
        x.magnitude ∧
      (x.magnitude : ℚ) <
        ((x.interval.2.1 * 10 ^ (-k).toNat / (10 ^ k.toNat * (4 * one)) + 1 : Nat) : ℚ) *
          10 ^ k * one := by
  have hup : 0 < 10 ^ k.toNat * (4 * one) :=
    Nat.mul_pos (Nat.pow_pos (by decide)) (Nat.mul_pos (by decide) one_pos)
  have hdown : (0 : ℚ) < (10 ^ (-k).toNat : Nat) := by
    exact_mod_cast Nat.pow_pos (by decide)
  have hvalue : x.interval.2.1 = 4 * x.magnitude := by
    simp only [interval, magnitude, Nat.mul_assoc]
  have hle := Nat.div_mul_le_self (x.interval.2.1 * 10 ^ (-k).toNat) (10 ^ k.toNat * (4 * one))
  have hlt := Nat.lt_mul_div_succ (x.interval.2.1 * 10 ^ (-k).toNat) hup
  rw [Nat.mul_comm _ (_ + 1)] at hlt
  generalize x.interval.2.1 * 10 ^ (-k).toNat / (10 ^ k.toNat * (4 * one)) = b at *
  rw [hvalue] at hle hlt
  constructor
  · have : ((b * (10 ^ k.toNat * (4 * one)) : Nat) : ℚ) ≤
        (4 * x.magnitude * 10 ^ (-k).toNat : Nat) := by exact_mod_cast hle
    rw [gridPoint_eq, Nat.cast_mul (4 * x.magnitude)] at this
    have := le_of_mul_le_mul_right this hdown
    push_cast at this
    linarith
  · have : ((4 * x.magnitude * 10 ^ (-k).toNat : Nat) : ℚ) <
        ((b + 1) * (10 ^ k.toNat * (4 * one)) : Nat) := by exact_mod_cast hlt
    rw [gridPoint_eq, Nat.cast_mul (4 * x.magnitude)] at this
    have := lt_of_mul_lt_mul_right this hdown.le
    push_cast at this ⊢
    linarith

/-- What is found on a grid reads back, and is the point below the number or the
next one. -/
theorem readsAs_of_onGrid {x : Binary64} {k : ℤ} {b : Nat} (h : x.onGrid k = some b) :
    x.ReadsAs (b * 10 ^ k) ∧ ((b : ℚ) - 1) * 10 ^ k * one ≤ x.magnitude := by
  have hbounds := (gridPoint_bounds x k).1
  have hstep : (0 : ℚ) ≤ 10 ^ k * one :=
    mul_nonneg (zpow_nonneg (by norm_num) k) (Nat.cast_nonneg one)
  have hpoint : ∀ b : Nat, x.reads (b * (10 ^ k.toNat * (4 * one))) (10 ^ (-k).toNat) = true →
      x.ReadsAs (b * 10 ^ k) := fun b hreads =>
    ⟨_, _, Nat.pow_pos (by decide), hreads, gridPoint_eq k b⟩
  unfold onGrid at h
  dsimp only at h
  generalize x.interval.2.1 * 10 ^ (-k).toNat / (10 ^ k.toNat * (4 * one)) = below at *
  have hnext : (((below + 1 : Nat) : ℚ) - 1) * 10 ^ k * one ≤ x.magnitude := by
    push_cast
    linarith
  have hself : ((below : ℚ) - 1) * 10 ^ k * one ≤ x.magnitude := by linarith
  split at h
  · rename_i hbelow habove
    repeat' split at h
    all_goals obtain rfl := Option.some.inj h
    · exact ⟨hpoint _ hbelow, hself⟩
    · exact ⟨hpoint _ habove, hnext⟩
    · exact ⟨hpoint _ hbelow, hself⟩
    · exact ⟨hpoint _ habove, hnext⟩
  · rename_i hbelow _
    obtain rfl := Option.some.inj h
    exact ⟨hpoint _ hbelow, hself⟩
  · rename_i _ habove
    obtain rfl := Option.some.inj h
    exact ⟨hpoint _ habove, hnext⟩
  · cases h

theorem isSome_onGrid {x : Binary64} {k : ℤ} {b : Nat}
    (hb : b = x.interval.2.1 * 10 ^ (-k).toNat / (10 ^ k.toNat * (4 * one)) ∨
      b = x.interval.2.1 * 10 ^ (-k).toNat / (10 ^ k.toNat * (4 * one)) + 1)
    (h : x.reads (b * (10 ^ k.toNat * (4 * one))) (10 ^ (-k).toNat) = true) :
    (x.onGrid k).isSome = true := by
  unfold onGrid
  dsimp only
  split
  · repeat' split
    all_goals rfl
  · rfl
  · rfl
  · rename_i hbelow habove
    rcases hb with rfl | rfl
    · rw [h] at hbelow
      cases hbelow
    · rw [h] at habove
      cases habove

/-- On a grid whose step is below `2 ^ -53` of the number a point is found. -/
theorem isSome_onGrid_of_fine {x : Binary64} {k : ℤ}
    (hfine : 10 ^ k * (one : ℚ) * 2 ^ (53 : Nat) < x.magnitude) : (x.onGrid k).isSome = true := by
  obtain ⟨hlow, hhigh⟩ := gridPoint_bounds x k
  have hreads : ∀ b : Nat, |b * 10 ^ k * one - (x.magnitude : ℚ)| ≤ 10 ^ k * one / 2 →
      x.reads (b * (10 ^ k.toNat * (4 * one))) (10 ^ (-k).toNat) = true := by
    intro b hb
    refine reads_of_near (Nat.pow_pos (by decide)) (gridPoint_eq k b) ?_
    linarith
  by_cases hnear : (x.magnitude : ℚ) - (x.interval.2.1 * 10 ^ (-k).toNat /
      (10 ^ k.toNat * (4 * one)) : Nat) * 10 ^ k * one ≤ 10 ^ k * one / 2
  · refine isSome_onGrid (.inl rfl) (hreads _ ?_)
    rw [abs_le]
    constructor <;> linarith
  · refine isSome_onGrid (.inr rfl) (hreads _ ?_)
    rw [abs_le]
    push_cast at hhigh ⊢
    constructor <;> linarith

theorem isSome_onGrid_zero {x : Binary64} {n : Nat} (hx : x.magnitude = n * one)
    (hpos : 0 < n) : (x.onGrid 0).isSome = true := by
  have hmagnitude : (0 : ℚ) < x.magnitude := by
    rw [hx, Nat.cast_pos]
    exact Nat.mul_pos hpos one_pos
  have hbelow : n = x.interval.2.1 * 10 ^ (-(0 : ℤ)).toNat /
      (10 ^ (0 : ℤ).toNat * (4 * one)) := by
    have hvalue : x.interval.2.1 = n * (4 * one) := by
      have : x.interval.2.1 = 4 * x.magnitude := by simp only [interval, magnitude, Nat.mul_assoc]
      rw [this, hx, Nat.mul_left_comm]
    have hunit : 0 < 4 * one := Nat.mul_pos (by decide) one_pos
    simp only [neg_zero, Int.toNat_zero, Nat.pow_zero, Nat.mul_one, Nat.one_mul, hvalue,
      Nat.mul_div_cancel n hunit]
  refine isSome_onGrid (.inl hbelow) ?_
  refine reads_of_near (Nat.pow_pos (by decide)) (gridPoint_eq 0 n) ?_
  have hsame : (n : ℚ) * 10 ^ (0 : ℤ) * one = x.magnitude := by
    rw [hx, zpow_zero, mul_one, Nat.cast_mul]
  rw [hsame, sub_self, abs_zero, zero_mul]
  exact hmagnitude

/-! ### The leading digit -/

theorem one_le_ten_pow : one ≤ 10 ^ (400 : Nat) := by
  obtain ⟨k, hk, hone⟩ := exists_one_eq
  obtain ⟨j, hj⟩ : ∃ j, k = 3 * j := ⟨358, hk⟩
  have hten : ∀ l, 358 ≤ l → 10 ^ j ≤ 10 ^ l :=
    fun l hl => Nat.pow_le_pow_right (by decide) (by omega)
  calc one = (2 ^ (3 : Nat)) ^ j := by rw [hone, hj, Nat.pow_mul]
    _ ≤ 10 ^ j := Nat.pow_le_pow_left (by decide) j
    _ ≤ 10 ^ (400 : Nat) := hten 400 (by decide)

theorem length_toDigits_bounds {n : Nat} (hn : 0 < n) :
    10 ^ ((Nat.toDigits 10 n).length - 1) ≤ n ∧ n < 10 ^ (Nat.toDigits 10 n).length := by
  have hpos : 0 < (Nat.toDigits 10 n).length := Nat.length_toDigits_pos
  refine ⟨?_, (Nat.length_toDigits_le_iff (by decide) hpos).mp (Nat.le_refl _)⟩
  by_cases hone : (Nat.toDigits 10 n).length - 1 = 0
  · rw [hone]
    exact hn
  · have := mt (Nat.length_toDigits_le_iff (n := n) (by decide : 1 < 10) (by omega)).mpr
      (by omega : ¬ (Nat.toDigits 10 n).length ≤ (Nat.toDigits 10 n).length - 1)
    omega

/-- The leading exponent is that of the power of ten next below the number. -/
theorem leadingExponent_bounds {x : Binary64} (hx : x.isZero = false) :
    10 ^ x.leadingExponent * (one : ℚ) ≤ x.magnitude ∧
      (x.magnitude : ℚ) < 10 ^ (x.leadingExponent + 1) * one := by
  have hmagnitude := magnitude_pos_iff.mpr hx
  have hn : 0 < x.magnitude * 10 ^ (400 : Nat) / one := by
    refine Nat.div_pos (Nat.le_trans one_le_ten_pow ?_) one_pos
    exact Nat.le_mul_of_pos_left _ hmagnitude
  have hlength : 0 < (Nat.toDigits 10 (x.magnitude * 10 ^ (400 : Nat) / one)).length :=
    Nat.length_toDigits_pos
  obtain ⟨hlow, hhigh⟩ := length_toDigits_bounds hn
  have hle := Nat.div_mul_le_self (x.magnitude * 10 ^ (400 : Nat)) one
  have hlt := Nat.lt_mul_div_succ (x.magnitude * 10 ^ (400 : Nat)) one_pos
  unfold leadingExponent
  generalize (Nat.toDigits 10 (x.magnitude * 10 ^ (400 : Nat) / one)).length = digits at *
  generalize x.magnitude * 10 ^ (400 : Nat) / one = n at *
  have hten : (0 : ℚ) < 10 ^ (400 : Nat) := by positivity
  constructor
  · have hcount : 10 ^ (digits - 1) * one ≤ x.magnitude * 10 ^ (400 : Nat) :=
      Nat.le_trans (Nat.mul_le_mul_right one hlow) hle
    have hcount : ((10 ^ (digits - 1) * one : Nat) : ℚ) ≤ (x.magnitude * 10 ^ (400 : Nat) : Nat) :=
      Nat.cast_le.mpr hcount
    simp only [Nat.cast_mul, Nat.cast_pow, Nat.cast_ofNat] at hcount
    have hexponent : (10 : ℚ) ^ ((digits : ℤ) - 401) * 10 ^ (400 : Nat) = 10 ^ (digits - 1) := by
      rw [← zpow_natCast, ← zpow_natCast, ← zpow_add₀ (by norm_num)]
      congr 1
      omega
    refine le_of_mul_le_mul_right ?_ hten
    calc 10 ^ ((digits : ℤ) - 401) * (one : ℚ) * 10 ^ (400 : Nat)
        = 10 ^ (digits - 1) * one := by rw [← hexponent, mul_right_comm]
      _ ≤ x.magnitude * 10 ^ (400 : Nat) := hcount
  · have hcount : x.magnitude * 10 ^ (400 : Nat) < 10 ^ digits * one := by
      refine Nat.lt_of_lt_of_le hlt ?_
      rw [Nat.mul_comm]
      exact Nat.mul_le_mul_right one hhigh
    have hcount : ((x.magnitude * 10 ^ (400 : Nat) : Nat) : ℚ) < (10 ^ digits * one : Nat) :=
      Nat.cast_lt.mpr hcount
    simp only [Nat.cast_mul, Nat.cast_pow, Nat.cast_ofNat] at hcount
    have hexponent : (10 : ℚ) ^ ((digits : ℤ) - 401 + 1) * 10 ^ (400 : Nat) = 10 ^ digits := by
      rw [← zpow_natCast, ← zpow_natCast, ← zpow_add₀ (by norm_num)]
      congr 1
      omega
    refine lt_of_mul_lt_mul_right ?_ hten.le
    calc x.magnitude * 10 ^ (400 : Nat) < 10 ^ digits * (one : ℚ) := hcount
      _ = 10 ^ ((digits : ℤ) - 401 + 1) * one * 10 ^ (400 : Nat) := by
        rw [← hexponent, mul_right_comm]

/-! ### The search -/

/-- If some grid of the search has a point, the search ends at one that is no finer. -/
theorem onGrid_shortestFrom {x : Binary64} {j : ℤ} (hj : (x.onGrid j).isSome = true) :
    ∀ (count : Nat) (k : ℤ), k - count < j → j ≤ k →
      x.onGrid (x.shortestFrom k count).exponent = some (x.shortestFrom k count).digits ∧
        j ≤ (x.shortestFrom k count).exponent
  | 0, k, hlow, hhigh => by omega
  | count + 1, k, hlow, hhigh => by
    unfold shortestFrom
    split
    · rename_i digits hdigits
      exact ⟨hdigits, hhigh⟩
    · rename_i hnone
      have hne : j ≠ k := by
        rintro rfl
        rw [hnone] at hj
        cases hj
      exact onGrid_shortestFrom hj count (k - 1) (by omega) (by omega)

theorem shortestFrom_of_isSome {x : Binary64} {j : ℤ} (hj : (x.onGrid j).isSome = true)
    (hlow : x.leadingExponent - 17 < j) (hhigh : j ≤ x.leadingExponent) :
    x.ReadsAs (x.shortestFrom x.leadingExponent 17).value ∧
      (((x.shortestFrom x.leadingExponent 17).digits : ℚ) - 1) *
        10 ^ (x.shortestFrom x.leadingExponent 17).exponent * one ≤ x.magnitude ∧
      j ≤ (x.shortestFrom x.leadingExponent 17).exponent := by
  obtain ⟨hgrid, hexponent⟩ := onGrid_shortestFrom hj 17 x.leadingExponent hlow hhigh
  obtain ⟨hreads, hbelow⟩ := readsAs_of_onGrid hgrid
  exact ⟨hreads, hbelow, hexponent⟩

theorem isSome_onGrid_last {x : Binary64} (hx : x.isZero = false) :
    (x.onGrid (x.leadingExponent - 16)).isSome = true := by
  refine isSome_onGrid_of_fine (lt_of_lt_of_le ?_ (leadingExponent_bounds hx).1)
  have hstep : (10 : ℚ) ^ x.leadingExponent = 10 ^ (x.leadingExponent - 16) * 10 ^ (16 : Nat) := by
    rw [← zpow_natCast, ← zpow_add₀ (by norm_num)]
    congr 1
    omega
  have hpos : (0 : ℚ) < 10 ^ (x.leadingExponent - 16) * one :=
    mul_pos (zpow_pos (by norm_num) _) (Nat.cast_pos.mpr one_pos)
  calc 10 ^ (x.leadingExponent - 16) * (one : ℚ) * 2 ^ (53 : Nat)
      < 10 ^ (x.leadingExponent - 16) * one * 10 ^ (16 : Nat) :=
        mul_lt_mul_of_pos_left (by norm_num) hpos
    _ = 10 ^ x.leadingExponent * one := by rw [hstep, mul_right_comm]

theorem ReadsAs.pos {x : Binary64} {v : ℚ} (hx : x.isZero = false) (h : x.ReadsAs v) : 0 < v := by
  obtain ⟨p, q, hq, hreads, hp⟩ := h
  have hlow := (within_of_reads hreads).low
  have hmantissa : 0 < 4 * x.mantissa - 2 := by
    have : x.mantissa ≠ 0 := by simpa [isZero] using hx
    omega
  have hpos : 0 < p :=
    Nat.lt_of_lt_of_le (Nat.mul_pos hmantissa (Nat.mul_pos (Nat.two_pow_pos _) hq)) hlow
  have hpos : (0 : ℚ) < 4 * one * v * q := hp ▸ Nat.cast_pos.mpr hpos
  have hone : (0 : ℚ) < one := Nat.cast_pos.mpr one_pos
  by_contra hcon
  have : 4 * (one : ℚ) * v * q ≤ 0 :=
    mul_nonpos_of_nonpos_of_nonneg
      (mul_nonpos_of_nonneg_of_nonpos (by linarith) (not_lt.mp hcon)) (Nat.cast_nonneg q)
  linarith

/-- The search ends at a decimal that reads back. It is not zero, and no longer than the
first number of eighteen digits. -/
theorem readsAs_shortestFrom {x : Binary64} (hx : x.isZero = false) :
    x.ReadsAs (x.shortestFrom x.leadingExponent 17).value ∧
      0 < (x.shortestFrom x.leadingExponent 17).digits ∧
      (x.shortestFrom x.leadingExponent 17).digits ≤ 10 ^ (17 : Nat) := by
  obtain ⟨hreads, hbelow, hexponent⟩ :=
    shortestFrom_of_isSome (isSome_onGrid_last hx) (by omega) (by omega)
  have hhigh := (leadingExponent_bounds hx).2
  generalize x.shortestFrom x.leadingExponent 17 = s at *
  refine ⟨hreads, ?_, ?_⟩
  · have hvalue := hreads.pos hx
    by_contra hcon
    have hzero : s.digits = 0 := by omega
    simp [Scientific.value, hzero] at hvalue
  · have hone : (0 : ℚ) < one := Nat.cast_pos.mpr one_pos
    have hstep : (0 : ℚ) < 10 ^ s.exponent := zpow_pos (by norm_num) _
    have hbound : (10 : ℚ) ^ (x.leadingExponent + 1) ≤ 10 ^ (17 : Nat) * 10 ^ s.exponent := by
      rw [← zpow_natCast, ← zpow_add₀ (by norm_num)]
      exact zpow_le_zpow_right₀ (by norm_num) (by push_cast; omega)
    have hlt : ((s.digits : ℚ) - 1) * 10 ^ s.exponent < 10 ^ (17 : Nat) * 10 ^ s.exponent :=
      lt_of_lt_of_le (lt_of_mul_lt_mul_right (hbelow.trans_lt hhigh) hone.le) hbound
    have hlt := lt_of_mul_lt_mul_right hlt hstep.le
    have : (s.digits : ℚ) < 10 ^ (17 : Nat) + 1 := by linarith
    exact Nat.lt_succ_iff.mp (by exact_mod_cast this)

/-- **The shortest decimal reads back.** -/
theorem readsAs_shortest {x : Binary64} (hx : x.isZero = false) :
    x.ReadsAs x.shortest.value ∧ 0 < x.shortest.digits ∧
      x.shortest.digits ≤ 10 ^ (17 : Nat) := by
  obtain ⟨hreads, hpos, hle⟩ := readsAs_shortestFrom hx
  obtain ⟨hvalue, hdigits, hkept, -⟩ :=
    (x.shortestFrom x.leadingExponent 17).trim_spec 17
  unfold shortest
  exact ⟨hvalue ▸ hreads, hkept hpos, hdigits.trans hle⟩

theorem digits_shortest_mod {x : Binary64} (hx : x.isZero = false) :
    x.shortest.digits % 10 ≠ 0 := by
  obtain ⟨-, hpos, hle⟩ := readsAs_shortestFrom hx
  exact Scientific.trim_mod 17 _ hpos (Nat.lt_of_le_of_lt hle (by decide))

/-- The shortest decimal of a whole number is whole. -/
theorem exponent_shortest_nonneg {x : Binary64} {n : Nat} (hx : x.magnitude = n * one)
    (hpos : 0 < n) : 0 ≤ x.shortest.exponent := by
  have hzero : x.isZero = false := by
    rw [← magnitude_pos_iff, hx]
    exact Nat.mul_pos hpos one_pos
  have hlead : 0 ≤ x.leadingExponent := by
    have hone : (0 : ℚ) < one := Nat.cast_pos.mpr one_pos
    have hle : (one : ℚ) ≤ x.magnitude := by
      rw [hx, Nat.cast_le]
      exact Nat.le_mul_of_pos_left one hpos
    have hhigh := hle.trans_lt (leadingExponent_bounds hzero).2
    by_contra hcon
    have : (10 : ℚ) ^ (x.leadingExponent + 1) ≤ 1 :=
      zpow_le_one_of_nonpos₀ (by norm_num) (by omega)
    have := mul_le_of_le_one_left hone.le this
    linarith
  have hle := (Scientific.trim_spec 17 (x.shortestFrom x.leadingExponent 17)).2.2.2
  unfold shortest
  refine le_trans ?_ hle
  by_cases hlast : x.leadingExponent ≤ 16
  · exact (shortestFrom_of_isSome (isSome_onGrid_zero hx hpos) (by omega) hlead).2.2
  · have := (shortestFrom_of_isSome (isSome_onGrid_last hzero) (by omega) (by omega)).2.2
    omega

end Binary64
end PageFlow
