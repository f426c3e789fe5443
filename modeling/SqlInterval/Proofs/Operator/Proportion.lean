import SqlInterval.Proofs.Operator.Multiple
import SqlInterval.Proofs.Operator.Ratio

/-!
# Multiplying by a ratio

A ratio has twice as many digits after the point as an absolute form can have in all. Multiplied by the
divisor, its rounding error is thus less than half a month or half a nanosecond, and the dividend comes back
but for what is cut off at the divisor's trailing unit.
-/

namespace SqlInterval

/-! ## What is cut off from a number near an integer -/

namespace CutsOff

variable {unit x y : ℚ}

/-- What is left after the cut is zero, or has the sign of the whole. -/
theorem sign_eq (h : CutsOff unit x y) (hy : y ≠ 0) : SignType.sign y = SignType.sign x := by
  obtain ⟨n, rfl⟩ := h.multiple
  have hunit : unit ≤ |n * unit| := by
    have hne : n ≠ 0 := fun hzero => hy (by rw [hzero, Int.cast_zero, zero_mul])
    rw [abs_mul, abs_of_pos h.unit_pos]
    exact le_mul_of_one_le_left h.unit_pos.le (one_le_abs_intCast hne)
  have hnear := h.near.trans_le hunit
  rw [abs_sub_comm] at hnear
  exact (sign_eq_of_abs_sub_lt hnear).symm

/-- Less than half of one is not enough to take the cut past the integer, or more than a unit below it. -/
theorem natAbs_bounds {u : Nat} {a c : Int} (h : CutsOff u x c) (hx : |a - x| < 1 / 2) :
    c.natAbs ≤ a.natAbs ∧ a.natAbs ≤ c.natAbs + u := by
  have hwithin := h.within
  have hloss : |x| - |(c : ℚ)| ≤ |x - c| := abs_sub_abs_le_abs_sub _ _
  have habove : |x| - |(a : ℚ)| ≤ |a - x| := abs_sub_comm x a ▸ abs_sub_abs_le_abs_sub _ _
  have hbelow : |(a : ℚ)| - |x| ≤ |a - x| := abs_sub_abs_le_abs_sub _ _
  rw [abs_intCast] at hwithin hloss habove hbelow
  constructor
  · have hlt : (c.natAbs : ℚ) < (a.natAbs + 1 : Nat) := by
      rw [Nat.cast_succ]
      linarith
    exact Nat.le_of_lt_succ (Nat.cast_lt.mp hlt)
  · have hlt : (a.natAbs : ℚ) < (c.natAbs + u + 1 : Nat) := by
      rw [Nat.cast_succ, Nat.cast_add]
      linarith [h.near]
    exact Nat.le_of_lt_succ (Nat.cast_lt.mp hlt)

end CutsOff

/-! ## The error of a ratio -/

/-- The error of a ratio with `2 * k` digits is less than one half, multiplied by a divisor of `k` digits. -/
theorem RoundsHalfDown.mul_divisor_near {a b : Int} {k : Nat} {y : ℚ} (hb : b.natAbs < 10 ^ k)
    (hne : b ≠ 0) (h : RoundsHalfDown (10 ^ (-(2 * k : Nat) : Int)) ((a : ℚ) / b) y) :
    |a - b * y| < 1 / 2 := by
  have hpow : (0 : ℚ) < 10 ^ (2 * k) := pow_pos (by decide) _
  have hdist : |a - b * y| = |(b : ℚ)| * |(a : ℚ) / b - y| := by
    rw [← abs_mul, mul_sub, mul_div_cancel₀ _ (Int.cast_ne_zero.mpr hne)]
  have hlt := Decimal.abs_lt_pow hb
  have hnear := h.near
  rw [zpow_neg, zpow_natCast] at hnear
  calc
    |a - b * y| = |(b : ℚ)| * |(a : ℚ) / b - y| := hdist
    _ ≤ |(b : ℚ)| * ((10 ^ (2 * k))⁻¹ / 2) := mul_le_mul_of_nonneg_left hnear (abs_nonneg _)
    _ < 10 ^ (2 * k) * ((10 ^ (2 * k))⁻¹ / 2) :=
      mul_lt_mul_of_pos_right hlt (half_pos (inv_pos.mpr hpow))
    _ = 1 / 2 := by rw [← mul_div_assoc, mul_inv_cancel₀ hpow.ne']

/-! ## Intervals -/

variable {session : ZoneOffset} {forced : Option SqlType} {i j : Interval}

/-- The divisor multiplied by the ratio is the interval for the dividend, short of one unit at most. -/
theorem exists_multiply_ratio (session : ZoneOffset) (forced : Option SqlType) (hi : i.Valid)
    (hj : j.Valid) (hfamily : i.qualifier.isYearMonth = j.qualifier.isYearMonth)
    (hne : j.absolute ≠ 0) :
    ∃ c : Int, Delivers j.qualifier c (do
        Operator.intervalMultiplyNumeric.combine session forced (.interval j)
          (← Operator.intervalDivideInterval.combine session forced (.interval i) (.interval j))) ∧
      (c = 0 ∨ SignType.sign (c : ℚ) = SignType.sign (i.absolute : ℚ)) ∧
      c.natAbs ≤ i.absolute.natAbs ∧
      i.absolute.natAbs ≤ c.natAbs + j.qualifier.trailingUnit := by
  obtain ⟨d, hd, -, hrounds, -, hsign⟩ :=
    @exists_combine_ratio session forced i j hi hj hfamily hne
  have hnumber : (Value.decimal d).IsNumber d.toRat := .decimal d
  obtain ⟨c, hcut, hc⟩ := exists_product j hnumber
  have hdigits : j.absolute.natAbs < 10 ^ i.qualifier.absoluteDigits := by
    have hlt := hj.absolute_lt
    rwa [Qualifier.absoluteDigits, ← hfamily] at hlt
  rw [hd, ok_bind, hnumber.combine_multiply]
  refine ⟨c, hc, ?_, hcut.natAbs_bounds (hrounds.mul_divisor_near hdigits hne)⟩
  by_cases hzero : c = 0
  · exact .inl hzero
  · have hself : SignType.sign (j.absolute : ℚ) * SignType.sign (j.absolute : ℚ) = 1 := by
      rw [← sign_mul]
      exact sign_pos (mul_self_pos.mpr (Int.cast_ne_zero.mpr hne))
    have hsame := hcut.sign_eq (Int.cast_ne_zero.mpr hzero)
    rw [sign_mul, hsign, mul_left_comm, hself, mul_one] at hsame
    exact .inr hsame

theorem Interval.Valid.negative_eq (hi : i.Valid) (hj : j.Valid)
    (h : SignType.sign (j.absolute : ℚ) = SignType.sign (i.absolute : ℚ)) :
    j.negative = i.negative := by
  rw [Bool.eq_iff_iff, ← hj.absolute_neg, ← hi.absolute_neg, ← Int.cast_lt_zero (R := ℚ),
    ← sign_eq_neg_one_iff, h, sign_eq_neg_one_iff, Int.cast_lt_zero]

/-- A ratio of two intervals, multiplied by the divisor, restores the dividend in the divisor's qualifier:
with its sign, and short of its magnitude by one trailing unit at most. It fits where the dividend itself
would, and has no other fault than that it does not fit. -/
theorem multiply_ratio_restores (hi : i.Valid) (hj : j.Valid)
    (hfamily : i.qualifier.isYearMonth = j.qualifier.isYearMonth) (hzero : j.isZero = false) :
    let product := do
      Operator.intervalMultiplyNumeric.combine session forced (.interval j)
        (← Operator.intervalDivideInterval.combine session forced (.interval i) (.interval j))
    (∀ v, product = .ok v → ∃ k : Interval, v = .interval k ∧ k.Valid ∧
        k.qualifier = j.qualifier ∧ (k.isZero = true ∨ k.negative = i.negative) ∧
        k.absolute.natAbs ≤ i.absolute.natAbs ∧
        i.absolute.natAbs ≤ k.absolute.natAbs + j.qualifier.trailingUnit) ∧
      (i.absolute.natAbs / j.qualifier.leadingUnit ≤ Interval.maxLeading → ∃ v, product = .ok v) ∧
      ∀ e, product = .error e →
        ∃ leading : Int, Interval.maxLeading < leading.natAbs ∧ e = .data (.number leading) := by
  intro product
  have hne : j.absolute ≠ 0 := mt hj.absolute_eq_zero.mp (Bool.eq_false_iff.mp hzero)
  obtain ⟨c, hc, hsign, hle, hge⟩ := exists_multiply_ratio session forced hi hj hfamily hne
  refine ⟨fun v hv => ?_, fun hmax => ?_, fun e he => ?_⟩
  · obtain ⟨k, rfl, hk, hkq, rfl⟩ := hc.eq_ok_iff.mp hv
    exact ⟨k, rfl, hk, hkq, hsign.imp hk.absolute_eq_zero.mp (hi.negative_eq hk), hle, hge⟩
  · obtain ⟨v, hv, -⟩ := hc.value ((Nat.div_le_div_right hle).trans hmax)
    exact ⟨v, hv⟩
  · by_cases hmax : c.natAbs / j.qualifier.leadingUnit ≤ Interval.maxLeading
    · obtain ⟨v, hv, -⟩ := hc.value hmax
      cases hv.symm.trans he
    · have hmax := Nat.lt_of_not_le hmax
      have hroom : Interval.maxLeading < (c.tdiv j.qualifier.leadingUnit).natAbs := by
        rwa [Int.natAbs_tdiv]
      exact ⟨_, hroom, Except.error.inj (he.symm.trans (hc.fault hmax))⟩

/-- A day and one nanosecond backwards, by seven minutes and times seven minutes: the nanosecond is lost. A
month by three and times three is none, since the ratio is rounded below one third. The longest interval of
years has too many months. -/
theorem multiply_ratio_restores_backwards :
    let product (i j : Interval) : Except EvalError Value := do
      Operator.intervalMultiplyNumeric.combine 0 none (.interval j)
        (← Operator.intervalDivideInterval.combine 0 none (.interval i) (.interval j))
    let i : Interval := ⟨.dayToSecond, true, 1, 1⟩
    let j : Interval := ⟨.minute, false, 7, 0⟩
    let k : Interval := ⟨.minute, true, 1440, 0⟩
    let month : Interval := ⟨.month, false, 1, 0⟩
    let months : Interval := ⟨.month, false, 3, 0⟩
    let ages : Interval := ⟨.year, false, 999999999999999999, 0⟩
    (i.Valid ∧ j.Valid ∧ product i j = .ok (.interval k) ∧ k.negative = i.negative ∧
        k.absolute.natAbs ≤ i.absolute.natAbs ∧
        i.absolute.natAbs ≤ k.absolute.natAbs + j.qualifier.trailingUnit) ∧
      (product month months = .ok (.interval ⟨.month, false, 0, 0⟩) ∧
        month.absolute.natAbs ≤ 0 + months.qualifier.trailingUnit) ∧
      ∀ e, product ages month = .error e →
        ∃ leading : Int, Interval.maxLeading < leading.natAbs ∧ e = .data (.number leading) := by
  intro product i j k month months ages
  have hi : i.Valid := by decide
  have hj : j.Valid := by decide
  have hmonth : month.Valid := by decide
  have hmonths : months.Valid := by decide
  have hages : ages.Valid := by decide
  have hk : product i j = .ok (.interval k) := eq_ok_of_toOption (by decide +kernel)
  have hnone : product month months = .ok (.interval ⟨.month, false, 0, 0⟩) :=
    eq_ok_of_toOption (by decide +kernel)
  obtain ⟨_, heq, -, -, hsign, hle, hge⟩ :=
    (@multiply_ratio_restores 0 none i j hi hj rfl rfl).1 _ hk
  obtain rfl := Value.interval.inj heq
  obtain ⟨_, heq, -, -, -, -, hshort⟩ :=
    (@multiply_ratio_restores 0 none month months hmonth hmonths rfl rfl).1 _ hnone
  obtain rfl := Value.interval.inj heq
  exact ⟨⟨hi, hj, hk, hsign.resolve_left (by decide), hle, hge⟩, ⟨hnone, hshort⟩,
    (@multiply_ratio_restores 0 none ages month hages hmonth rfl rfl).2.2⟩

end SqlInterval
