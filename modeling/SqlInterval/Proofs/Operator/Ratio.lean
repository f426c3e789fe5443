import Mathlib.Algebra.Order.AbsoluteValue.Basic
import Mathlib.Data.Sign.Basic
import SqlInterval.Operator.Apply
import SqlInterval.Proofs.Decimal.Division
import SqlInterval.Proofs.Interval.Absolute

/-!
# Ratios of intervals

The absolute form of a valid interval has at most twenty digits where it counts months, and at most thirty-two
where it counts nanoseconds. A ratio has twice as many after the point: enough for the least of them not to
be rounded to zero, and the greatest fits in three times as many digits in all.
-/

namespace SqlInterval

/-! ## What rounding keeps -/

/-- A number that is nearer to another one than zero is has its sign. -/
theorem sign_eq_of_abs_sub_lt {x y : ℚ} (h : |x - y| < |x|) : SignType.sign y = SignType.sign x := by
  have hnear := abs_lt.mp h
  rcases lt_trichotomy x 0 with hneg | rfl | hpos
  · rw [abs_of_neg hneg] at hnear
    rw [sign_neg hneg, sign_neg (by linarith)]
  · exact absurd h (by rw [abs_zero]; exact not_lt.mpr (abs_nonneg _))
  · rw [abs_of_pos hpos] at hnear
    rw [sign_pos hpos, sign_pos (by linarith)]

namespace RoundsHalfDown

variable {unit x y : ℚ} {n : Int} {m : Nat}

/-- A number that is no greater than a multiple of the unit is not rounded past it. -/
theorem natAbs_le (hu : 0 < unit) (h : RoundsHalfDown unit x (n * unit)) (hx : |x| ≤ m * unit) :
    n.natAbs ≤ m := by
  have habs : (n.natAbs : ℚ) * unit = |(n * unit : ℚ)| := by
    rw [abs_mul, abs_of_pos hu, abs_intCast]
  have htri : |(n * unit : ℚ)| - |x| ≤ |x - n * unit| := by
    rw [abs_sub_comm]
    exact abs_sub_abs_le_abs_sub _ _
  have hlt : (n.natAbs : ℚ) * unit < (m + 1) * unit := by linarith [h.near]
  have hcast : (n.natAbs : ℚ) < (m + 1 : Nat) := by
    rw [Nat.cast_succ]
    exact lt_of_mul_lt_mul_right hlt hu.le
  exact Nat.le_of_lt_succ (Nat.cast_lt.mp hcast)

/-- More than half a unit is not rounded to zero, and keeps its sign. -/
theorem sign_eq (h : RoundsHalfDown unit x y) (hx : unit / 2 < |x|) :
    SignType.sign y = SignType.sign x :=
  sign_eq_of_abs_sub_lt (h.near.trans_lt hx)

end RoundsHalfDown

/-! ## Ratios of integers -/

namespace Decimal

variable {a b : Int} {k : Nat}

theorem precision_le {d : Decimal} (hk : 0 < k) (h : d.unscaled.natAbs < 10 ^ k) : d.precision ≤ k :=
  (Nat.length_toDigits_le_iff (by decide) hk).mpr h

theorem sign_ratio (x : ℚ) {y : ℚ} (hy : y ≠ 0) :
    SignType.sign (x / y) = SignType.sign x * SignType.sign y := by
  have hsquare : x / y * (y * y) = x * y := by rw [← mul_assoc, div_mul_cancel₀ x hy]
  rw [← sign_mul, ← hsquare, sign_mul, sign_pos (mul_self_pos.mpr hy), mul_one]

theorem abs_lt_pow (hb : b.natAbs < 10 ^ k) : |(b : ℚ)| < 10 ^ (2 * k) := by
  have hmono : 10 ^ k ≤ 10 ^ (2 * k) := Nat.pow_le_pow_right (by decide) (by omega)
  rw [abs_intCast]
  exact_mod_cast Nat.lt_of_lt_of_le hb hmono

/-- Not even the least ratio of numbers of `k` digits is rounded to zero. -/
theorem half_unit_lt_ratio (hb : b.natAbs < 10 ^ k) (ha : a ≠ 0) (hne : b ≠ 0) :
    (10 : ℚ) ^ (-(2 * k : Nat) : Int) / 2 < |(a : ℚ) / b| := by
  have hbpos : (0 : ℚ) < |(b : ℚ)| := abs_pos.mpr (Int.cast_ne_zero.mpr hne)
  have hblt := abs_lt_pow hb
  have hunit : (0 : ℚ) < 10 ^ (-(2 * k : Nat) : Int) := unit_pos _
  calc
    (10 : ℚ) ^ (-(2 * k : Nat) : Int) / 2 < 10 ^ (-(2 * k : Nat) : Int) := half_lt_self hunit
    _ = 1 / 10 ^ (2 * k) := by rw [zpow_neg, zpow_natCast, one_div]
    _ ≤ 1 / |(b : ℚ)| := one_div_le_one_div_of_le hbpos hblt.le
    _ ≤ |(a : ℚ)| / |(b : ℚ)| := div_le_div_of_nonneg_right (one_le_abs_intCast ha) hbpos.le
    _ = |(a : ℚ) / b| := (abs_div _ _).symm

/-- A ratio of integers is at most the dividend, counted in units of the last digit. -/
theorem ratio_le (a : Int) (hne : b ≠ 0) (scale : Nat) :
    |(a : ℚ) / b| ≤ (a.natAbs * 10 ^ scale : Nat) * 10 ^ (-scale : Int) := by
  have hcancel : ((a.natAbs * 10 ^ scale : Nat) : ℚ) * 10 ^ (-scale : Int) = |(a : ℚ)| := by
    rw [Nat.cast_mul, Nat.cast_pow, Nat.cast_ofNat, ← abs_intCast, mul_assoc,
      ← zpow_natCast, ← zpow_add₀ ten_ne_zero, Int.add_right_neg, zpow_zero, mul_one]
  rw [hcancel, abs_div]
  exact div_le_self (abs_nonneg _) (one_le_abs_intCast hne)

/-- The ratio of two integers of `k` digits, with `2 * k` digits after the point. -/
theorem exists_ratio (ha : a.natAbs < 10 ^ k) (hb : b.natAbs < 10 ^ k) (hk : 0 < k) (hne : b ≠ 0) :
    ∃ d, (ofInt a).div (ofInt b) (2 * k : Nat) = .ok d ∧ d.scale = (2 * k : Nat) ∧
      RoundsHalfDown (10 ^ (-(2 * k : Nat) : Int)) ((a : ℚ) / b) d.toRat ∧ d.precision ≤ 3 * k ∧
      SignType.sign d.toRat = SignType.sign (a : ℚ) * SignType.sign (b : ℚ) := by
  have hbrat : (ofInt b).toRat ≠ 0 := by
    rw [toRat_ofInt]
    exact Int.cast_ne_zero.mpr hne
  obtain ⟨n, hn, hrounds⟩ := exists_div (ofInt a) hbrat (2 * k : Nat)
  rw [toRat_ofInt, toRat_ofInt] at hrounds
  have hmagnitude : n.natAbs ≤ a.natAbs * 10 ^ (2 * k) :=
    hrounds.natAbs_le (unit_pos _) (ratio_le a hne (2 * k))
  have hdigits : a.natAbs * 10 ^ (2 * k) < 10 ^ (3 * k) := by
    have hsum : 3 * k = k + 2 * k := by omega
    rw [hsum, Nat.pow_add]
    exact Nat.mul_lt_mul_of_pos_right ha (Nat.pow_pos (by decide))
  refine ⟨⟨n, (2 * k : Nat)⟩, hn, rfl, hrounds,
    precision_le (by omega) (Nat.lt_of_le_of_lt hmagnitude hdigits), ?_⟩
  by_cases hzero : a = 0
  · have hn0 : n = 0 := by
      rw [hzero, Int.natAbs_zero, Nat.zero_mul] at hmagnitude
      omega
    rw [hzero, toRat_eq_zero.mpr hn0, Int.cast_zero, sign_zero, zero_mul]
  · rw [hrounds.sign_eq (half_unit_lt_ratio hb hzero hne), sign_ratio _ (Int.cast_ne_zero.mpr hne)]

end Decimal

/-! ## Digits of the absolute form -/

/-- How many digits the months or nanoseconds of an interval can have. -/
def Qualifier.absoluteDigits (q : Qualifier) : Nat := if q.isYearMonth then 20 else 32

namespace Interval

variable {i j : Interval}

theorem Valid.absolute_lt (h : i.Valid) : i.absolute.natAbs < 10 ^ i.qualifier.absoluteDigits := by
  have hlead : (maxLeading + 1) * i.qualifier.leadingUnit ≤ 10 ^ i.qualifier.absoluteDigits := by
    cases i.qualifier <;> decide
  rw [natAbs_absolute]
  exact Nat.lt_of_lt_of_le h.magnitude_lt hlead

theorem Valid.absolute_eq_zero (h : i.Valid) : i.absolute = 0 ↔ i.isZero = true := by
  rw [← Int.natAbs_eq_zero, natAbs_absolute, magnitude_eq_zero h]

end Interval

/-! ## Ratios -/

variable {session : ZoneOffset} {forced : Option SqlType} {i j : Interval}

theorem resolve_ratio (h : i.qualifier.isYearMonth = j.qualifier.isYearMonth) :
    Operator.intervalDivideInterval.resolve (Value.interval i).type (Value.interval j).type none =
      .ok (if i.qualifier.isYearMonth then .yearMonthRatio else .dayTimeRatio) := by
  have hratio : Operator.resolveRatio (.interval i.qualifier) (.interval j.qualifier) =
      some (if i.qualifier.isYearMonth then .yearMonthRatio else .dayTimeRatio) := by
    simp only [Operator.resolveRatio, Kind.isInterval, Kind.qualifier?, Kind.isYearMonth, h,
      Option.isSome_some, or_true, and_self, if_true, bne_self_eq_false, Bool.and_false,
      Bool.false_eq_true, if_false, Bool.or_self]
    split <;> rfl
  have hresolve : Operator.intervalDivideInterval.resolve? (Value.interval i).type
      (Value.interval j).type none = _ := hratio
  simp only [Operator.resolve, Option.filter_none, hresolve]

theorem combine_ratio (h : i.qualifier.isYearMonth = j.qualifier.isYearMonth) :
    Operator.intervalDivideInterval.combine session forced (.interval i) (.interval j) = do
      return .decimal (← (Decimal.ofInt i.absolute).div (.ofInt j.absolute)
        (2 * i.qualifier.absoluteDigits : Nat)) := by
  have hscale : (if i.qualifier.isYearMonth || j.qualifier.isYearMonth then SqlType.yearMonthRatio
      else SqlType.dayTimeRatio).scale = (2 * i.qualifier.absoluteDigits : Nat) := by
    rw [← h, Bool.or_self, Qualifier.absoluteDigits]
    split <;> rfl
  rw [← hscale]
  rfl

theorem combine_ratio_of_zero (h : i.qualifier.isYearMonth = j.qualifier.isYearMonth)
    (hj : j.absolute = 0) :
    Operator.intervalDivideInterval.combine session forced (.interval i) (.interval j) =
      .error (.data (.divisionByZero (Decimal.ofInt i.absolute).text)) := by
  have hrat : (Decimal.ofInt j.absolute).toRat = 0 := by rw [Decimal.toRat_ofInt, hj, Int.cast_zero]
  rw [combine_ratio h, Decimal.div_of_zero hrat]
  rfl

theorem exists_combine_ratio (hi : i.Valid) (hj : j.Valid)
    (h : i.qualifier.isYearMonth = j.qualifier.isYearMonth) (hne : j.absolute ≠ 0) :
    ∃ d, Operator.intervalDivideInterval.combine session forced (.interval i) (.interval j) =
        .ok (.decimal d) ∧
      d.scale = (2 * i.qualifier.absoluteDigits : Nat) ∧
      RoundsHalfDown (10 ^ (-(2 * i.qualifier.absoluteDigits : Nat) : Int))
        ((i.absolute : ℚ) / j.absolute) d.toRat ∧
      d.precision ≤ 3 * i.qualifier.absoluteDigits ∧
      SignType.sign d.toRat =
        SignType.sign (i.absolute : ℚ) * SignType.sign (j.absolute : ℚ) := by
  have hpos : 0 < i.qualifier.absoluteDigits := by
    unfold Qualifier.absoluteDigits
    split <;> decide
  have hdigits : j.absolute.natAbs < 10 ^ i.qualifier.absoluteDigits := by
    have hlt := hj.absolute_lt
    rwa [Qualifier.absoluteDigits, ← h] at hlt
  obtain ⟨d, hd, hspec⟩ := Decimal.exists_ratio hi.absolute_lt hdigits hpos hne
  refine ⟨d, ?_, hspec⟩
  rw [combine_ratio h, hd]
  rfl

/-- The ratio of two intervals of one family exists unless the divisor is zero, and has the type found
for it: a year-month ratio has 40 digits after the point and at most 60 in all, a day-time ratio 64 and 96.
It is the nearest such number to the ratio of the absolute forms, and has its sign. -/
theorem ratio_fits_type (hi : i.Valid) (hj : j.Valid)
    (hfamily : i.qualifier.isYearMonth = j.qualifier.isYearMonth) :
    let type : SqlType := if i.qualifier.isYearMonth then ⟨.decimal, 60, 40⟩ else ⟨.decimal, 96, 64⟩
    let ratio := Operator.intervalDivideInterval.combine session forced (.interval i) (.interval j)
    Operator.intervalDivideInterval.resolve (Value.interval i).type (Value.interval j).type none =
        .ok type ∧
      (∀ e, ratio = .error e ↔
        j.isZero = true ∧ e = .data (.divisionByZero (Decimal.ofInt i.absolute).text)) ∧
      (j.isZero = false → ∃ d : Decimal, ratio = .ok (.decimal d) ∧ d.scale = type.scale ∧
        d.precision ≤ type.precision ∧
        RoundsHalfDown (10 ^ (-type.scale)) ((i.absolute : ℚ) / j.absolute) d.toRat ∧
        (d.toRat = 0 → i.isZero = true) ∧
        SignType.sign d.toRat =
          SignType.sign (i.absolute : ℚ) * SignType.sign (j.absolute : ℚ)) := by
  intro type ratio
  have htype : type.scale = (2 * i.qualifier.absoluteDigits : Nat) ∧
      type.precision = (3 * i.qualifier.absoluteDigits : Nat) := by
    simp only [type, Qualifier.absoluteDigits]
    split <;> exact ⟨rfl, rfl⟩
  refine ⟨resolve_ratio hfamily, fun e => ?_, fun hzero => ?_⟩
  · by_cases hzero : j.isZero = true
    · have hratio : ratio = _ := combine_ratio_of_zero hfamily (hj.absolute_eq_zero.mpr hzero)
      rw [hratio, Except.error.injEq]
      exact ⟨fun h => ⟨hzero, h.symm⟩, fun h => h.2.symm⟩
    · obtain ⟨d, hd, -⟩ := @exists_combine_ratio session forced i j hi hj hfamily
        (mt hj.absolute_eq_zero.mp hzero)
      exact ⟨fun h => (nomatch hd.symm.trans h), fun h => absurd h.1 hzero⟩
  · have hne : j.absolute ≠ 0 := mt hj.absolute_eq_zero.mp (Bool.eq_false_iff.mp hzero)
    obtain ⟨d, hd, hscale, hrounds, hprecision, hsign⟩ := exists_combine_ratio hi hj hfamily hne
    rw [htype.1, htype.2]
    refine ⟨d, hd, hscale, Int.ofNat_le.mpr hprecision, hrounds, fun hd0 => ?_, hsign⟩
    rw [hd0, sign_zero, eq_comm, mul_eq_zero, sign_eq_zero_iff, sign_eq_zero_iff, Int.cast_eq_zero,
      Int.cast_eq_zero] at hsign
    exact hi.absolute_eq_zero.mp (hsign.resolve_right hne)

/-- One month by the longest interval of years and months, backwards, is the least ratio; the longest
interval of days by one nanosecond is the greatest. -/
theorem ratio_fits_type_at_extremes :
    let month : Interval := ⟨.month, false, 1, 0⟩
    let ages : Interval := ⟨.yearToMonth, true, 999999999999999999, 11⟩
    let days : Interval := ⟨.dayToSecond, false, 999999999999999999, 86399999999999⟩
    let nano : Interval := ⟨.second, false, 0, 1⟩
    let ratio (i j : Interval) :=
      Operator.intervalDivideInterval.combine 0 none (.interval i) (.interval j)
    (month.Valid ∧ ages.Valid ∧ ∃ d : Decimal, ratio month ages = .ok (.decimal d) ∧
        d.scale = 40 ∧ d.precision ≤ 60 ∧ d.toRat ≠ 0 ∧ SignType.sign d.toRat = -1) ∧
      (days.Valid ∧ nano.Valid ∧ ∃ d : Decimal, ratio days nano = .ok (.decimal d) ∧
        d.scale = 64 ∧ d.precision ≤ 96 ∧ SignType.sign d.toRat = 1) ∧
      ∀ e, ratio days ⟨.day, false, 0, 0⟩ = .error e →
        e = .data (.divisionByZero (Decimal.ofInt days.absolute).text) := by
  intro month ages days nano ratio
  have hmonth : month.Valid := by decide
  have hages : ages.Valid := by decide
  have hdays : days.Valid := by decide
  have hnano : nano.Valid := by decide
  refine ⟨⟨hmonth, hages, ?_⟩, ⟨hdays, hnano, ?_⟩, fun e he => ?_⟩
  · obtain ⟨d, hd, hscale, hprecision, -, hzero, hsign⟩ :=
      (@ratio_fits_type 0 none month ages hmonth hages rfl).2.2 rfl
    exact ⟨d, hd, hscale, Int.ofNat_le.mp hprecision, fun h => absurd (hzero h) (by decide),
      hsign.trans (by decide)⟩
  · obtain ⟨d, hd, hscale, hprecision, -, -, hsign⟩ :=
      (@ratio_fits_type 0 none days nano hdays hnano rfl).2.2 rfl
    exact ⟨d, hd, hscale, Int.ofNat_le.mp hprecision, hsign.trans (by decide)⟩
  · exact (((@ratio_fits_type 0 none days ⟨.day, false, 0, 0⟩ hdays (by decide) rfl).2.1 e).mp he).2

end SqlInterval
