import Mathlib.Data.Nat.Cast.Order.Field
import SqlInterval.Operator.Apply
import SqlInterval.Proofs.Decimal.Division
import SqlInterval.Proofs.Interval.Absolute
import SqlInterval.Proofs.Operator.Congruence

/-!
# Multiples and fractions of intervals

A product or a quotient is cut off twice, first to an integer and then, on the way back, to whole trailing
units. Less than one is lost at first, and a trailing unit is a whole number: the two cuts are one, in
either direction.
-/

namespace SqlInterval

/-! ## Cutting off -/

/-- `y` is what is left of `x` when less than one `unit` is cut off toward zero. -/
structure CutsOff (unit x y : ℚ) : Prop where
  multiple : ∃ n : Int, y = n * unit
  within : |y| ≤ |x|
  near : |x - y| < unit

namespace CutsOff

variable {unit x y z : ℚ}

theorem unit_pos (h : CutsOff unit x y) : 0 < unit := (abs_nonneg _).trans_lt h.near

theorem add_unit_le (hu : 0 < unit) {m n : Int} (h : m * unit < n * unit) :
    m * unit + unit ≤ n * unit := by
  have hlt : m + 1 ≤ n := Int.cast_lt.mp (lt_of_mul_lt_mul_right h hu.le)
  calc
    (m * unit + unit : ℚ) = (m + 1 : Int) * unit := by rw [Int.cast_add, Int.cast_one, add_one_mul]
    _ ≤ n * unit := mul_le_mul_of_nonneg_right (Int.cast_le.mpr hlt) hu.le

theorem not_lt (hy : CutsOff unit x y) (hz : CutsOff unit x z) : ¬ y < z := by
  intro hlt
  obtain ⟨m, rfl⟩ := hy.multiple
  obtain ⟨n, rfl⟩ := hz.multiple
  have hstep := add_unit_le hy.unit_pos hlt
  have hynear := abs_lt.mp hy.near
  have hznear := abs_lt.mp hz.near
  -- `x` lies between the two, so that one of them is further from zero than `x` is.
  rcases le_total 0 x with hx | hx
  · have := (le_abs_self _).trans (hz.within.trans_eq (abs_of_nonneg hx))
    linarith
  · have := (neg_le_abs _).trans (hy.within.trans_eq (abs_of_nonpos hx))
    linarith

theorem unique (hy : CutsOff unit x y) (hz : CutsOff unit x z) : y = z :=
  le_antisymm (le_of_not_gt (hz.not_lt hy)) (le_of_not_gt (hy.not_lt hz))

theorem of_multiple (hu : 0 < unit) (n : Int) : CutsOff unit (n * unit) (n * unit) :=
  ⟨⟨n, rfl⟩, le_rfl, by rwa [sub_self, abs_zero]⟩

/-- A change of the unit changes all three numbers alike. -/
theorem mul_right {c : ℚ} (hc : 0 < c) (h : CutsOff unit x y) :
    CutsOff (unit * c) (x * c) (y * c) := by
  obtain ⟨n, hn⟩ := h.multiple
  refine ⟨⟨n, by rw [hn, mul_assoc]⟩, ?_, ?_⟩
  · rw [abs_mul, abs_mul]
    exact mul_le_mul_of_nonneg_right h.within (abs_nonneg c)
  · rw [← sub_mul, abs_mul, abs_of_pos hc]
    exact mul_lt_mul_of_pos_right h.near hc

/-- What is cut off before a division by an integer makes no difference to what is left after it. -/
theorem div_intCast {m : Int} (hm : m ≠ 0) (hy : CutsOff unit x y) (hz : CutsOff unit (y / m) z) :
    CutsOff unit (x / m) z := by
  have hpos : (0 : ℚ) < |(m : ℚ)| := abs_pos.mpr (Int.cast_ne_zero.mpr hm)
  have hdist (w : ℚ) : |w / m - z| * |(m : ℚ)| = |w - z * m| := by
    rw [← abs_mul, sub_mul, div_mul_cancel₀ _ (Int.cast_ne_zero.mpr hm)]
  obtain ⟨k, hk⟩ := hy.multiple
  obtain ⟨n, hn⟩ := hz.multiple
  -- Both `y` and `z * m` are multiples: less than `|m|` units apart, they are a whole unit closer.
  have hmultiple : |y - z * m| = (|k - n * m| : Int) * unit := by
    rw [hk, hn, mul_right_comm, ← sub_mul, abs_mul, abs_of_pos hy.unit_pos, Int.cast_abs,
      Int.cast_sub, Int.cast_mul]
  have hlt : |y - z * m| < (|m| : Int) * unit := by
    rw [← hdist, Int.cast_abs, mul_comm]
    exact mul_lt_mul_of_pos_left hz.near hpos
  have hle : |y - z * m| + unit ≤ (|m| : Int) * unit := by
    rw [hmultiple] at hlt ⊢
    exact add_unit_le hy.unit_pos hlt
  refine ⟨⟨n, hn⟩, hz.within.trans ?_, ?_⟩
  · rw [abs_div, abs_div]
    exact div_le_div_of_nonneg_right hy.within hpos.le
  · refine lt_of_mul_lt_mul_right ?_ hpos.le
    calc
      |x / m - z| * |(m : ℚ)| = |x - z * m| := hdist x
      _ ≤ |x - y| + |y - z * m| := abs_sub_le x y _
      _ < unit + |y - z * m| := add_lt_add_left hy.near _
      _ ≤ unit * |(m : ℚ)| := by rwa [add_comm, mul_comm unit, ← Int.cast_abs]

theorem of_tdiv (n : Int) {d : Int} (hd : d ≠ 0) : CutsOff 1 ((n : ℚ) / d) (n.tdiv d) := by
  have hdpos : (0 : ℚ) < d.natAbs := Nat.cast_pos.mpr (Int.natAbs_pos.mpr hd)
  have hdne : (d : ℚ) ≠ 0 := Int.cast_ne_zero.mpr hd
  have hrest : |(n : ℚ) / d - n.tdiv d| = (n.tmod d).natAbs / d.natAbs := by
    rw [← abs_intCast, ← abs_intCast, ← abs_div, Int.tmod_def, Int.cast_sub, Int.cast_mul, sub_div,
      mul_div_cancel_left₀ _ hdne]
  refine ⟨⟨n.tdiv d, (mul_one _).symm⟩, ?_, ?_⟩
  · rw [abs_div, abs_intCast, abs_intCast, abs_intCast, Int.natAbs_tdiv]
    exact Nat.cast_div_le
  · rw [hrest, div_lt_one hdpos, Nat.cast_lt, Int.natAbs_tmod]
    exact Nat.mod_lt _ (Int.natAbs_pos.mpr hd)

theorem of_integerPart (x : ℚ) : CutsOff 1 x (integerPart x) := by
  have h := of_tdiv x.num (Int.natCast_ne_zero.mpr x.den_ne_zero)
  rwa [Int.cast_natCast, Rat.num_div_den] at h

/-- The integer part of a number is enough to cut it off at a whole unit. -/
theorem of_integerPart_tdiv {u : Nat} (hu : 0 < u) (x : ℚ) :
    CutsOff u x ((integerPart x).tdiv u * u : Int) := by
  have hupos : (0 : ℚ) < u := Nat.cast_pos.mpr hu
  have hune : (u : Int) ≠ 0 := Int.natCast_ne_zero.mpr (Nat.pos_iff_ne_zero.mp hu)
  have hcut := ((of_integerPart x).div_intCast hune (of_tdiv _ hune)).mul_right hupos
  rwa [one_mul, Int.cast_natCast, div_mul_cancel₀ _ hupos.ne', ← Int.cast_natCast u, ← Int.cast_mul,
    Int.cast_natCast] at hcut

end CutsOff

/-! ## Intervals for a number -/

/-- The value is the interval of this qualifier for so many months or nanoseconds. -/
def Value.IsInterval (v : Value) (q : Qualifier) (a : Int) : Prop :=
  ∃ i : Interval, v = .interval i ∧ i.Valid ∧ i.qualifier = q ∧ i.absolute = a

/-- The outcome is the interval of this qualifier for so many months or nanoseconds, or the fault that
shows the leading field, just where this has more than eighteen digits. -/
structure Delivers (q : Qualifier) (a : Int) (outcome : Except EvalError Value) : Prop where
  value : a.natAbs / q.leadingUnit ≤ Interval.maxLeading →
    ∃ v, outcome = .ok v ∧ v.IsInterval q a
  fault : Interval.maxLeading < a.natAbs / q.leadingUnit →
    outcome = .error (.data (.number (a.tdiv q.leadingUnit)))

theorem Delivers.ne_divisionByZero {q : Qualifier} {a : Int} {outcome : Except EvalError Value}
    {dividend : String} (h : Delivers q a outcome) :
    outcome ≠ .error (.data (.divisionByZero dividend)) := by
  intro hzero
  by_cases hmax : a.natAbs / q.leadingUnit ≤ Interval.maxLeading
  · obtain ⟨v, hv, -⟩ := h.value hmax
    cases hzero.symm.trans hv
  · cases hzero.symm.trans (h.fault (Nat.lt_of_not_le hmax))

theorem delivers_ofAbsolute (q : Qualifier) (n : Int) :
    Delivers q (n.tdiv q.trailingUnit * q.trailingUnit)
      (do return .interval (← Interval.ofAbsolute q n)) := by
  rw [← Interval.ofAbsolute_tdiv_mul q.trailingUnit_pos (Nat.dvd_refl _) n]
  constructor
  · intro hmax
    obtain ⟨i, hi, hq, ha⟩ := Interval.ofAbsolute_exact (Int.dvd_mul_left _ _) hmax
    rw [hi]
    exact ⟨_, rfl, i, rfl, Interval.ofAbsolute_valid hi, hq, ha⟩
  · intro hmax
    rw [Interval.ofAbsolute_fails hmax]
    rfl

theorem exists_delivers (q : Qualifier) (x : ℚ) :
    ∃ a : Int, CutsOff q.trailingUnit x a ∧
      Delivers q a (do return .interval (← Interval.ofAbsolute q (integerPart x))) :=
  ⟨_, .of_integerPart_tdiv q.trailingUnit_pos x, delivers_ofAbsolute q _⟩

/-! ## Numbers as operands -/

/-- An exact number, of whatever kind and scale. -/
inductive Value.IsNumber : Value → ℚ → Prop where
  | integer (n : Int32) : IsNumber (.integer n) n.toInt
  | bigInt (n : Int64) : IsNumber (.bigInt n) n.toInt
  | decimal (d : Decimal) : IsNumber (.decimal d) d.toRat

theorem Value.IsNumber.exists_toDecimal {r : Value} {x : ℚ} (h : r.IsNumber x) :
    ∃ d, r.toDecimal = .ok d ∧ d.toRat = x := by
  cases h with
  | integer n => exact ⟨_, rfl, Decimal.toRat_ofInt _⟩
  | bigInt n => exact ⟨_, rfl, Decimal.toRat_ofInt _⟩
  | decimal d => exact ⟨d, rfl, rfl⟩

theorem Value.IsNumber.alike {r r' : Value} {x : ℚ} (h : r.IsNumber x) (h' : r'.IsNumber x) :
    r.Alike r' := by
  obtain ⟨d, hd, hdx⟩ := h.exists_toDecimal
  obtain ⟨e, he, hex⟩ := h'.exists_toDecimal
  exact .numbers hd he (hdx.trans hex.symm)

variable {i : Interval} {r r' : Value} {x : ℚ}

theorem scaleInterval_multiply (hr : r.IsNumber x) :
    scaleInterval true (.interval i) r = do
      return .interval (← Interval.ofAbsolute i.qualifier (integerPart (i.absolute * x))) := by
  obtain ⟨d, hd, rfl⟩ := hr.exists_toDecimal
  rw [← Decimal.toRat_ofInt, ← Decimal.toRat_mul, ← Decimal.truncate_eq]
  simp only [scaleInterval, Value.toInterval, ok_bind, hd, lift_ok]
  rfl

theorem scaleInterval_divide (hr : r.IsNumber x) (hx : x ≠ 0) :
    scaleInterval false (.interval i) r = do
      return .interval (← Interval.ofAbsolute i.qualifier (integerPart (i.absolute / x))) := by
  obtain ⟨d, hd, rfl⟩ := hr.exists_toDecimal
  have hdiv := Decimal.divInt_eq (a := .ofInt i.absolute) (mt Decimal.toRat_eq_zero.mpr hx)
  rw [Decimal.toRat_ofInt] at hdiv
  simp only [scaleInterval, Value.toInterval, ok_bind, hd, hdiv, lift_ok]
  rfl

theorem scaleInterval_divide_zero (hr : r.IsNumber 0) :
    scaleInterval false (.interval i) r =
      .error (.data (.divisionByZero (Decimal.ofInt i.absolute).text)) := by
  obtain ⟨d, hd, hzero⟩ := hr.exists_toDecimal
  have hdiv := Decimal.divInt_of_zero (a := .ofInt i.absolute) hzero
  simp only [scaleInterval, Value.toInterval, ok_bind, hd, hdiv, lift_ok]
  rfl

theorem exists_product (i : Interval) (hr : r.IsNumber x) :
    ∃ a : Int, CutsOff i.qualifier.trailingUnit (i.absolute * x) a ∧
      Delivers i.qualifier a (scaleInterval true (.interval i) r) := by
  rw [scaleInterval_multiply hr]
  exact exists_delivers i.qualifier _

theorem exists_quotient (i : Interval) (hr : r.IsNumber x) (hx : x ≠ 0) :
    ∃ a : Int, CutsOff i.qualifier.trailingUnit (i.absolute / x) a ∧
      Delivers i.qualifier a (scaleInterval false (.interval i) r) := by
  rw [scaleInterval_divide hr hx]
  exact exists_delivers i.qualifier _

/-! ## Multiples and fractions -/

variable {session : ZoneOffset} {forced : Option SqlType}

theorem Value.IsNumber.combine_multiply (hr : r.IsNumber x) :
    Operator.intervalMultiplyNumeric.combine session forced (.interval i) r =
      scaleInterval true (.interval i) r := by
  cases hr <;> rfl

theorem Value.IsNumber.combine_divide (hr : r.IsNumber x) :
    Operator.intervalDivideNumeric.combine session forced (.interval i) r =
      scaleInterval false (.interval i) r := by
  cases hr <;> rfl

/-- A multiple or a fraction of an interval is cut off once, at the trailing unit, and fails just where the
leading field of what is left has more than eighteen digits; only a divisor of zero has a fault of its own.
Which number the operand is decides everything. -/
theorem scaling_truncates_once (i : Interval) (hr : r.IsNumber x) :
    let multiply (r : Value) := Operator.intervalMultiplyNumeric.combine session forced (.interval i) r
    let divide (r : Value) := Operator.intervalDivideNumeric.combine session forced (.interval i) r
    (∃ a : Int, CutsOff i.qualifier.trailingUnit (i.absolute * x) a ∧
        Delivers i.qualifier a (multiply r)) ∧
      ((∃ dividend, divide r = .error (.data (.divisionByZero dividend))) ↔ x = 0) ∧
      (x ≠ 0 → ∃ a : Int, CutsOff i.qualifier.trailingUnit (i.absolute / x) a ∧
        Delivers i.qualifier a (divide r)) ∧
      ∀ r' : Value, r'.IsNumber x → multiply r' = multiply r ∧ divide r' = divide r := by
  intro multiply divide
  have hmultiply (r : Value) (h : r.IsNumber x) : multiply r = scaleInterval true (.interval i) r :=
    h.combine_multiply
  have hdivide (r : Value) (h : r.IsNumber x) : divide r = scaleInterval false (.interval i) r :=
    h.combine_divide
  rw [hmultiply r hr, hdivide r hr]
  refine ⟨exists_product i hr, ⟨?_, ?_⟩, exists_quotient i hr, fun r' hr' => ?_⟩
  · rintro ⟨dividend, hzero⟩
    by_contra hx
    obtain ⟨a, -, ha⟩ := exists_quotient i hr hx
    exact ha.ne_divisionByZero hzero
  · rintro rfl
    exact ⟨_, scaleInterval_divide_zero hr⟩
  · rw [hmultiply r' hr', hdivide r' hr']
    exact ⟨scaleInterval_congr true (hr'.alike hr), scaleInterval_congr false (hr'.alike hr)⟩

/-- Twenty-nine hours backwards, and minus two and a half: half an hour and more is dropped toward zero.
Three hundred may be written as three hundreds. -/
theorem scaling_truncates_once_backwards :
    let i : Interval := ⟨.dayToHour, true, 1, 5⟩
    let multiply (r : Value) := Operator.intervalMultiplyNumeric.combine 0 none (.interval i) r
    let divide (r : Value) := Operator.intervalDivideNumeric.combine 0 none (.interval i) r
    let r : Value := .decimal ⟨-25, 1⟩
    r.IsNumber (-5 / 2) ∧
      multiply r = .ok (.interval ⟨.dayToHour, false, 3, 0⟩) ∧
      divide r = .ok (.interval ⟨.dayToHour, false, 0, 11⟩) ∧
      (∃ a : Int, CutsOff i.qualifier.trailingUnit (i.absolute * (-5 / 2)) a ∧
        Delivers i.qualifier a (multiply r)) ∧
      (∃ a : Int, CutsOff i.qualifier.trailingUnit (i.absolute / (-5 / 2)) a ∧
        Delivers i.qualifier a (divide r)) ∧
      multiply (.decimal ⟨3, -2⟩) = multiply (.integer 300) := by
  intro i multiply divide r
  have hr : r.IsNumber (-5 / 2) := by
    have hrat : (⟨-25, 1⟩ : Decimal).toRat = -5 / 2 := by norm_num [Decimal.toRat]
    exact hrat ▸ .decimal _
  have hhundreds : (Value.decimal ⟨3, -2⟩).IsNumber (300 : Int32).toInt := by
    have hint : (300 : Int32).toInt = 300 := rfl
    have hrat : (⟨3, -2⟩ : Decimal).toRat = (300 : Int32).toInt := by
      norm_num [Decimal.toRat, hint]
    exact hrat ▸ .decimal _
  have hmultiply : multiply r = .ok (.interval ⟨.dayToHour, false, 3, 0⟩) :=
    eq_ok_of_toOption (by decide +kernel)
  have hdivide : divide r = .ok (.interval ⟨.dayToHour, false, 0, 11⟩) :=
    eq_ok_of_toOption (by decide +kernel)
  obtain ⟨hproduct, -, hquotient, -⟩ := @scaling_truncates_once r _ 0 none i hr
  obtain ⟨-, -, -, hsame⟩ := @scaling_truncates_once (.integer 300) _ 0 none i (.integer 300)
  exact ⟨hr, hmultiply, hdivide, hproduct, hquotient (by norm_num), (hsame _ hhundreds).1⟩

end SqlInterval
