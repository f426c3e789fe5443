import Mathlib.Algebra.Order.Field.Basic
import Mathlib.Algebra.Order.Field.Rat
import Mathlib.Algebra.Order.Ring.Abs
import Mathlib.Tactic.Linarith
import SqlInterval.Proofs.Decimal.Arithmetic
import SqlInterval.Proofs.Outcome

/-!
# Quotients with a given number of digits

A quotient is rounded once, to the nearest number with the wanted digits. Of two that are equally near it
is the one nearer to zero, whatever the signs are. All that a division sees of its operands is which numbers
they are, but for the text of the fault: it shows a dividend with the digits that it is written with.
-/

namespace SqlInterval

/-! ## The nearest multiple -/

theorem abs_intCast (z : Int) : |(z : ℚ)| = z.natAbs := by rw [Nat.cast_natAbs, Int.cast_abs]

theorem one_le_abs_intCast {z : Int} (hz : z ≠ 0) : (1 : ℚ) ≤ |(z : ℚ)| := by
  rw [abs_intCast, Nat.one_le_cast]
  exact Int.natAbs_pos.mpr hz

/-- `y` is the multiple of `unit` nearest to `x`, of two equally near ones the one nearer to zero. -/
structure RoundsHalfDown (unit x y : ℚ) : Prop where
  multiple : ∃ n : Int, y = n * unit
  near : |x - y| ≤ unit / 2
  tie : |x - y| = unit / 2 → |y| < |x|

namespace RoundsHalfDown

variable {unit x y z : ℚ}

/-- Different multiples are at least one unit apart. -/
theorem unit_le_abs_sub (hu : 0 < unit) {m n : Int} (h : m ≠ n) :
    unit ≤ |m * unit - n * unit| := by
  rw [← sub_mul, abs_mul, abs_of_pos hu, ← Int.cast_sub]
  exact le_mul_of_one_le_left hu.le (one_le_abs_intCast (sub_ne_zero.mpr h))

theorem unique (hu : 0 < unit) (hy : RoundsHalfDown unit x y) (hz : RoundsHalfDown unit x z) :
    y = z := by
  obtain ⟨m, hm⟩ := hy.multiple
  obtain ⟨n, hn⟩ := hz.multiple
  by_contra hne
  have hsep : unit ≤ |y - z| := by
    rw [hm, hn]
    exact unit_le_abs_sub hu fun h => hne (by rw [hm, hn, h])
  have htri : |y - z| ≤ |x - y| + |x - z| := by
    rw [abs_sub_comm x y]
    exact abs_sub_le y x z
  -- So each of the two is half a unit away, and `x` is the midpoint: it cannot exceed both.
  have hyhalf : |x - y| = unit / 2 := by linarith [hy.near, hz.near]
  have hzhalf : |x - z| = unit / 2 := by linarith [hy.near, hz.near]
  have hmid : x + x = y + z := by
    rcases eq_or_eq_neg_of_abs_eq hyhalf with h | h <;>
      rcases eq_or_eq_neg_of_abs_eq hzhalf with h' | h'
    · exact absurd (by linarith) hne
    · linarith
    · linarith
    · exact absurd (by linarith) hne
  have hsum : |x + x| ≤ |y| + |z| := hmid ▸ abs_add_le y z
  rw [← two_mul, abs_mul, abs_two] at hsum
  linarith [hy.tie hyhalf, hz.tie hzhalf]

/-- A change of the unit changes all three numbers alike. -/
theorem mul_right {c : ℚ} (hc : 0 < c) (h : RoundsHalfDown unit x y) :
    RoundsHalfDown (unit * c) (x * c) (y * c) := by
  have hdist : |x * c - y * c| = |x - y| * c := by rw [← sub_mul, abs_mul, abs_of_pos hc]
  have hhalf : unit * c / 2 = unit / 2 * c := mul_div_right_comm unit c 2
  obtain ⟨n, hn⟩ := h.multiple
  refine ⟨⟨n, by rw [hn, mul_assoc]⟩, ?_, ?_⟩
  · rw [hdist, hhalf]
    exact mul_le_mul_of_nonneg_right h.near hc.le
  · rw [hdist, hhalf, abs_mul, abs_mul, abs_of_pos hc]
    intro htie
    exact mul_lt_mul_of_pos_right (h.tie (mul_right_cancel₀ hc.ne' htie)) hc

end RoundsHalfDown

namespace Decimal

variable {a b a' b' : Decimal} {scale : Int}

/-! ## Rounding of fractions -/

theorem roundHalfDown_bounds (n : Int) {d : Int} (hd : d ≠ 0) :
    2 * (n - d * roundHalfDown n d).natAbs ≤ d.natAbs ∧
      (2 * (n - d * roundHalfDown n d).natAbs = d.natAbs →
        d.natAbs * (roundHalfDown n d).natAbs < n.natAbs) := by
  have hsum := Int.mul_tdiv_add_tmod n d
  have hlt : (n.tmod d).natAbs < d.natAbs := by
    rw [Int.natAbs_tmod]
    exact Nat.mod_lt _ (Int.natAbs_pos.mpr hd)
  have hmagnitude : d.natAbs * (n.tdiv d).natAbs + (n.tmod d).natAbs = n.natAbs := by
    rw [Int.natAbs_tdiv, Int.natAbs_tmod]
    exact Nat.div_add_mod _ _
  unfold roundHalfDown
  dsimp only
  split
  · split
    · rw [Int.mul_add, Int.mul_one]
      omega
    · rw [Int.mul_sub, Int.mul_one]
      omega
  · omega

theorem roundsHalfDown_of_fraction (n : Int) {d : Int} (hd : d ≠ 0) :
    RoundsHalfDown 1 ((n : ℚ) / d) (roundHalfDown n d) := by
  obtain ⟨hnear, htie⟩ := roundHalfDown_bounds n hd
  generalize roundHalfDown n d = z at hnear htie ⊢
  have hdq : (0 : ℚ) < d.natAbs := Nat.cast_pos.mpr (Int.natAbs_pos.mpr hd)
  have hdne : (d : ℚ) ≠ 0 := Int.cast_ne_zero.mpr hd
  have hdist : |(n : ℚ) / d - z| = (n - d * z).natAbs / d.natAbs := by
    rw [← abs_intCast, ← abs_intCast, ← abs_div, Int.cast_sub, Int.cast_mul, sub_div,
      mul_div_cancel_left₀ _ hdne]
  refine ⟨⟨z, (mul_one _).symm⟩, ?_, ?_⟩
  · rw [hdist, div_le_div_iff₀ hdq two_pos, one_mul, mul_comm]
    exact_mod_cast hnear
  · rw [hdist, div_eq_div_iff hdq.ne' two_ne_zero, one_mul, mul_comm, abs_div, abs_intCast, abs_intCast,
      abs_intCast, lt_div_iff₀ hdq, mul_comm (z.natAbs : ℚ)]
    exact_mod_cast htie

/-! ## Quotients -/

theorem div_of_zero (hb : b.toRat = 0) (scale : Int) :
    a.div b scale = .error (.divisionByZero a.text) :=
  if_pos (decide_eq_true (toRat_eq_zero.mp hb))

theorem divInt_of_zero (hb : b.toRat = 0) : a.divInt b = .error (.divisionByZero a.text) :=
  if_pos (decide_eq_true (toRat_eq_zero.mp hb))

theorem unit_pos (scale : Int) : (0 : ℚ) < 10 ^ (-scale) := zpow_pos (by decide) _

theorem exists_div (a : Decimal) (hb : b.toRat ≠ 0) (scale : Int) :
    ∃ n, a.div b scale = .ok ⟨n, scale⟩ ∧
      RoundsHalfDown (10 ^ (-scale)) (a.toRat / b.toRat) (⟨n, scale⟩ : Decimal).toRat := by
  have hbu : b.unscaled ≠ 0 := mt toRat_eq_zero.mpr hb
  obtain ⟨hquotient, hne⟩ := scaledFraction_div (a := a) hbu scale
  have hrounds := (roundsHalfDown_of_fraction (a.scaledFraction b scale).1 hne).mul_right
    (unit_pos scale)
  rw [hquotient, one_mul, mul_assoc, ← zpow_add₀ ten_ne_zero, Int.add_right_neg, zpow_zero, mul_one]
    at hrounds
  exact ⟨_, if_neg (ne_true_of_eq_false (decide_eq_false hbu)), hrounds⟩

theorem div_congr (ha : a.toRat = a'.toRat) (hb : b.toRat = b'.toRat) (scale : Int) :
    Agree DataError.code id (a.div b scale) (a'.div b' scale) := by
  by_cases hzero : b.toRat = 0
  · rw [div_of_zero hzero, div_of_zero (hb ▸ hzero)]
    exact .error rfl
  · obtain ⟨n, hn, hrounds⟩ := exists_div a hzero scale
    obtain ⟨m, hm, hrounds'⟩ := exists_div a' (hb ▸ hzero) scale
    rw [← ha, ← hb] at hrounds'
    have heq := hrounds.unique (unit_pos scale) hrounds'
    obtain rfl : n = m := Int.cast_injective (mul_right_cancel₀ (unit_pos scale).ne' heq)
    rw [hn, hm]
    exact .ok _

theorem divInt_agree (ha : a.toRat = a'.toRat) (hb : b.toRat = b'.toRat) :
    Agree DataError.code id (a.divInt b) (a'.divInt b') := by
  by_cases hzero : b.toRat = 0
  · rw [divInt_of_zero hzero, divInt_of_zero (hb ▸ hzero)]
    exact .error rfl
  · rw [divInt_eq (mt toRat_eq_zero.mpr hzero), divInt_eq (mt toRat_eq_zero.mpr (hb ▸ hzero)), ha, hb]
    exact .ok _

/-- A quotient has exactly the wanted digits and is the nearest such number, of two equally near ones the
one nearer to zero; the integral quotient is the integer part. There is no quotient just where the divisor
is zero. Operands that denote the same numbers have the same quotients, or the same fault beside the text
that it shows. -/
theorem div_rounds_half_down (a b : Decimal) (scale : Int) :
    (a.div b scale = .error (.divisionByZero a.text) ↔ b.toRat = 0) ∧
      (a.divInt b = .error (.divisionByZero a.text) ↔ b.toRat = 0) ∧
      (b.toRat ≠ 0 →
        (∃ n : Int, a.div b scale = .ok ⟨n, scale⟩ ∧
          RoundsHalfDown (10 ^ (-scale)) (a.toRat / b.toRat) (n * 10 ^ (-scale))) ∧
        a.divInt b = .ok (integerPart (a.toRat / b.toRat))) ∧
      ∀ a' b' : Decimal, a.toRat = a'.toRat → b.toRat = b'.toRat →
        Agree DataError.code id (a.div b scale) (a'.div b' scale) ∧
          Agree DataError.code id (a.divInt b) (a'.divInt b') := by
  refine ⟨⟨fun h => ?_, fun h => div_of_zero h scale⟩, ⟨fun h => ?_, divInt_of_zero⟩, fun hb => ?_,
    fun a' b' ha hb => ⟨div_congr ha hb scale, divInt_agree ha hb⟩⟩
  · by_contra hb
    obtain ⟨n, hn, -⟩ := exists_div a hb scale
    cases h.symm.trans hn
  · by_contra hb
    cases h.symm.trans (divInt_eq (mt toRat_eq_zero.mpr hb))
  · exact ⟨exists_div a hb scale, divInt_eq (mt toRat_eq_zero.mpr hb)⟩

/-- Minus an eighth with two digits is midway between -0.13 and -0.12. The eight may be written with two
digits more, and the one with one. -/
theorem div_rounds_half_down_at_tie :
    let one : Decimal := ⟨-1, 0⟩
    let eight : Decimal := ⟨800, 2⟩
    eight.toRat ≠ 0 ∧ one.div eight 2 = .ok ⟨-12, 2⟩ ∧
      RoundsHalfDown (10 ^ (-2 : Int)) (one.toRat / eight.toRat) ((-12 : Int) * 10 ^ (-2 : Int)) ∧
      one.divInt eight = .ok (integerPart (one.toRat / eight.toRat)) ∧
      Agree DataError.code id (one.div eight 2) (div ⟨-10, 1⟩ ⟨8, 0⟩ 2) := by
  intro one eight
  have hne : eight.toRat ≠ 0 := mt toRat_eq_zero.mp (by decide)
  obtain ⟨-, -, hvalue, hagree⟩ := div_rounds_half_down one eight 2
  obtain ⟨⟨n, hn, hrounds⟩, hint⟩ := hvalue hne
  have hdiv : one.div eight 2 = .ok ⟨-12, 2⟩ := rfl
  obtain rfl : -12 = n := congrArg unscaled (Except.ok.inj (hdiv.symm.trans hn))
  exact ⟨hne, hdiv, hrounds, hint, (hagree _ _ (toRat_eq_iff.mpr rfl) (toRat_eq_iff.mpr rfl)).1⟩

end Decimal

end SqlInterval
