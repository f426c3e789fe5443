import Mathlib.Data.Rat.Lemmas
import SqlInterval.Decimal.Division
import SqlInterval.Proofs.Decimal.Order

/-!
# Products, quotients and integer parts as numbers

Multiplying, dividing and cutting off depend on the numbers alone, not on the scales that they are written
with. A quotient of integers that is cut off is the integer part of the rational quotient.
-/

namespace SqlInterval

/-- The integer part of a rational number, cut off toward zero. -/
def integerPart (q : ℚ) : Int := q.num.tdiv q.den

theorem integerPart_div (n : Int) {d : Int} (hd : d ≠ 0) :
    integerPart ((n : ℚ) / d) = n.tdiv d := by
  obtain ⟨c, hn, hc⟩ := Rat.num_den_mk hd (Rat.divInt_eq_div n d).symm
  have hcne : c ≠ 0 := by
    rintro rfl
    exact hd (hc.trans (Int.zero_mul _))
  rw [integerPart]
  generalize (n : ℚ) / d = q at hn hc ⊢
  rw [hn, hc]
  rcases Int.lt_or_gt_of_ne hcne with hneg | hpos
  · rw [← Int.neg_tdiv_neg (c * _), ← Int.neg_mul, ← Int.neg_mul,
      Int.mul_tdiv_mul_of_pos _ _ (Int.neg_pos_of_neg hneg)]
  · rw [Int.mul_tdiv_mul_of_pos _ _ hpos]

theorem integerPart_intCast (z : Int) : integerPart z = z := by
  simp [integerPart]

namespace Decimal

variable {a b d e : Decimal}

theorem toRat_eq_zero : d.toRat = 0 ↔ d.unscaled = 0 := by
  simp [toRat, zpow_ne_zero]

theorem zpow_eq_pow {z : Int} (hz : 0 ≤ z) : (10 : ℚ) ^ z = (10 ^ z.natAbs : Int) := by
  obtain ⟨k, rfl⟩ := Int.eq_ofNat_of_zero_le hz
  rw [zpow_natCast, Int.natAbs_natCast, Int.cast_pow]
  rfl

theorem truncate_eq (d : Decimal) : d.truncate = integerPart d.toRat := by
  unfold truncate
  split
  · rename_i hs
    have hrat : d.toRat = (d.unscaled * 10 ^ d.scale.natAbs : Int) := by
      rw [toRat, zpow_eq_pow (Int.neg_nonneg_of_nonpos hs), Int.natAbs_neg, Int.cast_mul]
    rw [hrat, integerPart_intCast]
    rfl
  · rename_i hs
    have hpow : ((10 ^ d.scale.natAbs : Int)) ≠ 0 := Int.pow_ne_zero (by decide)
    have hrat : d.toRat = (d.unscaled : ℚ) / (10 ^ d.scale.natAbs : Int) := by
      rw [toRat, zpow_neg, zpow_eq_pow (Int.le_of_lt (Int.not_le.mp hs)), div_eq_mul_inv]
    rw [hrat, integerPart_div _ hpow]
    rfl

theorem toRat_withoutTrailingZeros (n : Nat) (d : Decimal) :
    (withoutTrailingZeros n d).toRat = d.toRat := by
  induction n generalizing d with
  | zero => rfl
  | succ n ih =>
      rw [withoutTrailingZeros]
      split
      · rename_i hzero
        have hextend : Decimal.extend 1 ⟨d.unscaled / 10, d.scale - 1⟩ = d := by
          obtain ⟨u, s⟩ := d
          simp only [extend, mk.injEq] at hzero ⊢
          omega
        rw [ih, ← toRat_extend 1, hextend]
      · rfl

theorem toRat_normalize (d : Decimal) : d.normalize.toRat = d.toRat := by
  unfold normalize
  split
  · rename_i hzero
    rw [toRat_eq_zero.mpr (of_decide_eq_true hzero)]
    exact toRat_eq_zero.mpr rfl
  · exact toRat_withoutTrailingZeros _ d

theorem toRat_mul (a b : Decimal) : (a.mul b).toRat = a.toRat * b.toRat := by
  unfold mul
  split
  · rename_i h
    rw [toRat_normalize, same_iff.mp h, toRat_ofInt, Int.cast_one, one_mul]
  · split
    · rename_i h
      rw [toRat_normalize, same_iff.mp h, toRat_ofInt, Int.cast_one, mul_one]
    · simp only [toRat, Int.cast_mul, Int.neg_add, zpow_add₀ ten_ne_zero]
      exact mul_mul_mul_comm _ _ _ _

theorem scaledFraction_div (hb : b.unscaled ≠ 0) (scale : Int) :
    ((a.scaledFraction b scale).1 : ℚ) / (a.scaledFraction b scale).2 =
        a.toRat / b.toRat * 10 ^ scale ∧ (a.scaledFraction b scale).2 ≠ 0 := by
  have hquotient : a.toRat / b.toRat * 10 ^ scale =
      (a.unscaled : ℚ) / b.unscaled * 10 ^ (scale - a.scale + b.scale) := by
    have hshift : scale - a.scale + b.scale = -a.scale + b.scale + scale := by omega
    rw [hshift, zpow_add₀ ten_ne_zero, zpow_add₀ ten_ne_zero, toRat, toRat, mul_div_mul_comm,
      zpow_neg _ b.scale, div_inv_eq_mul, mul_assoc, mul_assoc]
  rw [hquotient]
  unfold scaledFraction
  dsimp only
  split
  · rename_i hs
    refine ⟨?_, hb⟩
    rw [zpow_eq_pow hs, div_mul_eq_mul_div, ← Int.cast_mul]
    rfl
  · rename_i hs
    have hpow : ((10 ^ (scale - a.scale + b.scale).natAbs : Int)) ≠ 0 := Int.pow_ne_zero (by decide)
    have hinv : (10 : ℚ) ^ (scale - a.scale + b.scale) =
        ((10 ^ (scale - a.scale + b.scale).natAbs : Int) : ℚ)⁻¹ := by
      rw [← Int.natAbs_neg, ← zpow_eq_pow (by omega), zpow_neg, inv_inv]
    refine ⟨?_, Int.mul_ne_zero hb hpow⟩
    rw [hinv, ← div_eq_mul_inv, div_div, ← Int.cast_mul]
    rfl

theorem divInt_eq (hb : b.unscaled ≠ 0) :
    a.divInt b = .ok (integerPart (a.toRat / b.toRat)) := by
  obtain ⟨hquotient, hne⟩ := scaledFraction_div (a := a) hb 0
  rw [zpow_zero, mul_one] at hquotient
  have hzero : b.isZero = false := decide_eq_false hb
  simp only [divInt, hzero, Bool.false_eq_true, if_false, ← hquotient, integerPart_div _ hne]

end Decimal

end SqlInterval
