import Mathlib.Algebra.Field.Rat
import Mathlib.Algebra.GroupWithZero.Basic
import SqlInterval.Decimal.Basic
import SqlInterval.Proofs.Numeral

/-!
# Decimals as numbers

A decimal denotes a rational number. Decimals are equal just if they denote one number, and then one of
them is the other with zeros appended.
-/

namespace SqlInterval.Decimal

variable {a b d : Decimal}

theorem ten_ne_zero : (10 : ℚ) ≠ 0 := by decide

/-- The number that the decimal denotes. -/
def toRat (d : Decimal) : ℚ := d.unscaled * 10 ^ (-d.scale)

@[simp] theorem toRat_ofInt (z : Int) : (ofInt z).toRat = z := by
  simp [toRat, ofInt]

/-- The decimal with `k` more zeros after its digits. -/
def extend (k : Nat) (d : Decimal) : Decimal := ⟨d.unscaled * 10 ^ k, d.scale + k⟩

@[simp] theorem toRat_extend (k : Nat) (d : Decimal) : (d.extend k).toRat = d.toRat := by
  have hpow : (10 : ℚ) ^ (-d.scale) = 10 ^ k * 10 ^ (-(d.scale + k)) := by
    rw [← zpow_natCast, ← zpow_add₀ ten_ne_zero]
    congr 1
    omega
  rw [toRat, toRat, hpow, ← mul_assoc]
  simp [extend]

/-- Of two decimals that denote one number, the one with the greater scale is the other one extended. -/
theorem eq_extend (h : a.toRat = b.toRat) (hs : a.scale ≤ b.scale) :
    b = a.extend (b.scale - a.scale).toNat := by
  have hscale : a.scale + (b.scale - a.scale).toNat = b.scale := by omega
  rw [← toRat_extend (b.scale - a.scale).toNat a, toRat, toRat, extend, hscale] at h
  have hunscaled : a.unscaled * 10 ^ (b.scale - a.scale).toNat = b.unscaled :=
    Rat.intCast_inj.mp (mul_right_cancel₀ (zpow_ne_zero _ ten_ne_zero) h)
  rw [extend, hunscaled, hscale]

/-- Two decimals denote one number if they are the same when written with the same scale. -/
theorem toRat_eq_iff : a.toRat = b.toRat ↔
    a.unscaled * 10 ^ (b.scale - a.scale).toNat = b.unscaled * 10 ^ (a.scale - b.scale).toNat := by
  constructor
  · intro h
    rcases Int.le_total a.scale b.scale with hs | hs
    · obtain hb := eq_extend h hs
      have hzero : (a.scale - b.scale).toNat = 0 := by omega
      rw [hzero, Int.pow_zero, Int.mul_one]
      exact (congrArg unscaled hb).symm
    · obtain ha := eq_extend h.symm hs
      have hzero : (b.scale - a.scale).toNat = 0 := by omega
      rw [hzero, Int.pow_zero, Int.mul_one]
      exact congrArg unscaled ha
  · intro h
    have hextend : a.extend (b.scale - a.scale).toNat = b.extend (a.scale - b.scale).toNat := by
      have hscale : a.scale + (b.scale - a.scale).toNat = b.scale + (a.scale - b.scale).toNat := by
        omega
      rw [extend, extend, h, hscale]
    rw [← toRat_extend (b.scale - a.scale).toNat a, hextend, toRat_extend]

/-! ## Order -/

theorem precision_extend (k : Nat) (hd : d.unscaled ≠ 0) :
    (d.extend k).precision = d.precision + k := by
  have habs : (d.extend k).unscaled.natAbs = d.unscaled.natAbs * 10 ^ k := by
    rw [extend, Int.natAbs_mul, Int.natAbs_pow]
    rfl
  rw [precision, habs, Numeral.nat_mul_pow (Int.natAbs_ne_zero.mpr hd), List.length_append,
    List.length_replicate]
  rfl

theorem compareMagnitude_eq : a.compareMagnitude b = .eq ↔
    a.unscaled.natAbs * 10 ^ (b.scale - a.scale).toNat =
      b.unscaled.natAbs * 10 ^ (a.scale - b.scale).toNat := by
  unfold compareMagnitude
  split
  · rename_i hzero
    rw [Nat.compare_eq_eq]
    rcases hzero with hz | hz <;> simp [hz, eq_comm]
  · rename_i hzero
    obtain ⟨ha, hb⟩ := not_or.mp hzero
    rw [Ordering.then_eq_eq, Nat.compare_eq_eq]
    refine and_iff_right_of_imp fun h => ?_
    -- Written with one scale, the two have as many digits.
    have hextend : (a.extend (b.scale - a.scale).toNat).precision =
        (b.extend (a.scale - b.scale).toNat).precision := by
      simp only [precision, extend, Int.natAbs_mul, Int.natAbs_pow]
      exact congrArg (fun n => (Numeral.nat n).length) h
    rw [precision_extend _ ha, precision_extend _ hb] at hextend
    rw [Std.compare_eq_iff_eq]
    omega

/-- Equality of decimals is equality of the numbers. -/
theorem same_iff : a.same b = true ↔ a.toRat = b.toRat := by
  have hmagnitude : (if a.unscaled < 0 then b.compareMagnitude a else a.compareMagnitude b) = .eq ↔
      a.unscaled.natAbs * 10 ^ (b.scale - a.scale).toNat =
        b.unscaled.natAbs * 10 ^ (a.scale - b.scale).toNat := by
    split
    · rw [compareMagnitude_eq, eq_comm]
    · exact compareMagnitude_eq
  have hsign (z : Int) (k : Nat) : (z * 10 ^ k).sign = z.sign := by
    rw [Int.sign_mul, Int.sign_eq_one_of_pos (Int.pow_pos (by decide)), Int.mul_one]
  have habs (z : Int) (k : Nat) : (z * 10 ^ k).natAbs = z.natAbs * 10 ^ k := by
    rw [Int.natAbs_mul, Int.natAbs_pow]
    rfl
  rw [same, decide_eq_true_eq, cmp, Ordering.then_eq_eq, Std.compare_eq_iff_eq, hmagnitude,
    toRat_eq_iff, ← habs, ← habs]
  constructor
  · rintro ⟨hs, hm⟩
    rw [← hsign a.unscaled (b.scale - a.scale).toNat, ← hsign b.unscaled (a.scale - b.scale).toNat]
      at hs
    rw [← Int.sign_mul_natAbs (a.unscaled * 10 ^ (b.scale - a.scale).toNat), hs, hm,
      Int.sign_mul_natAbs]
  · intro h
    have hs := congrArg Int.sign h
    rw [hsign, hsign] at hs
    exact ⟨hs, congrArg Int.natAbs h⟩

end SqlInterval.Decimal
