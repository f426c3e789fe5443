import SqlInterval.Proofs.Interval.Convert
import SqlInterval.Proofs.Outcome

/-!
# Intervals with the other sign

The sign stands apart from the magnitude, and conversions work on the magnitude. The opposite of an
interval is therefore converted to the opposite of what the interval is converted to, and fails where it
fails.
-/

namespace SqlInterval.Interval

variable {i : Interval} {q : Qualifier}

theorem magnitude_of_isZero (h : i.isZero = true) : i.magnitude = 0 := by
  obtain ⟨hl, hr⟩ := isZero_iff.mp h
  rw [magnitude, hl, hr, Nat.zero_mul, Nat.zero_mul]

theorem absolute_negate (i : Interval) : i.negate.absolute = -i.absolute := by
  have hmagnitude : i.negate.magnitude = i.magnitude := rfl
  have hnegative : i.negate.negative = (!i.negative && !i.isZero) := rfl
  rw [absolute, absolute, hmagnitude, hnegative]
  cases hz : i.isZero with
  | true => simp only [magnitude_of_isZero hz, Int.natCast_zero, Int.neg_zero, ite_self]
  | false => cases i.negative <;> simp

theorem ofAbsolute_neg (q : Qualifier) (a : Int) :
    Agree DataError.code negate (ofAbsolute q a) (ofAbsolute q (-a)) := by
  by_cases hmax : a.natAbs / q.leadingUnit ≤ maxLeading
  · obtain ⟨i, hi⟩ := ofAbsolute_succeeds hmax
    obtain ⟨j, hj⟩ := ofAbsolute_succeeds (a := -a) (by rwa [Int.natAbs_neg])
    obtain ⟨hiq, hiv, hia⟩ := ofAbsolute_ok hi
    obtain ⟨hjq, hjv, hja⟩ := ofAbsolute_ok hj
    have habs : j.absolute = i.negate.absolute := by
      rw [hja, absolute_negate, hia, Int.neg_tdiv, Int.neg_mul]
    obtain rfl := hjv.eq_of_absolute hiv.negate (hjq.trans hiq.symm) habs
    rw [hi, hj]
    exact .ok i
  · have hmax := Nat.lt_of_not_le hmax
    rw [ofAbsolute_fails hmax, ofAbsolute_fails (by rwa [Int.natAbs_neg])]
    exact .error rfl

theorem new_not (q : Qualifier) (negative : Bool) (leading remaining : Nat) :
    Agree DataError.code negate (new q negative leading remaining)
      (new q (!negative) leading remaining) := by
  by_cases hl : leading ≤ maxLeading
  · by_cases hr : remaining < q.unitsPerLeading
    · obtain ⟨i, hi⟩ : ∃ i, new q negative leading remaining = .ok i := new_succeeds hl hr
      obtain ⟨j, hj⟩ : ∃ j, new q (!negative) leading remaining = .ok j := new_succeeds hl hr
      have habs : j.absolute = i.negate.absolute := by
        rw [absolute_negate, absolute_new hi, absolute_new hj]
        cases negative <;> simp
      have hq : j.qualifier = i.negate.qualifier := (new_ok hj).1.trans (new_ok hi).1.symm
      obtain rfl := (new_valid hj).eq_of_absolute (new_valid hi).negate hq habs
      rw [hi, hj]
      exact .ok i
    · simp only [new, if_neg (Nat.not_lt.mpr hl), if_pos (Nat.le_of_not_lt hr)]
      exact .error rfl
  · simp only [new, if_pos (Nat.lt_of_not_le hl)]
    exact .error rfl

theorem requalify_negate (i : Interval) (q : Qualifier) :
    Agree DataError.code negate (i.requalify q) (i.negate.requalify q) := by
  have hqualifier : i.negate.qualifier = i.qualifier := rfl
  unfold requalify
  rw [hqualifier, absolute_negate]
  split
  · exact .ok i
  · split
    · exact .error rfl
    · exact ofAbsolute_neg q i.absolute

/-- Rounding is in magnitude, and half up there, for both signs. -/
theorem roundSeconds_negate (i : Interval) (scale : Int) :
    Agree DataError.code negate (i.roundSeconds scale) (i.negate.roundSeconds scale) := by
  have hqualifier : i.negate.qualifier = i.qualifier := rfl
  have hleading : i.negate.leading = i.leading := rfl
  have hremaining : i.negate.remaining = i.remaining := rfl
  unfold roundSeconds
  rw [hqualifier, hleading, hremaining]
  split
  · exact .ok i
  · split
    · exact .error rfl
    · dsimp only
      split
      · exact .ok i
      · rename_i hrounded
        -- Zero would have been left as it is, so that the other sign is really taken.
        have hzero : i.isZero = false := by
          refine Bool.eq_false_iff.mpr fun hz => hrounded ?_
          rw [(isZero_iff.mp hz).2]
          exact roundHalfUp_zero _
        have hnegative : i.negate.negative = !i.negative := by
          simp only [negate, hzero, Bool.not_false, Bool.and_true]
        rw [hnegative]
        split
        · exact new_not _ _ _ _
        · split
          · exact .error rfl
          · exact new_not _ _ _ _

end SqlInterval.Interval
