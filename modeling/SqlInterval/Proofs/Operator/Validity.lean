import SqlInterval.Operator.Apply
import SqlInterval.Proofs.Interval.Convert
import SqlInterval.Proofs.Operator.Shift

/-!
# Operators give valid values

Every interval that an operator gives has been through the check of its fields, even if the operands are not
valid. A date or time that is shifted stays in its zone, and so is valid if it was.
-/

namespace SqlInterval

variable {plus multiply : Bool} {session : ZoneOffset} {forced : Option SqlType} {l r v : Value}

theorem addIntervals_valid (h : addIntervals plus l r = .ok v) : v.Valid := by
  obtain ⟨i, -, h⟩ := bind_eq_ok.mp h
  obtain ⟨j, -, h⟩ := bind_eq_ok.mp h
  split at h
  · obtain ⟨k, hk, h⟩ := bind_eq_ok.mp h
    cases h
    exact Interval.ofAbsolute_valid (lift_eq_ok.mp hk)
  · cases h

theorem divideIntervals_valid (h : divideIntervals l r = .ok v) : v.Valid := by
  simp only [divideIntervals, bind_eq_ok] at h
  obtain ⟨i, -, j, -, d, -, h⟩ := h
  cases h
  exact trivial

theorem scaleInterval_valid (h : scaleInterval multiply l r = .ok v) : v.Valid := by
  obtain ⟨i, -, h⟩ := bind_eq_ok.mp h
  obtain ⟨factor, -, h⟩ := bind_eq_ok.mp h
  split at h
  · obtain ⟨k, hk, h⟩ := bind_eq_ok.mp h
    cases h
    exact Interval.ofAbsolute_valid (lift_eq_ok.mp hk)
  · obtain ⟨n, -, h⟩ := bind_eq_ok.mp h
    obtain ⟨k, hk, h⟩ := bind_eq_ok.mp h
    cases h
    exact Interval.ofAbsolute_valid (lift_eq_ok.mp hk)

/-! ## Differences -/

theorem subtractTimes_valid {i : Interval} (h : subtractTimes session l r = .ok i) : i.Valid := by
  unfold subtractTimes at h
  split at h
  · exact Interval.new_valid h
  · obtain ⟨a, -, h⟩ := bind_eq_ok.mp h
    obtain ⟨b, -, h⟩ := bind_eq_ok.mp h
    exact Interval.new_valid h

theorem subtractTimestamps_valid {i : Interval} (h : subtractTimestamps session l r = .ok i) :
    i.Valid := by
  obtain ⟨a, -, h⟩ := bind_eq_ok.mp h
  obtain ⟨b, -, h⟩ := bind_eq_ok.mp h
  dsimp only at h
  split at h
  · obtain ⟨right, -, h⟩ := bind_eq_ok.mp h
    obtain ⟨left, -, h⟩ := bind_eq_ok.mp h
    exact Interval.ofAbsolute_valid h
  · exact Interval.ofAbsolute_valid h

theorem difference_valid {i : Interval} (h : difference session l r = .ok i) : i.Valid := by
  unfold difference at h
  split at h
  · exact subtractTimes_valid h
  · split at h
    · exact Interval.new_valid h
    · exact subtractTimestamps_valid h

theorem Interval.Valid.cast {i j : Interval} {t : SqlType} (hi : i.Valid) (h : i.cast t = .ok j) :
    j.Valid := by
  unfold Interval.cast at h
  split at h
  · rename_i q hq
    obtain ⟨k, hk, h⟩ := bind_eq_ok.mp h
    have hkv := hi.requalify q
    rw [lift_eq_ok.mp hk] at hkv
    have hjv := Valid.roundSeconds hkv t.scale
    rw [lift_eq_ok.mp h] at hjv
    exact hjv
  · cases h

theorem subtractDatetimes_valid (h : subtractDatetimes session forced l r = .ok v) : v.Valid := by
  unfold subtractDatetimes at h
  split at h
  · obtain ⟨i, hi, h⟩ := bind_eq_ok.mp h
    have hiv := difference_valid (lift_eq_ok.mp hi)
    split at h
    · obtain ⟨j, hj, h⟩ := bind_eq_ok.mp h
      cases h
      exact hiv.cast hj
    · cases h
      exact hiv
  · cases h

/-! ## All operators -/

namespace Operator

variable {o : Operator}

theorem apply_valid (hl : l.Valid) (h : o.apply session forced l r = .ok v) : v.Valid := by
  cases o with
  | intervalPlusInterval | intervalMinusInterval => exact addIntervals_valid h
  | intervalDivideInterval => exact divideIntervals_valid h
  | datetimePlusInterval | datetimeMinusInterval => exact (shiftDatetime_rebuilt h).valid hl
  | intervalMultiplyNumeric | intervalDivideNumeric => exact scaleInterval_valid h
  | datetimeMinusDatetime => exact subtractDatetimes_valid h

theorem combine_valid (hl : l.Valid) (h : o.combine session forced l r = .ok v) : v.Valid := by
  unfold combine at h
  split at h
  · cases h
    exact trivial
  · exact apply_valid hl h

end Operator

end SqlInterval
