import SqlInterval.Calendar.DayNumber

/-!
# Dates and their numbers

A year begins where the one before it ends, and so does a month of a year. A day number thus lies in
one year and in one month of it, and dates and numbers determine each other.
-/

namespace SqlInterval

/-! ## Years -/

theorem daysBeforeYear_succ (y : Int) :
    daysBeforeYear (y + 1) = daysBeforeYear y + 365 + if isLeapYear y then 1 else 0 := by
  have hleap : isLeapYear y = true ↔ y % 4 = 0 ∧ (y % 100 ≠ 0 ∨ y % 400 = 0) := by
    simp [isLeapYear]
  simp only [daysBeforeYear, hleap]
  split <;> omega

theorem daysBeforeYear_mono {y z : Int} (h : y ≤ z) : daysBeforeYear y ≤ daysBeforeYear z := by
  simp only [daysBeforeYear]
  omega

/-- The estimate is off by one year at most, since a year's first day deviates by less than two days
from what the mean length of a year gives. -/
theorem yearOfDay_bounds (n : Int) :
    daysBeforeYear (yearOfDay n) ≤ n ∧ n < daysBeforeYear (yearOfDay n + 1) := by
  unfold yearOfDay
  dsimp only
  split
  · rename_i h
    simp only [daysBeforeYear] at h ⊢
    omega
  · split
    · rename_i h
      simp only [daysBeforeYear] at h ⊢
      omega
    · omega

theorem yearOfDay_eq {n y : Int} (hy : daysBeforeYear y ≤ n) (hn : n < daysBeforeYear (y + 1)) :
    yearOfDay n = y := by
  obtain ⟨hlo, hhi⟩ := yearOfDay_bounds n
  rcases Int.lt_trichotomy (yearOfDay n) y with h | h | h
  · have := daysBeforeYear_mono (show yearOfDay n + 1 ≤ y by omega)
    omega
  · exact h
  · have := daysBeforeYear_mono (show y + 1 ≤ yearOfDay n by omega)
    omega

/-! ## Months -/

theorem daysBeforeMonth_succ (y : Int) {m : Nat} (h1 : 1 ≤ m) (h2 : m ≤ 12) :
    daysBeforeMonth y (m + 1) = daysBeforeMonth y m + daysInMonth y m := by
  obtain rfl | rfl | rfl | rfl | rfl | rfl | rfl | rfl | rfl | rfl | rfl | rfl :
    m = 1 ∨ m = 2 ∨ m = 3 ∨ m = 4 ∨ m = 5 ∨ m = 6 ∨ m = 7 ∨ m = 8 ∨ m = 9 ∨ m = 10 ∨ m = 11 ∨
      m = 12 := by omega
  all_goals
    unfold daysBeforeMonth daysInMonth
    cases isLeapYear y <;> rfl

theorem daysBeforeMonth_thirteen (y : Int) :
    daysBeforeMonth y 13 = 365 + if isLeapYear y then 1 else 0 := rfl

theorem daysBeforeMonth_mono (y : Int) {m k : Nat} (h1 : 1 ≤ m) (h : m ≤ k) (hk : k ≤ 13) :
    daysBeforeMonth y m ≤ daysBeforeMonth y k := by
  induction h with
  | refl => exact Nat.le_refl _
  | step hm ih =>
      have hm' : m ≤ _ := hm
      rw [daysBeforeMonth_succ y (by omega) (by omega)]
      exact Nat.le_trans (ih (by omega)) (Nat.le_add_right _ _)

/-- Day `k` of year `y`, if the year has it, lies in month `m`. -/
def InMonth (y : Int) (k m : Nat) : Prop :=
  1 ≤ m ∧ m ≤ 12 ∧ daysBeforeMonth y m ≤ k ∧
    (k < daysBeforeMonth y 13 → k < daysBeforeMonth y (m + 1))

theorem monthOfDay_inMonth (y : Int) (k : Nat) : InMonth y k (monthOfDay y k) := by
  unfold monthOfDay
  refine iteInduction (fun h => ⟨by decide, by decide, Nat.zero_le _, fun _ => h⟩) fun h => ?_
  iterate 10
    refine iteInduction (fun h' => ⟨by decide, by decide, Nat.not_lt.mp h, fun _ => h'⟩) fun h => ?_
  exact ⟨by decide, by decide, Nat.not_lt.mp h, id⟩

theorem monthOfDay_eq {y : Int} {k m : Nat} (h1 : 1 ≤ m) (h12 : m ≤ 12)
    (hm : daysBeforeMonth y m ≤ k) (hk : k < daysBeforeMonth y (m + 1)) : monthOfDay y k = m := by
  obtain ⟨hlo, hhi, hstart, hend⟩ := monthOfDay_inMonth y k
  have hyear := daysBeforeMonth_mono y (show 1 ≤ m + 1 by omega) (show m + 1 ≤ 13 by omega)
    (Nat.le_refl _)
  rcases Nat.lt_trichotomy (monthOfDay y k) m with h | h | h
  · have := daysBeforeMonth_mono y (show 1 ≤ monthOfDay y k + 1 by omega) h (by omega)
    omega
  · exact h
  · have := daysBeforeMonth_mono y (show 1 ≤ m + 1 by omega) h (by omega)
    omega

/-! ## Dates -/

namespace Date

/-- The date's day of the year, counted from zero, lies in its month and so in its year. -/
theorem dayOfYear_bounds (d : Date) :
    daysBeforeMonth d.year d.month ≤ daysBeforeMonth d.year d.month + d.day - 1 ∧
      daysBeforeMonth d.year d.month + d.day - 1 < daysBeforeMonth d.year (d.month + 1) ∧
      daysBeforeMonth d.year d.month + d.day - 1 < daysBeforeMonth d.year 13 := by
  have h1 := d.one_le_day
  have h2 := d.day_le
  have hmonth := d.month_le
  have hmono := daysBeforeMonth_mono d.year (show 1 ≤ d.month + 1 by omega)
    (show d.month + 1 ≤ 13 by omega) (Nat.le_refl _)
  rw [daysBeforeMonth_succ d.year d.one_le_month d.month_le] at hmono ⊢
  omega

theorem ofDayNumber?_dayNumber (d : Date) : ofDayNumber? d.dayNumber = some d := by
  have hday := d.one_le_day
  obtain ⟨hlo, hhi, hend⟩ := d.dayOfYear_bounds
  have hnext := daysBeforeYear_succ d.year
  rw [daysBeforeMonth_thirteen] at hend
  have hy : yearOfDay (d.dayNumber + epochOffset) = d.year := by
    apply yearOfDay_eq <;> simp only [dayNumber] <;> grind
  have hk : (d.dayNumber + epochOffset - daysBeforeYear d.year).toNat =
      daysBeforeMonth d.year d.month + d.day - 1 := by
    simp only [dayNumber]; omega
  have hm := monthOfDay_eq d.one_le_month d.month_le hlo hhi
  simp only [ofDayNumber?, hy, hk, hm]
  rw [show daysBeforeMonth d.year d.month + d.day - 1 - daysBeforeMonth d.year d.month + 1 = d.day
    by omega]
  exact d.ofParts?_parts

theorem dayNumber_ofDayNumber? {n : Int} {d : Date} (h : ofDayNumber? n = some d) :
    d.dayNumber = n := by
  obtain ⟨hyear, hmonth, hday⟩ := ofParts?_eq_some h
  obtain ⟨hlo, hhi⟩ := yearOfDay_bounds (n + epochOffset)
  obtain ⟨-, -, hstart, -⟩ := monthOfDay_inMonth (yearOfDay (n + epochOffset))
    (n + epochOffset - daysBeforeYear (yearOfDay (n + epochOffset))).toNat
  rw [dayNumber, hyear, hmonth, hday]
  omega

theorem ofDayNumber?_eq_some {n : Int} {d : Date} : ofDayNumber? n = some d ↔ d.dayNumber = n :=
  ⟨dayNumber_ofDayNumber?, fun h => h ▸ d.ofDayNumber?_dayNumber⟩

theorem dayNumber_injective {d e : Date} (h : d.dayNumber = e.dayNumber) : d = e :=
  Option.some.inj (d.ofDayNumber?_dayNumber.symm.trans (h ▸ e.ofDayNumber?_dayNumber))

/-- All dates lie within a hundred million days of 1970-01-01. -/
theorem dayNumber_bounds (d : Date) : -100000000 < d.dayNumber ∧ d.dayNumber < 100000000 := by
  have h1 := d.le_year
  have h2 := d.year_le
  have h3 := d.one_le_day
  obtain ⟨-, -, hend⟩ := d.dayOfYear_bounds
  have hlen : daysBeforeMonth d.year 13 ≤ 366 := by
    rw [daysBeforeMonth_thirteen]; split <;> decide
  simp only [dayNumber, daysBeforeYear, epochOffset]
  omega

end Date

end SqlInterval
