import SqlInterval.Proofs.Operator.Shift
import SqlInterval.Proofs.Value.Month

/-!
# Shifts by years and months

The count of months passes through words of the machine on its way to the calendar. None of them is a limit: a
count that a word cannot hold leads out of the calendar as well, so that the years of the calendar alone decide
whether there is a result.
-/

namespace SqlInterval

variable {plus : Bool} {i : Interval} {l : Value} {d : Date} {nanos : Nat}

theorem shiftDatetime_eq_addMonths (hq : i.qualifier.isYearMonth = true)
    (ht : l.kind.isTimeOfDay = false) (hl : l.kind.isDatetime) :
    shiftDatetime plus l (.interval i) =
      (do l.addMonths (signed plus (← checkWord i.absolute))) := by
  simp only [shiftDatetime, Value.toInterval, ok_bind, hq, if_true, shiftMonths, ht, hl,
    Bool.false_eq_true, if_false]

/-- A date or timestamp moves by the months of an interval just if the calendar has the year where it arrives.
It keeps its kind, its zone and its time of day, a leap second folded, and its day of the month up to the length
of the new month. Otherwise the fault is that the count is out of range, shown as the interval has it or with
the sign of the shift. -/
theorem shiftDatetime_by_months (hq : i.qualifier.isYearMonth = true)
    (ht : l.kind.isTimeOfDay = false) (hl : l.dateAndNanos = .ok (d, nanos)) (hv : l.Valid) :
    let months := signed plus i.absolute
    let year := (d.monthIndex + months) / 12
    let outcome := shiftDatetime plus l (.interval i)
    (-262143 ≤ year ∧ year ≤ 262142 →
      ∃ w e, outcome = .ok w ∧ l.Rebuilt w ∧ w.NoLeap ∧ w.dateAndNanos = .ok (e, nanos) ∧
        e.monthIndex = d.monthIndex + months ∧ e.day = min d.day (daysInMonth e.year e.month)) ∧
    (¬ (-262143 ≤ year ∧ year ≤ 262142) →
      ∃ z, (z = i.absolute ∨ z = months) ∧ outcome = .error (.data (.number z))) := by
  intro months year outcome
  have houtcome : outcome = _ :=
    shiftDatetime_eq_addMonths hq ht (Value.isDatetime_iff.mpr ⟨d, nanos, hl⟩)
  rw [houtcome]
  refine ⟨fun hyear => ?_, fun hyear => ?_⟩
  · have hsome : d.addMonths? months ≠ none := fun hnone => Date.addMonths?_eq_none.mp hnone hyear
    obtain ⟨e, he⟩ := Option.ne_none_iff_exists'.mp hsome
    obtain ⟨hindex, hday⟩ := Date.addMonths?_eq_some.mp he
    have hcount : i.absolute.natAbs ≤ Interval.maxLeading := by
      have hlt := Date.natAbs_lt_of_addMonths? he
      rw [natAbs_signed] at hlt
      exact Nat.le_trans (Nat.le_of_lt hlt) (by decide)
    obtain ⟨w, hw, hrebuilt, hleap, hfields⟩ := Value.exists_withDateAndNanos ht hv hl e
    refine ⟨w, e, ?_, hrebuilt, hleap, hfields, hindex, hday⟩
    rw [checkWord_eq hcount, lift_ok, ok_bind]
    exact lift_eq_ok.mpr ((Value.addMonths_of_some ht hl he).trans hw)
  · have hnone : d.addMonths? months = none := Date.addMonths?_eq_none.mpr hyear
    exact addMonths_fails_signed plus (Value.addMonths_of_none ht hl hnone)

/-- A year back from the leap day, in a leap second and twelve hours ahead of UTC; a month more than the calendar
has; and as many years as an interval can hold, which no word can count in months. -/
theorem shiftDatetime_by_months_at_edges :
    let leap : Date := ⟨2020, 2, 29, by decide, by decide, by decide, by decide, by decide, by decide⟩
    let last : Date := ⟨262142, 12, 31, by decide, by decide, by decide, by decide, by decide, by decide⟩
    let second : TimeOfDay := ⟨86399, 1500000000, by decide, by decide⟩
    let year : Interval := ⟨.yearToMonth, false, 1, 0⟩
    let month : Interval := ⟨.month, false, 1, 0⟩
    let ages : Interval := ⟨.year, true, 999999999999999999, 0⟩
    let l := Value.timestampTz ⟨⟨leap, second⟩, 43200⟩
    (year.Valid ∧ l.Valid ∧ l.dateAndNanos = .ok (leap, 86399999999999) ∧
        ∃ w e, shiftDatetime false l (.interval year) = .ok w ∧ l.Rebuilt w ∧ w.NoLeap ∧
          w.dateAndNanos = .ok (e, 86399999999999) ∧ e.year = 2019 ∧ e.month = 2 ∧ e.day = 28) ∧
      (∃ z, (z = month.absolute ∨ z = signed true month.absolute) ∧
        shiftDatetime true (.date last) (.interval month) = .error (.data (.number z))) ∧
      ages.Valid ∧ ∃ z, (z = ages.absolute ∨ z = signed false ages.absolute) ∧
        shiftDatetime false (.date last) (.interval ages) = .error (.data (.number z)) := by
  intro leap last second year month ages l
  have hv : l.Valid := by
    change (43200 : ZoneOffset).Valid
    decide
  have hnanos : second.nanos = 86399999999999 := by decide
  have hl : l.dateAndNanos = .ok (leap, 86399999999999) :=
    congrArg (fun nanos => Except.ok (leap, nanos)) hnanos
  have hlast : (Value.date last).dateAndNanos = .ok (last, 0) := rfl
  obtain ⟨w, e, hw, hrebuilt, hleap, hfields, hindex, hday⟩ :=
    (@shiftDatetime_by_months false year l leap _ rfl rfl hl hv).1 (by decide)
  obtain ⟨hyear, hmonth⟩ : e.year = 2019 ∧ e.month = 2 := by
    have h := e.one_le_month
    have h' := e.month_le
    have harrival : leap.monthIndex + signed false year.absolute = 12 * 2019 + 1 := by decide
    rw [harrival, Date.monthIndex] at hindex
    omega
  rw [hyear, hmonth] at hday
  exact ⟨⟨by decide, hv, hl, w, e, hw, hrebuilt, hleap, hfields, hyear, hmonth, hday⟩,
    (@shiftDatetime_by_months true month _ last _ rfl rfl hlast trivial).2 (by decide), by decide,
    (@shiftDatetime_by_months false ages _ last _ rfl rfl hlast trivial).2 (by decide)⟩

end SqlInterval
