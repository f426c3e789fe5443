import SqlInterval.Calendar.Month

/-!
# Dates and their months

A date is a month, among the months of all years, and a day in it. A shift moves the month and cuts the day
down to the length of the month where it arrives. It thus keeps the order of dates, and days that every month
has are never cut down: with them shifts are undone, and put together, like the numbers of months.
-/

namespace SqlInterval

theorem le_daysInMonth (y : Int) (m : Nat) : 28 ≤ daysInMonth y m := by
  unfold daysInMonth
  split
  · split <;> decide
  all_goals decide

namespace Date

variable {d e f : Date} {a b months : Int}

/-! ## Months of all years -/

/-- How many days the date's month has. -/
def monthLength (d : Date) : Nat := daysInMonth d.year d.month

theorem year_month_of_monthIndex (h : d.monthIndex = e.monthIndex) :
    d.year = e.year ∧ d.month = e.month := by
  have hd := d.one_le_month
  have hd' := d.month_le
  have he := e.one_le_month
  have he' := e.month_le
  unfold monthIndex at h
  omega

theorem monthLength_of_monthIndex (h : d.monthIndex = e.monthIndex) :
    d.monthLength = e.monthLength := by
  obtain ⟨hyear, hmonth⟩ := year_month_of_monthIndex h
  rw [monthLength, monthLength, hyear, hmonth]

theorem eq_of_monthIndex (h : d.monthIndex = e.monthIndex) (hday : d.day = e.day) : d = e := by
  obtain ⟨hyear, hmonth⟩ := year_month_of_monthIndex h
  cases d
  cases e
  congr

/-- Of two dates, the one in the earlier month is the earlier one; within a month it goes by the day. -/
theorem le_iff : d ≤ e ↔
    d.monthIndex < e.monthIndex ∨ d.monthIndex = e.monthIndex ∧ d.day ≤ e.day := by
  have hd := d.one_le_month
  have hd' := d.month_le
  have he := e.one_le_month
  have he' := e.month_le
  have hle : d ≤ e ↔ d.year < e.year ∨
    d.year = e.year ∧ (d.month < e.month ∨ d.month = e.month ∧ d.day ≤ e.day) := Iff.rfl
  rw [hle]
  unfold monthIndex
  omega

theorem monthIndex_div (d : Date) : d.monthIndex / 12 = d.year := by
  have h := d.one_le_month
  have h' := d.month_le
  unfold monthIndex
  omega

/-! ## Where a shift arrives -/

/-- The date arrives in the month that is so much further, on its day or the last one of that month. -/
theorem addMonths?_eq_some : d.addMonths? months = some e ↔
    e.monthIndex = d.monthIndex + months ∧ e.day = min d.day e.monthLength := by
  constructor
  · intro h
    obtain ⟨hyear, hmonth, hday⟩ := ofParts?_eq_some h
    refine ⟨?_, ?_⟩
    · rw [monthIndex, hyear, hmonth]
      omega
    · rw [hday, monthLength, hyear, hmonth]
  · rintro ⟨hindex, hday⟩
    have hyear : (d.monthIndex + months) / 12 = e.year := by rw [← hindex, e.monthIndex_div]
    have hmonth : ((d.monthIndex + months) % 12).toNat + 1 = e.month := by
      have h := e.one_le_month
      have h' := e.month_le
      rw [← hindex, monthIndex]
      omega
    simp only [addMonths?, hyear, hmonth]
    rw [← monthLength, ← hday]
    exact e.ofParts?_parts

/-- Only the years of the calendar limit a shift. -/
theorem addMonths?_eq_none : d.addMonths? months = none ↔
    ¬ (-262143 ≤ (d.monthIndex + months) / 12 ∧ (d.monthIndex + months) / 12 ≤ 262142) := by
  have hday := d.one_le_day
  have hlength := le_daysInMonth ((d.monthIndex + months) / 12)
    (((d.monthIndex + months) % 12).toNat + 1)
  unfold addMonths? ofParts?
  dsimp only
  split
  · rename_i h
    exact ⟨fun hnone => absurd hnone (Option.some_ne_none _), fun hyear => absurd h.1 hyear⟩
  · rename_i h
    refine ⟨fun _ hyear => h ⟨hyear, ?_, ?_⟩, fun _ => rfl⟩ <;> omega

/-- No two months of the calendar are further apart than a word of 32 bits can count. -/
theorem natAbs_lt_of_addMonths? (h : d.addMonths? months = some e) : months.natAbs < UInt32.size := by
  have hindex := (addMonths?_eq_some.mp h).1
  have hd := d.le_year
  have hd' := d.year_le
  have he := e.le_year
  have he' := e.year_le
  have hdm := d.month_le
  have hem := e.month_le
  unfold monthIndex at hindex
  unfold UInt32.size
  omega

/-! ## Order, ways back and sums -/

theorem addMonths?_mono {d' e' : Date} (hle : d ≤ d') (h : d.addMonths? months = some e)
    (h' : d'.addMonths? months = some e') : e ≤ e' := by
  obtain ⟨hindex, hday⟩ := addMonths?_eq_some.mp h
  obtain ⟨hindex', hday'⟩ := addMonths?_eq_some.mp h'
  refine le_iff.mpr ?_
  rcases le_iff.mp hle with hlt | ⟨heq, hdays⟩
  · left
    omega
  · right
    have hsame : e.monthIndex = e'.monthIndex := by omega
    rw [hday, hday', monthLength_of_monthIndex hsame]
    omega

/-- The way back leads into the month from which the date came, and to the date itself just if its day was
not cut down. -/
theorem addMonths?_back (h : d.addMonths? months = some e) :
    ∃ f, e.addMonths? (-months) = some f ∧ f.monthIndex = d.monthIndex ∧
      f.day = min d.day e.monthLength := by
  obtain ⟨hindex, hday⟩ := addMonths?_eq_some.mp h
  have hyear : (e.monthIndex + -months) / 12 = d.year := by
    rw [hindex, Int.add_neg_cancel_right, d.monthIndex_div]
  have hsome : e.addMonths? (-months) ≠ none := fun hnone =>
    addMonths?_eq_none.mp hnone (hyear ▸ ⟨d.le_year, d.year_le⟩)
  obtain ⟨f, hf⟩ := Option.ne_none_iff_exists'.mp hsome
  obtain ⟨hback, hfday⟩ := addMonths?_eq_some.mp hf
  have hsame : f.monthIndex = d.monthIndex := by omega
  have hlength : d.day ≤ d.monthLength := d.day_le
  refine ⟨f, hf, hsame, ?_⟩
  rw [hfday, hday, monthLength_of_monthIndex hsame]
  omega

/-- A day that every month has is kept. -/
theorem day_of_addMonths? (hday : d.day ≤ 28) (h : d.addMonths? months = some e) : e.day = d.day := by
  have hlength : 28 ≤ e.monthLength := le_daysInMonth _ _
  rw [(addMonths?_eq_some.mp h).2]
  omega

theorem addMonths?_addMonths? (hday : d.day ≤ 28) (he : d.addMonths? a = some e)
    (hf : e.addMonths? b = some f) : d.addMonths? (a + b) = some f := by
  have heday := day_of_addMonths? hday he
  have hfday := day_of_addMonths? (heday ▸ hday) hf
  have hlength : 28 ≤ f.monthLength := le_daysInMonth _ _
  refine addMonths?_eq_some.mpr ⟨?_, ?_⟩
  · rw [(addMonths?_eq_some.mp hf).1, (addMonths?_eq_some.mp he).1, Int.add_assoc]
  · rw [hfday, heday]
    omega

end Date

end SqlInterval
