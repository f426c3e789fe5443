import SqlInterval.Proofs.Calendar.Month
import SqlInterval.Proofs.Value.Fields

/-!
# Dates in order

Day numbers count through the calendar: the earlier date has the smaller number, the day after a date has
the next one, and every number from that of the first date to that of the last belongs to a date.
-/

namespace SqlInterval

namespace Date

variable {d e : Date} {n : Int}

/-- The day after, which may be the first one of the next month or of the next year. -/
def next? (d : Date) : Option Date :=
  if d.day < daysInMonth d.year d.month then ofParts? d.year d.month (d.day + 1)
  else if d.month < 12 then ofParts? d.year (d.month + 1) 1
  else ofParts? (d.year + 1) 1 1

/-! ## Earlier and later -/

theorem lt_trichotomy (d e : Date) : d < e ∨ d = e ∨ e < d := by
  have hlt (a b : Date) : a < b ↔ a.year < b.year ∨
    a.year = b.year ∧ (a.month < b.month ∨ a.month = b.month ∧ a.day < b.day) := Iff.rfl
  have heq : d.year = e.year → d.month = e.month → d.day = e.day → d = e := by
    cases d
    cases e
    rintro rfl rfl rfl
    rfl
  rw [hlt, hlt]
  by_cases hsame : d.year = e.year ∧ d.month = e.month ∧ d.day = e.day
  · exact .inr (.inl (heq hsame.1 hsame.2.1 hsame.2.2))
  · omega

/-- A month ends before a later one of the same year begins, and so does a year. -/
theorem dayNumber_lt_of_lt (h : d < e) : d.dayNumber < e.dayNumber := by
  obtain ⟨-, hmonth, hyear⟩ := d.dayOfYear_bounds
  have hday := e.one_le_day
  unfold dayNumber
  rcases h with hlt | ⟨hsame, hlt | ⟨hmonths, hlt⟩⟩
  · have hmono := daysBeforeYear_mono (show d.year + 1 ≤ e.year from hlt)
    rw [daysBeforeYear_succ] at hmono
    rw [daysBeforeMonth_thirteen] at hyear
    grind
  · have hmono := daysBeforeMonth_mono d.year (by omega) (show d.month + 1 ≤ e.month from hlt)
      (Nat.le_succ_of_le e.month_le)
    rw [← hsame]
    omega
  · rw [← hsame, ← hmonths]
    omega

theorem lt_iff_dayNumber_lt : d < e ↔ d.dayNumber < e.dayNumber := by
  refine ⟨dayNumber_lt_of_lt, fun h => ?_⟩
  rcases lt_trichotomy d e with hlt | rfl | hgt
  · exact hlt
  · exact absurd h (Int.lt_irrefl _)
  · exact absurd (dayNumber_lt_of_lt hgt) (Int.lt_asymm h)

/-! ## From the first date to the last -/

theorem first_dayNumber_le (d : Date) : first.dayNumber ≤ d.dayNumber := by
  have hyear := d.le_year
  have hmonth := d.one_le_month
  have hday := d.one_le_day
  refine Int.not_lt.mp fun h => ?_
  rcases lt_iff_dayNumber_lt.mpr h with h | ⟨-, h | ⟨-, h⟩⟩ <;> simp only [first] at h <;> omega

theorem dayNumber_le_last (d : Date) : d.dayNumber ≤ last.dayNumber := by
  have hyear := d.year_le
  have hmonth := d.month_le
  have hday := d.day_le
  refine Int.not_lt.mp fun h => ?_
  rcases lt_iff_dayNumber_lt.mpr h with h | ⟨-, h | ⟨hdecember, h⟩⟩
  · simp only [last] at h
    omega
  · simp only [last] at h
    omega
  · rw [← hdecember] at hday
    exact absurd hday (Nat.not_le.mpr h)

/-- The year of a number in the range is one of the calendar, and its day of the year lies in a month. -/
theorem exists_dayNumber (hfirst : first.dayNumber ≤ n) (hlast : n ≤ last.dayNumber) :
    ∃ d : Date, d.dayNumber = n := by
  have hstart : first.dayNumber + epochOffset = daysBeforeYear (-262143) := by decide
  have hend : last.dayNumber + epochOffset + 1 = daysBeforeYear 262143 := by decide
  obtain ⟨hlo, hhi⟩ := yearOfDay_bounds (n + epochOffset)
  have hle : -262143 ≤ yearOfDay (n + epochOffset) := Int.not_lt.mp fun h => by
    have := daysBeforeYear_mono (show yearOfDay (n + epochOffset) + 1 ≤ -262143 from h)
    omega
  have hge : yearOfDay (n + epochOffset) ≤ 262142 := Int.not_lt.mp fun h => by
    have := daysBeforeYear_mono (show 262143 ≤ yearOfDay (n + epochOffset) from h)
    omega
  obtain ⟨hm1, hm12, hmonth, hin⟩ := monthOfDay_inMonth (yearOfDay (n + epochOffset))
    (n + epochOffset - daysBeforeYear (yearOfDay (n + epochOffset))).toNat
  rw [daysBeforeMonth_succ _ hm1 hm12, daysBeforeMonth_thirteen] at hin
  rw [daysBeforeYear_succ] at hhi
  refine ⟨_, dayNumber_ofDayNumber? (dif_pos ⟨⟨hle, hge⟩, ⟨hm1, hm12⟩, ?_, ?_⟩)⟩
  · exact Nat.le_add_left 1 _
  · grind

theorem exists_ofDayNumber_eq_ok :
    (∃ d, ofDayNumber n = .ok d) ↔ first.dayNumber ≤ n ∧ n ≤ last.dayNumber := by
  simp only [ofDayNumber_eq_ok]
  constructor
  · rintro ⟨d, rfl⟩
    exact ⟨d.first_dayNumber_le, d.dayNumber_le_last⟩
  · rintro ⟨hfirst, hlast⟩
    exact exists_dayNumber hfirst hlast

theorem ofDayNumber_eq_error_iff {x : DataError} :
    ofDayNumber n = .error x ↔
      x = .number n ∧ ¬ (first.dayNumber ≤ n ∧ n ≤ last.dayNumber) := by
  rw [← exists_ofDayNumber_eq_ok]
  have hfails (hnone : ¬ ∃ d, ofDayNumber n = .ok d) : ofDayNumber n = .error (.number n) :=
    ofDayNumber_eq_error fun d hd => hnone ⟨d, ofDayNumber_eq_ok.mpr hd⟩
  constructor
  · intro h
    have hnone : ¬ ∃ d, ofDayNumber n = .ok d := fun ⟨d, hd⟩ => nomatch hd.symm.trans h
    exact ⟨Except.error.inj (h.symm.trans (hfails hnone)), hnone⟩
  · rintro ⟨rfl, hnone⟩
    exact hfails hnone

/-! ## The day after -/

theorem dayNumber_next? (h : d.next? = some e) : e.dayNumber = d.dayNumber + 1 := by
  have hday := d.day_le
  have hday1 := d.one_le_day
  unfold next? at h
  split at h
  · obtain ⟨hy, hm, hd⟩ := ofParts?_eq_some h
    rw [dayNumber, dayNumber, hy, hm, hd]
    omega
  · split at h
    · obtain ⟨hy, hm, hd⟩ := ofParts?_eq_some h
      rw [dayNumber, dayNumber, hy, hm, hd, daysBeforeMonth_succ _ d.one_le_month d.month_le]
      omega
    · obtain ⟨hy, hm, hd⟩ := ofParts?_eq_some h
      have hdecember : d.month = 12 := by
        have := d.month_le
        omega
      have hyear := daysBeforeMonth_succ d.year (show 1 ≤ 12 by decide) (Nat.le_refl 12)
      rw [daysBeforeMonth_thirteen] at hyear
      rw [hdecember] at hday
      rw [dayNumber, dayNumber, hy, hm, hd, daysBeforeYear_succ, hdecember]
      have hjanuary : daysBeforeMonth (d.year + 1) 1 = 0 := rfl
      grind

/-- Only the last date has no day after it: a month that ends is followed by another one, or by the first one
of a year that the calendar has. -/
theorem next?_ne_none (h : d < last) : d.next? ≠ none := by
  have hyear := d.le_year
  have hyear' := d.year_le
  have hmonth := d.one_le_month
  have hmonth' := d.month_le
  have hsome {y : Int} {m k : Nat} (hy : -262143 ≤ y ∧ y ≤ 262142) (hm : 1 ≤ m ∧ m ≤ 12)
      (hk : 1 ≤ k ∧ k ≤ daysInMonth y m) : ofParts? y m k ≠ none := by
    rw [ofParts?, dif_pos ⟨hy, hm, hk⟩]
    exact Option.some_ne_none _
  have hfirst (y : Int) (m : Nat) : 1 ≤ 1 ∧ 1 ≤ daysInMonth y m :=
    ⟨Nat.le_refl 1, Nat.le_trans (by decide) (le_daysInMonth y m)⟩
  unfold next?
  split
  · rename_i hday
    exact hsome ⟨hyear, hyear'⟩ ⟨hmonth, hmonth'⟩ ⟨Nat.le_add_left 1 _, hday⟩
  · rename_i hday
    split
    · rename_i hm
      exact hsome ⟨hyear, hyear'⟩ ⟨Nat.le_add_left 1 _, hm⟩ (hfirst _ _)
    · rename_i hm
      rcases h with hlt | ⟨-, hlt | ⟨hdecember, hlt⟩⟩
      · exact hsome ⟨by omega, hlt⟩ (by decide) (hfirst _ _)
      · exact absurd hlt hm
      · rw [hdecember] at hday
        exact absurd hlt hday

theorem next?_eq_some : d.next? = some e ↔ e.dayNumber = d.dayNumber + 1 := by
  refine ⟨dayNumber_next?, fun h => ?_⟩
  have hlast := e.dayNumber_le_last
  have hlt : d < last := lt_iff_dayNumber_lt.mpr (by omega)
  obtain ⟨f, hf⟩ := Option.ne_none_iff_exists'.mp (next?_ne_none hlt)
  rw [hf, dayNumber_injective ((dayNumber_next? hf).trans h.symm)]

end Date

/-- Dates and their numbers determine each other, in order and without a gap, from the first date of the calendar
to the last; a number beyond them is out of range, and shown as it is. -/
theorem dayNumbers_mirror_calendar :
    (∀ d : Date, Date.ofDayNumber d.dayNumber = .ok d) ∧
    (∀ n : Int, ((∃ d, Date.ofDayNumber n = .ok d) ↔
        Date.first.dayNumber ≤ n ∧ n ≤ Date.last.dayNumber) ∧
      (∀ d, Date.ofDayNumber n = .ok d ↔ d.dayNumber = n) ∧
      ∀ e, Date.ofDayNumber n = .error e ↔
        e = .number n ∧ ¬ (Date.first.dayNumber ≤ n ∧ n ≤ Date.last.dayNumber)) ∧
    (∀ d e : Date, d < e ↔ d.dayNumber < e.dayNumber) ∧
    (∀ d e : Date, d.next? = some e ↔ e.dayNumber = d.dayNumber + 1) ∧
    Date.epoch.dayNumber = 0 := by
  refine ⟨fun d => Date.ofDayNumber_eq_ok.mpr rfl, fun n => ?_, fun d e => Date.lt_iff_dayNumber_lt,
    fun d e => Date.next?_eq_some, by decide⟩
  exact ⟨Date.exists_ofDayNumber_eq_ok, fun d => Date.ofDayNumber_eq_ok,
    fun e => Date.ofDayNumber_eq_error_iff⟩

end SqlInterval
