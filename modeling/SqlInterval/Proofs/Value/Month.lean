import SqlInterval.Proofs.Calendar.Month
import SqlInterval.Proofs.Value.Rebuild

/-!
# Dates and timestamps shifted by months

A shift by months replaces the date alone. Between dates it keeps the order, and the opposite shift leads back
into the same month; both halves of a shift give the whole of it, unless a day was cut down on the way.
-/

namespace SqlInterval

variable {d e : Date} {months a b : Int} {v w : Value} {nanos : Nat}

namespace Value

/-! ## The date in a value -/

/-- With another date the value keeps its kind, its zone and its time of day, where a leap second is folded. -/
theorem exists_withDateAndNanos (ht : v.kind.isTimeOfDay = false) (hv : v.Valid)
    (h : v.dateAndNanos = .ok (d, nanos)) (e : Date) :
    ∃ w, v.withDateAndNanos e nanos = .ok w ∧ v.Rebuilt w ∧ w.NoLeap ∧
      w.dateAndNanos = .ok (e, nanos) := by
  have hk : v.kind.isDatetime := isDatetime_iff.mpr ⟨d, nanos, h⟩
  obtain ⟨w, hw, hrebuilt, hleap, hfields⟩ := withDateAndNanos_succeeds hk hv.accepted e
    (.inr ⟨Int.natCast_nonneg nanos, Int.ofNat_lt.mpr (nanos_lt_of_dateAndNanos h)⟩)
  have hkept : v.kind.fields e nanos = (e, nanos) := by
    cases v <;> cases h <;> first | rfl | cases ht
  exact ⟨w, hw, hrebuilt, hleap, hfields.trans (congrArg _ hkept)⟩

theorem addMonths_of_some (ht : v.kind.isTimeOfDay = false) (h : v.dateAndNanos = .ok (d, nanos))
    (he : d.addMonths? months = some e) : v.addMonths months = v.withDateAndNanos e nanos := by
  have hcount : ¬ UInt32.size ≤ months.natAbs := Nat.not_le.mpr (Date.natAbs_lt_of_addMonths? he)
  cases v <;> cases h <;> simp only [kind, Kind.isTimeOfDay, reduceCtorEq] at ht
  all_goals simp only [addMonths, dateAndNanos, ok_bind, if_neg hcount, he]

/-- A number that no word holds, leads out of the calendar, too. -/
theorem addMonths_of_none (ht : v.kind.isTimeOfDay = false) (h : v.dateAndNanos = .ok (d, nanos))
    (he : d.addMonths? months = none) : v.addMonths months = .error (.number months) := by
  cases v <;> cases h <;> simp only [kind, Kind.isTimeOfDay, reduceCtorEq] at ht
  all_goals simp only [addMonths, dateAndNanos, ok_bind, he, ite_self]

theorem addMonths_date :
    (date d).addMonths months = .ok v ↔ ∃ e, d.addMonths? months = some e ∧ v = .date e := by
  cases h : d.addMonths? months with
  | none =>
      rw [addMonths_of_none rfl rfl h]
      exact ⟨fun hv => (nomatch hv), fun ⟨e, he, _⟩ => (nomatch he)⟩
  | some e =>
      rw [addMonths_of_some rfl rfl h]
      exact ⟨fun hv => ⟨e, rfl, (Except.ok.inj hv).symm⟩, fun ⟨f, hf, hv⟩ => by cases hf; rw [hv]; rfl⟩

theorem addMonths_date_date :
    (date d).addMonths months = .ok (.date e) ↔ d.addMonths? months = some e := by
  rw [addMonths_date]
  exact ⟨fun ⟨f, hf, h⟩ => by cases h; exact hf, fun h => ⟨e, h, rfl⟩⟩

end Value

/-! ## Dates -/

/-- Shifts by months keep the order of dates. The opposite shift always leads back into the same month, and to
the same day just if the month in between has it, as every month has the first twenty-eight. From such a day a
shift in two steps is one by the sum. -/
theorem addMonths_monotone_and_undone :
    (∀ (d d' e e' : Date) (months : Int), d ≤ d' →
      (Value.date d).addMonths months = .ok (.date e) →
      (Value.date d').addMonths months = .ok (.date e') → e ≤ e') ∧
    (∀ (d e : Date) (months : Int), (Value.date d).addMonths months = .ok (.date e) →
      ∃ f : Date, (Value.date e).addMonths (-months) = .ok (.date f) ∧
        f.year = d.year ∧ f.month = d.month ∧ f ≤ d ∧
        (f = d ↔ d.day ≤ daysInMonth e.year e.month) ∧ (d.day ≤ 28 → f = d)) ∧
    ∀ (d : Date) (a b : Int) (v : Value), d.day ≤ 28 →
      (do (← (Value.date d).addMonths a).addMonths b) = .ok v →
        (Value.date d).addMonths (a + b) = .ok v := by
  refine ⟨fun d d' e e' months hle h h' => ?_, fun d e months h => ?_, fun d a b v hday h => ?_⟩
  · exact Date.addMonths?_mono hle (Value.addMonths_date_date.mp h) (Value.addMonths_date_date.mp h')
  · obtain ⟨f, hf, hindex, hday⟩ := Date.addMonths?_back (Value.addMonths_date_date.mp h)
    obtain ⟨hyear, hmonth⟩ := Date.year_month_of_monthIndex hindex
    have hsame : f = d ↔ d.day ≤ daysInMonth e.year e.month := by
      refine ⟨fun hfd => ?_, fun hfits => ?_⟩
      · rw [hfd] at hday
        exact hday ▸ Nat.min_le_right _ _
      · exact Date.eq_of_monthIndex hindex (hday.trans (Nat.min_eq_left hfits))
    refine ⟨f, Value.addMonths_date_date.mpr hf, hyear, hmonth, ?_, hsame, fun h28 => ?_⟩
    · exact Date.le_iff.mpr (.inr ⟨hindex, hday ▸ Nat.min_le_left _ _⟩)
    · exact hsame.mpr (Nat.le_trans h28 (le_daysInMonth _ _))
  · obtain ⟨w, hw, hv⟩ := bind_eq_ok.mp h
    obtain ⟨e, he, rfl⟩ := Value.addMonths_date.mp hw
    obtain ⟨f, hf, rfl⟩ := Value.addMonths_date.mp hv
    exact Value.addMonths_date_date.mpr (Date.addMonths?_addMonths? hday he hf)

/-- The last two days of January both become the leap day. From the end of March thirteen months back and on
again three days are lost, from its twenty-eighth none. -/
theorem addMonths_monotone_and_undone_in_leap_year :
    let penult : Date := ⟨2020, 1, 30, by decide, by decide, by decide, by decide, by decide, by decide⟩
    let last : Date := ⟨2020, 1, 31, by decide, by decide, by decide, by decide, by decide, by decide⟩
    let leap : Date := ⟨2020, 2, 29, by decide, by decide, by decide, by decide, by decide, by decide⟩
    let march : Date := ⟨2020, 3, 31, by decide, by decide, by decide, by decide, by decide, by decide⟩
    let short : Date := ⟨2019, 2, 28, by decide, by decide, by decide, by decide, by decide, by decide⟩
    let back : Date := ⟨2020, 3, 28, by decide, by decide, by decide, by decide, by decide, by decide⟩
    let april : Date := ⟨2021, 4, 28, by decide, by decide, by decide, by decide, by decide, by decide⟩
    (penult ≤ last ∧ (Value.date penult).addMonths 1 = .ok (.date leap) ∧
        (Value.date last).addMonths 1 = .ok (.date leap) ∧ leap ≤ leap) ∧
      ((Value.date march).addMonths (-13) = .ok (.date short) ∧
        ∃ f : Date, (Value.date short).addMonths 13 = .ok (.date f) ∧ f.month = 3 ∧ f ≤ march ∧
          f ≠ march) ∧
      (do (← (Value.date back).addMonths (-13)).addMonths 26) = .ok (.date april) ∧
        (Value.date back).addMonths 13 = .ok (.date april) := by
  intro penult last leap march short back april
  obtain ⟨hmono, hundo, hsum⟩ := addMonths_monotone_and_undone
  have hle : penult ≤ last := by decide
  have hpenult : (Value.date penult).addMonths 1 = .ok (.date leap) := eq_ok_of_toOption (by decide)
  have hlast : (Value.date last).addMonths 1 = .ok (.date leap) := eq_ok_of_toOption (by decide)
  have hmarch : (Value.date march).addMonths (-13) = .ok (.date short) :=
    eq_ok_of_toOption (by decide)
  obtain ⟨f, hf, -, hmonth, hfle, hsame, -⟩ := hundo march short (-13) hmarch
  have htwice : (do (← (Value.date back).addMonths (-13)).addMonths 26) = .ok (.date april) :=
    eq_ok_of_toOption (by decide)
  exact ⟨⟨hle, hpenult, hlast, hmono penult last leap leap 1 hle hpenult hlast⟩,
    ⟨hmarch, f, hf, hmonth, hfle, fun h => absurd (hsame.mp h) (by decide)⟩,
    htwice, hsum back (-13) 26 _ (by decide) htwice⟩

end SqlInterval
