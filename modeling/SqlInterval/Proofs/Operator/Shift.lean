import SqlInterval.Operator.Shift
import SqlInterval.Proofs.Interval.Absolute
import SqlInterval.Proofs.Value.Fields

/-!
# Shifts by days and smaller units

A position in time moves as one number of nanoseconds, whose whole days give the date: the day and the
time that are moved apart meet again there. A time of day stays within its day, and a date moves by
whole days.
-/

namespace SqlInterval

/-- What becomes of a date or time that moves by `a` nanoseconds on its own clock. -/
inductive Moved (a : Int) : Value → Except EvalError Value → Prop where
  | date {d e : Date} (h : e.dayNumber = d.dayNumber + a.tdiv nanosPerDay) :
      Moved a (.date d) (.ok (.date e))
  | noDate {d : Date} (h : ∀ e : Date, e.dayNumber ≠ d.dayNumber + a.tdiv nanosPerDay) :
      Moved a (.date d) (.error (.data (.number (d.dayNumber + a.tdiv nanosPerDay))))
  | time {t u : TimeOfDay} (h : u.At (t.nanos + a)) : Moved a (.time t) (.ok (.time u))
  | noTime {t : TimeOfDay} (h : ¬ (0 ≤ t.nanos + a ∧ t.nanos + a < nanosPerDay)) :
      Moved a (.time t) (.error (.data (.number (t.nanos + a))))
  | timeTz {t : ZonedTime} {u : TimeOfDay} (h : u.At (t.time.nanos + a)) :
      Moved a (.timeTz t) (.ok (.timeTz ⟨u, t.offset⟩))
  | noTimeTz {t : ZonedTime} (h : ¬ (0 ≤ t.time.nanos + a ∧ t.time.nanos + a < nanosPerDay)) :
      Moved a (.timeTz t) (.error (.data (.number (t.time.nanos + a))))
  | timestamp {t u : Timestamp} (hd : u.date.dayNumber = (t.clockNanos + a) / nanosPerDay)
      (ht : u.time.At ((t.clockNanos + a) % nanosPerDay)) :
      Moved a (.timestamp t) (.ok (.timestamp u))
  | noTimestamp {t : Timestamp}
      (h : ∀ d : Date, d.dayNumber ≠ (t.clockNanos + a) / nanosPerDay) :
      Moved a (.timestamp t) (.error (.data (.number ((t.clockNanos + a) / nanosPerDay))))
  | timestampTz {t : ZonedTimestamp} {u : Timestamp}
      (hd : u.date.dayNumber = (t.clock.clockNanos + a) / nanosPerDay)
      (ht : u.time.At ((t.clock.clockNanos + a) % nanosPerDay)) :
      Moved a (.timestampTz t) (.ok (.timestampTz ⟨u, t.offset⟩))
  | noTimestampTz {t : ZonedTimestamp}
      (h : ∀ d : Date, d.dayNumber ≠ (t.clock.clockNanos + a) / nanosPerDay) :
      Moved a (.timestampTz t) (.error (.data (.number ((t.clock.clockNanos + a) / nanosPerDay))))

/-! ## Days and nanoseconds moved apart -/

theorem minWord_eq : Int64.minValue.toInt = -9223372036854775808 := by decide

theorem maxWord_eq : Int64.maxValue.toInt = 9223372036854775807 := by decide

theorem checkWord_eq {z : Int} (h : z.natAbs ≤ Interval.maxLeading) : checkWord z = .ok z :=
  if_pos (by rw [minWord_eq, maxWord_eq]; simp only [Interval.maxLeading] at h; omega)

theorem checkWord_cases (z : Int) : checkWord z = .ok z ∨ checkWord z = .error (.number z) := by
  unfold checkWord
  split
  · exact .inl rfl
  · exact .inr rfl

theorem signed_tdiv (plus : Bool) (a b : Int) : signed plus (a.tdiv b) = (signed plus a).tdiv b := by
  cases plus <;> simp [signed, Int.neg_tdiv]

theorem signed_tmod (plus : Bool) (a b : Int) : signed plus (a.tmod b) = (signed plus a).tmod b := by
  cases plus <;> simp [signed, Int.neg_tmod]

theorem natAbs_signed (plus : Bool) (a : Int) : (signed plus a).natAbs = a.natAbs := by
  cases plus
  · exact Int.natAbs_neg a
  · rfl

/-- An interval holds no more days than its leading field has digits for. -/
theorem Interval.Valid.days_bounds {i : Interval} (h : i.Valid) :
    (i.absolute.tdiv nanosPerDay).natAbs ≤ maxLeading := by
  have hmag := h.magnitude_lt
  have hunit := Nat.mul_le_mul_left (maxLeading + 1) i.qualifier.leadingUnit_le
  rw [Int.natAbs_tdiv, natAbs_absolute]
  exact Nat.le_of_lt_succ (Nat.div_lt_of_lt_mul (by rw [Nat.mul_comm]; exact Nat.lt_of_lt_of_le hmag hunit))

namespace Value

/-- The carry or borrow of one day makes up for days that are cut off toward zero. -/
theorem shiftTimestamp_eq (plus : Bool) (v : Value) (t : Timestamp) {a : Int}
    (ha : (a.tdiv nanosPerDay).natAbs ≤ Interval.maxLeading) :
    v.shiftTimestamp plus t.date t.time.nanos a = (do
      v.withDateAndNanos (← Date.ofDayNumber ((t.clockNanos + signed plus a) / nanosPerDay))
        ((t.clockNanos + signed plus a) % nanosPerDay)) := by
  have hd := t.date.dayNumber_bounds
  have hn := t.time.nanos_lt
  have hdays : (signed plus (a.tdiv nanosPerDay)).natAbs ≤ Interval.maxLeading := by
    rwa [natAbs_signed]
  simp only [shiftTimestamp, Timestamp.clockNanos, checkWord_eq ha, ok_bind, signed_tdiv, signed_tmod]
    at hdays ⊢
  have hsplit := Int.mul_tdiv_add_tmod (signed plus a) nanosPerDay
  have hlo := Int.lt_tmod_of_pos (signed plus a) (show (0 : Int) < nanosPerDay by decide)
  have hhi := Int.tmod_lt_of_pos (signed plus a) (show (0 : Int) < nanosPerDay by decide)
  generalize (signed plus a).tdiv nanosPerDay = days at *
  generalize (signed plus a).tmod nanosPerDay = rest at *
  rw [← hsplit]
  generalize t.date.dayNumber = day at *
  generalize t.time.nanos = nanos at *
  rw [if_neg (by
    rw [minWord_eq, maxWord_eq]
    simp only [Interval.maxLeading] at hdays
    omega)]
  -- In every branch the new day and time are the quotient and the remainder, by uniqueness.
  have hposition (q moved : Int)
      (h : q * nanosPerDay + moved = day * nanosPerDay + nanos + (nanosPerDay * days + rest))
      (h0 : 0 ≤ moved) (hm : moved < nanosPerDay) :
      (day * nanosPerDay + nanos + (nanosPerDay * days + rest)) / nanosPerDay = q ∧
        (day * nanosPerDay + nanos + (nanosPerDay * days + rest)) % nanosPerDay = moved :=
    (Int.ediv_emod_unique (by decide)).mpr ⟨by rw [← h, Int.mul_comm, Int.add_comm], h0, hm⟩
  by_cases hcarry : (nanosPerDay : Int) ≤ nanos + rest
  · obtain ⟨hday, hmoved⟩ := hposition (day + days + 1) (nanos + rest - nanosPerDay)
      (by simp only [nanosPerDay]; omega) (by omega) (by omega)
    rw [if_pos hcarry, hday, hmoved]
  · rw [if_neg hcarry]
    by_cases hborrow : nanos + rest < 0
    · obtain ⟨hday, hmoved⟩ := hposition (day + days - 1) (nanos + rest + nanosPerDay)
        (by simp only [nanosPerDay]; omega) (by omega) (by omega)
      rw [if_pos hborrow, hday, hmoved]
    · obtain ⟨hday, hmoved⟩ := hposition (day + days) (nanos + rest)
        (by simp only [nanosPerDay]; omega) (by omega) (by omega)
      rw [if_neg hborrow, hday, hmoved]

end Value

/-! ## Kinds and zones -/

theorem Value.shiftTimestamp_rebuilt {plus : Bool} {v w : Value} {d : Date} {nanos : Nat} {a : Int}
    (hv : v.kind.isDatetime) (h : v.shiftTimestamp plus d nanos a = .ok w) : Rebuilt v w := by
  simp only [shiftTimestamp, bind_eq_ok] at h
  obtain ⟨days, -, h⟩ := h
  split at h
  · cases h
  · split at h
    · obtain ⟨d, -, h⟩ := bind_eq_ok.mp h
      exact withDateAndNanos_rebuilt hv h
    · split at h
      · obtain ⟨d, -, h⟩ := bind_eq_ok.mp h
        exact withDateAndNanos_rebuilt hv h
      · obtain ⟨d, -, h⟩ := bind_eq_ok.mp h
        exact withDateAndNanos_rebuilt hv h

theorem shiftNanos_rebuilt {plus : Bool} {l w : Value} {a : Int}
    (h : shiftNanos plus l a = .ok w) : l.Rebuilt w := by
  cases l with
  | date d =>
      obtain ⟨e, -, h⟩ := bind_eq_ok.mp h
      cases h
      exact .date d e
  | time | timeTz => exact Value.withDateAndNanos_rebuilt rfl (lift_eq_ok.mp h)
  | timestamp | timestampTz => exact Value.shiftTimestamp_rebuilt rfl (lift_eq_ok.mp h)
  | _ => cases h

theorem shiftMonths_rebuilt {plus : Bool} {l r w : Value} {a : Int}
    (h : shiftMonths plus l r a = .ok w) : l.Rebuilt w := by
  unfold shiftMonths at h
  split at h
  · cases h
  · split at h
    · obtain ⟨months, -, h⟩ := bind_eq_ok.mp h
      exact Value.addMonths_rebuilt (lift_eq_ok.mp h)
    · cases h

/-- Months that a word cannot hold are out of range before the calendar is asked. -/
theorem addMonths_fails_signed {l : Value} (plus : Bool) {a : Int}
    (h : l.addMonths (signed plus a) = .error (.number (signed plus a))) :
    ∃ z, (z = a ∨ z = signed plus a) ∧
      (do l.addMonths (signed plus (← checkWord a)) : Except EvalError Value) =
        .error (.data (.number z)) := by
  rcases checkWord_cases a with hword | hword
  · refine ⟨_, .inr rfl, ?_⟩
    rw [hword, lift_ok, ok_bind, h]
    rfl
  · refine ⟨_, .inl rfl, ?_⟩
    rw [hword]
    rfl

/-- A shift changes neither the kind of a date or time nor its zone. -/
theorem shiftDatetime_rebuilt {plus : Bool} {l r w : Value} (h : shiftDatetime plus l r = .ok w) :
    l.Rebuilt w := by
  obtain ⟨i, -, h⟩ := bind_eq_ok.mp h
  split at h
  · exact shiftMonths_rebuilt h
  · exact shiftNanos_rebuilt h

/-! ## All kinds of dates and times -/

variable {plus : Bool} {i : Interval} {l : Value} {r : Except EvalError Value}

theorem shiftDatetime_eq_shiftNanos (hq : i.qualifier.isYearMonth = false) :
    shiftDatetime plus l (.interval i) = shiftNanos plus l i.absolute := by
  simp only [shiftDatetime, Value.toInterval, ok_bind, hq, Bool.false_eq_true, if_false]

theorem Moved.exists {a : Int} (hl : l.kind.isDatetime) : ∃ r, Moved a l r := by
  have hday (n : Int) : (∃ d : Date, d.dayNumber = n) ∨ ∀ d : Date, d.dayNumber ≠ n := by
    by_cases h : ∃ d : Date, d.dayNumber = n
    · exact .inl h
    · exact .inr (not_exists.mp h)
  have htime (n : Int) : ∃ u : TimeOfDay, u.At (n % nanosPerDay) := by
    obtain ⟨u, -, hu⟩ := TimeOfDay.exists_ofNanos
      ⟨Int.emod_nonneg n (by decide), Int.emod_lt_of_pos n (by decide)⟩
    exact ⟨u, hu⟩
  cases l <;> simp only [Value.kind, Kind.isDatetime, Bool.false_eq_true] at hl
  case date d =>
    obtain ⟨e, he⟩ | h := hday (d.dayNumber + a.tdiv nanosPerDay)
    · exact ⟨_, .date he⟩
    · exact ⟨_, .noDate h⟩
  case time t =>
    by_cases h : 0 ≤ t.nanos + a ∧ t.nanos + a < nanosPerDay
    · obtain ⟨u, -, hu⟩ := TimeOfDay.exists_ofNanos h
      exact ⟨_, .time hu⟩
    · exact ⟨_, .noTime h⟩
  case timeTz t =>
    by_cases h : 0 ≤ t.time.nanos + a ∧ t.time.nanos + a < nanosPerDay
    · obtain ⟨u, -, hu⟩ := TimeOfDay.exists_ofNanos h
      exact ⟨_, .timeTz hu⟩
    · exact ⟨_, .noTimeTz h⟩
  case timestamp t =>
    obtain ⟨u, hu⟩ := htime (t.clockNanos + a)
    obtain ⟨d, hd⟩ | h := hday ((t.clockNanos + a) / nanosPerDay)
    · exact ⟨_, .timestamp (u := ⟨d, u⟩) hd hu⟩
    · exact ⟨_, .noTimestamp h⟩
  case timestampTz t =>
    obtain ⟨u, hu⟩ := htime (t.clock.clockNanos + a)
    obtain ⟨d, hd⟩ | h := hday ((t.clock.clockNanos + a) / nanosPerDay)
    · exact ⟨_, .timestampTz (u := ⟨d, u⟩) hd hu⟩
    · exact ⟨_, .noTimestampTz h⟩

theorem Moved.shiftNanos {a : Int} (h : Moved (signed plus a) l r) (hl : l.Accepted)
    (ha : (a.tdiv nanosPerDay).natAbs ≤ Interval.maxLeading) : shiftNanos plus l a = r := by
  cases h with
  | date h =>
      rw [SqlInterval.shiftNanos, signed_tdiv, Date.ofDayNumber_eq_ok.mpr h]
      rfl
  | noDate h =>
      rw [SqlInterval.shiftNanos, signed_tdiv, Date.ofDayNumber_eq_error h]
      rfl
  | time h =>
      rw [SqlInterval.shiftNanos, Value.withDateAndNanos, h.ofNanos]
      rfl
  | noTime h =>
      rw [SqlInterval.shiftNanos, Value.withDateAndNanos, TimeOfDay.ofNanos_eq_error h]
      rfl
  | timeTz h =>
      rw [SqlInterval.shiftNanos, Value.withDateAndNanos, h.ofNanos, ok_bind, ZonedTime.new,
        ZoneOffset.check_eq hl]
      rfl
  | noTimeTz h =>
      rw [SqlInterval.shiftNanos, Value.withDateAndNanos, TimeOfDay.ofNanos_eq_error h]
      rfl
  | timestamp hd ht =>
      rw [SqlInterval.shiftNanos, Value.shiftTimestamp_eq _ _ _ ha, Date.ofDayNumber_eq_ok.mpr hd,
        ok_bind]
      simp only [Value.withDateAndNanos, ht.ofNanos]
      rfl
  | noTimestamp h =>
      rw [SqlInterval.shiftNanos, Value.shiftTimestamp_eq _ _ _ ha, Date.ofDayNumber_eq_error h]
      rfl
  | timestampTz hd ht =>
      rw [SqlInterval.shiftNanos, Value.shiftTimestamp_eq _ _ _ ha, Date.ofDayNumber_eq_ok.mpr hd,
        ok_bind, Value.withDateAndNanos, ht.ofNanos, ok_bind, ZonedTimestamp.new,
        ZoneOffset.check_eq hl]
      rfl
  | noTimestampTz h =>
      rw [SqlInterval.shiftNanos, Value.shiftTimestamp_eq _ _ _ ha, Date.ofDayNumber_eq_error h]
      rfl

/-- A date or time is moved exactly, or fails because the calendar or the clock has no such place. -/
theorem shiftDatetime_eq_iff_moved (hi : i.Valid) (hq : i.qualifier.isYearMonth = false)
    (hl : l.kind.isDatetime) (hv : l.Valid) :
    shiftDatetime plus l (.interval i) = r ↔ Moved (signed plus i.absolute) l r := by
  rw [shiftDatetime_eq_shiftNanos hq]
  refine ⟨fun h => ?_, fun h => h.shiftNanos hv.accepted hi.days_bounds⟩
  obtain ⟨s, hs⟩ := Moved.exists (a := signed plus i.absolute) hl
  rw [← h, hs.shiftNanos hv.accepted hi.days_bounds]
  exact hs

/-- One nanosecond before the epoch, far west of Greenwich: a day is borrowed. -/
theorem shiftDatetime_borrows_day :
    (⟨.second, false, 0, 1⟩ : Interval).Valid ∧ (-64800 : ZoneOffset).Valid ∧
      shiftDatetime false (.timestampTz ⟨⟨.epoch, .midnight⟩, -64800⟩)
          (.interval ⟨.second, false, 0, 1⟩) =
        .ok (.timestampTz ⟨⟨⟨1969, 12, 31, by decide, by decide, by decide, by decide, by decide,
          by decide⟩, ⟨86399, 999999999, by decide, by decide⟩⟩, -64800⟩) := by
  have hi : (⟨.second, false, 0, 1⟩ : Interval).Valid := by decide
  have hv : (-64800 : ZoneOffset).Valid := by decide
  refine ⟨hi, hv, (shiftDatetime_eq_iff_moved hi rfl rfl ?_).mpr ?_⟩
  · exact hv
  · exact .timestampTz (by decide) ⟨by decide, by decide⟩

end SqlInterval
