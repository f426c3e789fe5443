import SqlInterval.Proofs.Calendar.DayNumber
import SqlInterval.Proofs.Outcome
import SqlInterval.Value.Fields

/-!
# Fields of dates and times

A date is found by its number and a time of day by its nanoseconds, or the calendar or the clock has
none there. What is put together again from a date and nanoseconds is of the same kind and in the same
zone.
-/

namespace SqlInterval

/-! ## Dates by their number -/

namespace Date

theorem ofDayNumber_eq_ok {n : Int} {d : Date} : ofDayNumber n = .ok d ↔ d.dayNumber = n := by
  have h : ofDayNumber? n = some d ↔ d.dayNumber = n := ofDayNumber?_eq_some
  unfold ofDayNumber
  split
  · rename_i e he
    rw [← h, he, Except.ok.injEq, Option.some.injEq]
  · rename_i he
    rw [← h, he]
    simp only [reduceCtorEq]

theorem ofDayNumber_eq_error {n : Int} (h : ∀ d : Date, d.dayNumber ≠ n) :
    ofDayNumber n = .error (.number n) := by
  unfold ofDayNumber
  split
  · rename_i d hd
    exact absurd (dayNumber_ofDayNumber? hd) (h d)
  · rfl

end Date

/-! ## Times by their nanoseconds -/

namespace TimeOfDay

theorem nanos_lt (t : TimeOfDay) : t.nanos < nanosPerDay := by
  have h := t.second_lt
  simp only [nanos, nanosPerSecond, nanosPerDay]
  omega

/-- The time is not in a leap second. -/
def NoLeap (t : TimeOfDay) : Prop := t.nano < nanosPerSecond

instance (t : TimeOfDay) : Decidable t.NoLeap := inferInstanceAs (Decidable (_ < _))

/-- The time is `n` nanoseconds after midnight, and not in a leap second. -/
def At (n : Int) (t : TimeOfDay) : Prop := (t.nanos : Int) = n ∧ t.NoLeap

theorem At.unique {n : Int} {t u : TimeOfDay} (ht : t.At n) (hu : u.At n) : t = u := by
  obtain ⟨ht, hnt⟩ := ht
  obtain ⟨hu, hnu⟩ := hu
  simp only [nanos, NoLeap, nanosPerSecond] at ht hu hnt hnu
  cases t
  cases u
  congr <;> dsimp only at * <;> omega

/-- The clock has every number of nanoseconds below one day. -/
theorem exists_ofNanos {n : Int} (h : 0 ≤ n ∧ n < nanosPerDay) :
    ∃ t, ofNanos n = .ok t ∧ t.At n := by
  refine ⟨_, dif_pos h, ?_, ?_⟩
  · simp only [nanos, nanosPerSecond]
    omega
  · exact Nat.mod_lt _ (by decide)

theorem At.ofNanos {n : Int} {t : TimeOfDay} (h : t.At n) : ofNanos n = .ok t := by
  have hlt := t.nanos_lt
  obtain ⟨u, hu, hat⟩ := exists_ofNanos (n := n) (by rw [← h.1]; omega)
  rw [hu, hat.unique h]

theorem ofNanos_eq_error {n : Int} (h : ¬ (0 ≤ n ∧ n < nanosPerDay)) :
    ofNanos n = .error (.number n) := dif_neg h

end TimeOfDay

/-! ## Values from their fields -/

namespace ZoneOffset

variable {offset o : ZoneOffset}

/-- The check lets the least word through, besides the offsets that can be. -/
theorem accepted_iff : offset.Accepted ↔ offset.Valid ∨ offset = Int32.minValue := by
  have habs : offset.abs.toInt =
      if offset.toBitVec = BitVec.intMin 32 then (BitVec.intMin 32).toInt else offset.toInt.natAbs :=
    BitVec.toInt_abs_eq_natAbs
  have hleast : offset = Int32.minValue ↔ offset.toBitVec = BitVec.intMin 32 := Int32.toBitVec_inj.symm
  rw [Accepted, habs, hleast]
  split
  · rename_i h
    exact iff_of_true (by decide) (.inr h)
  · rename_i h
    rw [or_iff_left h, Valid]
    exact Int.ofNat_le

theorem Valid.accepted (h : offset.Valid) : offset.Accepted := accepted_iff.mpr (.inl h)

theorem check_eq (h : offset.Accepted) : offset.check = .ok offset := if_pos h

theorem check_fails (h : ¬ offset.Accepted) :
    offset.check = .error (.invalidValue "time zone offset" (Numeral.text offset.toInt)) := if_neg h

theorem check_ok (h : offset.check = .ok o) : o = offset ∧ offset.Accepted := by
  unfold check at h
  split at h
  · rename_i ha
    cases h
    exact ⟨rfl, ha⟩
  · cases h

end ZoneOffset

theorem ZonedTime.new_ok {time : TimeOfDay} {offset : ZoneOffset} {t : ZonedTime}
    (h : new time offset = .ok t) : t = ⟨time, offset⟩ ∧ offset.Accepted := by
  obtain ⟨o, ho, ht⟩ := bind_eq_ok.mp h
  obtain ⟨rfl, ha⟩ := ZoneOffset.check_ok ho
  cases ht
  exact ⟨rfl, ha⟩

theorem ZonedTimestamp.new_ok {clock : Timestamp} {offset : ZoneOffset} {t : ZonedTimestamp}
    (h : new clock offset = .ok t) : t = ⟨clock, offset⟩ ∧ offset.Accepted := by
  obtain ⟨o, ho, ht⟩ := bind_eq_ok.mp h
  obtain ⟨rfl, ha⟩ := ZoneOffset.check_ok ho
  cases ht
  exact ⟨rfl, ha⟩

namespace Timestamp

/-- Nanoseconds since 1970-01-01 on the timestamp's own clock. -/
def clockNanos (t : Timestamp) : Int := t.date.dayNumber * nanosPerDay + t.time.nanos

/-- The day and the nanoseconds in it are quotient and remainder. -/
theorem clockNanos_split (t : Timestamp) :
    t.clockNanos / nanosPerDay = t.date.dayNumber ∧ t.clockNanos % nanosPerDay = t.time.nanos :=
  (Int.ediv_emod_unique (by decide)).mpr
    ⟨by rw [clockNanos, Int.mul_comm, Int.add_comm], Int.natCast_nonneg _,
      Int.ofNat_lt.mpr t.time.nanos_lt⟩

end Timestamp

namespace Value

/-- The interval's fields, or the offset of the zone, are within their bounds. -/
def Valid : Value → Prop
  | timeTz t => t.offset.Valid
  | timestampTz t => t.offset.Valid
  | interval i => i.Valid
  | _ => True

/-- The fields pass the checks with which values are put together from them. -/
def Accepted : Value → Prop
  | timeTz t => t.offset.Accepted
  | timestampTz t => t.offset.Accepted
  | interval i => i.Valid
  | _ => True

theorem Valid.accepted {v : Value} (h : v.Valid) : v.Accepted := by
  cases v with
  | timeTz | timestampTz => exact ZoneOffset.Valid.accepted h
  | interval => exact h
  | _ => exact trivial

/-- The value has no time that is in a leap second. -/
def NoLeap : Value → Prop
  | time t => t.NoLeap
  | timeTz t => t.time.NoLeap
  | timestamp t => t.time.NoLeap
  | timestampTz t => t.clock.time.NoLeap
  | _ => True

instance (v : Value) : Decidable v.NoLeap :=
  match v with
  | time t => inferInstanceAs (Decidable t.NoLeap)
  | timeTz t => inferInstanceAs (Decidable t.time.NoLeap)
  | timestamp t => inferInstanceAs (Decidable t.time.NoLeap)
  | timestampTz t => inferInstanceAs (Decidable t.clock.time.NoLeap)
  | null | integer _ | bigInt _ | decimal _ | double _ | date _ | interval _ => .isTrue trivial

/-- The two values are of one kind and in one zone, and the zone passes the check. -/
inductive Rebuilt : Value → Value → Prop where
  | date (d e : Date) : Rebuilt (date d) (date e)
  | time (t u : TimeOfDay) : Rebuilt (time t) (time u)
  | timeTz {t u : ZonedTime} (h : u.offset = t.offset) (ha : t.offset.Accepted) :
      Rebuilt (timeTz t) (timeTz u)
  | timestamp (t u : Timestamp) : Rebuilt (timestamp t) (timestamp u)
  | timestampTz {t u : ZonedTimestamp} (h : u.offset = t.offset) (ha : t.offset.Accepted) :
      Rebuilt (timestampTz t) (timestampTz u)

theorem withDateAndNanos_rebuilt {v w : Value} {d : Date} {nanos : Int} (hv : v.kind.isDatetime)
    (h : v.withDateAndNanos d nanos = .ok w) : Rebuilt v w := by
  cases v <;> simp only [kind, Kind.isDatetime, Bool.false_eq_true] at hv
  case date =>
    cases h
    exact .date _ _
  case time =>
    obtain ⟨t, -, h⟩ := bind_eq_ok.mp h
    cases h
    exact .time _ _
  case timestamp =>
    obtain ⟨t, -, h⟩ := bind_eq_ok.mp h
    cases h
    exact .timestamp _ _
  case timeTz =>
    obtain ⟨t, -, h⟩ := bind_eq_ok.mp h
    obtain ⟨z, hz, h⟩ := bind_eq_ok.mp h
    obtain ⟨rfl, ho⟩ := ZonedTime.new_ok hz
    cases h
    exact .timeTz rfl ho
  case timestampTz =>
    obtain ⟨t, -, h⟩ := bind_eq_ok.mp h
    obtain ⟨z, hz, h⟩ := bind_eq_ok.mp h
    obtain ⟨rfl, ho⟩ := ZonedTimestamp.new_ok hz
    cases h
    exact .timestampTz rfl ho

namespace Rebuilt

variable {v w : Value}

theorem kind (h : Rebuilt v w) : w.kind = v.kind := by
  cases h <;> rfl

theorem isDatetime (h : Rebuilt v w) : v.kind.isDatetime := by
  cases h <;> rfl

theorem symm (h : Rebuilt v w) : Rebuilt w v := by
  cases h with
  | date d e => exact .date e d
  | time t u => exact .time u t
  | timestamp t u => exact .timestamp u t
  | timeTz h ha => exact .timeTz h.symm (h.symm ▸ ha)
  | timestampTz h ha => exact .timestampTz h.symm (h.symm ▸ ha)

theorem accepted (h : Rebuilt v w) : v.Accepted := by
  cases h with
  | timeTz h ha | timestampTz h ha => exact ha
  | date | time | timestamp => exact trivial

theorem valid (h : Rebuilt v w) (hv : v.Valid) : w.Valid := by
  cases h with
  | timeTz h ha | timestampTz h ha =>
      simp only [Valid, h]
      exact hv
  | date | time | timestamp => exact trivial

end Rebuilt

theorem addMonths_rebuilt {v w : Value} {months : Int} (h : v.addMonths months = .ok w) :
    Rebuilt v w := by
  unfold addMonths at h
  split at h
  case h_4 => cases h
  all_goals
    obtain ⟨⟨d, nanos⟩, -, h⟩ := bind_eq_ok.mp h
    dsimp only at h
    split at h
    · cases h
    · split at h
      · exact withDateAndNanos_rebuilt rfl h
      · cases h

end Value

end SqlInterval
