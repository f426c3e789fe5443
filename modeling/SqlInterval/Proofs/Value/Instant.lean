import SqlInterval.Proofs.Calendar.DayNumber
import SqlInterval.Proofs.Value.Fields

/-!
# Instants

The instant of a date or time is its position on its own clock less the offset of its zone. A value
without a zone is in the session's; a date is at midnight, and a time of day is on day zero.
-/

namespace SqlInterval

namespace Value

variable {session : ZoneOffset} {v : Value}

/-- Nanoseconds since 1970-01-01 on the value's own clock. -/
def position : Value → Int
  | date d => d.dayNumber * nanosPerDay
  | time t => t.nanos
  | timeTz t => t.time.nanos
  | timestamp t => t.clockNanos
  | timestampTz t => t.clock.clockNanos
  | _ => 0

def offset (session : ZoneOffset) : Value → ZoneOffset
  | timeTz t => t.offset
  | timestampTz t => t.offset
  | _ => session

def isZoned : Value → Bool
  | timeTz _ | timestampTz _ => true
  | _ => false

/-- Nanoseconds since 1970-01-01 in UTC. -/
def instant (session : ZoneOffset) (v : Value) : Int :=
  v.position - (v.offset session).toInt * nanosPerSecond

theorem instant_sub_instant (session : ZoneOffset) (l r : Value) :
    l.instant session - r.instant session = l.position - r.position +
      ((r.offset session).toInt - (l.offset session).toInt) * nanosPerSecond := by
  rw [instant, instant, Int.sub_mul]
  omega

/-! ## The session's part -/

theorem offset_eq_session (h : v.isZoned = false) : v.offset session = session := by
  cases v <;> simp only [isZoned, reduceCtorEq] at h <;> rfl

theorem offset_eq_offset (h : v.isZoned) (s t : ZoneOffset) : v.offset s = v.offset t := by
  cases v <;> simp only [isZoned, Bool.false_eq_true] at h <;> rfl

theorem isZoned_eq_false (ht : v.kind.isTimeOfDay = false) (hz : v.kind ≠ .timestampTz) :
    v.isZoned = false := by
  cases v <;> simp_all [kind, Kind.isTimeOfDay, isZoned]

/-- The session's offset cancels out between two values that both have zones or both have none. -/
theorem instant_sub_instant_of_isZoned {l r : Value} (h : l.isZoned = r.isZoned)
    (s t : ZoneOffset) : l.instant s - r.instant s = l.instant t - r.instant t := by
  rw [instant_sub_instant, instant_sub_instant]
  cases hr : r.isZoned with
  | true => rw [offset_eq_offset (h.trans hr) s t, offset_eq_offset hr s t]
  | false =>
      rw [hr] at h
      rw [offset_eq_session h, offset_eq_session hr, offset_eq_session h, offset_eq_session hr,
        Int.sub_self, Int.sub_self]

/-! ## Bounds -/

theorem position_bounds (v : Value) : v.position.natAbs < 100000000 * nanosPerDay := by
  have hdate (d : Date) (t : TimeOfDay) :
      (d.dayNumber * nanosPerDay + t.nanos).natAbs < 100000000 * nanosPerDay := by
    have hd := d.dayNumber_bounds
    have ht := t.nanos_lt
    simp only [nanosPerDay] at ht ⊢
    omega
  have htime (t : TimeOfDay) : (t.nanos : Int).natAbs < 100000000 * nanosPerDay :=
    Nat.lt_trans t.nanos_lt (by decide)
  cases v with
  | date d =>
      have hd := d.dayNumber_bounds
      simp only [position, nanosPerDay]
      omega
  | time t => exact htime t
  | timeTz t => exact htime t.time
  | timestamp t => exact hdate t.date t.time
  | timestampTz t => exact hdate t.clock.date t.clock.time
  | _ => simp only [position]; decide

/-- Also with offsets that no zone has, instants are far less apart than intervals reach. -/
theorem instant_sub_instant_bounds (session : ZoneOffset) (l r : Value) :
    (l.instant session - r.instant session).natAbs < 1000000000 * nanosPerDay := by
  have hinstant (v : Value) : (v.instant session).natAbs < 200000000 * nanosPerDay := by
    have hv := v.position_bounds
    have hlo := (v.offset session).le_toInt
    have hhi := (v.offset session).toInt_lt
    simp only [instant, nanosPerSecond, nanosPerDay] at hv ⊢
    omega
  have hl := hinstant l
  have hr := hinstant r
  simp only [nanosPerDay] at hl hr ⊢
  omega

/-! ## Zones -/

theorem toZonedTime_eq (hs : session.Accepted) (hv : v.kind.isTimeOfDay) :
    ∃ t : ZonedTime, v.toZonedTime session = .ok t ∧ t.time.nanos = v.position ∧
      t.offset = v.offset session := by
  cases v <;> simp only [kind, Kind.isTimeOfDay, Bool.false_eq_true] at hv
  case time t =>
    refine ⟨⟨t, session⟩, ?_, rfl, rfl⟩
    rw [toZonedTime, ZonedTime.new, ZoneOffset.check_eq hs]
    rfl
  case timeTz t => exact ⟨t, rfl, rfl, rfl⟩

theorem toZonedTimestamp_eq (hs : session.Accepted) (hv : v.kind.isDatetime)
    (ht : v.kind.isTimeOfDay = false) :
    ∃ t : ZonedTimestamp, v.toZonedTimestamp session = .ok t ∧ t.offset = v.offset session := by
  cases v <;> simp only [kind, Kind.isDatetime, Kind.isTimeOfDay, Bool.false_eq_true,
    reduceCtorEq] at hv ht
  case date d =>
    refine ⟨⟨⟨d, .midnight⟩, session⟩, ?_, rfl⟩
    rw [toZonedTimestamp, ZonedTimestamp.new, ZoneOffset.check_eq hs]
    rfl
  case timestamp t =>
    refine ⟨⟨t, session⟩, ?_, rfl⟩
    rw [toZonedTimestamp, ZonedTimestamp.new, ZoneOffset.check_eq hs]
    rfl
  case timestampTz t => exact ⟨t, rfl, rfl⟩

end Value

end SqlInterval
