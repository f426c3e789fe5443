import SqlInterval.Calendar.DayNumber
import SqlInterval.Calendar.Month
import SqlInterval.Value.Basic

/-!
# Fields of dates and times

Every date or time is taken apart into a date and nanoseconds of the day, and put together again. A
date is at midnight, and a time of day is on the day with number zero.
-/

namespace SqlInterval

/-- The date with the given number. -/
def Date.ofDayNumber (n : Int) : Except DataError Date :=
  match ofDayNumber? n with
  | some d => .ok d
  | none => .error (.number n)

namespace Value

/-- The local date and the nanoseconds since local midnight. -/
def dateAndNanos : Value → Except DataError (Date × Nat)
  | date d => .ok (d, 0)
  | time t => .ok (.epoch, t.nanos)
  | timeTz t => .ok (.epoch, t.time.nanos)
  | timestamp t => .ok (t.date, t.time.nanos)
  | timestampTz t => .ok (t.clock.date, t.clock.time.nanos)
  | v => .error (.conversion v.kind.name "TIMESTAMP")

/-- A value of the same kind and in the same zone as `v`, with other fields. What is neither a date
nor a time of day becomes a timestamp. -/
def withDateAndNanos (v : Value) (d : Date) (nanos : Int) : Except DataError Value :=
  match v with
  | date _ => .ok (date d)
  | time _ => do
    return time (← TimeOfDay.ofNanos nanos)
  | timeTz t => do
    return timeTz (← ZonedTime.new (← TimeOfDay.ofNanos nanos) t.offset)
  | timestampTz t => do
    return timestampTz (← ZonedTimestamp.new ⟨d, ← TimeOfDay.ofNanos nanos⟩ t.offset)
  | _ => do
    return timestamp ⟨d, ← TimeOfDay.ofNanos nanos⟩

/-- The date or timestamp shifted by a number of months, at the same time of day. The calendar takes the
number without its sign, as a word of 32 bits. -/
def addMonths (v : Value) (months : Int) : Except DataError Value :=
  match v with
  | date _ | timestamp _ | timestampTz _ => do
    let (d, nanos) ← v.dateAndNanos
    if UInt32.size ≤ months.natAbs then .error (.number months)
    else match d.addMonths? months with
      | some shifted => v.withDateAndNanos shifted nanos
      | none => .error (.number months)
  | v => .error (.conversion v.kind.name "TIMESTAMP")

end Value

end SqlInterval
