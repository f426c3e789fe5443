import SqlInterval.Operator.Sum
import SqlInterval.Value.Fields

/-!
# Shifts of dates and times

A date or time is moved by an interval on its local clock, and keeps its zone. Months move the date
alone; days and smaller units move the timestamp as a whole. A time of day does not wrap around
midnight.
-/

namespace SqlInterval

/-- The number fits a signed word of 64 bits. -/
def checkWord (z : Int) : Except DataError Int :=
  if Int64.minValue.toInt ≤ z ∧ z ≤ Int64.maxValue.toInt then .ok z else .error (.number z)

namespace Value

/-- The timestamp `v`, at `nanos` on day `d`, moved by an interval of days and smaller units. Whole
days and what is left move the day and the time apart; then one day is carried or borrowed. -/
def shiftTimestamp (plus : Bool) (v : Value) (d : Date) (nanos : Nat) (a : Int) :
    Except DataError Value := do
  let days ← checkWord (a.tdiv nanosPerDay)
  let day := d.dayNumber + signed plus days
  if ¬ (Int64.minValue.toInt ≤ day ∧ day ≤ Int64.maxValue.toInt) then .error (.number a)
  let moved := nanos + signed plus (a.tmod nanosPerDay)
  if nanosPerDay ≤ moved then
    v.withDateAndNanos (← Date.ofDayNumber (day + 1)) (moved - nanosPerDay)
  else if moved < 0 then
    v.withDateAndNanos (← Date.ofDayNumber (day - 1)) (moved + nanosPerDay)
  else
    v.withDateAndNanos (← Date.ofDayNumber day) moved

end Value

/-- A date or timestamp moved by `a` months, which the interval `r` holds. A time of day does not
move by months. -/
def shiftMonths (plus : Bool) (l r : Value) (a : Int) : Except EvalError Value :=
  if l.kind.isTimeOfDay then .error r.unexpected
  else if l.kind.isDatetime then do
    l.addMonths (signed plus (← checkWord a))
  else .error l.unexpected

/-- A date or time moved by `a` nanoseconds. A date moves by whole days only. -/
def shiftNanos (plus : Bool) (l : Value) (a : Int) : Except EvalError Value :=
  match l with
  | .time t => l.withDateAndNanos .epoch (t.nanos + signed plus a)
  | .timeTz t => l.withDateAndNanos .epoch (t.time.nanos + signed plus a)
  | .date d => do
    return .date (← Date.ofDayNumber (d.dayNumber + signed plus (a.tdiv nanosPerDay)))
  | .timestamp t => l.shiftTimestamp plus t.date t.time.nanos a
  | .timestampTz t => l.shiftTimestamp plus t.clock.date t.clock.time.nanos a
  | _ => .error l.unexpected

/-- A date or time plus or minus an interval. -/
def shiftDatetime (plus : Bool) (l r : Value) : Except EvalError Value := do
  let i ← r.toInterval
  if i.qualifier.isYearMonth then shiftMonths plus l r i.absolute
  else shiftNanos plus l i.absolute

end SqlInterval
