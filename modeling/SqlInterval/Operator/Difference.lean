import SqlInterval.Interval.Convert
import SqlInterval.Operator.Sum
import SqlInterval.Value.Fields

/-!
# Differences of dates and times

Two times of day, two dates or two positions in time are subtracted. Zones count where a value with a
zone is involved; a value without one is then in the session's.
-/

namespace SqlInterval

namespace Value

/-- Nanoseconds since 1970-01-01 on the value's own clock. -/
def clockNanos (v : Value) : Except DataError Int := do
  let (d, nanos) ← v.dateAndNanos
  return d.dayNumber * nanosPerDay + nanos

/-- The offset of the value's zone, or the session's if it has none. -/
def zoneOffset (session : ZoneOffset) (v : Value) : Except DataError Int :=
  match v with
  | time _ | timeTz _ => do
    return (← v.toZonedTime session).offset.toInt
  | _ => do
    return (← v.toZonedTimestamp session).offset.toInt

end Value

/-- A signed count of nanoseconds in hours and smaller units. -/
def intervalOfNanos (nanos : Int) : Except DataError Interval :=
  Interval.new .hourToSecond (nanos < 0) (nanos.natAbs / nanosPerHour) (nanos.natAbs % nanosPerHour)

/-- The difference of two times of day. -/
def subtractTimes (session : ZoneOffset) (l r : Value) : Except DataError Interval :=
  match l, r with
  | .time a, .time b => intervalOfNanos (a.nanos - b.nanos)
  | _, _ => do
    let a ← l.toZonedTime session
    let b ← r.toZonedTime session
    intervalOfNanos
      (a.time.nanos - b.time.nanos + (b.offset.toInt - a.offset.toInt) * nanosPerSecond)

/-- The difference of two dates, in days. -/
def subtractDates (a b : Date) : Except DataError Interval :=
  let days := a.dayNumber - b.dayNumber
  Interval.new .day (days < 0) days.natAbs 0

/-- The difference of two positions in time. The zones count if one of the two is a timestamp with a
zone. -/
def subtractTimestamps (session : ZoneOffset) (l r : Value) : Except DataError Interval := do
  let a ← l.clockNanos
  let b ← r.clockNanos
  let difference := a - b
  if l.kind = .timestampTz ∨ r.kind = .timestampTz then
    let right ← r.zoneOffset session
    let left ← l.zoneOffset session
    Interval.ofAbsolute .dayToSecond (difference + (right - left) * nanosPerSecond)
  else Interval.ofAbsolute .dayToSecond difference

/-- The difference of two dates or times, before it is given a prescribed type. -/
def difference (session : ZoneOffset) (l r : Value) : Except DataError Interval :=
  if l.kind.isTimeOfDay && r.kind.isTimeOfDay then subtractTimes session l r
  else
    match l, r with
    | .date a, .date b => subtractDates a b
    | _, _ => subtractTimestamps session l r

/-- The interval with the qualifier and the scale of a prescribed type. -/
def Interval.cast (i : Interval) (t : SqlType) : Except EvalError Interval :=
  match t.kind.qualifier? with
  | some q => do
    let converted ← i.requalify q
    converted.roundSeconds t.scale
  | none => .error (.internal ("forced type=" ++ t.text))

def subtractDatetimes (session : ZoneOffset) (forced : Option SqlType) (l r : Value) :
    Except EvalError Value := do
  if l.kind.isDatetime && r.kind.isDatetime then
    let i ← (difference session l r : Except DataError Interval)
    match forced with
    | some t => return .interval (← i.cast t)
    | none => return .interval i
  else .error (l.unexpectedPair r)

end SqlInterval
