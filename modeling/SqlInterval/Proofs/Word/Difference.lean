import SqlInterval.Proofs.Operator.Difference
import SqlInterval.Proofs.Operator.Validity
import SqlInterval.Proofs.Word.Fields
import SqlInterval.Proofs.Word.Interval

/-!
# Differences in words

Two times of day are less than a day apart, two dates less than the calendar is long, and two offsets less than a word
of 32 bits can hold twice: in nanoseconds, too, a word of 64 bits holds all of it.
-/

namespace SqlInterval

namespace InWords

/-! ## The steps -/

/-- What two zones are apart, in nanoseconds. -/
def nanosBetween (left right : Int) : Except WordFault Int := do
  let seconds ← Word.i64.step (right - left)
  Word.i64.step (seconds * nanosPerSecond)

def intervalOfNanos (n : Int) : Except WordFault Interval := do
  let magnitude ← Word.u64.step n.natAbs
  liftM (Interval.new .hourToSecond (n < 0) (magnitude.toNat / nanosPerHour) (magnitude.toNat % nanosPerHour))

def subtractZonedTimes (session : ZoneOffset) (l r : Value) : Except WordFault Interval := do
  let a ← toZonedTime session l
  let b ← toZonedTime session r
  let left ← nanos a.time
  let right ← nanos b.time
  let clocks ← Word.i64.step (left - right)
  let zones ← nanosBetween a.offset.toInt b.offset.toInt
  intervalOfNanos (← Word.i64.step (clocks + zones))

def subtractTimes (session : ZoneOffset) (l r : Value) : Except WordFault Interval :=
  match l, r with
  | .time a, .time b => do
    let left ← nanos a
    let right ← nanos b
    intervalOfNanos (← Word.i64.step (left - right))
  | _, _ => subtractZonedTimes session l r

def subtractDates (a b : Date) : Except WordFault Interval := do
  let left ← dayNumber a
  let right ← dayNumber b
  let days ← Word.i64.step (left - right)
  let magnitude ← Word.u64.step days.natAbs
  liftM (Interval.new .day (days < 0) magnitude.toNat 0)

/-- The position on the value's own clock is an exact number of nanoseconds. -/
def clockNanos (v : Value) : Except WordFault Int := do
  let (d, n) ← dateAndNanos v
  let day ← dayNumber d
  return day * nanosPerDay + n

def zoneOffset (session : ZoneOffset) (v : Value) : Except WordFault Int :=
  match v with
  | .time _ | .timeTz _ => do
    return (← toZonedTime session v).offset.toInt
  | _ => do
    return (← toZonedTimestamp session v).offset.toInt

def subtractTimestamps (session : ZoneOffset) (l r : Value) : Except WordFault Interval := do
  let a ← clockNanos l
  let b ← clockNanos r
  if l.kind = .timestampTz ∨ r.kind = .timestampTz then do
    let right ← zoneOffset session r
    let left ← zoneOffset session l
    let zones ← nanosBetween left right
    liftM (Interval.ofAbsolute .dayToSecond (a - b + zones))
  else liftM (Interval.ofAbsolute .dayToSecond (a - b))

def difference (session : ZoneOffset) (l r : Value) : Except WordFault Interval :=
  if l.kind.isTimeOfDay && r.kind.isTimeOfDay then subtractTimes session l r
  else
    match l, r with
    | .date a, .date b => subtractDates a b
    | _, _ => subtractTimestamps session l r

def cast (i : Interval) (t : SqlType) : Except WordFault Interval :=
  match t.kind.qualifier? with
  | some q => do
    let converted ← i.requalify q
    roundSeconds converted t.scale
  | none => .error (.error (.internal ("forced type=" ++ t.text)))

def subtractDatetimes (session : ZoneOffset) (forced : Option SqlType) (l r : Value) :
    Except WordFault Value :=
  if l.kind.isDatetime && r.kind.isDatetime then do
    let i ← difference session l r
    match forced with
    | some t => return .interval (← cast i t)
    | none => return .interval i
  else .error (.error (l.unexpectedPair r))

variable {session : ZoneOffset} {l r v : Value}

/-! ## Magnitudes -/

/-- Also offsets that no zone has are not too far apart. -/
theorem nanosBetween_bounds (a b : ZoneOffset) :
    ((b.toInt - a.toInt) * nanosPerSecond).natAbs < 5000000000000000000 := by
  have ha := a.le_toInt
  have ha' := a.toInt_lt
  have hb := b.le_toInt
  have hb' := b.toInt_lt
  simp only [nanosPerSecond]
  omega

theorem nanosBetween_eq (a b : ZoneOffset) :
    nanosBetween a.toInt b.toInt = .ok ((b.toInt - a.toInt) * nanosPerSecond) := by
  have hbounds := nanosBetween_bounds a b
  have hseconds : (b.toInt - a.toInt).natAbs < 9223372036854775808 := by
    simp only [nanosPerSecond] at hbounds
    omega
  rw [nanosBetween, Word.step_i64 hseconds, ok_bind, Word.step_i64 (by omega)]

theorem intervalOfNanos_eq {n : Int} (h : n.natAbs < 9223372036854775808) :
    intervalOfNanos n = liftM (SqlInterval.intervalOfNanos n) := by
  rw [intervalOfNanos, Word.step_u64 (by omega), ok_bind, Int.toNat_natCast]
  rfl

theorem subtractZonedTimes_eq (hs : session.Valid) (l r : Value) :
    subtractZonedTimes session l r = liftM (do
      let a ← l.toZonedTime session
      let b ← r.toZonedTime session
      SqlInterval.intervalOfNanos
        (a.time.nanos - b.time.nanos + (b.offset.toInt - a.offset.toInt) * nanosPerSecond)) := by
  rw [subtractZonedTimes, toZonedTime_eq hs, toZonedTime_eq hs]
  cases l.toZonedTime session with
  | error e => rfl
  | ok a =>
      rw [liftM_data_ok, ok_bind, ok_bind]
      cases r.toZonedTime session with
      | error e => rfl
      | ok b =>
          have hzones := nanosBetween_bounds a.offset b.offset
          have ha := a.time.nanos_lt
          have hb := b.time.nanos_lt
          simp only [nanosPerDay] at ha hb
          rw [liftM_data_ok, ok_bind, ok_bind, nanos_eq, ok_bind, nanos_eq, ok_bind,
            Word.step_i64 (by omega), ok_bind, nanosBetween_eq, ok_bind, Word.step_i64 (by omega),
            ok_bind, intervalOfNanos_eq (by omega)]

theorem subtractTimes_eq (hs : session.Valid) (hl : l.kind.isTimeOfDay) (hr : r.kind.isTimeOfDay) :
    subtractTimes session l r = liftM (SqlInterval.subtractTimes session l r) := by
  cases l <;> simp only [Value.kind, Kind.isTimeOfDay, Bool.false_eq_true] at hl
  case timeTz a => exact subtractZonedTimes_eq hs (.timeTz a) r
  case time a =>
    cases r <;> simp only [Value.kind, Kind.isTimeOfDay, Bool.false_eq_true] at hr
    case timeTz b => exact subtractZonedTimes_eq hs (.time a) (.timeTz b)
    case time b =>
      have ha := a.nanos_lt
      have hb := b.nanos_lt
      simp only [nanosPerDay] at ha hb
      rw [subtractTimes, nanos_eq, ok_bind, nanos_eq, ok_bind, Word.step_i64 (by omega), ok_bind,
        intervalOfNanos_eq (by omega)]
      rfl

theorem subtractDates_eq (a b : Date) :
    subtractDates a b = liftM (SqlInterval.subtractDates a b) := by
  have ha := a.dayNumber_bounds
  have hb := b.dayNumber_bounds
  rw [subtractDates, dayNumber_eq, ok_bind, dayNumber_eq, ok_bind, Word.step_i64 (by omega), ok_bind,
    Word.step_u64 (by omega), ok_bind, Int.toNat_natCast]
  rfl

theorem clockNanos_eq (hv : v.kind.isDatetime) : clockNanos v = .ok v.position := by
  obtain ⟨d, k, hfields⟩ := Value.isDatetime_iff.mp hv
  have hposition := Value.clockNanos_eq hv
  rw [Value.clockNanos, hfields, ok_bind] at hposition
  rw [clockNanos, dateAndNanos_eq hfields, ok_bind]
  dsimp only
  rw [dayNumber_eq, ok_bind, ← Except.ok.inj hposition]
  rfl

theorem zoneOffset_eq (hs : session.Valid) (v : Value) :
    zoneOffset session v = liftM (v.zoneOffset session) := by
  cases v
  all_goals
    simp only [zoneOffset, Value.zoneOffset, toZonedTime_eq hs, toZonedTimestamp_eq hs, liftM_data_bind]
    rfl

theorem subtractTimestamps_eq (hs : session.Valid) (hl : l.kind.isDatetime) (hr : r.kind.isDatetime) :
    subtractTimestamps session l r = liftM (SqlInterval.subtractTimestamps session l r) := by
  rw [subtractTimestamps, SqlInterval.subtractTimestamps, clockNanos_eq hl, ok_bind, clockNanos_eq hr,
    ok_bind, Value.clockNanos_eq hl, ok_bind, Value.clockNanos_eq hr, ok_bind]
  dsimp only
  split
  · rw [zoneOffset_eq hs, zoneOffset_eq hs, Value.zoneOffset_eq hs.accepted hr, Value.zoneOffset_eq hs.accepted hl,
      liftM_data_ok, ok_bind, liftM_data_ok, ok_bind, nanosBetween_eq, ok_bind]
    rfl
  · rfl

theorem difference_eq (hs : session.Valid) (hl : l.kind.isDatetime) (hr : r.kind.isDatetime) :
    difference session l r = liftM (SqlInterval.difference session l r) := by
  unfold difference SqlInterval.difference
  by_cases htimes : (l.kind.isTimeOfDay && r.kind.isTimeOfDay) = true
  · obtain ⟨hltime, hrtime⟩ := Bool.and_eq_true_iff.mp htimes
    rw [if_pos htimes, if_pos htimes]
    exact subtractTimes_eq hs hltime hrtime
  · rw [if_neg htimes, if_neg htimes]
    cases l with
    | date a =>
        cases r with
        | date b => exact subtractDates_eq a b
        | _ => exact subtractTimestamps_eq hs hl hr
    | _ => exact subtractTimestamps_eq hs hl hr

/-! ## Prescribed types -/

theorem cast_eq {i : Interval} (hi : i.Valid) (t : SqlType) : cast i t = liftM (i.cast t) := by
  unfold cast Interval.cast
  cases t.kind.qualifier? with
  | none => rfl
  | some q =>
      dsimp only
      cases hq : i.requalify q with
      | error e => rfl
      | ok converted =>
          have hvalid : Interval.Regular (.ok converted) := hq ▸ hi.requalify q
          rw [liftM_data_ok, ok_bind, lift_ok, ok_bind]
          exact roundSeconds_eq hvalid t.scale

theorem subtractDatetimes_eq (hs : session.Valid) (forced : Option SqlType) (l r : Value) :
    subtractDatetimes session forced l r = liftM (SqlInterval.subtractDatetimes session forced l r) := by
  unfold subtractDatetimes SqlInterval.subtractDatetimes
  split
  · rename_i h
    obtain ⟨hl, hr⟩ := Bool.and_eq_true_iff.mp h
    rw [difference_eq hs hl hr]
    cases hd : SqlInterval.difference session l r with
    | error e => rfl
    | ok d =>
        rw [liftM_data_ok, ok_bind, lift_ok, ok_bind]
        cases forced with
        | none => rfl
        | some t =>
            dsimp only
            rw [cast_eq (difference_valid hd), liftM_bind]
            rfl
  · rfl

end InWords

end SqlInterval
