import SqlInterval.Proofs.Value.Instant
import SqlInterval.Proofs.Value.Month
import SqlInterval.Proofs.Word.Basic

/-!
# Dates and times in words

Day numbers, nanoseconds of the day and zone offsets are far smaller than the words that hold them. What is taken
from a date or time in words, and put back in words, is thus what exact numbers give.
-/

namespace SqlInterval

namespace InWords

/-! ## The steps -/

/-- The day of the common era, counted from one on 0001-01-01. -/
def commonEraDay (d : Date) : Int := daysBeforeYear d.year + daysBeforeMonth d.year d.month + d.day

/-- The calendar counts in a word of 32 bits, and days since 1970-01-01 have one of 64. -/
def dayNumber (d : Date) : Except WordFault Int := do
  let count ← Word.i32.step (commonEraDay d)
  Word.i64.step (count - (epochOffset + 1))

/-- The date with a number. That the calendar's count has a word of 32 bits is checked. -/
def dateOfNumber (n : Int) : Except WordFault Date := do
  let count ← Word.i64.step (n + (epochOffset + 1))
  if Word.i32.Holds count then liftM (Date.ofDayNumber n)
  else fail (.number n)

def nanos (t : TimeOfDay) : Except WordFault Int := do
  let whole ← Word.i64.step (t.second * nanosPerSecond)
  Word.i64.step (whole + min t.nano 999999999)

/-- The parts of a time of day have words of 32 bits. -/
def timeOfNanos (n : Int) : Except WordFault TimeOfDay :=
  if 0 ≤ n ∧ n < nanosPerDay then do
    let second ← Word.u32.step (n.tdiv nanosPerSecond)
    let nano ← Word.u32.step (n.tmod nanosPerSecond)
    match TimeOfDay.ofParts? second.toNat nano.toNat with
    | some t => return t
    | none => fail (.number n)
  else fail (.number n)

def checkOffset (offset : ZoneOffset) : Except WordFault ZoneOffset := do
  let distance ← Word.i32.step offset.toInt.natAbs
  if distance ≤ ZoneOffset.limit then return offset
  else fail (.invalidValue "time zone offset" (Numeral.text offset.toInt))

def zonedTime (time : TimeOfDay) (offset : ZoneOffset) : Except WordFault ZonedTime := do
  return ⟨time, ← checkOffset offset⟩

def zonedTimestamp (clock : Timestamp) (offset : ZoneOffset) : Except WordFault ZonedTimestamp := do
  return ⟨clock, ← checkOffset offset⟩

def dateAndNanos : Value → Except WordFault (Date × Int)
  | .date d => .ok (d, 0)
  | .time t => do return (.epoch, ← nanos t)
  | .timeTz t => do return (.epoch, ← nanos t.time)
  | .timestamp t => do return (t.date, ← nanos t.time)
  | .timestampTz t => do return (t.clock.date, ← nanos t.clock.time)
  | v => fail (.conversion v.kind.name "TIMESTAMP")

def withDateAndNanos (v : Value) (d : Date) (n : Int) : Except WordFault Value :=
  match v with
  | .date _ => .ok (.date d)
  | .time _ => do
    return .time (← timeOfNanos n)
  | .timeTz t => do
    return .timeTz (← zonedTime (← timeOfNanos n) t.offset)
  | .timestampTz t => do
    return .timestampTz (← zonedTimestamp ⟨d, ← timeOfNanos n⟩ t.offset)
  | _ => do
    return .timestamp ⟨d, ← timeOfNanos n⟩

/-- The value `v`, at `n` nanoseconds on day `d`, so many months on. Their number without its sign has a word of 64
bits, and one of 32 that is checked. -/
def withShiftedDate (v : Value) (d : Date) (n months : Int) : Except WordFault Value := do
  let count ← Word.u64.step months.natAbs
  if ¬ Word.u32.Holds count then fail (.number months)
  else match d.addMonths? months with
    | some shifted => withDateAndNanos v shifted n
    | none => fail (.number months)

def addMonths (v : Value) (months : Int) : Except WordFault Value :=
  match v with
  | .date _ | .timestamp _ | .timestampTz _ => do
    let (d, n) ← dateAndNanos v
    withShiftedDate v d n months
  | v => fail (.conversion v.kind.name "TIMESTAMP")

def toZonedTime (session : ZoneOffset) : Value → Except WordFault ZonedTime
  | .time t => zonedTime t session
  | .timeTz t => .ok t
  | v => fail (.conversion v.kind.name Kind.timeTz.name)

def toZonedTimestamp (session : ZoneOffset) : Value → Except WordFault ZonedTimestamp
  | .date d => zonedTimestamp ⟨d, .midnight⟩ session
  | .timestamp t => zonedTimestamp t session
  | .timestampTz t => .ok t
  | v => fail (.conversion v.kind.name Kind.timestampTz.name)

/-! ## Dates and times of day -/

variable {d : Date} {t : TimeOfDay} {v : Value} {n : Int} {offset session : ZoneOffset}

theorem dayNumber_eq (d : Date) : dayNumber d = .ok d.dayNumber := by
  have hday : commonEraDay d - (epochOffset + 1) = d.dayNumber := by
    unfold commonEraDay Date.dayNumber
    omega
  have hbounds := d.dayNumber_bounds
  have hcount : (commonEraDay d).natAbs < 2147483648 := by
    unfold epochOffset at hday
    omega
  rw [dayNumber, Word.step_i32 hcount, ok_bind, hday, Word.step_i64 (by omega)]

/-- A number that a word of 32 bits does not hold is no date's number. -/
theorem dateOfNumber_eq (h : n.natAbs < 9000000000000000000) :
    dateOfNumber n = liftM (Date.ofDayNumber n) := by
  rw [dateOfNumber, Word.step_i64 (by unfold epochOffset; omega), ok_bind]
  split
  · rfl
  · rename_i hholds
    rw [Date.ofDayNumber_eq_error, liftM_data_error]
    rintro d rfl
    have hbounds := d.dayNumber_bounds
    simp only [epochOffset, Word.holds_i32] at hholds
    omega

theorem nanos_eq (t : TimeOfDay) : nanos t = .ok t.nanos := by
  have hsecond := t.second_lt
  have hwhole : ((t.second : Int) * nanosPerSecond).natAbs < 9223372036854775808 := by
    simp only [nanosPerSecond]
    omega
  have hsum : (t.second : Int) * nanosPerSecond + min t.nano 999999999 = t.nanos := by
    simp only [TimeOfDay.nanos, nanosPerSecond]
    omega
  have hlt := t.nanos_lt
  simp only [nanosPerDay] at hlt
  rw [nanos, Word.step_i64 hwhole, ok_bind, hsum, Word.step_i64 (by omega)]

/-- There are fewer seconds in a day, and nanoseconds in a second, than a word of 32 bits can count. -/
theorem timeOfNanos_eq (n : Int) : timeOfNanos n = liftM (TimeOfDay.ofNanos n) := by
  unfold timeOfNanos
  split
  · rename_i hday
    obtain ⟨k, rfl⟩ := Int.eq_ofNat_of_zero_le hday.1
    have hk : k < nanosPerDay := Int.ofNat_lt.mp hday.2
    have hsecond : k / nanosPerSecond < 86400 := Nat.div_lt_of_lt_mul hk
    have hnano : k % nanosPerSecond < 1000000000 := Nat.mod_lt k (by decide)
    have hparts : TimeOfDay.ofParts? (k / nanosPerSecond) (k % nanosPerSecond) = some _ :=
      dif_pos ⟨hsecond, by omega, by omega⟩
    rw [← Int.ofNat_tdiv, ← Int.ofNat_tmod, Word.step_u32 (by omega), ok_bind,
      Word.step_u32 (by omega), ok_bind, TimeOfDay.ofNanos, dif_pos hday]
    simp only [Int.toNat_natCast, hparts]
    rfl
  · rename_i hday
    rw [TimeOfDay.ofNanos_eq_error hday]
    rfl

/-! ## Zones -/

theorem checkOffset_eq (h : offset.Valid) : checkOffset offset = .ok offset := by
  have hlimit : offset.toInt.natAbs ≤ 64800 := h
  rw [checkOffset, Word.step_i32 (by omega), ok_bind, if_pos (Int.ofNat_le.mpr h)]
  rfl

theorem zonedTime_eq (h : offset.Valid) (t : TimeOfDay) :
    zonedTime t offset = liftM (ZonedTime.new t offset) := by
  rw [zonedTime, checkOffset_eq h, ZonedTime.new, ZoneOffset.check_eq h.accepted]
  rfl

theorem zonedTimestamp_eq (h : offset.Valid) (t : Timestamp) :
    zonedTimestamp t offset = liftM (ZonedTimestamp.new t offset) := by
  rw [zonedTimestamp, checkOffset_eq h, ZonedTimestamp.new, ZoneOffset.check_eq h.accepted]
  rfl

theorem toZonedTime_eq (hs : session.Valid) (v : Value) :
    toZonedTime session v = liftM (v.toZonedTime session) := by
  cases v
  case time t => exact zonedTime_eq hs t
  all_goals rfl

theorem toZonedTimestamp_eq (hs : session.Valid) (v : Value) :
    toZonedTimestamp session v = liftM (v.toZonedTimestamp session) := by
  cases v
  case date d => exact zonedTimestamp_eq hs ⟨d, .midnight⟩
  case timestamp t => exact zonedTimestamp_eq hs t
  all_goals rfl

/-! ## Values -/

theorem dateAndNanos_eq {k : Nat} (h : v.dateAndNanos = .ok (d, k)) :
    dateAndNanos v = .ok (d, (k : Int)) := by
  cases v <;> cases h
  case date => rfl
  all_goals
    rw [dateAndNanos, nanos_eq]
    rfl

theorem withDateAndNanos_eq (hv : v.Valid) (d : Date) (n : Int) :
    withDateAndNanos v d n = liftM (v.withDateAndNanos d n) := by
  cases v
  case date => rfl
  case timeTz t =>
    rw [withDateAndNanos, Value.withDateAndNanos, timeOfNanos_eq]
    cases TimeOfDay.ofNanos n with
    | error e => rfl
    | ok u =>
        rw [liftM_data_ok, ok_bind, ok_bind, zonedTime_eq hv, ZonedTime.new, ZoneOffset.check_eq hv.accepted]
        rfl
  case timestampTz t =>
    rw [withDateAndNanos, Value.withDateAndNanos, timeOfNanos_eq]
    cases TimeOfDay.ofNanos n with
    | error e => rfl
    | ok u =>
        rw [liftM_data_ok, ok_bind, ok_bind, zonedTimestamp_eq hv, ZonedTimestamp.new,
          ZoneOffset.check_eq hv.accepted]
        rfl
  all_goals
    simp only [withDateAndNanos, Value.withDateAndNanos, timeOfNanos_eq]
    cases TimeOfDay.ofNanos n <;> rfl

/-- A number of months that no word of 32 bits holds leads out of the calendar, too. -/
theorem withShiftedDate_eq (hv : v.Valid) {months : Int} (hm : Word.i64.Holds months) {k : Nat}
    (ht : v.kind.isTimeOfDay = false) (h : v.dateAndNanos = .ok (d, k)) :
    withShiftedDate v d k months = liftM (v.addMonths months) := by
  rw [Word.holds_i64] at hm
  rw [withShiftedDate, Word.step_u64 (by omega), ok_bind]
  cases he : d.addMonths? months with
  | none =>
      rw [Value.addMonths_of_none ht h he, liftM_data_error, ite_self]
  | some e =>
      have hcount := Date.natAbs_lt_of_addMonths? he
      have hword : Word.u32.Holds months.natAbs := Word.holds_u32.mpr (by
        rw [UInt32.size] at hcount
        omega)
      rw [Value.addMonths_of_some ht h he, if_neg fun h => h hword]
      exact withDateAndNanos_eq hv e k

theorem addMonths_eq (hv : v.Valid) {months : Int} (hm : Word.i64.Holds months) :
    addMonths v months = liftM (v.addMonths months) := by
  cases v
  case date | timestamp | timestampTz =>
    rw [addMonths, dateAndNanos_eq rfl, ok_bind]
    exact withShiftedDate_eq hv hm rfl rfl
  all_goals rfl

end InWords

end SqlInterval
