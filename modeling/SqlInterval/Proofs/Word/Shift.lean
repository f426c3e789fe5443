import SqlInterval.Proofs.Operator.Shift
import SqlInterval.Proofs.Word.Fields

/-!
# Shifts in words

The days of an interval have eighteen digits at most, which leaves room for the days of any date and for the day that
is carried or borrowed. Only the number of months can be such that its word has no number with the other sign.
-/

namespace SqlInterval

namespace InWords

/-! ## The steps -/

/-- The days and the time of day are moved apart, and then one day is carried or borrowed. -/
def shiftTimestamp (plus : Bool) (v : Value) (a : Int) : Except WordFault Value := do
  let (d, n) ← dateAndNanos v
  let day ← dayNumber d
  let days ← (checkWord (a.tdiv nanosPerDay) : Except DataError Int)
  let rest ← (checkWord (a.tmod nanosPerDay) : Except DataError Int)
  let shifted ← Word.i64.step (day + signed plus days)
  let moved ← Word.i64.step (n + signed plus rest)
  if nanosPerDay ≤ moved then do
    let left ← Word.i64.step (moved - nanosPerDay)
    let next ← Word.i64.step (shifted + 1)
    withDateAndNanos v (← dateOfNumber next) left
  else if moved < 0 then do
    let left ← Word.i64.step (moved + nanosPerDay)
    let previous ← Word.i64.step (shifted - 1)
    withDateAndNanos v (← dateOfNumber previous) left
  else withDateAndNanos v (← dateOfNumber shifted) moved

/-- The sum is an exact number, and becomes a word only within the day. -/
def shiftTime (plus : Bool) (t : TimeOfDay) (a : Int) : Except WordFault TimeOfDay := do
  let n ← nanos t
  let moved := n + signed plus a
  if 0 ≤ moved ∧ moved < nanosPerDay then
    timeOfNanos (← (checkWord moved : Except DataError Int))
  else fail (.number moved)

/-- The date with a number that is exact, and becomes a word first. -/
def dateOfExact (n : Int) : Except WordFault Date := do
  dateOfNumber (← (checkWord n : Except DataError Int))

def shiftNanos (plus : Bool) (l : Value) (a : Int) : Except WordFault Value :=
  match l with
  | .time t => do
    return .time (← shiftTime plus t a)
  | .timeTz t => do
    return .timeTz (← zonedTime (← shiftTime plus t.time a) t.offset)
  | .date d => do
    let day ← dayNumber d
    return .date (← dateOfExact (day + signed plus (a.tdiv nanosPerDay)))
  | .timestamp _ | .timestampTz _ => shiftTimestamp plus l a
  | _ => .error (.error l.unexpected)

/-- A subtraction of months is an addition of their number with the other sign. -/
def shiftMonths (plus : Bool) (l r : Value) (a : Int) : Except WordFault Value :=
  if l.kind.isTimeOfDay then .error (.error r.unexpected)
  else if l.kind.isDatetime then do
    let months ← (checkWord a : Except DataError Int)
    if plus then addMonths l months
    else addMonths l (← Word.i64.step (-months))
  else .error (.error l.unexpected)

def shiftDatetime (plus : Bool) (l r : Value) : Except WordFault Value := do
  let i ← r.toInterval
  if i.qualifier.isYearMonth then shiftMonths plus l r i.absolute
  else shiftNanos plus l i.absolute

variable {plus : Bool} {v l r : Value} {a z : Int} {d : Date}

/-! ## Days -/

theorem holds_of_checkWord {z y : Int} (h : checkWord z = .ok y) : y = z ∧ Word.i64.Holds z := by
  unfold checkWord at h
  split at h
  · rename_i hz
    exact ⟨(Except.ok.inj h).symm, hz⟩
  · cases h

/-- The eighteen digits of an interval's days and the days of any date together are far from the word's end. -/
theorem shifted_day_bounds (plus : Bool) (d : Date) {days : Int}
    (h : days.natAbs ≤ Interval.maxLeading) :
    (d.dayNumber + signed plus days).natAbs < 2000000000000000000 := by
  have hd := d.dayNumber_bounds
  rw [← natAbs_signed plus] at h
  simp only [Interval.maxLeading] at h
  omega

theorem withDateOfNumber_eq (hv : v.Valid) {day : Int} (h : day.natAbs < 9000000000000000000)
    (n : Int) :
    (do withDateAndNanos v (← dateOfNumber day) n) =
      (liftM (do v.withDateAndNanos (← Date.ofDayNumber day) n : Except DataError Value) :
        Except WordFault Value) := by
  rw [dateOfNumber_eq h, liftM_data_bind]
  exact congrArg _ (funext fun d => withDateAndNanos_eq hv d n)

theorem shiftTimestamp_eq (hv : v.Valid) {k : Nat} (hfields : v.dateAndNanos = .ok (d, k))
    (ha : (a.tdiv nanosPerDay).natAbs ≤ Interval.maxLeading) :
    shiftTimestamp plus v a = liftM (v.shiftTimestamp plus d k a) := by
  have hk : k < 86400000000000 := Value.nanos_lt_of_dateAndNanos hfields
  have hday := shifted_day_bounds plus d ha
  have hlo := Int.lt_tmod_of_pos a (show (0 : Int) < nanosPerDay by decide)
  have hhi := Int.tmod_lt_of_pos a (show (0 : Int) < nanosPerDay by decide)
  have hrest : (a.tmod nanosPerDay).natAbs < 86400000000000 := by
    simp only [nanosPerDay] at hlo hhi ⊢
    omega
  have hmoved : (k + signed plus (a.tmod nanosPerDay)).natAbs < 172800000000000 := by
    have := natAbs_signed plus (a.tmod nanosPerDay)
    omega
  have hword : Word.i64.Holds (d.dayNumber + signed plus (a.tdiv nanosPerDay)) :=
    Word.holds_i64.mpr (by omega)
  rw [shiftTimestamp, Value.shiftTimestamp, dateAndNanos_eq hfields, ok_bind]
  dsimp only
  rw [dayNumber_eq, ok_bind, checkWord_eq ha, liftM_data_ok, ok_bind, ok_bind,
    checkWord_eq (by simp only [Interval.maxLeading]; omega), liftM_data_ok, ok_bind,
    Word.step_eq hword, ok_bind, if_neg fun h => h hword, Word.step_i64 (by omega), ok_bind]
  generalize d.dayNumber + signed plus (a.tdiv nanosPerDay) = day at hday ⊢
  generalize k + signed plus (a.tmod nanosPerDay) = moved at hmoved ⊢
  split
  · rw [Word.step_i64 (by simp only [nanosPerDay]; omega), ok_bind, Word.step_i64 (by omega), ok_bind]
    exact withDateOfNumber_eq hv (by omega) _
  · split
    · rw [Word.step_i64 (by simp only [nanosPerDay]; omega), ok_bind, Word.step_i64 (by omega),
        ok_bind]
      exact withDateOfNumber_eq hv (by omega) _
    · exact withDateOfNumber_eq hv (by omega) _

theorem dateOfExact_eq {n : Int} (h : n.natAbs < 9000000000000000000) :
    dateOfExact n = liftM (Date.ofDayNumber n) := by
  have hword : checkWord n = .ok n := if_pos (Word.holds_i64.mpr (by omega))
  rw [dateOfExact, hword, liftM_data_ok, ok_bind, dateOfNumber_eq h]

/-- Within a day there are fewer nanoseconds than a word of 64 bits can count. -/
theorem shiftTime_eq (plus : Bool) (t : TimeOfDay) (a : Int) :
    shiftTime plus t a = timeOfNanos (t.nanos + signed plus a) := by
  rw [shiftTime, nanos_eq, ok_bind]
  dsimp only
  split
  · rename_i hday
    have hword : checkWord (t.nanos + signed plus a) = .ok _ :=
      checkWord_eq (by simp only [nanosPerDay] at hday; simp only [Interval.maxLeading]; omega)
    rw [hword, liftM_data_ok, ok_bind]
  · rename_i hday
    rw [timeOfNanos, if_neg hday]

theorem shiftNanos_eq (hl : l.Valid) (ha : (a.tdiv nanosPerDay).natAbs ≤ Interval.maxLeading) :
    shiftNanos plus l a = liftM (SqlInterval.shiftNanos plus l a) := by
  cases l with
  | date d =>
      have hday := shifted_day_bounds plus d ha
      rw [shiftNanos, SqlInterval.shiftNanos, dayNumber_eq, ok_bind, dateOfExact_eq (by omega),
        liftM_bind, liftM_liftM]
      rfl
  | time t =>
      rw [shiftNanos, shiftTime_eq]
      exact withDateAndNanos_eq hl .epoch _
  | timeTz t =>
      rw [shiftNanos, shiftTime_eq]
      exact withDateAndNanos_eq hl .epoch _
  | timestamp t => exact shiftTimestamp_eq hl rfl ha
  | timestampTz t => exact shiftTimestamp_eq hl rfl ha
  | _ => rfl

/-! ## Months -/

theorem shiftMonths_eq (hl : l.Valid) (ha : l.kind.isDatetime → l.kind.isTimeOfDay = false →
    plus = true ∨ a ≠ Word.i64.least) :
    shiftMonths plus l r a = liftM (SqlInterval.shiftMonths plus l r a) := by
  unfold shiftMonths SqlInterval.shiftMonths
  split
  · rfl
  · rename_i ht
    split
    · rename_i hdatetime
      have ha := ha hdatetime (Bool.eq_false_iff.mpr ht)
      cases hword : checkWord a with
      | error e => rfl
      | ok months =>
          obtain ⟨rfl, hholds⟩ := holds_of_checkWord hword
          rw [liftM_data_ok, ok_bind, lift_ok, ok_bind, liftM_liftM]
          cases plus with
          | true => exact addMonths_eq hl hholds
          | false =>
              have hneg : Word.i64.Holds (-months) := by
                have hleast : months ≠ -9223372036854775808 := ha.resolve_left Bool.false_ne_true
                rw [Word.holds_i64] at hholds ⊢
                omega
              rw [if_neg Bool.false_ne_true, Word.step_eq hneg, ok_bind]
              exact addMonths_eq hl hneg
    · rfl

/-- The least number of a word is the only one that the word does not have with the other sign. -/
theorem shiftMonths_least (ht : l.kind.isTimeOfDay = false) (hl : l.kind.isDatetime) :
    shiftMonths false l r Word.i64.least = .error (.overflow .i64 9223372036854775808) := by
  have hword : checkWord Word.i64.least = .ok Word.i64.least := if_pos (by decide)
  rw [shiftMonths, if_neg (Bool.eq_false_iff.mp ht), if_pos hl, hword]
  rfl

/-! ## All shifts -/

/-- The number of months by which a date or timestamp is to be moved is the least one of its word. -/
def LeastMonths (l r : Value) : Prop :=
  l.kind.isDatetime ∧ l.kind.isTimeOfDay = false ∧
    ∃ i, r = .interval i ∧ i.qualifier.isYearMonth ∧ i.absolute = Word.i64.least

theorem shiftDatetime_eq (hl : l.Valid) (hr : r.Valid) (h : plus = true ∨ ¬ LeastMonths l r) :
    shiftDatetime plus l r = liftM (SqlInterval.shiftDatetime plus l r) := by
  cases r with
  | interval i =>
      rw [shiftDatetime, SqlInterval.shiftDatetime, Value.toInterval, liftM_ok, ok_bind, ok_bind]
      split
      · rename_i hq
        exact shiftMonths_eq hl fun hdatetime ht =>
          h.imp_right fun hmonths ha => hmonths ⟨hdatetime, ht, i, rfl, hq, ha⟩
      · exact shiftNanos_eq hl hr.days_bounds
  | _ => rfl

theorem shiftDatetime_least (h : LeastMonths l r) :
    shiftDatetime false l r = .error (.overflow .i64 9223372036854775808) := by
  obtain ⟨hl, ht, i, rfl, hq, ha⟩ := h
  rw [shiftDatetime, Value.toInterval, liftM_ok, ok_bind, if_pos hq, ha]
  exact shiftMonths_least ht hl

end InWords

end SqlInterval
