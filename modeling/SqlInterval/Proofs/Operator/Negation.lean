import Mathlib.Tactic
import SqlInterval.Proofs.Interval.Negate
import SqlInterval.Proofs.Operator.Granularity
import SqlInterval.Proofs.Operator.Shift
import SqlInterval.Proofs.Operator.Sum
import SqlInterval.Proofs.Value.Month

/-!
# Signs of the additive operators

To subtract an interval is to add its opposite, and to exchange the operands of a difference is to take
the opposite of the result. The errors keep their codes; the numbers that they show may have other signs.
-/

namespace SqlInterval

variable {session : ZoneOffset} {l r : Value} {i j : Interval}

/-! ## Sums -/

theorem addIntervals_negate (i j : Interval) :
    addIntervals false (.interval i) (.interval j) =
      addIntervals true (.interval i) (.interval j.negate) := by
  have hqualifier : j.negate.qualifier = j.qualifier := rfl
  have hkind : (Value.interval i).unexpectedPair (.interval j) =
      (Value.interval i).unexpectedPair (.interval j.negate) := rfl
  simp only [addIntervals, Value.toInterval, ok_bind, hqualifier, hkind, signed,
    Interval.absolute_negate, Bool.false_eq_true, if_false, if_true]

/-- An interval with the other sign. -/
def Value.negate : Value → Value
  | interval i => interval i.negate
  | v => v

theorem agree_interval {x y : Except EvalError Interval}
    (h : Agree EvalError.code Interval.negate x y) :
    Agree EvalError.code Value.negate (do return Value.interval (← x))
      (do return Value.interval (← y)) :=
  h.bind fun k => .ok (Value.interval k)

theorem addIntervals_swap (i j : Interval) :
    Agree EvalError.code Value.negate (addIntervals false (.interval i) (.interval j))
      (addIntervals false (.interval j) (.interval i)) := by
  simp only [addIntervals, Value.toInterval, ok_bind, signed, Bool.false_eq_true, if_false,
    j.qualifier.join?_comm]
  cases i.qualifier.join? j.qualifier with
  | none => exact .error rfl
  | some q =>
      have hneg : j.absolute + -i.absolute = -(i.absolute + -j.absolute) := by omega
      rw [hneg]
      exact agree_interval (Interval.ofAbsolute_neg q _).lift

/-! ## Shifts -/

theorem shiftNanos_negate (l : Value) {a : Int}
    (ha : (a.tdiv nanosPerDay).natAbs ≤ Interval.maxLeading) :
    shiftNanos false l a = shiftNanos true l (-a) := by
  have hneg : ((-a).tdiv nanosPerDay).natAbs ≤ Interval.maxLeading := by
    rwa [Int.neg_tdiv, Int.natAbs_neg]
  cases l with
  | date d => simp only [shiftNanos, signed, Int.neg_tdiv, Bool.false_eq_true, if_false, if_true]
  | time | timeTz => rfl
  | timestamp | timestampTz =>
      simp only [shiftNanos, Value.shiftTimestamp_eq _ _ _ ha, Value.shiftTimestamp_eq _ _ _ hneg]
      rfl
  | _ => rfl

/-- The calendar does not reach as many months as a word can count. -/
theorem Value.addMonths_fails {v : Value} {months : Int} (hv : v.kind.isDatetime)
    (ht : v.kind.isTimeOfDay = false) (h : Int64.maxValue.toInt < months.natAbs) :
    v.addMonths months = .error (.number months) := by
  obtain ⟨d, nanos, hfields⟩ := Value.isDatetime_iff.mp hv
  refine Value.addMonths_of_none ht hfields (Option.eq_none_iff_forall_ne_some.mpr fun e he => ?_)
  have hcount := Date.natAbs_lt_of_addMonths? he
  rw [maxWord_eq] at h
  simp only [UInt32.size] at hcount
  omega

theorem shiftMonths_negate (l : Value) {r s : Value} (hrs : r.kind = s.kind) {a : Int}
    (ha : a ≠ Int64.minValue.toInt) :
    Agree EvalError.code id (shiftMonths false l r a) (shiftMonths true l s (-a)) := by
  have hunexpected : r.unexpected = s.unexpected := by rw [Value.unexpected, Value.unexpected, hrs]
  unfold shiftMonths
  rw [hunexpected]
  split
  · exact .refl _
  · rename_i ht
    split
    · rename_i hl
      by_cases hword : a.natAbs ≤ Int64.maxValue.toInt
      · have hneg : checkWord (-a) = .ok (-a) :=
          if_pos (by rw [minWord_eq, maxWord_eq] at *; omega)
        have hpos : checkWord a = .ok a := if_pos (by rw [minWord_eq, maxWord_eq] at *; omega)
        rw [hneg, hpos]
        exact .refl _
      -- The word that is its own opposite is on the right here, where no calendar reaches it.
      · have hleft : checkWord a = .error (.number a) :=
          if_neg (by rw [minWord_eq] at *; rw [maxWord_eq] at *; omega)
        have hmonths : l.addMonths (-a) = .error (.number (-a)) :=
          Value.addMonths_fails hl (Bool.eq_false_iff.mpr ht)
            (by rw [Int.natAbs_neg]; exact Int.not_le.mp hword)
        obtain ⟨z, -, hright⟩ := addMonths_fails_signed true hmonths
        rw [hleft, hright]
        exact .error rfl
    · exact .refl _

/-- To subtract an interval is to add its opposite. The least word of months has no opposite. -/
theorem shiftDatetime_negate (l : Value) (hi : i.Valid)
    (hmin : ¬ (i.qualifier.isYearMonth = true ∧ i.absolute = Int64.minValue.toInt)) :
    Agree EvalError.code id (shiftDatetime false l (.interval i))
      (shiftDatetime true l (.interval i.negate)) := by
  have hqualifier : i.negate.qualifier = i.qualifier := rfl
  simp only [shiftDatetime, Value.toInterval, ok_bind, hqualifier, Interval.absolute_negate]
  split
  · rename_i hq
    exact shiftMonths_negate l rfl fun h => hmin ⟨hq, h⟩
  · rw [shiftNanos_negate l hi.days_bounds]
    exact .refl _

/-! ## Differences -/

namespace Value

variable {v : Value}

/-- With an offset that does not pass the check, the session is of no use to a value without a zone. -/
theorem toZonedTime_fails (hs : ¬ session.Accepted) (hv : v.kind.isTimeOfDay) (hz : v.isZoned = false) :
    v.toZonedTime session =
      .error (.invalidValue "time zone offset" (Numeral.text session.toInt)) := by
  cases v <;> simp only [kind, Kind.isTimeOfDay, isZoned, reduceCtorEq] at hv hz
  rw [toZonedTime, ZonedTime.new, ZoneOffset.check_fails hs]
  rfl

theorem zoneOffset_fails (hs : ¬ session.Accepted) (hv : v.kind.isDatetime) (hz : v.isZoned = false) :
    v.zoneOffset session =
      .error (.invalidValue "time zone offset" (Numeral.text session.toInt)) := by
  cases v <;> simp only [kind, Kind.isDatetime, isZoned, reduceCtorEq] at hv hz
  case time t =>
    rw [zoneOffset, toZonedTime_fails hs rfl rfl]
    rfl
  all_goals
    simp only [zoneOffset, toZonedTimestamp, ZonedTimestamp.new, ZoneOffset.check_fails hs]
    rfl

end Value

/-- Between a value with a zone and one without, the latter is the one that cannot be read. -/
theorem subtractTimes_fails (hs : ¬ session.Accepted) (hl : l.kind.isTimeOfDay)
    (hr : r.kind.isTimeOfDay) (hz : l.isZoned ≠ r.isZoned) :
    subtractTimes session l r =
      .error (.invalidValue "time zone offset" (Numeral.text session.toInt)) := by
  unfold subtractTimes
  split
  · exact absurd rfl hz
  · cases hzl : l.isZoned with
    | true =>
        have hutc : (0 : ZoneOffset).Accepted := by decide
        obtain ⟨a, ha, -⟩ := Value.toZonedTime_eq hutc hl
        have hzr : r.isZoned = false := Bool.eq_false_iff.mpr fun h => hz (hzl.trans h.symm)
        rw [Value.toZonedTime_of_isZoned hzl session 0, ha, Value.toZonedTime_fails hs hr hzr]
        rfl
    | false =>
        rw [Value.toZonedTime_fails hs hl hzl]
        rfl

theorem subtractTimestamps_fails (hs : ¬ session.Accepted) (hl : l.kind.isDatetime)
    (hr : r.kind.isDatetime) (hz : l.isZoned ≠ r.isZoned)
    (hzones : l.kind = .timestampTz ∨ r.kind = .timestampTz) :
    subtractTimestamps session l r =
      .error (.invalidValue "time zone offset" (Numeral.text session.toInt)) := by
  rw [subtractTimestamps, Value.clockNanos_eq hl, ok_bind, Value.clockNanos_eq hr, ok_bind]
  simp only [if_pos hzones]
  cases hzr : r.isZoned with
  | true =>
      have hzl : l.isZoned = false := Bool.eq_false_iff.mpr fun h => hz (h.trans hzr.symm)
      rw [Value.zoneOffset_of_isZoned hzr session 0, Value.zoneOffset_eq (by decide) hr, ok_bind,
        Value.zoneOffset_fails hs hl hzl]
      rfl
  | false =>
      rw [Value.zoneOffset_fails hs hr hzr]
      rfl

/-- If an offset counts and the two are not times of day, one of them is a timestamp with a zone. -/
theorem timestampTz_of_isZoned_ne (hl : l.kind.isDatetime) (hr : r.kind.isDatetime)
    (hz : l.isZoned ≠ r.isZoned) (hi : ¬ OffsetIgnored l.kind r.kind)
    (ht : ¬ (l.kind.isTimeOfDay && r.kind.isTimeOfDay) = true) :
    l.kind = .timestampTz ∨ r.kind = .timestampTz := by
  refine Decidable.not_not.mp fun h => hz ?_
  by_cases hlr : l.kind.isTimeOfDay = r.kind.isTimeOfDay
  · obtain ⟨hzl, hzr⟩ := not_or.mp h
    rw [hlr, Bool.and_self, Bool.not_eq_true] at ht
    rw [Value.isZoned_eq_false (hlr.trans ht) hzl, Value.isZoned_eq_false ht hzr]
  · rw [Value.isZoned_eq_false_of_mixed hr hlr hi h,
      Value.isZoned_eq_false_of_mixed hl (Ne.symm hlr) (fun h => hi h.symm) fun h' => h h'.symm]

theorem difference_fails (hs : ¬ session.Accepted) (hl : l.kind.isDatetime) (hr : r.kind.isDatetime)
    (hz : l.isZoned ≠ r.isZoned) (hi : ¬ OffsetIgnored l.kind r.kind) :
    difference session l r =
      .error (.invalidValue "time zone offset" (Numeral.text session.toInt)) := by
  unfold difference
  split
  · rename_i htimes
    obtain ⟨htl, htr⟩ := Bool.and_eq_true_iff.mp htimes
    exact subtractTimes_fails hs htl htr hz
  · rename_i htimes
    split
    · exact absurd rfl hz
    · exact subtractTimestamps_fails hs hl hr hz (timestampTz_of_isZoned_ne hl hr hz hi htimes)

/-- Both differences are of one number, up to its sign, wherever the session has an offset or is not
asked for it. -/
theorem exists_difference (hs : session.Accepted) (hl : l.kind.isDatetime) (hr : r.kind.isDatetime) :
    ∃ q n, difference session l r = Interval.ofAbsolute q n ∧
      difference session r l = Interval.ofAbsolute q (-n) := by
  by_cases hlr : l.kind.isTimeOfDay = r.kind.isTimeOfDay
  · refine ⟨_, _, difference_eq hs hl hr hlr, ?_⟩
    rw [difference_eq hs hr hl hlr.symm, differenceQualifier_comm hlr, Int.neg_sub]
  · by_cases hi : OffsetIgnored l.kind r.kind
    · refine ⟨_, _, difference_of_ignored session hi, ?_⟩
      rw [difference_of_ignored session hi.symm, Int.neg_sub]
    · refine ⟨_, _, difference_of_mixed_eq hs hl hr hlr hi, ?_⟩
      rw [difference_of_mixed_eq hs hr hl (Ne.symm hlr) fun h => hi h.symm, Int.neg_sub]

theorem difference_swap (session : ZoneOffset) (hl : l.kind.isDatetime) (hr : r.kind.isDatetime) :
    Agree DataError.code Interval.negate (difference session l r) (difference session r l) := by
  have haccepted {s : ZoneOffset} (hs : s.Accepted) :
      Agree DataError.code Interval.negate (difference s l r) (difference s r l) := by
    obtain ⟨q, n, hlr, hrl⟩ := exists_difference hs hl hr
    rw [hlr, hrl]
    exact Interval.ofAbsolute_neg q n
  by_cases hs : session.Accepted
  · exact haccepted hs
  · by_cases hz : l.isZoned = r.isZoned
    · rw [difference_of_isZoned hz session 0, difference_of_isZoned hz.symm session 0]
      exact haccepted (by decide)
    · by_cases hi : OffsetIgnored l.kind r.kind
      · rw [difference_of_ignored session hi, difference_of_ignored session hi.symm,
          ← Int.neg_sub l.position]
        exact Interval.ofAbsolute_neg _ _
      · rw [difference_fails hs hl hr hz hi,
          difference_fails hs hr hl (Ne.symm hz) fun h => hi h.symm]
        exact .error rfl

theorem Interval.cast_negate (i : Interval) (t : SqlType) :
    Agree EvalError.code negate (i.cast t) (i.negate.cast t) := by
  unfold cast
  split
  · exact (i.requalify_negate _).lift.bind fun k => (k.roundSeconds_negate t.scale).lift
  · exact .error rfl

/-- A cast of the difference does not favour either sign. -/
theorem subtractDatetimes_swap (session : ZoneOffset) (forced : Option SqlType)
    (hl : l.kind.isDatetime) (hr : r.kind.isDatetime) :
    Agree EvalError.code Value.negate (subtractDatetimes session forced l r)
      (subtractDatetimes session forced r l) := by
  simp only [subtractDatetimes, hl, hr, Bool.and_self, if_true]
  refine (difference_swap session hl hr).lift.bind fun i => ?_
  cases forced with
  | none => exact .ok (Value.interval i)
  | some t => exact agree_interval (i.cast_negate t)

/-! ## All of them -/

/-- The sign of an interval can be moved into the operator, and the operands of a subtraction can be
exchanged, at the price of the sign of the result. -/
theorem signs_symmetric :
    (∀ (l : Value) (i : Interval), i.Valid →
      ¬ (i.qualifier.isYearMonth = true ∧ i.absolute = Int64.minValue.toInt) →
        Agree EvalError.code id (shiftDatetime false l (.interval i))
          (shiftDatetime true l (.interval i.negate))) ∧
    (∀ i j : Interval,
      addIntervals false (.interval i) (.interval j) =
          addIntervals true (.interval i) (.interval j.negate) ∧
        Agree EvalError.code Value.negate (addIntervals false (.interval i) (.interval j))
          (addIntervals false (.interval j) (.interval i))) ∧
    ∀ (session : ZoneOffset) (forced : Option SqlType) (l r : Value), l.kind.isDatetime →
      r.kind.isDatetime →
        Agree EvalError.code Value.negate (subtractDatetimes session forced l r)
          (subtractDatetimes session forced r l) :=
  ⟨fun l _ hi hmin => shiftDatetime_negate l hi hmin,
    fun i j => ⟨addIntervals_negate i j, addIntervals_swap i j⟩,
    fun session forced _ _ hl hr => subtractDatetimes_swap session forced hl hr⟩

/-- As many months as a word just cannot count, though their opposite is one that it can: no date is so
far away on either side. Five nanoseconds, cast to eight digits, are rounded away from zero on both sides;
and no difference can be taken in a zone that cannot be. -/
theorem signs_symmetric_at_edges :
    let months : Interval := ⟨.yearToMonth, false, 768614336404564650, 8⟩
    let midnight := Value.time .midnight
    let later := Value.time ⟨0, 5, by decide, by decide⟩
    let eightDigits : SqlType := ⟨.interval .second, 2, 8⟩
    months.Valid ∧ months.absolute = 9223372036854775808 ∧
      Agree EvalError.code id (shiftDatetime false (.date .epoch) (.interval months))
        (shiftDatetime true (.date .epoch) (.interval months.negate)) ∧
      subtractDatetimes 0 (some eightDigits) later midnight =
        .ok (.interval ⟨.second, false, 0, 10⟩) ∧
      subtractDatetimes 0 (some eightDigits) midnight later =
        .ok (.interval ⟨.second, true, 0, 10⟩) ∧
      Agree EvalError.code Value.negate
        (subtractDatetimes 100000 none midnight (.timeTz ⟨.midnight, 0⟩))
        (subtractDatetimes 100000 none (.timeTz ⟨.midnight, 0⟩) midnight) := by
  intro months midnight later eightDigits
  have hv : months.Valid := by decide
  have hlater : subtractDatetimes 0 (some eightDigits) later midnight =
      .ok (.interval ⟨.second, false, 0, 10⟩) := by cbv
  have hswap := signs_symmetric.2.2 0 (some eightDigits) later midnight rfl rfl
  rw [hlater] at hswap
  exact ⟨hv, by decide, signs_symmetric.1 _ months hv (by decide), hlater, hswap.ok_left,
    signs_symmetric.2.2 100000 none midnight _ rfl rfl⟩

end SqlInterval
