import SqlInterval.Operator.Difference
import SqlInterval.Proofs.Interval.Absolute
import SqlInterval.Proofs.Value.Instant

/-!
# Differences of instants

Times of day, dates and timestamps are subtracted in four ways, with the offsets put in at different
places. All of them give the interval from the right instant to the left one.
-/

namespace SqlInterval

variable {session : ZoneOffset} {l r : Value}

/-! ## What is read from the values -/

namespace Value

variable {v : Value}

theorem clockNanos_eq (hv : v.kind.isDatetime) : v.clockNanos = .ok v.position := by
  cases v <;> simp only [kind, Kind.isDatetime, Bool.false_eq_true] at hv
  case date d => exact congrArg _ (Int.add_zero _)
  case time t => exact congrArg _ (Int.zero_add _)
  case timeTz t => exact congrArg _ (Int.zero_add _)
  case timestamp t => rfl
  case timestampTz t => rfl

theorem zoneOffset_eq (hs : session.Accepted) (hv : v.kind.isDatetime) :
    v.zoneOffset session = .ok (v.offset session).toInt := by
  cases ht : v.kind.isTimeOfDay with
  | true =>
      obtain ⟨t, hz, -, ho⟩ := toZonedTime_eq hs ht
      cases v <;> simp only [kind, Kind.isTimeOfDay, reduceCtorEq] at ht
      all_goals
        rw [zoneOffset, hz, ok_bind, ho]
        rfl
  | false =>
      obtain ⟨t, hz, ho⟩ := toZonedTimestamp_eq hs hv ht
      cases v <;> simp only [kind, Kind.isTimeOfDay, reduceCtorEq] at ht
      all_goals
        simp only [zoneOffset, hz, ok_bind, ho]
        rfl

theorem zoneOffset_of_isZoned (hv : v.isZoned) (s t : ZoneOffset) :
    v.zoneOffset s = v.zoneOffset t := by
  cases v <;> simp only [isZoned, Bool.false_eq_true] at hv <;> rfl

theorem toZonedTime_of_isZoned (hv : v.isZoned) (s t : ZoneOffset) :
    v.toZonedTime s = v.toZonedTime t := by
  cases v <;> simp only [isZoned, Bool.false_eq_true] at hv <;> rfl

end Value

/-! ## The session's part -/

theorem subtractTimes_of_isZoned (hz : l.isZoned = r.isZoned) (hl : l.kind.isTimeOfDay)
    (hr : r.kind.isTimeOfDay) (s t : ZoneOffset) : subtractTimes s l r = subtractTimes t l r := by
  cases h : l.isZoned with
  | true =>
      simp only [subtractTimes, Value.toZonedTime_of_isZoned h s t,
        Value.toZonedTime_of_isZoned (hz.symm.trans h) s t]
  | false =>
      rw [h] at hz
      cases l <;> simp only [Value.kind, Kind.isTimeOfDay, Value.isZoned, reduceCtorEq] at hl h
      cases r <;> simp only [Value.kind, Kind.isTimeOfDay, Value.isZoned, reduceCtorEq] at hr hz
      rfl

theorem subtractTimestamps_of_isZoned (hz : l.isZoned = r.isZoned) (s t : ZoneOffset) :
    subtractTimestamps s l r = subtractTimestamps t l r := by
  cases h : l.isZoned with
  | true =>
      simp only [subtractTimestamps, Value.zoneOffset_of_isZoned h s t,
        Value.zoneOffset_of_isZoned (hz.symm.trans h) s t]
  | false =>
      have hbare {v : Value} (hv : v.isZoned = false) : v.kind ≠ .timestampTz := by
        cases v <;> simp_all [Value.kind, Value.isZoned]
      have hzones : ¬ (l.kind = .timestampTz ∨ r.kind = .timestampTz) :=
        not_or.mpr ⟨hbare h, hbare (hz.symm.trans h)⟩
      simp only [subtractTimestamps, if_neg hzones]

/-- The session is not asked between two values that both have zones or both have none. -/
theorem difference_of_isZoned (hz : l.isZoned = r.isZoned) (s t : ZoneOffset) :
    difference s l r = difference t l r := by
  unfold difference
  split
  · rename_i htimes
    obtain ⟨hl, hr⟩ := Bool.and_eq_true_iff.mp htimes
    exact subtractTimes_of_isZoned hz hl hr s t
  · split
    · rfl
    · exact subtractTimestamps_of_isZoned hz s t

/-! ## The four ways -/

theorem intervalOfNanos_eq {n : Int} (h : n.natAbs < 1000000000 * nanosPerDay) :
    intervalOfNanos n = Interval.ofAbsolute .hourToSecond n := by
  have hunits : Qualifier.hourToSecond.unitsPerLeading = nanosPerHour := rfl
  have hmax : n.natAbs / Qualifier.hourToSecond.unitsPerLeading ≤ Interval.maxLeading := by
    simp only [nanosPerDay] at h
    simp only [hunits, nanosPerHour, Interval.maxLeading]
    omega
  have hsplit := Interval.ofAbsolute_mul hmax
  rw [hunits] at hsplit
  exact hsplit.symm.trans (congrArg _ (Int.mul_one n))

theorem subtractTimes_eq (hs : session.Accepted) (hl : l.kind.isTimeOfDay) (hr : r.kind.isTimeOfDay) :
    subtractTimes session l r =
      Interval.ofAbsolute .hourToSecond (l.instant session - r.instant session) := by
  obtain ⟨a, ha, hpa, hoa⟩ := Value.toZonedTime_eq hs hl
  obtain ⟨b, hb, hpb, hob⟩ := Value.toZonedTime_eq hs hr
  rw [← intervalOfNanos_eq (Value.instant_sub_instant_bounds session l r),
    Value.instant_sub_instant]
  unfold subtractTimes
  split
  · simp only [Value.offset, Value.position, Int.sub_self, Int.zero_mul, Int.add_zero]
  · rw [ha, ok_bind, hb, ok_bind, hpa, hpb, hoa, hob]

theorem subtractDates_eq (session : ZoneOffset) (a b : Date) :
    subtractDates a b = Interval.ofAbsolute .day
      ((Value.date a).instant session - (Value.date b).instant session) := by
  have ha := a.dayNumber_bounds
  have hb := b.dayNumber_bounds
  have hunits : Qualifier.day.unitsPerLeading = 1 := rfl
  have hmax : (a.dayNumber - b.dayNumber).natAbs / Qualifier.day.unitsPerLeading ≤
      Interval.maxLeading := by
    simp only [hunits, Nat.div_one, Interval.maxLeading]
    omega
  have hsplit := Interval.ofAbsolute_mul hmax
  rw [hunits, Nat.div_one, Nat.mod_one, Int.sub_mul] at hsplit
  rw [Value.instant_sub_instant, subtractDates, ← hsplit]
  simp only [Value.offset, Value.position, Int.sub_self, Int.zero_mul, Int.add_zero]
  rfl

/-- Offsets that are not put in are those of one zone. -/
theorem subtractTimestamps_eq (hs : session.Accepted) (hl : l.kind.isDatetime)
    (hr : r.kind.isDatetime) (hz : ¬ (l.kind = .timestampTz ∨ r.kind = .timestampTz) →
      l.offset session = r.offset session) :
    subtractTimestamps session l r =
      Interval.ofAbsolute .dayToSecond (l.instant session - r.instant session) := by
  rw [subtractTimestamps, Value.clockNanos_eq hl, ok_bind, Value.clockNanos_eq hr, ok_bind,
    Value.instant_sub_instant]
  dsimp only
  split
  · rw [Value.zoneOffset_eq hs hr, ok_bind, Value.zoneOffset_eq hs hl, ok_bind]
  · rename_i h
    rw [hz h, Int.sub_self, Int.zero_mul, Int.add_zero]

/-! ## All of them -/

/-- The qualifier of a difference of values that are both times of day or both bear a date. -/
def differenceQualifier (l r : Kind) : Qualifier :=
  if l.isTimeOfDay then .hourToSecond else if l = .date ∧ r = .date then .day else .dayToSecond

theorem difference_eq (hs : session.Accepted) (hl : l.kind.isDatetime) (hr : r.kind.isDatetime)
    (hlr : l.kind.isTimeOfDay = r.kind.isTimeOfDay) :
    difference session l r = Interval.ofAbsolute (differenceQualifier l.kind r.kind)
      (l.instant session - r.instant session) := by
  unfold difference differenceQualifier
  rw [← hlr, Bool.and_self]
  split
  · rename_i ht
    exact subtractTimes_eq hs ht (hlr ▸ ht)
  · rename_i ht
    split
    · exact subtractDates_eq session _ _
    · rename_i hdates
      have hdate : ¬ (l.kind = .date ∧ r.kind = .date) := by
        cases l <;> cases r <;> simp_all [Value.kind]
      rw [if_neg hdate]
      refine subtractTimestamps_eq hs hl hr fun h => ?_
      obtain ⟨hzl, hzr⟩ := not_or.mp h
      have hl := Value.isZoned_eq_false (Bool.eq_false_iff.mpr ht) hzl
      have hr := Value.isZoned_eq_false (hlr ▸ Bool.eq_false_iff.mpr ht) hzr
      rw [Value.offset_eq_session hl, Value.offset_eq_session hr]

/-- Without a choice between a zone and none, any session does. -/
theorem difference_eq_of_isZoned (session : ZoneOffset) (hl : l.kind.isDatetime)
    (hr : r.kind.isDatetime) (hlr : l.kind.isTimeOfDay = r.kind.isTimeOfDay)
    (hz : l.isZoned = r.isZoned) :
    difference session l r = Interval.ofAbsolute (differenceQualifier l.kind r.kind)
      (l.instant session - r.instant session) := by
  have hutc : (0 : ZoneOffset).Accepted := by decide
  rw [difference_of_isZoned hz session 0, difference_eq hutc hl hr hlr,
    Value.instant_sub_instant_of_isZoned hz 0 session]

theorem differenceQualifier_comm {l r : Kind} (h : l.isTimeOfDay = r.isTimeOfDay) :
    differenceQualifier l r = differenceQualifier r l := by
  simp only [differenceQualifier, h, and_comm]

theorem differenceQualifier_isYearMonth (l r : Kind) :
    (differenceQualifier l r).isYearMonth = false := by
  unfold differenceQualifier
  split
  · rfl
  · split <;> rfl

theorem differenceQualifier_dvd (session : ZoneOffset) (l r : Value) :
    ((differenceQualifier l.kind r.kind).trailingUnit : Int) ∣
      l.instant session - r.instant session := by
  unfold differenceQualifier
  split
  · exact Int.one_dvd _
  · split
    · rename_i h
      obtain ⟨hl, hr⟩ := h
      cases l <;> cases hl
      cases r <;> cases hr
      rw [Value.instant_sub_instant]
      simp only [Value.offset, Value.position, Int.sub_self, Int.zero_mul, Int.add_zero,
        ← Int.sub_mul]
      exact Int.dvd_mul_left _ _
    · exact Int.one_dvd _

theorem differenceQualifier_leadingUnit {l r : Kind} (hl : l.isTimeOfDay = false) :
    (differenceQualifier l r).leadingUnit = nanosPerDay := by
  rw [differenceQualifier, if_neg (Bool.eq_false_iff.mp hl)]
  split <;> rfl

theorem differenceQualifier_leadingUnit_ge (l r : Kind) :
    nanosPerHour ≤ (differenceQualifier l r).leadingUnit := by
  unfold differenceQualifier
  split
  · decide
  · split <;> decide

theorem subtractDatetimes_none {d : Interval} (hl : l.kind.isDatetime) (hr : r.kind.isDatetime)
    (hd : difference session l r = .ok d) :
    subtractDatetimes session none l r = .ok (.interval d) := by
  simp only [subtractDatetimes, hl, hr, Bool.and_self, if_true, hd]
  rfl

theorem subtractDatetimes_some {d : Interval} {t : SqlType} (hl : l.kind.isDatetime)
    (hr : r.kind.isDatetime) (hd : difference session l r = .ok d) :
    subtractDatetimes session (some t) l r = (d.cast t).map .interval := by
  simp only [subtractDatetimes, hl, hr, Bool.and_self, if_true, hd]
  rfl

/-- Two times of day, and two values that bear dates, are always subtracted, and exactly. The session
has a say only if one of them has a zone and the other has not. -/
theorem subtractDatetimes_exact (hs : session.Valid) (hl : l.kind.isDatetime)
    (hr : r.kind.isDatetime) (hlr : l.kind.isTimeOfDay = r.kind.isTimeOfDay) :
    (∃ i, subtractDatetimes session none l r = .ok (.interval i) ∧
      i.qualifier = differenceQualifier l.kind r.kind ∧
      i.absolute = l.instant session - r.instant session) ∧
    (l.isZoned = r.isZoned → ∀ other : ZoneOffset, other.Valid →
      subtractDatetimes other none l r = subtractDatetimes session none l r) := by
  have hdiff {s : ZoneOffset} (hs : s.Valid) := difference_eq hs.accepted hl hr hlr
  have hpair : (l.kind.isDatetime && r.kind.isDatetime) = true := by rw [hl, hr]; rfl
  refine ⟨?_, fun hz other ho => ?_⟩
  · have hbound := Value.instant_sub_instant_bounds session l r
    have hunit := differenceQualifier_leadingUnit_ge l.kind r.kind
    have hmax : (l.instant session - r.instant session).natAbs /
        (differenceQualifier l.kind r.kind).leadingUnit ≤ Interval.maxLeading := by
      refine Nat.le_trans (Nat.div_le_div_left hunit (by decide)) ?_
      simp only [nanosPerDay] at hbound
      simp only [nanosPerHour, Interval.maxLeading]
      omega
    obtain ⟨i, hi, hq, ha⟩ := Interval.ofAbsolute_exact
      (differenceQualifier_dvd session l r) hmax
    refine ⟨i, ?_, hq, ha⟩
    rw [subtractDatetimes, if_pos hpair, hdiff hs, hi]
    rfl
  · rw [subtractDatetimes, subtractDatetimes, hdiff ho, hdiff hs,
      Value.instant_sub_instant_of_isZoned hz other session]

/-- One second after midnight in a session east of Greenwich, less midnight in a zone west of it. -/
theorem subtractDatetimes_exact_across_zones :
    (3600 : ZoneOffset).Valid ∧
      ∃ i, subtractDatetimes 3600 none (.time ⟨1, 0, by decide, by decide⟩)
          (.timeTz ⟨.midnight, -3600⟩) = .ok (.interval i) ∧
        i.qualifier = .hourToSecond ∧ i.absolute = -7199000000000 := by
  have hs : (3600 : ZoneOffset).Valid := by decide
  obtain ⟨⟨i, hi, hq, ha⟩, -⟩ := subtractDatetimes_exact
    (l := .time ⟨1, 0, by decide, by decide⟩) (r := .timeTz ⟨.midnight, -3600⟩)
    hs rfl rfl rfl
  exact ⟨hs, i, hi, hq, ha.trans (by decide)⟩

end SqlInterval
