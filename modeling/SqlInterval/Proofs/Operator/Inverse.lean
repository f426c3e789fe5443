import SqlInterval.Proofs.Operator.Granularity
import SqlInterval.Proofs.Operator.Shift
import SqlInterval.Proofs.Operator.Sum
import SqlInterval.Proofs.Operator.Validity

/-!
# Shifts and differences undo each other

A date or time that has no leap second is given by its kind, its zone and its position on its own clock.
A shift adds to the position and a difference is one of positions, so that each takes back the other. A
shift rebuilds its operand and checks the zone again: an offset that does not pass stops it, though not the
difference.
-/

namespace SqlInterval

variable {session : ZoneOffset} {plus : Bool} {i : Interval} {v w l r : Value}

/-! ## Positions -/

namespace Value

/-- How far a shift by `a` nanoseconds takes the value: a date moves by whole days only. -/
def step (a : Int) : Value → Int
  | date _ => a.tdiv nanosPerDay * nanosPerDay
  | _ => a

theorem step_neg (v : Value) (a : Int) : v.step (-a) = -v.step a := by
  cases v with
  | date d => simp only [step, Int.neg_tdiv, Int.neg_mul]
  | _ => rfl

namespace Rebuilt

theorem isZoned (h : Rebuilt v w) : w.isZoned = v.isZoned := by
  cases h <;> rfl

theorem offset (h : Rebuilt v w) (session : ZoneOffset) : w.offset session = v.offset session := by
  cases h with
  | timeTz h ha | timestampTz h ha => exact h
  | date | time | timestamp => rfl

theorem step (h : Rebuilt v w) (a : Int) : w.step a = v.step a := by
  cases h <;> rfl

theorem instant_sub (h : Rebuilt v w) (session : ZoneOffset) :
    w.instant session - v.instant session = w.position - v.position := by
  rw [instant_sub_instant, h.offset, Int.sub_self, Int.zero_mul, Int.add_zero]

/-- Two dates are whole days apart. -/
theorem step_sub (h : Rebuilt v w) : v.step (w.position - v.position) = w.position - v.position := by
  cases h with
  | date d e =>
      simp only [Value.step, position, ← Int.sub_mul]
      rw [Int.mul_tdiv_cancel _ (by decide)]
  | _ => rfl

theorem of_kind (hv : v.kind.isDatetime) (hk : w.kind = v.kind)
    (ho : w.offset session = v.offset session) (ha : v.Accepted) : Rebuilt v w := by
  cases v <;> simp only [Value.kind, Kind.isDatetime, Bool.false_eq_true] at hv
  all_goals cases w <;> simp only [Value.kind, reduceCtorEq] at hk
  case date.date d e => exact .date d e
  case time.time t u => exact .time t u
  case timeTz.timeTz t u => exact .timeTz ho ha
  case timestamp.timestamp t u => exact .timestamp t u
  case timestampTz.timestampTz t u => exact .timestampTz ho ha

end Rebuilt

end Value

/-! ## Shifts as additions -/

theorem Moved.position {a : Int} (h : Moved a l (.ok w)) :
    w.position = l.position + l.step a ∧ w.NoLeap := by
  cases h with
  | date h =>
      refine ⟨?_, trivial⟩
      rw [Value.position, h, Int.add_mul]
      rfl
  | time h | timeTz h => exact h
  | timestamp hd ht | timestampTz hd ht =>
      refine ⟨?_, ht.2⟩
      rw [Value.position, Timestamp.clockNanos, hd, ht.1]
      exact Int.ediv_mul_add_emod _ _

theorem Moved.of_position {a : Int} (h : l.Rebuilt w) (hw : w.NoLeap)
    (hp : w.position = l.position + l.step a) : Moved a l (.ok w) := by
  cases h with
  | date d e =>
      refine .date (Int.eq_of_mul_eq_mul_right (a := nanosPerDay) (by decide) ?_)
      rw [Int.add_mul]
      exact hp
  | time t u => exact .time ⟨hp, hw⟩
  | @timeTz t u h ha =>
      obtain ⟨u, offset⟩ := u
      obtain rfl : offset = t.offset := h
      exact .timeTz ⟨hp, hw⟩
  | timestamp t u =>
      have hp : u.clockNanos = t.clockNanos + a := hp
      obtain ⟨hd, ht⟩ := u.clockNanos_split
      rw [hp] at hd ht
      exact .timestamp hd.symm ⟨ht.symm, hw⟩
  | @timestampTz t u h ha =>
      obtain ⟨u, offset⟩ := u
      obtain rfl : offset = t.offset := h
      have hp : u.clockNanos = t.clock.clockNanos + a := hp
      obtain ⟨hd, ht⟩ := u.clockNanos_split
      rw [hp] at hd ht
      exact .timestampTz hd.symm ⟨ht.symm, hw⟩

/-- A shift gives the value of the same kind and zone that is so much further. -/
theorem shiftDatetime_eq_ok (hi : i.Valid) (hq : i.qualifier.isYearMonth = false) :
    shiftDatetime plus l (.interval i) = .ok w ↔
      l.Rebuilt w ∧ w.NoLeap ∧ w.position = l.position + l.step (signed plus i.absolute) := by
  rw [shiftDatetime_eq_shiftNanos hq]
  constructor
  · intro h
    have hrebuilt := shiftNanos_rebuilt h
    obtain ⟨s, hs⟩ := Moved.exists (a := signed plus i.absolute) hrebuilt.isDatetime
    rw [hs.shiftNanos hrebuilt.accepted hi.days_bounds] at h
    rw [h] at hs
    obtain ⟨hp, hw⟩ := hs.position
    exact ⟨hrebuilt, hw, hp⟩
  · rintro ⟨hrebuilt, hw, hp⟩
    exact (Moved.of_position hrebuilt hw hp).shiftNanos hrebuilt.accepted hi.days_bounds

/-- A shift is undone by the opposite one. -/
theorem shiftDatetime_undo (hi : i.Valid) (hq : i.qualifier.isYearMonth = false) (hl : l.NoLeap)
    (h : shiftDatetime plus l (.interval i) = .ok w) :
    shiftDatetime (!plus) w (.interval i) = .ok l := by
  obtain ⟨hrebuilt, -, hp⟩ := (shiftDatetime_eq_ok hi hq).mp h
  refine (shiftDatetime_eq_ok hi hq).mpr ⟨hrebuilt.symm, hl, ?_⟩
  rw [signed_not, hrebuilt.step, Value.step_neg, hp, Int.add_neg_cancel_right]

/-! ## Differences of positions -/

theorem subtractDatetimes_of_isZoned (session : ZoneOffset) (hl : l.kind.isDatetime)
    (hr : r.kind.isDatetime) (hlr : l.kind.isTimeOfDay = r.kind.isTimeOfDay)
    (hz : l.isZoned = r.isZoned) :
    ∃ k, subtractDatetimes session none l r = .ok (.interval k) ∧
      k.qualifier = differenceQualifier l.kind r.kind ∧ k.Valid ∧
      k.absolute = l.instant session - r.instant session := by
  obtain ⟨k, hk, hq, ha⟩ := subtractDatetimes_of_difference hl hr
    (difference_eq_of_isZoned session hl hr hlr hz) (differenceQualifier_dvd session l r)
    (differenceQualifier_leadingUnit_ge l.kind r.kind)
    (Value.instant_sub_instant_bounds session l r)
  exact ⟨k, hk, hq, subtractDatetimes_valid hk, ha⟩

/-- Two values of one kind and zone are as far apart as their positions. -/
theorem Value.Rebuilt.subtractDatetimes (h : Value.Rebuilt v w) (session : ZoneOffset) :
    ∃ k, subtractDatetimes session none w v = .ok (.interval k) ∧
      k.qualifier = differenceQualifier v.kind v.kind ∧ k.Valid ∧
      k.absolute = w.position - v.position := by
  obtain ⟨k, hk, hq, hv, ha⟩ := subtractDatetimes_of_isZoned session h.symm.isDatetime h.isDatetime
    (congrArg Kind.isTimeOfDay h.kind) h.isZoned
  rw [h.kind] at hq
  rw [h.instant_sub] at ha
  exact ⟨k, hk, hq, hv, ha⟩

/-- A value moves in whole units of its differences. -/
theorem Value.step_eq (v : Value) (a : Int) :
    v.step a = a.tdiv (differenceQualifier v.kind v.kind).trailingUnit *
      (differenceQualifier v.kind v.kind).trailingUnit := by
  have hunit : a = a.tdiv (1 : Nat) * (1 : Nat) := by
    rw [Int.natCast_one, Int.tdiv_one, Int.mul_one]
  cases v with
  | date d => rfl
  | _ => exact hunit

/-- Between values that bear dates, the difference that a shift makes is the interval itself, without
what is smaller than the unit of the difference. -/
theorem subtractDatetimes_of_shiftDatetime (session : ZoneOffset) (hi : i.Valid)
    (hq : i.qualifier.isYearMonth = false) (hl : l.kind.isTimeOfDay = false)
    (h : shiftDatetime true l (.interval i) = .ok w) :
    ∃ k, i.requalify (differenceQualifier l.kind l.kind) = .ok k ∧
      subtractDatetimes session none w l = .ok (.interval k) := by
  obtain ⟨hrebuilt, -, hp⟩ := (shiftDatetime_eq_ok hi hq).mp h
  obtain ⟨k, hk, hkq, hkv, hka⟩ := hrebuilt.subtractDatetimes session
  have hmax : i.absolute.natAbs / (differenceQualifier l.kind l.kind).leadingUnit ≤
      Interval.maxLeading := by
    have hdays := hi.days_bounds
    rwa [Int.natAbs_tdiv, Int.natAbs_natCast, ← differenceQualifier_leadingUnit hl] at hdays
  obtain ⟨j, hj⟩ := Interval.ofAbsolute_succeeds hmax
  obtain ⟨hjq, hjv, hja⟩ := Interval.ofAbsolute_ok hj
  have hjk : j = k := by
    refine hjv.eq_of_absolute hkv (hjq.trans hkq.symm) ?_
    rw [hja, hka, hp, ← Value.step_eq, signed_true]
    omega
  refine ⟨k, ?_, hk⟩
  rw [← hjk, ← hj]
  exact hi.requalify_eq (hq.trans (differenceQualifier_isYearMonth _ _).symm)

/-- A difference moves the value that was subtracted to the other one, and back. -/
theorem Value.Rebuilt.shiftDatetime_difference {k : Interval} (h : Value.Rebuilt v w)
    (hw : w.NoLeap) (hk : k.Valid) (hq : k.qualifier.isYearMonth = false)
    (ha : k.absolute = w.position - v.position) :
    shiftDatetime true v (.interval k) = .ok w := by
  refine (shiftDatetime_eq_ok hk hq).mpr ⟨h, hw, ?_⟩
  rw [signed_true, ha, h.step_sub]
  omega

theorem Value.Rebuilt.shiftDatetime_difference_back {k : Interval} (h : Value.Rebuilt v w)
    (hv : v.NoLeap) (hk : k.Valid) (hq : k.qualifier.isYearMonth = false)
    (ha : k.absolute = w.position - v.position) :
    shiftDatetime false w (.interval k) = .ok v := by
  refine (shiftDatetime_eq_ok hk hq).mpr ⟨h.symm, hv, ?_⟩
  rw [signed_false, h.step, Value.step_neg, ha, h.step_sub]
  omega

/-! ## Both ways -/

/-- What a shift brings to the instant of `b` is not apart from `b`, whatever the zones are. -/
theorem subtractDatetimes_of_shift_to_instant (session : ZoneOffset) {a b : ZonedTimestamp}
    {k : Interval} (hk : k.Valid) (hq : k.qualifier.isYearMonth = false)
    (ha : k.absolute = (Value.timestampTz b).instant session - (Value.timestampTz a).instant session)
    (h : shiftDatetime true (.timestampTz a) (.interval k) = .ok w) :
    ∃ t, w = .timestampTz t ∧ t.offset = a.offset ∧
      subtractDatetimes session none w (.timestampTz b) =
        .ok (.interval ⟨.dayToSecond, false, 0, 0⟩) := by
  obtain ⟨hrebuilt, -, hp⟩ := (shiftDatetime_eq_ok hk hq).mp h
  cases hrebuilt with
  | @timestampTz _ t ho hvalid =>
      refine ⟨t, rfl, ho, ?_⟩
      obtain ⟨j, hj, hjq, hjv, hja⟩ := subtractDatetimes_of_isZoned session
        (l := .timestampTz t) (r := .timestampTz b) rfl rfl rfl rfl
      have hzero : j.absolute = 0 := by
        have hoffset : (Value.timestampTz t).offset session = (Value.timestampTz a).offset session := ho
        simp only [signed_true, Value.step, ha, Value.instant] at hp
        simp only [hja, Value.instant, hp, hoffset]
        omega
      have hvalid : (⟨.dayToSecond, false, 0, 0⟩ : Interval).Valid := by decide
      rw [hj, hjv.eq_of_absolute hvalid hjq hzero]

/-- A shift that succeeds is undone by the opposite one, and the difference it makes is the interval. A
difference leads from one value to the other, as long as the two are in one zone and it is one that can
be; if the zones are different, it leads to the same instant. -/
theorem shifts_and_differences_invert (session : ZoneOffset) :
    (∀ (a c : Value) (i : Interval), a.kind = .timestamp ∨ a.kind = .timestampTz → a.NoLeap →
      i.Valid → i.qualifier.isYearMonth = false → shiftDatetime true a (.interval i) = .ok c →
        shiftDatetime false c (.interval i) = .ok a ∧
          ∃ k, i.requalify .dayToSecond = .ok k ∧
            subtractDatetimes session none c a = .ok (.interval k)) ∧
    (∀ (d : Date) (c : Value) (i : Interval), i.Valid → i.qualifier.isYearMonth = false →
      shiftDatetime true (.date d) (.interval i) = .ok c →
        shiftDatetime false c (.interval i) = .ok (.date d) ∧
          ∃ k, i.requalify .day = .ok k ∧
            subtractDatetimes session none c (.date d) = .ok (.interval k)) ∧
    (∀ a b : Value, a.kind.isDatetime → b.kind = a.kind → b.offset session = a.offset session →
      a.Valid → a.NoLeap → b.NoLeap →
        ∃ k, subtractDatetimes session none b a = .ok (.interval k) ∧
          shiftDatetime true a (.interval k) = .ok b ∧
          shiftDatetime false b (.interval k) = .ok a) ∧
    ∀ a b : ZonedTimestamp,
      ∃ k, subtractDatetimes session none (.timestampTz b) (.timestampTz a) = .ok (.interval k) ∧
        ∀ c, shiftDatetime true (.timestampTz a) (.interval k) = .ok c →
          ∃ t, c = .timestampTz t ∧ t.offset = a.offset ∧
            subtractDatetimes session none c (.timestampTz b) =
              .ok (.interval ⟨.dayToSecond, false, 0, 0⟩) := by
  refine ⟨?_, ?_, ?_, ?_⟩
  · intro a c i hkind ha hi hq h
    obtain ⟨htime, hday⟩ : a.kind.isTimeOfDay = false ∧
        differenceQualifier a.kind a.kind = .dayToSecond := by
      rcases hkind with hkind | hkind <;> rw [hkind] <;> exact ⟨rfl, rfl⟩
    obtain ⟨k, hk, hsub⟩ := subtractDatetimes_of_shiftDatetime session hi hq htime h
    rw [hday] at hk
    have hundo := shiftDatetime_undo hi hq ha h
    exact ⟨hundo, k, hk, hsub⟩
  · intro d c i hi hq h
    have hd : (Value.date d).NoLeap := trivial
    have hundo := shiftDatetime_undo hi hq hd h
    exact ⟨hundo, subtractDatetimes_of_shiftDatetime session hi hq rfl h⟩
  · intro a b ha hk ho hv hna hnb
    have hrebuilt := Value.Rebuilt.of_kind ha hk ho hv.accepted
    obtain ⟨k, hsub, hkq, hkv, hka⟩ := hrebuilt.subtractDatetimes session
    have hfamily : k.qualifier.isYearMonth = false := by
      rw [hkq, differenceQualifier_isYearMonth]
    exact ⟨k, hsub, hrebuilt.shiftDatetime_difference hnb hkv hfamily hka,
      hrebuilt.shiftDatetime_difference_back hna hkv hfamily hka⟩
  · intro a b
    obtain ⟨k, hsub, hkq, hkv, hka⟩ := subtractDatetimes_of_isZoned session
      (l := .timestampTz b) (r := .timestampTz a) rfl rfl rfl rfl
    have hfamily : k.qualifier.isYearMonth = false := by
      rw [hkq, differenceQualifier_isYearMonth]
    exact ⟨k, hsub, fun c h => subtractDatetimes_of_shift_to_instant session hkv hfamily hka h⟩

/-- One nanosecond before the epoch and back, far west of Greenwich; a day and some before it, which for
a date is one day; from there to midnight by the difference; and from one zone to midnight in another. -/
theorem shifts_and_differences_invert_at_epoch :
    let eve : Date := ⟨1969, 12, 31, by decide, by decide, by decide, by decide, by decide, by decide⟩
    let last : TimeOfDay := ⟨86399, 999999999, by decide, by decide⟩
    let west := Value.timestampTz ⟨⟨.epoch, .midnight⟩, -64800⟩
    let before := Value.timestampTz ⟨⟨eve, last⟩, -64800⟩
    let nano : Interval := ⟨.second, true, 0, 1⟩
    let day : Interval := ⟨.dayToSecond, true, 1, 1⟩
    (west.NoLeap ∧ nano.Valid ∧ shiftDatetime true west (.interval nano) = .ok before ∧
      shiftDatetime false before (.interval nano) = .ok west ∧
      ∃ k, nano.requalify .dayToSecond = .ok k ∧
        subtractDatetimes 0 none before west = .ok (.interval k)) ∧
    (day.Valid ∧ shiftDatetime true (.date .epoch) (.interval day) = .ok (.date eve) ∧
      shiftDatetime false (.date eve) (.interval day) = .ok (.date .epoch) ∧
      ∃ k, day.requalify .day = .ok k ∧
        subtractDatetimes 0 none (.date eve) (.date .epoch) = .ok (.interval k)) ∧
    (west.Valid ∧ before.NoLeap ∧
      ∃ k, subtractDatetimes 0 none west before = .ok (.interval k) ∧
        shiftDatetime true before (.interval k) = .ok west ∧
        shiftDatetime false west (.interval k) = .ok before) ∧
    ∃ k, subtractDatetimes 0 none (.timestampTz ⟨⟨.epoch, .midnight⟩, 3600⟩) west =
        .ok (.interval k) ∧
      ∀ c, shiftDatetime true west (.interval k) = .ok c →
        ∃ t, c = .timestampTz t ∧ t.offset = -64800 ∧
          subtractDatetimes 0 none c (.timestampTz ⟨⟨.epoch, .midnight⟩, 3600⟩) =
            .ok (.interval ⟨.dayToSecond, false, 0, 0⟩) := by
  intro eve last west before nano day
  have hnano : nano.Valid := by decide
  have hday : day.Valid := by decide
  have hzone : (-64800 : ZoneOffset).Valid := by decide
  have hwest : west.NoLeap := by decide
  have hbefore : before.NoLeap := by decide
  have hshift : shiftDatetime true west (.interval nano) = .ok before :=
    (shiftDatetime_eq_ok hnano rfl).mpr ⟨.timestampTz rfl hzone.accepted, hbefore, by decide⟩
  have hdate : shiftDatetime true (.date .epoch) (.interval day) = .ok (.date eve) :=
    (shiftDatetime_eq_ok hday rfl).mpr ⟨.date _ _, trivial, by decide⟩
  obtain ⟨htimestamps, hdates, hsame, hacross⟩ := shifts_and_differences_invert 0
  exact ⟨⟨hwest, hnano, hshift, htimestamps west before nano (.inr rfl) hwest hnano rfl hshift⟩,
    ⟨hday, hdate, hdates .epoch (.date eve) day hday rfl hdate⟩,
    ⟨hzone, hbefore, hsame before west rfl rfl rfl hzone hbefore hwest⟩,
    hacross _ _⟩

/-- Beyond eighteen hours there is no zone, but a difference does not ask: the two times are a second
apart, and then the first cannot be moved at all. -/
theorem shift_refuses_difference_beyond_zones :
    let a := Value.timeTz ⟨.midnight, 100000⟩
    let b := Value.timeTz ⟨⟨1, 0, by decide, by decide⟩, 100000⟩
    a.NoLeap ∧ b.NoLeap ∧
      ∃ k, subtractDatetimes 0 none b a = .ok (.interval k) ∧
        ∀ w, shiftDatetime true a (.interval k) ≠ .ok w := by
  intro a b
  obtain ⟨k, hk, -⟩ := subtractDatetimes_of_isZoned 0 (l := b) (r := a) rfl rfl rfl rfl
  have hzone : ¬ (100000 : ZoneOffset).Accepted := by decide
  refine ⟨by decide, by decide, k, hk, fun w h => hzone ?_⟩
  exact (shiftDatetime_rebuilt h).accepted

end SqlInterval
