import SqlInterval.Proofs.Operator.Difference

/-!
# Differences across granularities

A time of day, which is on the day with number zero, and a date or timestamp are subtracted as two
positions in time. The zones are put in only where one of the two is a timestamp with a zone: beside a
date or timestamp that has none, the offset of a time of day is not looked at. All other differences are
those of instants, and therefore add up.
-/

namespace SqlInterval

variable {session : ZoneOffset} {l r : Value}

/-! ## Offsets that are not looked at -/

/-- One value is a time of day with a zone, and the other one has a date and no zone. -/
def OffsetIgnored (l r : Kind) : Prop :=
  (l = .timeTz ∧ (r = .date ∨ r = .timestamp)) ∨ (r = .timeTz ∧ (l = .date ∨ l = .timestamp))

instance (l r : Kind) : Decidable (OffsetIgnored l r) := inferInstanceAs (Decidable (_ ∨ _))

theorem OffsetIgnored.symm {l r : Kind} (h : OffsetIgnored l r) : OffsetIgnored r l := Or.symm h

/-- Only values of different granularities are concerned, and never a timestamp with a zone. -/
theorem OffsetIgnored.kinds {l r : Kind} (h : OffsetIgnored l r) :
    l.isDatetime ∧ r.isDatetime ∧ l.isTimeOfDay ≠ r.isTimeOfDay ∧
      ¬ (l = .timestampTz ∨ r = .timestampTz) := by
  rcases h with ⟨rfl, rfl | rfl⟩ | ⟨rfl, rfl | rfl⟩ <;> decide

theorem Kind.date_or_timestamp {k : Kind} (hk : k.isDatetime) (ht : k.isTimeOfDay = false)
    (hz : k ≠ .timestampTz) : k = .date ∨ k = .timestamp := by
  cases k <;> simp_all [isDatetime, isTimeOfDay]

namespace Value

/-- Where no offset is put in although none is ignored, the values have no zones. -/
theorem isZoned_eq_false_of_mixed (hr : r.kind.isDatetime)
    (hlr : l.kind.isTimeOfDay ≠ r.kind.isTimeOfDay) (hi : ¬ OffsetIgnored l.kind r.kind)
    (hz : ¬ (l.kind = .timestampTz ∨ r.kind = .timestampTz)) : l.isZoned = false := by
  obtain ⟨hzl, hzr⟩ := not_or.mp hz
  cases l with
  | timeTz t =>
      have ht : r.kind.isTimeOfDay = false := Bool.eq_false_iff.mpr fun h => hlr h.symm
      exact absurd (.inl ⟨rfl, r.kind.date_or_timestamp hr ht hzr⟩) hi
  | timestampTz t => exact absurd rfl hzl
  | _ => rfl

end Value

/-! ## Positions and instants -/

theorem difference_of_mixed (session : ZoneOffset)
    (hlr : l.kind.isTimeOfDay ≠ r.kind.isTimeOfDay) :
    difference session l r = subtractTimestamps session l r := by
  have htimes : ¬ (l.kind.isTimeOfDay && r.kind.isTimeOfDay) = true := by
    rw [Bool.and_eq_true]
    rintro ⟨hl, hr⟩
    exact hlr (hl.trans hr.symm)
  rw [difference, if_neg htimes]
  rintro a b rfl rfl
  exact hlr rfl

theorem difference_of_ignored (session : ZoneOffset) (h : OffsetIgnored l.kind r.kind) :
    difference session l r = Interval.ofAbsolute .dayToSecond (l.position - r.position) := by
  obtain ⟨hl, hr, hlr, hz⟩ := h.kinds
  rw [difference_of_mixed session hlr, subtractTimestamps, Value.clockNanos_eq hl, ok_bind,
    Value.clockNanos_eq hr, ok_bind, if_neg hz]

theorem difference_of_mixed_eq (hs : session.Accepted) (hl : l.kind.isDatetime)
    (hr : r.kind.isDatetime) (hlr : l.kind.isTimeOfDay ≠ r.kind.isTimeOfDay)
    (hi : ¬ OffsetIgnored l.kind r.kind) :
    difference session l r =
      Interval.ofAbsolute .dayToSecond (l.instant session - r.instant session) := by
  rw [difference_of_mixed session hlr]
  refine subtractTimestamps_eq hs hl hr fun hz => ?_
  have hzl := Value.isZoned_eq_false_of_mixed hr hlr hi hz
  have hzr := Value.isZoned_eq_false_of_mixed hl hlr.symm (fun h => hi h.symm)
    (fun h => hz h.symm)
  rw [Value.offset_eq_session hzl, Value.offset_eq_session hzr]

/-! ## All differences -/

/-- Positions and instants are never too far apart for an interval with hours. -/
theorem leading_of_difference {q : Qualifier} {n : Int} (hq : nanosPerHour ≤ q.leadingUnit)
    (hn : n.natAbs < 1000000000 * nanosPerDay) :
    n.natAbs / q.leadingUnit ≤ Interval.maxLeading := by
  refine Nat.le_trans (Nat.div_le_div_left hq (by decide)) ?_
  simp only [nanosPerDay] at hn
  simp only [nanosPerHour, Interval.maxLeading]
  omega

theorem subtractDatetimes_of_difference {q : Qualifier} {n : Int} (hl : l.kind.isDatetime)
    (hr : r.kind.isDatetime) (h : difference session l r = Interval.ofAbsolute q n)
    (hdvd : (q.trailingUnit : Int) ∣ n) (hq : nanosPerHour ≤ q.leadingUnit)
    (hn : n.natAbs < 1000000000 * nanosPerDay) :
    ∃ i, subtractDatetimes session none l r = .ok (.interval i) ∧ i.qualifier = q ∧
      i.absolute = n := by
  obtain ⟨i, hi, hiq, hia⟩ := Interval.ofAbsolute_exact hdvd (leading_of_difference hq hn)
  exact ⟨i, subtractDatetimes_none hl hr (h.trans hi), hiq, hia⟩

theorem subtractDatetimes_of_mixed (hs : session.Accepted) (hl : l.kind.isDatetime)
    (hr : r.kind.isDatetime) (hlr : l.kind.isTimeOfDay ≠ r.kind.isTimeOfDay)
    (hi : ¬ OffsetIgnored l.kind r.kind) :
    ∃ i, subtractDatetimes session none l r = .ok (.interval i) ∧ i.qualifier = .dayToSecond ∧
      i.absolute = l.instant session - r.instant session :=
  subtractDatetimes_of_difference hl hr (difference_of_mixed_eq hs hl hr hlr hi) (Int.one_dvd _)
    (by decide) (Value.instant_sub_instant_bounds session l r)

theorem subtractDatetimes_of_ignored (session : ZoneOffset) (h : OffsetIgnored l.kind r.kind) :
    ∃ i, subtractDatetimes session none l r = .ok (.interval i) ∧ i.qualifier = .dayToSecond ∧
      i.absolute = l.position - r.position := by
  have hn : (l.position - r.position).natAbs < 1000000000 * nanosPerDay := by
    have hl := l.position_bounds
    have hr := r.position_bounds
    simp only [nanosPerDay] at hl hr ⊢
    omega
  obtain ⟨hl, hr, -⟩ := h.kinds
  exact subtractDatetimes_of_difference hl hr (difference_of_ignored session h) (Int.one_dvd _)
    (by decide) hn

theorem subtractDatetimes_instants (hs : session.Accepted) (hl : l.kind.isDatetime)
    (hr : r.kind.isDatetime) (hi : ¬ OffsetIgnored l.kind r.kind) :
    ∃ i, subtractDatetimes session none l r = .ok (.interval i) ∧
      i.absolute = l.instant session - r.instant session := by
  by_cases hlr : l.kind.isTimeOfDay = r.kind.isTimeOfDay
  · obtain ⟨i, hsub, -, ha⟩ := subtractDatetimes_of_difference hl hr (difference_eq hs hl hr hlr)
      (differenceQualifier_dvd session l r) (differenceQualifier_leadingUnit_ge l.kind r.kind)
      (Value.instant_sub_instant_bounds session l r)
    exact ⟨i, hsub, ha⟩
  · obtain ⟨i, hsub, -, ha⟩ := subtractDatetimes_of_mixed hs hl hr hlr hi
    exact ⟨i, hsub, ha⟩

/-- A time of day and a value with a date are as far apart as their instants, unless the time's offset is
ignored: then they are as far apart as their clocks show. Differences that ignore no offset add up. -/
theorem subtractDatetimes_across_granularities (hs : session.Valid) :
    (∀ l r : Value, l.kind.isDatetime → r.kind.isDatetime →
      l.kind.isTimeOfDay ≠ r.kind.isTimeOfDay →
        ∃ i, subtractDatetimes session none l r = .ok (.interval i) ∧
          i.qualifier = .dayToSecond ∧
          i.absolute = if OffsetIgnored l.kind r.kind then l.position - r.position
            else l.instant session - r.instant session) ∧
    ∀ a b c : Value, a.kind.isDatetime → b.kind.isDatetime → c.kind.isDatetime →
      ¬ OffsetIgnored a.kind b.kind → ¬ OffsetIgnored b.kind c.kind →
        ¬ OffsetIgnored a.kind c.kind →
          ∃ i j k, subtractDatetimes session none a b = .ok (.interval i) ∧
            subtractDatetimes session none b c = .ok (.interval j) ∧
            subtractDatetimes session none a c = .ok (.interval k) ∧
            i.absolute + j.absolute = k.absolute := by
  refine ⟨fun l r hl hr hlr => ?_, fun a b c ha hb hc hab hbc hac => ?_⟩
  · by_cases hi : OffsetIgnored l.kind r.kind
    · rw [if_pos hi]
      exact subtractDatetimes_of_ignored session hi
    · rw [if_neg hi]
      exact subtractDatetimes_of_mixed hs.accepted hl hr hlr hi
  · -- Instants are absolute positions, so that the middle one cancels.
    obtain ⟨i, hi, hia⟩ := subtractDatetimes_instants hs.accepted ha hb hab
    obtain ⟨j, hj, hja⟩ := subtractDatetimes_instants hs.accepted hb hc hbc
    obtain ⟨k, hk, hka⟩ := subtractDatetimes_instants hs.accepted ha hc hac
    exact ⟨i, j, k, hi, hj, hk, by omega⟩

/-- In a session one hour east of Greenwich: midnight there, midnight in UTC on the next day, and six
in the morning of that day two hours east. -/
theorem subtractDatetimes_across_granularities_adds_up :
    let midnight := Value.time .midnight
    let tomorrow := Value.timestampTz
      ⟨⟨⟨1970, 1, 2, by decide, by decide, by decide, by decide, by decide, by decide⟩, .midnight⟩, 0⟩
    let morning := Value.timeTz ⟨⟨21600, 0, by decide, by decide⟩, 7200⟩
    (3600 : ZoneOffset).Valid ∧
      (∃ i, subtractDatetimes 3600 none midnight tomorrow = .ok (.interval i) ∧
        i.absolute = -90000000000000) ∧
      ∃ i j k, subtractDatetimes 3600 none midnight tomorrow = .ok (.interval i) ∧
        subtractDatetimes 3600 none tomorrow morning = .ok (.interval j) ∧
        subtractDatetimes 3600 none midnight morning = .ok (.interval k) ∧
        i.absolute + j.absolute = k.absolute := by
  intro midnight tomorrow morning
  have hs : (3600 : ZoneOffset).Valid := by decide
  obtain ⟨hmixed, hchain⟩ := subtractDatetimes_across_granularities hs
  obtain ⟨i, hi, -, ha⟩ := hmixed midnight tomorrow rfl rfl (by decide)
  exact ⟨hs, ⟨i, hi, ha.trans (by decide)⟩,
    hchain midnight tomorrow morning rfl rfl rfl (by decide) (by decide) (by decide)⟩

/-- Midnight one hour east of Greenwich is an hour before 1970-01-01 began in UTC. The difference is
zero all the same if that timestamp has no zone and the session is in UTC, though it is an hour if the
timestamp says so itself; and so the three do not add up. -/
theorem subtractDatetimes_ignores_offset_of_time :
    let time := Value.timeTz ⟨.midnight, 3600⟩
    let bare := Value.timestamp ⟨.epoch, .midnight⟩
    let zoned := Value.timestampTz ⟨⟨.epoch, .midnight⟩, 0⟩
    time.instant 0 - bare.instant 0 = -3600000000000 ∧
      ∃ i j k : Interval, subtractDatetimes 0 none time bare = .ok (.interval i) ∧
        subtractDatetimes 0 none bare zoned = .ok (.interval j) ∧
        subtractDatetimes 0 none time zoned = .ok (.interval k) ∧
        i.absolute ≠ time.instant 0 - bare.instant 0 ∧ i.absolute + j.absolute ≠ k.absolute := by
  exact ⟨by decide, ⟨.dayToSecond, false, 0, 0⟩, ⟨.dayToSecond, false, 0, 0⟩,
    ⟨.dayToSecond, true, 0, 3600000000000⟩, rfl, rfl, rfl, by decide, by decide⟩

end SqlInterval
