import SqlInterval.Proofs.Interval.Rounding
import SqlInterval.Proofs.Operator.Granularity

/-!
# Differences with a prescribed type

Every difference of dates and times is an interval of days and smaller units, far below the limit of the
leading field. It can therefore be given every qualifier of that family and every number of digits, and
this changes it only once: it is cut off where the qualifier has no seconds, and rounded where it has.
-/

namespace SqlInterval

variable {session : ZoneOffset} {l r : Value}

/-! ## Casts of intervals -/

/-- What the absolute form `a` becomes under a qualifier and a scale: it is cut off toward zero at the
trailing unit if there are no seconds, and else its magnitude is rounded half up. -/
structure CastAbsolute (q : Qualifier) (scale : Int) (a b : Int) : Prop where
  truncated : q.hasSeconds = false → b = a.tdiv q.trailingUnit * q.trailingUnit
  exact : q.hasSeconds → 9 ≤ scale → b = a
  rounded : q.hasSeconds → scale < 9 →
    ∃ m : Nat, RoundsHalfUp (digitUnit scale.toNat) a.natAbs m ∧ b = a.sign * m

/-- With seconds, half a unit of the last digit is the most that is lost or gained. -/
theorem CastAbsolute.near {q : Qualifier} {scale a b : Int} (h : CastAbsolute q scale a b)
    (hs : q.hasSeconds) : 2 * (b - a).natAbs ≤ digitUnit scale.toNat := by
  by_cases h9 : 9 ≤ scale
  · rw [h.exact hs h9, Int.sub_self]
    exact Nat.zero_le _
  · obtain ⟨m, hm, rfl⟩ := h.rounded hs (Int.not_le.mp h9)
    have hle := hm.le
    have hlt := hm.lt
    rcases Int.lt_trichotomy a 0 with ha | rfl | ha
    · rw [Int.sign_eq_neg_one_of_neg ha]
      omega
    · rw [Int.sign_zero]
      omega
    · rw [Int.sign_eq_one_of_pos ha]
      omega

namespace Interval

variable {i j c : Interval} {t : SqlType} {q : Qualifier}

theorem cast_eq_ok : i.cast t = .ok j ↔
    ∃ q c, t.kind = .interval q ∧ i.requalify q = .ok c ∧ c.roundSeconds t.scale = .ok j := by
  unfold cast
  cases t.kind <;> simp [Kind.qualifier?, bind_eq_ok, lift_eq_ok]

/-- An interval does not become one of the other family. -/
theorem cast_of_other_family (hq : t.kind = .interval q)
    (hne : q.isYearMonth ≠ i.qualifier.isYearMonth) :
    i.cast t =
      .error (.data (.conversion ("INTERVAL " ++ i.qualifier.text) ("INTERVAL " ++ q.text))) := by
  simp only [cast, hq, Kind.qualifier?, requalify_of_other_family hne]
  rfl

/-- Once an interval is rounded to some digits, rounding it to these digits leaves it alone. -/
theorem roundSeconds_roundSeconds {scale : Int} (h0 : 0 ≤ scale)
    (h : i.roundSeconds scale = .ok j) : j.roundSeconds scale = .ok j := by
  by_cases hs : i.qualifier.hasSeconds
  · by_cases h9 : 9 ≤ scale
    · exact roundSeconds_of_le h9
    · exact roundSeconds_of_dvd h0 (roundSeconds_dvd h hs (Int.not_le.mp h9))
  · exact roundSeconds_of_no_seconds (roundSeconds_ok h ▸ Bool.eq_false_iff.mpr hs)

theorem cast_cast (hscale : 0 ≤ t.scale) (h : i.cast t = .ok j) : j.cast t = .ok j := by
  obtain ⟨q, c, hq, hc, hj⟩ := cast_eq_ok.mp h
  have hqualifier : q = j.qualifier := ((roundSeconds_ok hj).trans (requalify_ok hc)).symm
  exact cast_eq_ok.mpr ⟨q, j, hq, if_pos hqualifier, roundSeconds_roundSeconds hscale hj⟩

/-- The sign of a valid interval is that of its absolute form. -/
theorem Valid.signed_eq (h : i.Valid) {n : Nat} (hn : i.magnitude = 0 → n = 0) :
    (if i.negative then -(n : Int) else n) = i.absolute.sign * n := by
  have hneg := h.absolute_neg
  have habs := natAbs_absolute i
  rcases Int.lt_trichotomy i.absolute 0 with ha | ha | ha
  · rw [if_pos (hneg.mp ha), Int.sign_eq_neg_one_of_neg ha, Int.neg_one_mul]
  · rw [hn (by omega)]
    simp
  · rw [if_neg fun hi => absurd (hneg.mpr hi) (by omega), Int.sign_eq_one_of_pos ha, Int.one_mul]

/-- An interval of days or smaller units that is not too large can be cast to every type of that
family. -/
theorem Valid.exists_cast (h : i.Valid) (hi : i.qualifier.isYearMonth = false)
    (hq : t.kind = .interval q) (hday : q.isYearMonth = false) (hscale : 0 ≤ t.scale)
    (hn : i.absolute.natAbs < 1000000000 * nanosPerDay) :
    ∃ j, i.cast t = .ok j ∧ j.qualifier = q ∧ j.Valid ∧
      CastAbsolute q t.scale i.absolute j.absolute := by
  have hroom : i.absolute.natAbs / q.leadingUnit < maxLeading := by
    have hunit := Qualifier.nanosPerSecond_le_leadingUnit hday
    refine Nat.lt_of_le_of_lt (Nat.div_le_div_left hunit (by decide)) ?_
    simp only [nanosPerDay] at hn
    simp only [nanosPerSecond, maxLeading]
    omega
  obtain ⟨c, hc⟩ := ofAbsolute_succeeds (Nat.le_of_lt hroom)
  obtain ⟨hcq, hcv, hca⟩ := ofAbsolute_ok hc
  have hconvert := (h.requalify_eq (hi.trans hday.symm)).trans hc
  have hcast {j : Interval} (hj : c.roundSeconds t.scale = .ok j) : i.cast t = .ok j :=
    cast_eq_ok.mpr ⟨q, c, hq, hconvert, hj⟩
  by_cases hs : q.hasSeconds
  · have hseconds : c.qualifier.hasSeconds := hcq ▸ hs
    have hsome : ¬ q.hasSeconds = false := ne_false_of_eq_true hs
    have hca := absolute_of_hasSeconds hc hs
    by_cases h9 : 9 ≤ t.scale
    · exact ⟨c, hcast (roundSeconds_of_le h9), hcq, hcv, fun h => absurd h hsome, fun _ _ => hca,
        fun _ h => absurd h9 (Int.not_le.mpr h)⟩
    · have hlead : c.leading.toNat < maxLeading := by
        rw [← hcv.magnitude_div_leadingUnit, ← natAbs_absolute, hca, hcq]
        exact hroom
      obtain ⟨j, hj, hjq, hjv, hja⟩ :=
        hcv.roundSeconds_eq hseconds hscale (Int.not_le.mp h9) hlead
      have hzero : c.magnitude = 0 → roundHalfUp (digitUnit t.scale.toNat) c.magnitude = 0 :=
        fun h => by rw [h, roundHalfUp_zero]
      rw [hcv.signed_eq hzero, ← natAbs_absolute, hca] at hja
      exact ⟨j, hcast hj, hjq.trans hcq, hjv, fun h => absurd h hsome, fun _ h => absurd h h9,
        fun _ _ => ⟨_, .of_roundHalfUp (digitUnit_pos _) _, hja⟩⟩
  · have hnone : c.qualifier.hasSeconds = false := hcq ▸ Bool.eq_false_iff.mpr hs
    exact ⟨c, hcast (roundSeconds_of_no_seconds hnone), hcq, hcv, fun _ => hca,
      fun h => absurd h hs, fun h => absurd h hs⟩

end Interval

/-! ## Casts of differences -/

/-- Whatever the kinds of two dates or times, their difference is the way back from some number to a
qualifier of days or smaller units, and the number is not too large for it. -/
theorem difference_eq_ofAbsolute (hs : session.Accepted) (hl : l.kind.isDatetime)
    (hr : r.kind.isDatetime) :
    ∃ q n, difference session l r = Interval.ofAbsolute q n ∧ q.isYearMonth = false ∧
      nanosPerHour ≤ q.leadingUnit ∧ (q.trailingUnit : Int) ∣ n ∧
      n.natAbs < 1000000000 * nanosPerDay := by
  by_cases hlr : l.kind.isTimeOfDay = r.kind.isTimeOfDay
  · exact ⟨_, _, difference_eq hs hl hr hlr, differenceQualifier_isYearMonth _ _,
      differenceQualifier_leadingUnit_ge _ _, differenceQualifier_dvd session l r,
      Value.instant_sub_instant_bounds session l r⟩
  · by_cases hi : OffsetIgnored l.kind r.kind
    · refine ⟨_, _, difference_of_ignored session hi, rfl, by decide, Int.one_dvd _, ?_⟩
      have hl := l.position_bounds
      have hr := r.position_bounds
      simp only [nanosPerDay] at hl hr ⊢
      omega
    · exact ⟨_, _, difference_of_mixed_eq hs hl hr hlr hi, rfl, by decide, Int.one_dvd _,
        Value.instant_sub_instant_bounds session l r⟩

theorem exists_difference_day_time (hs : session.Accepted) (hl : l.kind.isDatetime)
    (hr : r.kind.isDatetime) :
    ∃ d, difference session l r = .ok d ∧ d.Valid ∧ d.qualifier.isYearMonth = false ∧
      d.absolute.natAbs < 1000000000 * nanosPerDay := by
  obtain ⟨q, n, hdiff, hday, hunit, hdvd, hn⟩ := difference_eq_ofAbsolute hs hl hr
  obtain ⟨d, hd, hdq, hda⟩ := Interval.ofAbsolute_exact hdvd (leading_of_difference hunit hn)
  exact ⟨d, hdiff.trans hd, Interval.ofAbsolute_valid hd, hdq ▸ hday, hda ▸ hn⟩

theorem subtractDatetimes_ok {forced : Option SqlType} {i : Interval}
    (h : subtractDatetimes session forced l r = .ok (.interval i)) :
    l.kind.isDatetime ∧ r.kind.isDatetime ∧ ∃ d, difference session l r = .ok d ∧
      (forced = none → d = i) ∧ ∀ t, forced = some t → d.cast t = .ok i := by
  unfold subtractDatetimes at h
  split at h
  · rename_i hkinds
    obtain ⟨hl, hr⟩ := Bool.and_eq_true_iff.mp hkinds
    obtain ⟨d, hd, h⟩ := bind_eq_ok.mp h
    refine ⟨hl, hr, d, lift_eq_ok.mp hd, ?_, ?_⟩
    · rintro rfl
      cases h
      rfl
    · rintro t rfl
      obtain ⟨j, hj, h⟩ := bind_eq_ok.mp h
      cases h
      exact hj
  · cases h

/-- A difference of dates or times is cast to any qualifier of days and smaller units, with any number
of digits. The cast is exact but for one truncation or rounding of the whole, is off by half a unit of
the last digit at most where there are seconds, and is not changed by another cast to the same type. -/
theorem subtractDatetimes_cast (hs : session.Valid) (hl : l.kind.isDatetime) (hr : r.kind.isDatetime)
    {t : SqlType} {q : Qualifier} (hq : t.kind = .interval q) (hday : q.isYearMonth = false)
    (hscale : 0 ≤ t.scale) :
    ∃ d j : Interval, subtractDatetimes session none l r = .ok (.interval d) ∧
      subtractDatetimes session (some t) l r = .ok (.interval j) ∧ j.qualifier = q ∧
      CastAbsolute q t.scale d.absolute j.absolute ∧
      (j.negative = true ↔ j.absolute < 0) ∧
      j.leading.toNat = j.absolute.natAbs / q.leadingUnit ∧
      (q.hasSeconds → 2 * (j.absolute - d.absolute).natAbs ≤ digitUnit t.scale.toNat) ∧
      j.cast t = .ok j := by
  obtain ⟨d, hd, hdv, hdfamily, hdn⟩ := exists_difference_day_time hs.accepted hl hr
  obtain ⟨j, hj, hjq, hjv, hja⟩ := hdv.exists_cast hdfamily hq hday hscale hdn
  refine ⟨d, j, subtractDatetimes_none hl hr hd, ?_, hjq, hja, hjv.absolute_neg.symm, ?_, hja.near,
    Interval.cast_cast hscale hj⟩
  · rw [subtractDatetimes_some hl hr hd, hj]
    rfl
  · rw [← hjq, Interval.natAbs_absolute]
    exact hjv.magnitude_div_leadingUnit.symm

/-- From half a second before the next midnight back to this one. Rounded to whole seconds it is a day,
and in hours it is twenty-three, without the rest. -/
theorem subtractDatetimes_cast_carries :
    let midnight := Value.timestamp ⟨.epoch, .midnight⟩
    let evening := Value.timestamp ⟨.epoch, ⟨86399, 500000000, by decide, by decide⟩⟩
    let seconds : SqlType := ⟨.interval .dayToSecond, 2, 0⟩
    let hours : SqlType := ⟨.interval .hour, 2, 3⟩
    (0 : ZoneOffset).Valid ∧
      subtractDatetimes 0 none midnight evening =
        .ok (.interval ⟨.dayToSecond, true, 0, 86399500000000⟩) ∧
      (∃ j : Interval, subtractDatetimes 0 (some seconds) midnight evening = .ok (.interval j) ∧
        j.absolute = -86400000000000 ∧ j.leading.toNat = 1 ∧ j.cast seconds = .ok j) ∧
      ∃ j : Interval, subtractDatetimes 0 (some hours) midnight evening = .ok (.interval j) ∧
        j.absolute = -82800000000000 := by
  intro midnight evening seconds hours
  have hs : (0 : ZoneOffset).Valid := by decide
  have hvalue : subtractDatetimes 0 none midnight evening =
      .ok (.interval ⟨.dayToSecond, true, 0, 86399500000000⟩) := rfl
  refine ⟨hs, hvalue, ?_, ?_⟩
  · obtain ⟨d, j, hd, hj, -, hcast, -, hlead, -, hagain⟩ := subtractDatetimes_cast (l := midnight)
      (r := evening) (t := seconds) hs rfl rfl rfl rfl (by decide)
    cases hd.symm.trans hvalue
    obtain ⟨m, hm, hja⟩ := hcast.rounded rfl (by decide)
    obtain rfl : m = 86400000000000 := hm.unique ⟨by decide, by decide, by decide⟩
    have hday : j.absolute = -86400000000000 := hja.trans (by decide)
    exact ⟨j, hj, hday, hlead.trans (by rw [hday]; rfl), hagain⟩
  · obtain ⟨d, j, hd, hj, -, hcast, -⟩ := subtractDatetimes_cast (l := midnight)
      (r := evening) (t := hours) hs rfl rfl rfl rfl (by decide)
    cases hd.symm.trans hvalue
    exact ⟨j, hj, (hcast.truncated rfl).trans (by decide)⟩

end SqlInterval
