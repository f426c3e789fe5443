import SqlInterval.Proofs.Expr.Prescribed
import SqlInterval.Proofs.Operator.Validity

/-!
# Digits of differences

Zones move a clock by whole seconds, so the fraction of a second in a difference comes from those of its
operands alone. A prescribed type is kept to. Without one, six digits are declared where there are
seconds, and the difference has the digits of its operands all the same.
-/

namespace SqlInterval

variable {session : ZoneOffset} {l r : Value} {i : Interval}

/-! ## Fractions of seconds -/

/-- Nanoseconds since the last whole second of the value's own clock. All of a leap second is the end of
the second before. -/
def Value.fraction (v : Value) : Int := v.position % nanosPerSecond

/-- Nanoseconds beside the whole seconds of an interval that has seconds. -/
def Interval.fraction (i : Interval) : Nat := i.remaining.toNat % nanosPerSecond

/-- The date or time is of the type's kind, and has no more than the type's digits in the seconds. -/
structure Value.FitsType (v : Value) (t : SqlType) : Prop where
  kind : v.kind = t.kind
  fraction : (digitUnit t.scale.toNat : Int) ∣ v.fraction

/-- The interval has no more than the type's digits in the leading field and in the seconds. -/
structure Interval.FitsType (i : Interval) (t : SqlType) : Prop where
  leading : i.leading.toNat < Nat.pow 10 t.precision.toNat
  fraction : i.qualifier.hasSeconds → digitUnit t.scale.toNat ∣ i.fraction

theorem Value.digitUnit_dvd_fraction (v : Value) (s : Nat) :
    (digitUnit s : Int) ∣ v.fraction ↔ (digitUnit s : Int) ∣ v.position := by
  have hsecond : (digitUnit s : Int) ∣ nanosPerSecond := Int.natCast_dvd_natCast.mpr (digitUnit_dvd s)
  rw [Int.dvd_iff_emod_eq_zero, Int.dvd_iff_emod_eq_zero, fraction, Int.emod_emod_of_dvd _ hsecond]

/-- A value that has no more than some digits has no more than any greater number of them. -/
theorem Value.FitsType.dvd_of_le {v : Value} {t : SqlType} {scale : Int} (h : v.FitsType t)
    (hs : t.scale ≤ scale) : (digitUnit scale.toNat : Int) ∣ v.fraction :=
  Int.dvd_trans (Int.natCast_dvd_natCast.mpr (digitUnit_dvd_of_le (Int.toNat_le_toNat hs))) h.fraction

theorem Interval.Valid.digitUnit_dvd_fraction (h : i.Valid) (hs : i.qualifier.hasSeconds) (s : Nat) :
    digitUnit s ∣ i.fraction ↔ (digitUnit s : Int) ∣ i.absolute := by
  rw [fraction, Nat.dvd_mod_iff (digitUnit_dvd s), ← h.digitUnit_dvd_iff hs, ← natAbs_absolute,
    Int.ofNat_dvd_left]

/-! ## Fractions of differences -/

theorem intervalOfNanos_absolute {n : Int} (h : intervalOfNanos n = .ok i) : i.absolute = n := by
  have habs := Interval.absolute_new h
  have hunits : Qualifier.hourToSecond.unitsPerLeading = nanosPerHour := rfl
  have htrailing : Qualifier.hourToSecond.trailingUnit = 1 := rfl
  rw [hunits, htrailing, Nat.mul_one, Nat.div_add_mod'] at habs
  by_cases hn : n < 0
  · simp only [hn, decide_true, if_true] at habs
    omega
  · simp only [hn, decide_false, Bool.false_eq_true, if_false] at habs
    omega

theorem Value.toZonedTime_ok {v : Value} {t : ZonedTime} (h : v.toZonedTime session = .ok t) :
    t.time.nanos = v.position := by
  unfold toZonedTime at h
  split at h
  · rw [(ZonedTime.new_ok h).1]
    rfl
  · cases h
    rfl
  · cases h

theorem subtractTimes_absolute (h : subtractTimes session l r = .ok i) :
    ∃ k : Int, i.absolute = l.position - r.position + k * nanosPerSecond := by
  unfold subtractTimes at h
  split at h
  · exact ⟨0, (intervalOfNanos_absolute h).trans (by simp [Value.position])⟩
  · obtain ⟨a, ha, h⟩ := bind_eq_ok.mp h
    obtain ⟨b, hb, h⟩ := bind_eq_ok.mp h
    have habs := intervalOfNanos_absolute h
    rw [Value.toZonedTime_ok ha, Value.toZonedTime_ok hb] at habs
    exact ⟨_, habs⟩

theorem subtractTimestamps_absolute (hl : l.kind.isDatetime) (hr : r.kind.isDatetime)
    (h : subtractTimestamps session l r = .ok i) :
    ∃ k : Int, i.absolute = l.position - r.position + k * nanosPerSecond := by
  rw [subtractTimestamps, Value.clockNanos_eq hl, ok_bind, Value.clockNanos_eq hr, ok_bind] at h
  dsimp only at h
  split at h
  · obtain ⟨right, -, h⟩ := bind_eq_ok.mp h
    obtain ⟨left, -, h⟩ := bind_eq_ok.mp h
    exact ⟨_, Interval.absolute_of_hasSeconds h rfl⟩
  · exact ⟨0, (Interval.absolute_of_hasSeconds h rfl).trans (by simp)⟩

/-- A difference is that of the positions, but for whole seconds. -/
theorem difference_absolute (hl : l.kind.isDatetime) (hr : r.kind.isDatetime)
    (h : difference session l r = .ok i) (hs : i.qualifier.hasSeconds) :
    ∃ k : Int, i.absolute = l.position - r.position + k * nanosPerSecond := by
  unfold difference at h
  split at h
  · exact subtractTimes_absolute h
  · split at h
    -- Two dates are whole days apart, and days have no seconds.
    · rw [(Interval.new_ok h).1] at hs
      cases hs
    · exact subtractTimestamps_absolute hl hr h

/-- As many digits as are enough for both operands are enough for their difference. -/
theorem difference_fraction {s : Nat} (hl : l.kind.isDatetime) (hr : r.kind.isDatetime)
    (h : difference session l r = .ok i) (hs : i.qualifier.hasSeconds)
    (hfl : (digitUnit s : Int) ∣ l.fraction) (hfr : (digitUnit s : Int) ∣ r.fraction) :
    digitUnit s ∣ i.fraction := by
  obtain ⟨k, hk⟩ := difference_absolute hl hr h hs
  have hsecond : (digitUnit s : Int) ∣ k * nanosPerSecond :=
    Int.dvd_trans (Int.natCast_dvd_natCast.mpr (digitUnit_dvd s)) (Int.dvd_mul_left k _)
  rw [(difference_valid h).digitUnit_dvd_fraction hs, hk]
  rw [Value.digitUnit_dvd_fraction] at hfl hfr
  exact Int.dvd_add (Int.dvd_sub hfl hfr) hsecond

/-- A cast leaves as many digits as are wanted. -/
theorem Interval.cast_fraction {j : Interval} {t : SqlType} (h : i.cast t = .ok j)
    (hs : j.qualifier.hasSeconds) : digitUnit t.scale.toNat ∣ j.fraction := by
  obtain ⟨q, c, -, -, hj⟩ := cast_eq_ok.mp h
  rw [fraction, Nat.dvd_mod_iff (digitUnit_dvd _)]
  by_cases h9 : 9 ≤ t.scale
  · have hdigits : 9 - t.scale.toNat = 0 := by omega
    rw [digitUnit, hdigits]
    exact Nat.one_dvd _
  · exact roundSeconds_dvd hj (roundSeconds_ok hj ▸ hs) (Int.not_le.mp h9)

/-! ## Declared digits -/

namespace Operator

variable {l r : Kind} {t f : SqlType}

theorem resolveDifference_some (h : resolveDifference (some f) l r = some t) :
    t = ⟨f.kind, Qualifier.maxPrecision, f.scale⟩ := by
  unfold resolveDifference at h
  split at h <;> cases h
  rfl

theorem resolveDifference_none (h : resolveDifference none l r = some t) :
    t = .intervalHourToSecond ∨ t = .intervalDay ∨ t = .intervalDayToSecond := by
  unfold resolveDifference at h
  split at h
  · dsimp only at h
    split at h
    · cases h
      exact .inl rfl
    · split at h <;> cases h
      · exact .inr (.inl rfl)
      · exact .inr (.inr rfl)
  · cases h

theorem resolveDifference_precision {forced : Option SqlType}
    (h : resolveDifference forced l r = some t) : t.precision = Qualifier.maxPrecision := by
  cases forced with
  | some f => rw [resolveDifference_some h]
  | none => obtain rfl | rfl | rfl := resolveDifference_none h <;> rfl

/-- Six digits are declared wherever there are seconds. -/
theorem resolveDifference_scale {q : Qualifier} (h : resolveDifference none l r = some t)
    (hq : t.kind = .interval q) (hs : q.hasSeconds) : t.scale = Qualifier.defaultScale := by
  obtain rfl | rfl | rfl := resolveDifference_none h
  · rfl
  · cases hq
    cases hs
  · rfl

end Operator

namespace Expr

variable {ctx : Context} {l r e : Expr} {forced : Option SqlType} {a b : Value}

/-- A difference that has a value keeps to the precision of its type, and to the scale if the type is
prescribed, whatever the digits of its operands are. Without a prescribed type the scale is six where there
are seconds; as many digits are enough as the type and the two operands have at most, if the operands keep
to theirs. -/
theorem evaluate_difference_fits (he : build .datetimeMinusDatetime l r forced = .ok e)
    (ha : l.evaluate ctx = .ok a) (hb : r.evaluate ctx = .ok b) (hna : a ≠ .null) (hnb : b ≠ .null)
    (hta : a.kind = l.type.kind) (htb : b.kind = r.type.kind)
    (hi : e.evaluate ctx = .ok (.interval i)) :
    i.leading.toNat < Nat.pow 10 e.type.precision.toNat ∧
    (forced.isSome → i.FitsType e.type) ∧
    (forced = none →
      (i.qualifier.hasSeconds → e.type.scale = Qualifier.defaultScale) ∧
        (a.FitsType l.type → b.FitsType r.type →
          i.FitsType { e.type with scale := max e.type.scale (max l.type.scale r.type.scale) })) := by
  obtain ⟨t, ht, rfl⟩ := build_ok he
  have hresolve := (Operator.resolve_eq_ok.mp ht).2
  simp only [Operator.resolve?, ← hta, ← htb] at hresolve
  rw [evaluate_operation_of_ne_null ha hb hna hnb] at hi
  obtain ⟨hka, hkb, d, hd, hnone, hsome⟩ := subtractDatetimes_ok hi
  have hlead : i.leading.toNat < Nat.pow 10 t.precision.toNat := by
    rw [Operator.resolveDifference_precision hresolve]
    exact Nat.lt_succ_of_le (subtractDatetimes_valid hi).1
  refine ⟨hlead, fun hforced => ⟨hlead, fun hs => ?_⟩, ?_⟩
  · obtain ⟨f, rfl⟩ := Option.isSome_iff_exists.mp hforced
    have hcast := Interval.cast_fraction (hsome f rfl) hs
    rw [type, Operator.resolveDifference_some hresolve]
    exact hcast
  · rintro rfl
    obtain rfl := hnone rfl
    have hkind := Operator.difference_kind hka hkb hd hresolve
    refine ⟨Operator.resolveDifference_scale hresolve hkind, fun hfa hfb => ⟨hlead, fun hs => ?_⟩⟩
    -- The declared scale plays no part in the value: only the operands' digits do.
    have hml : l.type.scale ≤ max t.scale (max l.type.scale r.type.scale) := by omega
    have hmr : r.type.scale ≤ max t.scale (max l.type.scale r.type.scale) := by omega
    exact difference_fraction hka hkb hd hs (hfa.dvd_of_le hml) (hfb.dvd_of_le hmr)

/-- Seven digits of a timestamp, of which a date takes none away. A leap second does not keep to the one digit
that its column declares, but the difference keeps to the two that are prescribed. -/
theorem evaluate_difference_fits_seven_digits :
    let r := const (.date .epoch)
    (let l := column ⟨none, "x", ⟨.timestamp, 27, 7⟩, some 0, true⟩
      let e := operation .datetimeMinusDatetime l r none .intervalDayToSecond
      let x := Value.timestamp ⟨.epoch, ⟨0, 100, by decide, by decide⟩⟩
      let i : Interval := ⟨.dayToSecond, false, 0, 100⟩
      build .datetimeMinusDatetime l r none = .ok e ∧ x.FitsType l.type ∧
        (Value.date .epoch).FitsType r.type ∧ e.evaluate { row := [x] } = .ok (.interval i) ∧
        i.FitsType { e.type with scale := 7 }) ∧
    (let l := column ⟨none, "x", ⟨.timestamp, 21, 1⟩, some 0, true⟩
      let forced := some ⟨.interval .hourToSecond, 2, 2⟩
      let e := operation .datetimeMinusDatetime l r forced ⟨.interval .hourToSecond, 18, 2⟩
      let x := Value.timestamp ⟨.epoch, ⟨86399, 1500000000, by decide, by decide⟩⟩
      let i : Interval := ⟨.hourToSecond, false, 24, 0⟩
      build .datetimeMinusDatetime l r forced = .ok e ∧ x.kind = l.type.kind ∧ ¬ x.FitsType l.type ∧
        e.evaluate { row := [x] } = .ok (.interval i) ∧ i.FitsType e.type) := by
  intro r
  refine ⟨?_, ?_⟩
  · intro l e x i
    have he : build .datetimeMinusDatetime l r none = .ok e := rfl
    have hx : x.FitsType l.type := ⟨rfl, by decide⟩
    have hdate : (Value.date .epoch).FitsType r.type := ⟨rfl, by decide⟩
    have hi : e.evaluate { row := [x] } = .ok (.interval i) := rfl
    obtain ⟨-, -, hdigits⟩ :=
      evaluate_difference_fits he rfl rfl (by decide) (by decide) rfl rfl hi
    exact ⟨he, hx, hdate, hi, (hdigits rfl).2 hx hdate⟩
  · intro l forced e x i
    have he : build .datetimeMinusDatetime l r forced = .ok e := rfl
    have hx : ¬ x.FitsType l.type := fun h => absurd h.fraction (by decide)
    have hi : e.evaluate { row := [x] } = .ok (.interval i) := eq_ok_of_toOption (by decide +kernel)
    obtain ⟨-, hprescribed, -⟩ :=
      evaluate_difference_fits he rfl rfl (by decide) (by decide) rfl rfl hi
    exact ⟨he, rfl, hx, hi, hprescribed rfl⟩

/-- A nanosecond between two timestamps with nine digits does not fit the six that are declared, and nor
does what lies between midnight and a leap second, which has no fraction on the clock. -/
theorem evaluate_difference_exceeds_type :
    (let l := column ⟨none, "x", ⟨.timestamp, 29, 9⟩, some 0, true⟩
      let r := column ⟨none, "y", ⟨.timestamp, 29, 9⟩, some 1, true⟩
      let x := Value.timestamp ⟨.epoch, ⟨0, 1, by decide, by decide⟩⟩
      let y := Value.timestamp ⟨.epoch, .midnight⟩
      ∃ e i, build .datetimeMinusDatetime l r none = .ok e ∧ x.FitsType l.type ∧ y.FitsType r.type ∧
        e.evaluate { row := [x, y] } = .ok (.interval i) ∧ ¬ i.FitsType e.type) ∧
    (let leap : TimeOfDay := ⟨86399, 1000000000, by decide, by decide⟩
      let l := const (.time leap)
      let r := const (.time .midnight)
      ∃ e i, build .datetimeMinusDatetime l r none = .ok e ∧
        digitUnit l.type.scale.toNat ∣ leap.nano ∧ e.evaluate {} = .ok (.interval i) ∧
        ¬ i.FitsType e.type) := by
  refine ⟨⟨_, ⟨.dayToSecond, false, 0, 1⟩, rfl, ⟨rfl, by decide⟩, ⟨rfl, by decide⟩, rfl, fun h => ?_⟩,
    _, ⟨.hourToSecond, false, 23, 3599999999999⟩, rfl, Nat.dvd_refl 1000000000,
    eq_ok_of_toOption (by decide +kernel), fun h => ?_⟩
  · exact absurd (h.fraction rfl) (by decide)
  · exact absurd (h.fraction rfl) (by decide)

end Expr

end SqlInterval
