import SqlInterval.Proofs.Value.Fields

/-!
# Values taken apart and put together

A date or time that is put together from its own fields is the same as before, but for a leap second, which is
folded. With other fields it stays what it was, in the zone where it was, and shows the fields that a value of
its kind has.
-/

namespace SqlInterval

/-- A leap second is replaced by the last nanosecond before it. -/
def TimeOfDay.foldLeap (t : TimeOfDay) : TimeOfDay :=
  ⟨t.second, min t.nano 999999999, t.second_lt, by omega⟩

/-- What a value of the kind keeps of a date and of nanoseconds of the day. -/
def Kind.fields (k : Kind) (d : Date) (nanos : Nat) : Date × Nat :=
  match k with
  | .date => (d, 0)
  | .time | .timeTz => (.epoch, nanos)
  | _ => (d, nanos)

theorem TimeOfDay.ofNanos_nanos (t : TimeOfDay) : ofNanos t.nanos = .ok t.foldLeap := by
  refine At.ofNanos ⟨?_, ?_⟩
  · simp only [nanos, foldLeap]
    omega
  · simp only [NoLeap, foldLeap, nanosPerSecond]
    omega

namespace Value

variable {v : Value} {d : Date}

/-- The value with its leap second, if it has one, folded. -/
def foldLeap : Value → Value
  | time t => time t.foldLeap
  | timeTz t => timeTz ⟨t.time.foldLeap, t.offset⟩
  | timestamp t => timestamp ⟨t.date, t.time.foldLeap⟩
  | timestampTz t => timestampTz ⟨⟨t.clock.date, t.clock.time.foldLeap⟩, t.offset⟩
  | v => v

theorem isDatetime_iff : v.kind.isDatetime ↔ ∃ d nanos, v.dateAndNanos = .ok (d, nanos) := by
  constructor
  · intro h
    cases v <;> first | exact ⟨_, _, rfl⟩ | cases h
  · rintro ⟨d, nanos, h⟩
    cases v <;> first | rfl | cases h

theorem nanos_lt_of_dateAndNanos {nanos : Nat} (h : v.dateAndNanos = .ok (d, nanos)) :
    nanos < nanosPerDay := by
  cases v <;> cases h
  case date => decide
  all_goals exact TimeOfDay.nanos_lt _

theorem withDateAndNanos_own {nanos : Nat} (hv : v.Accepted) (h : v.dateAndNanos = .ok (d, nanos)) :
    v.withDateAndNanos d nanos = .ok v.foldLeap := by
  cases v <;> cases h
  case date => rfl
  case time t =>
    rw [withDateAndNanos, t.ofNanos_nanos]
    rfl
  case timeTz t =>
    rw [withDateAndNanos, t.time.ofNanos_nanos, ok_bind, ZonedTime.new, ZoneOffset.check_eq hv]
    rfl
  case timestamp t =>
    simp only [withDateAndNanos, t.time.ofNanos_nanos]
    rfl
  case timestampTz t =>
    rw [withDateAndNanos, t.clock.time.ofNanos_nanos, ok_bind, ZonedTimestamp.new,
      ZoneOffset.check_eq hv]
    rfl

/-- Every date can be put in, and all nanoseconds of a day. -/
theorem withDateAndNanos_succeeds {n : Int} (hk : v.kind.isDatetime) (hv : v.Accepted) (d : Date)
    (hn : v.kind = .date ∨ 0 ≤ n ∧ n < nanosPerDay) :
    ∃ w, v.withDateAndNanos d n = .ok w ∧ v.Rebuilt w ∧ w.NoLeap ∧
      w.dateAndNanos = .ok (v.kind.fields d n.toNat) := by
  have htime (hn : 0 ≤ n ∧ n < nanosPerDay) :
      ∃ u, TimeOfDay.ofNanos n = .ok u ∧ u.NoLeap ∧ u.nanos = n.toNat := by
    obtain ⟨u, hu, hnanos, hleap⟩ := TimeOfDay.exists_ofNanos hn
    exact ⟨u, hu, hleap, by rw [← hnanos]; rfl⟩
  cases v <;> simp only [kind, Kind.isDatetime, Bool.false_eq_true] at hk
  case date => exact ⟨_, rfl, .date _ _, trivial, rfl⟩
  all_goals
    obtain ⟨u, hu, hleap, hnanos⟩ := htime (hn.resolve_left (Kind.noConfusion))
  case time t =>
    refine ⟨time u, ?_, .time _ _, hleap, by rw [dateAndNanos, hnanos]; rfl⟩
    rw [withDateAndNanos, hu]
    rfl
  case timeTz t =>
    refine ⟨timeTz ⟨u, t.offset⟩, ?_, .timeTz rfl hv, hleap, by rw [dateAndNanos, hnanos]; rfl⟩
    rw [withDateAndNanos, hu, ok_bind, ZonedTime.new, ZoneOffset.check_eq hv]
    rfl
  case timestamp t =>
    refine ⟨timestamp ⟨d, u⟩, ?_, .timestamp _ _, hleap, by rw [dateAndNanos, hnanos]; rfl⟩
    simp only [withDateAndNanos, hu]
    rfl
  case timestampTz t =>
    refine ⟨timestampTz ⟨⟨d, u⟩, t.offset⟩, ?_, .timestampTz rfl hv, hleap,
      by rw [dateAndNanos, hnanos]; rfl⟩
    rw [withDateAndNanos, hu, ok_bind, ZonedTimestamp.new, ZoneOffset.check_eq hv]
    rfl

theorem withDateAndNanos_fails {n : Int} (hk : v.kind.isDatetime) (d : Date)
    (hn : ¬ (v.kind = .date ∨ 0 ≤ n ∧ n < nanosPerDay)) :
    v.withDateAndNanos d n = .error (.number n) := by
  obtain ⟨hdate, hn⟩ := not_or.mp hn
  have hfails := TimeOfDay.ofNanos_eq_error hn
  cases v <;> simp only [kind, Kind.isDatetime, Bool.false_eq_true] at hk
  case date => exact absurd rfl hdate
  all_goals
    simp only [withDateAndNanos, hfails]
    rfl

end Value

/-- Fields taken from a date or time and put back give the value with its leap second folded. Any other date and
nanoseconds can be put in as well, as long as they are within a day or the value is a bare date; they give a
value of the same kind in the same zone, from which they are taken again as far as the kind has them. -/
theorem fields_rebuild_values {v : Value} (hk : v.kind.isDatetime) (hv : v.Valid) :
    (∃ d nanos, v.dateAndNanos = .ok (d, nanos) ∧ v.withDateAndNanos d nanos = .ok v.foldLeap) ∧
    ∀ (d : Date) (n : Int),
      (v.kind = .date ∨ 0 ≤ n ∧ n < nanosPerDay →
        ∃ w, v.withDateAndNanos d n = .ok w ∧ v.Rebuilt w ∧ w.NoLeap ∧
          w.dateAndNanos = .ok (v.kind.fields d n.toNat)) ∧
      (¬ (v.kind = .date ∨ 0 ≤ n ∧ n < nanosPerDay) →
        v.withDateAndNanos d n = .error (.number n)) := by
  refine ⟨?_, fun d n => ⟨Value.withDateAndNanos_succeeds hk hv.accepted d, Value.withDateAndNanos_fails hk d⟩⟩
  obtain ⟨d, nanos, h⟩ := Value.isDatetime_iff.mp hk
  exact ⟨d, nanos, h, Value.withDateAndNanos_own hv.accepted h⟩

/-- A leap second eighteen hours west of Greenwich is folded, the last nanosecond of another day is taken over, and
there is none after it. -/
theorem fields_rebuild_values_at_limits :
    let v : Value := .timestampTz ⟨⟨.epoch, ⟨86399, 1500000000, by decide, by decide⟩⟩, -64800⟩
    let folded : Value :=
      .timestampTz ⟨⟨.epoch, ⟨86399, 999999999, by decide, by decide⟩⟩, -64800⟩
    let eve : Date := ⟨1969, 12, 31, by decide, by decide, by decide, by decide, by decide, by decide⟩
    v.Valid ∧ v.dateAndNanos = .ok (.epoch, 86399999999999) ∧
      v.withDateAndNanos .epoch 86399999999999 = .ok folded ∧
      (∃ w, v.withDateAndNanos eve 86399999999999 = .ok w ∧ v.Rebuilt w ∧
        w.dateAndNanos = .ok (eve, 86399999999999)) ∧
      v.withDateAndNanos eve 86400000000000 = .error (.number 86400000000000) := by
  intro v folded eve
  have hv : v.Valid := by
    change (-64800 : ZoneOffset).Valid
    decide
  obtain ⟨⟨d, nanos, hfields, hown⟩, hother⟩ := fields_rebuild_values (v := v) rfl hv
  have hsplit : v.dateAndNanos = .ok (.epoch, 86399999999999) := eq_ok_of_toOption (by decide)
  obtain ⟨rfl, rfl⟩ := Prod.mk.inj (Except.ok.inj (hfields.symm.trans hsplit))
  obtain ⟨w, hw, hrebuilt, -, hagain⟩ := (hother eve 86399999999999).1 (.inr (by decide))
  exact ⟨hv, hsplit, hown, ⟨w, hw, hrebuilt, hagain⟩, (hother eve 86400000000000).2 (by decide)⟩

end SqlInterval
