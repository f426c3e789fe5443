import SqlInterval.Operator.Apply
import SqlInterval.Proofs.Interval.Convert
import SqlInterval.Proofs.Operator.Shift

/-!
# Operators on operands of their types

Where the types of two operands admit an operator, the operator gives every pair of values of these
types a value of the type found for it, or fails for a reason that lies in the data. No check of a
kind at run time fails there.
-/

namespace SqlInterval

/-! ## Kinds of values -/

theorem Kind.exists_interval {k : Kind} (h : k.isInterval) : ∃ q, k = .interval q := by
  cases k <;> simp_all [isInterval, qualifier?]

namespace Value

@[simp] theorem kind_eq_null {v : Value} : v.kind = .null ↔ v = .null := by
  cases v <;> simp [kind]

theorem exists_interval {v : Value} {q : Qualifier} (h : v.kind = .interval q) :
    ∃ i, v = .interval i ∧ i.qualifier = q := by
  cases v <;> simp_all [kind]

theorem isNull_eq_false {v : Value} (h : v ≠ .null) : v.isNull = false := by
  cases v with
  | null => exact absurd rfl h
  | _ => rfl

end Value

/-! ## Conversions keep to the wanted qualifier -/

namespace Interval

variable {i : Interval} {q : Qualifier}

theorem cast_sound {t : SqlType} (ht : t.kind = .interval q) :
    Sound (fun j => j.qualifier = q) (i.cast t) := by
  simp only [cast, ht, Kind.qualifier?]
  refine .bind (.lift fun _ h => requalify_ok h) fun converted hc => ?_
  exact .lift fun _ h => (roundSeconds_ok h).trans hc

end Interval

/-! ## One lemma for each kind of operation -/

namespace Operator

variable {l r : Value} {t : SqlType}

theorem resolveSum_eq_some {l r : Kind} (hl : l ≠ .null) (hr : r ≠ .null)
    (h : resolveSum l r = some t) :
    ∃ a b q, l = .interval a ∧ r = .interval b ∧ a.join? b = some q ∧ t = .of (.interval q) := by
  unfold resolveSum at h
  split at h
  · rename_i a b
    obtain ⟨q, hq, rfl⟩ := Option.map_eq_some_iff.mp h
    exact ⟨a, b, q, rfl, rfl, hq, rfl⟩
  · exact absurd rfl hr
  · exact absurd rfl hl
  · exact absurd rfl hl
  · cases h

theorem addIntervals_sound (plus : Bool) (hl : l ≠ .null) (hr : r ≠ .null)
    (h : resolveSum l.kind r.kind = some t) : Sound (·.kind = t.kind) (addIntervals plus l r) := by
  obtain ⟨a, b, q, ha, hb, hq, rfl⟩ := resolveSum_eq_some (by simpa) (by simpa) h
  obtain ⟨i, rfl, rfl⟩ := Value.exists_interval ha
  obtain ⟨j, rfl, rfl⟩ := Value.exists_interval hb
  simp only [addIntervals, Value.toInterval, ok_bind, hq]
  refine .bind (.lift fun _ h => (Interval.ofAbsolute_ok h).1) fun k hk => ?_
  simp only [pure_eq_ok, Sound, Value.kind, hk, SqlType.of]

theorem resolveRatio_eq_some {l r : Kind} (hl : l ≠ .null) (hr : r ≠ .null)
    (h : resolveRatio l r = some t) :
    ∃ a b, l = .interval a ∧ r = .interval b ∧ t.kind = .decimal := by
  unfold resolveRatio at h
  split at h
  · rename_i hkinds
    obtain ⟨a, rfl⟩ := Kind.exists_interval (hkinds.1.resolve_left hl)
    obtain ⟨b, rfl⟩ := Kind.exists_interval (hkinds.2.resolve_left hr)
    refine ⟨a, b, rfl, rfl, ?_⟩
    split at h
    · cases h
    · split at h <;> cases h <;> rfl
  · cases h

theorem divideIntervals_sound (hl : l ≠ .null) (hr : r ≠ .null)
    (h : resolveRatio l.kind r.kind = some t) : Sound (·.kind = t.kind) (divideIntervals l r) := by
  obtain ⟨a, b, ha, hb, ht⟩ := resolveRatio_eq_some (by simpa) (by simpa) h
  obtain ⟨i, rfl, rfl⟩ := Value.exists_interval ha
  obtain ⟨j, rfl, rfl⟩ := Value.exists_interval hb
  simp only [divideIntervals, Value.toInterval, ok_bind]
  refine .bind (.lift fun _ _ => trivial) fun _ _ => ?_
  exact ht.symm

theorem scaleInterval_sound (multiply : Bool) {tl tr : SqlType} (hl : l ≠ .null)
    (hkl : l.kind = tl.kind) (h : resolveScaling tl tr = some t) :
    Sound (·.kind = t.kind) (scaleInterval multiply l r) := by
  unfold resolveScaling at h
  split at h
  · rename_i hkinds
    cases h
    rw [← hkl] at hkinds
    obtain ⟨q, hq⟩ := Kind.exists_interval (hkinds.1.resolve_left (by simpa))
    obtain ⟨i, rfl, rfl⟩ := Value.exists_interval hq
    have hres (a : Int) : Sound (·.kind = t.kind) (do
        return Value.interval (← (Interval.ofAbsolute i.qualifier a : Except DataError Interval))
        : Except EvalError Value) := by
      refine .bind (.lift fun _ h => (Interval.ofAbsolute_ok h).1) fun k hk => ?_
      exact (congrArg Kind.interval hk).trans hkl
    simp only [scaleInterval, Value.toInterval, ok_bind]
    refine .bind (.lift fun _ _ => trivial) fun factor _ => ?_
    split
    · exact hres _
    · refine .bind (.lift fun _ _ => trivial) fun n _ => hres n
  · cases h

/-! A shift keeps the kind of the date or time, since it is put together again from its fields. -/

theorem shiftNanos_sound (plus : Bool) (a : Int) (hl : l.kind.isDatetime) :
    Sound (·.kind = l.kind) (shiftNanos plus l a) := by
  have hkind {x : Except DataError Value} (h : ∀ w, x = .ok w → l.Rebuilt w) :
      Sound (·.kind = l.kind) (liftM x : Except EvalError Value) :=
    .lift fun w hw => (h w hw).kind
  unfold shiftNanos
  split
  · exact hkind fun w h => Value.withDateAndNanos_rebuilt hl h
  · exact hkind fun w h => Value.withDateAndNanos_rebuilt hl h
  · exact .bind (.lift fun _ _ => trivial) fun _ _ => rfl
  · exact hkind fun w h => Value.shiftTimestamp_rebuilt hl h
  · exact hkind fun w h => Value.shiftTimestamp_rebuilt hl h
  · cases l <;> simp_all [Value.kind, Kind.isDatetime]

theorem shiftDatetime_sound (plus : Bool) {tl tr : SqlType} (hl : l ≠ .null) (hr : r ≠ .null)
    (hkl : l.kind = tl.kind) (hkr : r.kind = tr.kind) (h : resolveShift tl tr = some t) :
    Sound (·.kind = t.kind) (shiftDatetime plus l r) := by
  unfold resolveShift at h
  split at h
  · rename_i hkinds
    rw [← hkl, ← hkr] at hkinds
    have hdatetime := hkinds.1.resolve_left (by simpa)
    obtain ⟨q, hq⟩ := Kind.exists_interval (hkinds.2.resolve_left (by simpa))
    obtain ⟨i, rfl, rfl⟩ := Value.exists_interval hq
    split at h
    · cases h
    · rename_i hfamily
      cases h
      rw [← hkl, ← hkr] at hfamily
      simp only [shiftDatetime, Value.toInterval, ok_bind]
      split
      · rename_i hyear
        have htime : l.kind.isTimeOfDay = false := by
          simpa [Value.kind, Kind.isYearMonth, hyear] using hfamily
        simp only [shiftMonths, htime, hdatetime, if_true, Bool.false_eq_true, if_false]
        refine .bind (.lift fun _ _ => trivial) fun months _ => ?_
        exact .lift fun w h => (Value.addMonths_rebuilt h).kind.trans hkl
      · rw [← hkl]
        exact shiftNanos_sound plus _ hdatetime
  · cases h

/-! ## Differences -/

theorem difference_kind {session : ZoneOffset} {i : Interval} (hl : l.kind.isDatetime)
    (hr : r.kind.isDatetime) (h : difference session l r = .ok i)
    (ht : resolveDifference none l.kind r.kind = some t) : t.kind = .interval i.qualifier := by
  simp only [resolveDifference, hl, hr, or_true, and_self, if_true] at ht
  unfold difference at h
  split at h
  · rename_i htimes
    rw [if_pos htimes] at ht
    cases ht
    unfold subtractTimes at h
    split at h
    · exact congrArg _ (Interval.new_ok h).1.symm
    · obtain ⟨a, -, h⟩ := bind_eq_ok.mp h
      obtain ⟨b, -, h⟩ := bind_eq_ok.mp h
      exact congrArg _ (Interval.new_ok h).1.symm
  · rename_i htimes
    rw [if_neg htimes] at ht
    split at h
    · cases ht
      exact congrArg _ (Interval.new_ok h).1.symm
    · rename_i hdates
      have hdate : ¬ (l.kind = .date ∧ r.kind = .date) := by
        cases l <;> cases r <;> simp_all [Value.kind]
      rw [if_neg hdate] at ht
      cases ht
      obtain ⟨a, -, h⟩ := bind_eq_ok.mp h
      obtain ⟨b, -, h⟩ := bind_eq_ok.mp h
      dsimp only at h
      split at h
      · obtain ⟨right, -, h⟩ := bind_eq_ok.mp h
        obtain ⟨left, -, h⟩ := bind_eq_ok.mp h
        exact congrArg _ (Interval.ofAbsolute_ok h).1.symm
      · exact congrArg _ (Interval.ofAbsolute_ok h).1.symm

theorem subtractDatetimes_sound (session : ZoneOffset) {forced : Option SqlType}
    (hforced : ∀ f, forced = some f → f.kind.isInterval) (hl : l ≠ .null) (hr : r ≠ .null)
    (h : resolveDifference forced l.kind r.kind = some t) :
    Sound (·.kind = t.kind) (subtractDatetimes session forced l r) := by
  unfold resolveDifference at h
  split at h
  · rename_i hkinds
    have hdl := hkinds.1.resolve_left (by simpa)
    have hdr := hkinds.2.resolve_left (by simpa)
    simp only [subtractDatetimes, hdl, hdr, Bool.and_self, if_true]
    cases forced with
    | some f =>
        cases h
        obtain ⟨q, hq⟩ := Kind.exists_interval (hforced f rfl)
        refine .bind (.lift fun _ _ => trivial) fun i _ => ?_
        refine .bind (Interval.cast_sound hq) fun j hj => ?_
        exact (congrArg Kind.interval hj).trans hq.symm
    | none =>
        have hdiff : Sound (t.kind = .interval ·.qualifier)
            (liftM (difference session l r) : Except EvalError Interval) := by
          refine .lift fun i hi => difference_kind hdl hdr hi ?_
          rw [resolveDifference, if_pos hkinds]
          exact h
        exact hdiff.bind fun i hi => hi.symm
  · cases h

/-! ## All operators -/

theorem resolve_eq_ok {o : Operator} {l r : SqlType} {forced : Option SqlType} :
    o.resolve l r forced = .ok t ↔
      (∀ f, forced = some f → o.admitsForced f) ∧ o.resolve? l r forced = some t := by
  unfold resolve
  cases forced with
  | none => cases h : o.resolve? l r none <;> simp
  | some f =>
      cases hf : o.admitsForced f
      · simp [Option.filter, hf]
      · cases h : o.resolve? l r (some f) <;> simp [Option.filter, hf]

theorem combine_of_ne_null {o : Operator} {session : ZoneOffset} {forced : Option SqlType}
    (hl : l ≠ .null) (hr : r ≠ .null) :
    o.combine session forced l r = o.apply session forced l r := by
  rw [combine, Value.isNull_eq_false hl, Value.isNull_eq_false hr]
  rfl

/-- An operator that is defined for two types gives values of these types a value of the type of the
result. -/
theorem apply_sound {o : Operator} {tl tr : SqlType} {forced : Option SqlType}
    (session : ZoneOffset) (h : o.resolve tl tr forced = .ok t) (hl : l ≠ .null) (hr : r ≠ .null)
    (hkl : l.kind = tl.kind) (hkr : r.kind = tr.kind) :
    Sound (·.kind = t.kind) (o.apply session forced l r) := by
  obtain ⟨hforced, h⟩ := resolve_eq_ok.mp h
  cases o with
  | intervalPlusInterval | intervalMinusInterval =>
      simp only [resolve?, ← hkl, ← hkr] at h
      exact addIntervals_sound _ hl hr h
  | intervalDivideInterval =>
      simp only [resolve?, ← hkl, ← hkr] at h
      exact divideIntervals_sound hl hr h
  | datetimePlusInterval | datetimeMinusInterval => exact shiftDatetime_sound _ hl hr hkl hkr h
  | intervalMultiplyNumeric | intervalDivideNumeric => exact scaleInterval_sound _ hl hkl h
  | datetimeMinusDatetime =>
      simp only [resolve?, ← hkl, ← hkr] at h
      refine subtractDatetimes_sound session (fun f hf => ?_) hl hr h
      simpa [admitsForced] using hforced f hf

end Operator

end SqlInterval
