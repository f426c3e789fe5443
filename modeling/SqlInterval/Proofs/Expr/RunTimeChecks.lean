import SqlInterval.Proofs.Expr.Typing

/-!
# Checks at run time

An operand of unknown type may turn out to be of any kind. Each operator then looks at the kinds itself:
what it gives a value for, its types admit, and the value has the type that they give. Only the ratio of
two intervals is not so careful, and divides months by nanoseconds.
-/

namespace SqlInterval

/-! ## Readers of operands -/

namespace Value

variable {v : Value}

theorem toInterval_eq_ok {i : Interval} (h : v.toInterval = .ok i) : v = .interval i := by
  cases v <;> cases h
  rfl

theorem isNumeric_of_toDecimal {d : Decimal} (h : v.toDecimal = .ok d) : v.kind.isNumeric := by
  cases v with
  | integer | bigInt | decimal | double => rfl
  | _ => cases h

end Value

/-! ## One lemma for each kind of operation -/

/-- One operand of a ratio counts months and the other one nanoseconds. -/
def MixedRatio (o : Operator) (l r : Kind) : Prop :=
  o = .intervalDivideInterval ∧ l.isInterval ∧ r.isInterval ∧ l.isYearMonth ≠ r.isYearMonth

instance (o : Operator) (l r : Kind) : Decidable (MixedRatio o l r) :=
  inferInstanceAs (Decidable (_ ∧ _ ∧ _ ∧ _))

namespace Operator

variable {o : Operator} {plus : Bool} {session : ZoneOffset} {forced : Option SqlType}
  {l r v : Value}

theorem resolveSum_of_addIntervals (h : addIntervals plus l r = .ok v) :
    (resolveSum l.kind r.kind).isSome := by
  obtain ⟨i, hi, h⟩ := bind_eq_ok.mp h
  obtain ⟨j, hj, h⟩ := bind_eq_ok.mp h
  obtain rfl := Value.toInterval_eq_ok hi
  obtain rfl := Value.toInterval_eq_ok hj
  split at h
  · rename_i q hq
    simp only [Value.kind, resolveSum, hq, Option.map_some, Option.isSome_some]
  · cases h

theorem divideIntervals_ok (h : divideIntervals l r = .ok v) :
    l.kind.isInterval ∧ r.kind.isInterval ∧ ∃ d, v = .decimal d := by
  simp only [divideIntervals, bind_eq_ok] at h
  obtain ⟨i, hi, j, hj, d, -, h⟩ := h
  obtain rfl := Value.toInterval_eq_ok hi
  obtain rfl := Value.toInterval_eq_ok hj
  cases h
  exact ⟨rfl, rfl, d, rfl⟩

theorem resolveRatio_of_isInterval {l r : Kind} (hl : l.isInterval) (hr : r.isInterval)
    (hfamily : l.isYearMonth = r.isYearMonth) : (resolveRatio l r).isSome := by
  simp only [resolveRatio, hl, hr, hfamily, or_true, and_self, bne_self_eq_false, Bool.and_false,
    if_true, Bool.false_eq_true, if_false]
  split <;> rfl

theorem resolveScaling_of_scaleInterval {multiply : Bool} (h : scaleInterval multiply l r = .ok v) :
    (resolveScaling l.type r.type).isSome := by
  obtain ⟨i, hi, h⟩ := bind_eq_ok.mp h
  obtain ⟨d, hd, -⟩ := bind_eq_ok.mp h
  obtain rfl := Value.toInterval_eq_ok hi
  have hr := Value.isNumeric_of_toDecimal (lift_eq_ok.mp hd)
  rw [resolveScaling, Value.type_kind, Value.type_kind, if_pos ⟨.inr rfl, .inr hr⟩]
  rfl

theorem isDatetime_of_shiftMonths {a : Int} (h : shiftMonths plus l r a = .ok v) :
    l.kind.isDatetime ∧ l.kind.isTimeOfDay = false := by
  unfold shiftMonths at h
  split at h
  · cases h
  · rename_i htime
    split at h
    · rename_i hl
      exact ⟨hl, Bool.eq_false_iff.mpr htime⟩
    · cases h

theorem resolveShift_of_shiftDatetime (h : shiftDatetime plus l r = .ok v) :
    (resolveShift l.type r.type).isSome := by
  obtain ⟨i, hi, h⟩ := bind_eq_ok.mp h
  obtain rfl := Value.toInterval_eq_ok hi
  have hkinds : l.kind.isDatetime ∧
      (l.kind.isTimeOfDay && (Value.interval i).kind.isYearMonth) = false := by
    split at h
    · obtain ⟨hl, htime⟩ := isDatetime_of_shiftMonths h
      exact ⟨hl, by rw [htime, Bool.false_and]⟩
    · rename_i hyear
      have hfamily : (Value.interval i).kind.isYearMonth = false := Bool.eq_false_iff.mpr hyear
      exact ⟨(shiftNanos_rebuilt h).isDatetime, by rw [hfamily, Bool.and_false]⟩
  rw [resolveShift, Value.type_kind, Value.type_kind, if_pos ⟨.inr hkinds.1, .inr rfl⟩,
    if_neg (Bool.eq_false_iff.mp hkinds.2)]
  rfl

theorem resolveDifference_of_subtractDatetimes (h : subtractDatetimes session forced l r = .ok v) :
    (resolveDifference forced l.kind r.kind).isSome := by
  unfold subtractDatetimes at h
  split at h
  · rename_i hkinds
    obtain ⟨hl, hr⟩ := Bool.and_eq_true_iff.mp hkinds
    unfold resolveDifference
    rw [if_pos ⟨.inr hl, .inr hr⟩]
    cases forced with
    | some t => rfl
    | none =>
        dsimp only
        split
        · rfl
        · split <;> rfl
  · cases h

/-! ## All operators -/

theorem exists_resolve_of_apply (hforced : ∀ f, forced = some f → o.admitsForced f)
    (hmixed : ¬ MixedRatio o l.kind r.kind) (h : o.apply session forced l r = .ok v) :
    ∃ t, o.resolve l.type r.type forced = .ok t := by
  have hsome : (o.resolve? l.type r.type forced).isSome := by
    cases o with
    | intervalPlusInterval | intervalMinusInterval =>
        simp only [resolve?, Value.type_kind]
        exact resolveSum_of_addIntervals h
    | intervalDivideInterval =>
        obtain ⟨hl, hr, -⟩ := divideIntervals_ok h
        simp only [resolve?, Value.type_kind]
        -- Only here is the family not checked by the operator itself.
        refine resolveRatio_of_isInterval hl hr ?_
        exact Decidable.not_not.mp fun hne => hmixed ⟨rfl, hl, hr, hne⟩
    | datetimePlusInterval | datetimeMinusInterval => exact resolveShift_of_shiftDatetime h
    | intervalMultiplyNumeric | intervalDivideNumeric => exact resolveScaling_of_scaleInterval h
    | datetimeMinusDatetime =>
        simp only [resolve?, Value.type_kind]
        exact resolveDifference_of_subtractDatetimes h
  obtain ⟨t, ht⟩ := Option.isSome_iff_exists.mp hsome
  exact ⟨t, resolve_eq_ok.mpr ⟨hforced, ht⟩⟩

/-- A value is of the type that the types of the operands give. -/
theorem resolve_of_apply (hforced : ∀ f, forced = some f → o.admitsForced f)
    (hmixed : ¬ MixedRatio o l.kind r.kind) (hl : l ≠ .null) (hr : r ≠ .null)
    (h : o.apply session forced l r = .ok v) :
    ∃ t, o.resolve l.type r.type forced = .ok t ∧ t.kind = v.kind := by
  obtain ⟨t, ht⟩ := exists_resolve_of_apply hforced hmixed h
  have hsound := apply_sound session ht hl hr l.type_kind.symm r.type_kind.symm
  rw [h] at hsound
  exact ⟨t, ht, hsound.symm⟩

end Operator

namespace Expr

variable {ctx : Context} {o : Operator} {l r : Expr} {forced : Option SqlType} {t : SqlType}
  {a b : Value}

/-- Whatever the types say of its operands, an operation gives a value only where the operands' values
have types that admit the operator, and a value of the type that follows from these: except that the
ratio of months and nanoseconds is a number. -/
theorem evaluate_checks_kinds (hb : (operation o l r forced t).Built)
    (hl : l.evaluate ctx = .ok a) (hr : r.evaluate ctx = .ok b) (hna : a ≠ .null)
    (hnb : b ≠ .null) :
    (∀ v, (operation o l r forced t).evaluate ctx = .ok v →
      (∃ t', o.resolve a.type b.type forced = .ok t' ∧ t'.kind = v.kind) ∨
        MixedRatio o a.kind b.kind ∧ ∃ d, v = .decimal d) ∧
    ∀ err, o.resolve a.type b.type forced = .error err → ¬ MixedRatio o a.kind b.kind →
      ∃ err', (operation o l r forced t).evaluate ctx = .error err' := by
  have hforced := (Operator.resolve_eq_ok.mp (built_operation.mp hb).2.2).1
  have happly : (operation o l r forced t).evaluate ctx =
      o.apply ctx.zoneOffset forced a b := by
    rw [evaluate, hl, ok_bind, hr, ok_bind, Operator.combine_of_ne_null hna hnb]
  rw [happly]
  refine ⟨fun v hv => ?_, fun err herr hmixed => ?_⟩
  · by_cases hmixed : MixedRatio o a.kind b.kind
    · obtain rfl := hmixed.1
      exact .inr ⟨hmixed, (Operator.divideIntervals_ok hv).2.2⟩
    · exact .inl (Operator.resolve_of_apply hforced hmixed hna hnb hv)
  · cases hv : o.apply ctx.zoneOffset forced a b with
    | error err' => exact ⟨err', rfl⟩
    | ok v =>
        obtain ⟨t', ht', -⟩ := Operator.resolve_of_apply hforced hmixed hna hnb hv
        rw [ht'] at herr
        cases herr

/-- A column of unknown type that holds a year, minus thirty months. -/
theorem evaluate_checks_kinds_of_unknown_column :
    let x := column ⟨none, "x", .of .null, some 0, true⟩
    let e := operation .intervalMinusInterval x (const (.interval ⟨.month, false, 30, 0⟩)) none
      (.of (.interval .month))
    let ctx : Context := { row := [.interval ⟨.year, false, 1, 0⟩] }
    e.Built ∧ e.evaluate ctx = .ok (.interval ⟨.yearToMonth, true, 1, 6⟩) ∧
      ∃ t, Operator.resolve .intervalMinusInterval (.of (.interval .year))
        (.of (.interval .month)) none = .ok t ∧ t.kind = .interval .yearToMonth := by
  intro x e ctx
  have hb : e.Built := built_operation.mpr ⟨.column _, .const _, rfl⟩
  have hv : e.evaluate ctx = .ok (.interval ⟨.yearToMonth, true, 1, 6⟩) := rfl
  refine ⟨hb, hv, ?_⟩
  rcases (evaluate_checks_kinds hb rfl rfl (by decide) (by decide)).1 _ hv with h | ⟨h, -⟩
  · exact h
  · exact absurd h (by decide)

/-- With a day in place of the months, and as a ratio, there is a value: twelve months, divided by the
nanoseconds of a day. The types of a year and of a day do not admit the operator. -/
theorem evaluate_divides_months_by_nanoseconds :
    let x := column ⟨none, "x", .of .null, some 0, true⟩
    let e := operation .intervalDivideInterval x (const (.interval ⟨.day, false, 1, 0⟩)) none
      .dayTimeRatio
    let ctx : Context := { row := [.interval ⟨.year, false, 1, 0⟩] }
    e.Built ∧ e.evaluate ctx = .ok (.decimal ⟨1388888888888888888888888889, 40⟩) ∧
      Operator.resolve .intervalDivideInterval (.of (.interval .year)) (.of (.interval .day)) none =
        .error (.incompatible "/" "INTERVAL YEAR" "INTERVAL DAY") := by
  exact ⟨built_operation.mpr ⟨.column _, .const _, rfl⟩, rfl, rfl⟩

end Expr

end SqlInterval
