import SqlInterval.Proofs.Expr.Typing
import SqlInterval.Proofs.Operator.Cast

/-!
# Differences with a prescribed type, in expressions

Every type of intervals can be prescribed for a difference of dates or times. With days or smaller units
the difference always has a value; with years or months it never has one, and this comes to light only
where the difference is evaluated.
-/

namespace SqlInterval

namespace Value

theorem ne_null_of_isDatetime {v : Value} (h : v.kind.isDatetime) : v ≠ .null := by
  rintro rfl
  cases h

end Value

/-- For two dates or times, only the prescribed type decides whether it is admitted. -/
theorem Operator.resolve_prescribed {l r t : SqlType} (hl : l.kind.isDatetime)
    (hr : r.kind.isDatetime) :
    resolve .datetimeMinusDatetime l r (some t) =
      if t.kind.isInterval then .ok ⟨t.kind, Qualifier.maxPrecision, t.scale⟩
      else .error (incompatible .datetimeMinusDatetime l.kind t.kind) := by
  have hkinds : (l.kind = .null ∨ l.kind.isDatetime) ∧ (r.kind = .null ∨ r.kind.isDatetime) :=
    ⟨.inr hl, .inr hr⟩
  cases ht : t.kind.isInterval with
  | true =>
      refine resolve_eq_ok.mpr ⟨fun f hf => ?_, if_pos hkinds⟩
      cases hf
      exact ht
  | false => simp [resolve, Option.filter, admitsForced, ht]

namespace Expr

variable {ctx : Context} {o : Operator} {l r : Expr} {forced : Option SqlType} {t : SqlType}
  {a b : Value}

theorem evaluate_operation_of_ne_null (hl : l.evaluate ctx = .ok a) (hr : r.evaluate ctx = .ok b)
    (hna : a ≠ .null) (hnb : b ≠ .null) :
    (operation o l r forced t).evaluate ctx = o.apply ctx.zoneOffset forced a b := by
  rw [evaluate, hl, ok_bind, hr, ok_bind, Operator.combine_of_ne_null hna hnb]

/-- A difference of dates or times is built with every prescribed type of intervals, and with no other
type. With days or smaller units it has a value for all operands. With years or months it has none: the
difference that the operands have without the prescribed type is then not converted. -/
theorem evaluate_prescribed (hl : l.type.kind.isDatetime) (hr : r.type.kind.isDatetime)
    (hscale : 0 ≤ t.scale) :
    (t.kind.isInterval = false → build .datetimeMinusDatetime l r (some t) =
      .error (Operator.incompatible .datetimeMinusDatetime l.type.kind t.kind)) ∧
    ∀ q, t.kind = .interval q →
      ∃ e, build .datetimeMinusDatetime l r (some t) = .ok e ∧
        e.type = ⟨.interval q, Qualifier.maxPrecision, t.scale⟩ ∧
        ∀ (ctx : Context) (a b : Value), ctx.zoneOffset.Valid → l.evaluate ctx = .ok a →
          r.evaluate ctx = .ok b → a.kind.isDatetime → b.kind.isDatetime →
            (q.isYearMonth = false → ∃ i, e.evaluate ctx = .ok (.interval i) ∧ i.qualifier = q) ∧
            (q.isYearMonth → ∃ d, subtractDatetimes ctx.zoneOffset none a b = .ok (.interval d) ∧
              d.qualifier.isYearMonth = false ∧
              e.evaluate ctx = .error (.data (.conversion ("INTERVAL " ++ d.qualifier.text)
                ("INTERVAL " ++ q.text)))) := by
  have hresolve := Operator.resolve_prescribed (t := t) hl hr
  refine ⟨fun ht => ?_, fun q hq => ?_⟩
  · rw [build, hresolve, ht]
    rfl
  · have hinterval : t.kind.isInterval := by rw [hq]; rfl
    rw [if_pos hinterval, hq] at hresolve
    refine ⟨operation .datetimeMinusDatetime l r (some t) ⟨.interval q, Qualifier.maxPrecision,
      t.scale⟩, ?_, rfl, fun ctx a b hs ha hb hka hkb => ?_⟩
    · rw [build, hresolve]
      rfl
    -- The difference itself always exists, and is of the family of days; only the cast is left.
    · obtain ⟨d, hd, hdv, hdfamily, hdn⟩ := exists_difference_day_time hs.accepted hka hkb
      rw [evaluate_operation_of_ne_null ha hb (Value.ne_null_of_isDatetime hka)
        (Value.ne_null_of_isDatetime hkb), Operator.apply, subtractDatetimes_some hka hkb hd]
      refine ⟨fun hday => ?_, fun hmonths => ?_⟩
      · obtain ⟨j, hj, hjq, -⟩ := hdv.exists_cast hdfamily hq hday hscale hdn
        exact ⟨j, congrArg (Except.map Value.interval) hj, hjq⟩
      · have hother : q.isYearMonth ≠ d.qualifier.isYearMonth := by
          rw [hmonths, hdfamily]
          exact Bool.noConfusion
        exact ⟨d, subtractDatetimes_none hka hkb hd, hdfamily,
          congrArg (Except.map Value.interval) (Interval.cast_of_other_family hq hother)⟩

/-- A time beside a date, in a session east of Greenwich, in minutes. -/
theorem evaluate_prescribed_in_minutes :
    let l := column ⟨none, "x", .of .timeTz, some 0, true⟩
    let r := const (.date .epoch)
    let minutes : SqlType := ⟨.interval .minute, 4, 0⟩
    let ctx : Context := { settings := ⟨3600⟩, row := [.timeTz ⟨.midnight, -3600⟩] }
    0 ≤ minutes.scale ∧ ctx.zoneOffset.Valid ∧
      ∃ e, build .datetimeMinusDatetime l r (some minutes) = .ok e ∧
        ∃ i, e.evaluate ctx = .ok (.interval i) ∧ i.qualifier = .minute := by
  intro l r minutes ctx
  have hscale : 0 ≤ minutes.scale := by decide
  have hs : ctx.zoneOffset.Valid := by decide
  obtain ⟨e, he, -, hvalue⟩ :=
    (evaluate_prescribed (l := l) (r := r) (t := minutes) rfl rfl hscale).2 .minute rfl
  exact ⟨hscale, hs, e, he, (hvalue ctx _ _ hs rfl rfl rfl rfl).1 rfl⟩

/-- One second in years: the difference is built, and has no value in any row. -/
theorem evaluate_prescribed_in_years_fails :
    let l := const (.timestamp ⟨.epoch, ⟨1, 0, by decide, by decide⟩⟩)
    let r := const (.timestamp ⟨.epoch, .midnight⟩)
    ∃ e, build .datetimeMinusDatetime l r (some ⟨.interval .year, 2, 0⟩) = .ok e ∧
      ∀ ctx, e.evaluate ctx =
        .error (.data (.conversion "INTERVAL DAY TO SECOND" "INTERVAL YEAR")) :=
  ⟨_, rfl, fun _ => rfl⟩

end Expr

end SqlInterval
