import Mathlib.Tactic
import SqlInterval.Expr.Evaluate
import SqlInterval.Proofs.Expr.Folding
import SqlInterval.Proofs.Operator.Validity

/-!
# Validity of whole evaluations

Where the constants and the row hold valid values, an evaluation gives a valid one, and folding leaves
valid constants.
-/

namespace SqlInterval

namespace Expr

variable {ctx : Context} {e e' : Expr} {v : Value}

/-- Every constant, at whatever depth, has the property. -/
def AllConstants (P : Value → Prop) : Expr → Prop
  | const v => P v
  | column _ => True
  | operation _ l r _ _ => l.AllConstants P ∧ r.AllConstants P

theorem read_mem {c : Column} (h : c.read ctx = .ok v) : v ∈ ctx.row := by
  unfold Column.read Context.read at h
  split at h
  · split at h
    · rename_i u hu
      cases h
      exact List.mem_of_getElem? hu
    · cases h
  · cases h

theorem evaluate_valid (hc : e.AllConstants Value.Valid) (hrow : ∀ v ∈ ctx.row, v.Valid)
    (h : e.evaluate ctx = .ok v) : v.Valid := by
  induction e generalizing v with
  | const v =>
      cases h
      exact hc
  | column c =>
      exact hrow v (read_mem h)
  -- Only the left operand matters: it may be a date or time, whose zone is kept.
  | operation o l r forced t ihl ihr =>
      obtain ⟨a, b, ha, -, hv⟩ := evaluate_operation_ok h
      exact Operator.combine_valid (ihl hc.1 ha) hv

theorem foldConstants_valid (hc : e.AllConstants Value.Valid) (h : e.foldConstants ctx = .ok e') :
    e'.AllConstants Value.Valid := by
  induction e generalizing e' with
  | const v =>
      cases h
      exact hc
  | column c =>
      cases h
      exact trivial
  | operation o l r forced t ihl ihr =>
      have hvl {l'} (hl : l.foldConstants ctx = .ok l') := ihl hc.1 hl
      obtain ⟨l', r', hl, hr, ⟨a, b, v, rfl, -, hv, rfl⟩ | ⟨-, rfl⟩⟩ := foldConstants_operation_ok h
      · exact Operator.combine_valid (hvl hl) hv
      · exact ⟨hvl hl, ihr hc.2 hr⟩

end Expr

/-- Validity is an invariant: of evaluations, of folded expressions, and of all chains of changes to
an interval, at every step that gives one. A step that gives none has one of the known faults. -/
theorem runs_keep_valid :
    (∀ (e : Expr) (ctx : Context), e.AllConstants Value.Valid → (∀ v ∈ ctx.row, v.Valid) →
      (∀ v, e.evaluate ctx = .ok v → v.Valid) ∧
        ∀ e', e.foldConstants ctx = .ok e' → e'.AllConstants Value.Valid) ∧
    ∀ (i : Interval) (changes : List Interval.Change), i.Valid →
      ∀ x ∈ Interval.Change.outcomes i changes,
        (∃ j : Interval, x = .ok j ∧ j.Valid) ∨ ∃ d, x = .error d ∧ Interval.Fault d := by
  refine ⟨fun e ctx hc hrow => ⟨fun v => e.evaluate_valid hc hrow, fun e' => e.foldConstants_valid hc⟩,
    fun i changes hi x hx => ?_⟩
  have hregular := Interval.Change.outcomes_regular hi changes x hx
  cases x with
  | ok j => exact .inl ⟨j, rfl, hregular⟩
  | error d => exact .inr ⟨d, rfl, hregular⟩

/-- `5 SECOND - (TIME - x)` where `x` is midnight far west of Greenwich. A second less a nanosecond is
rounded to a whole one, is no year, and backwards it is no day, without a sign. -/
theorem runs_keep_valid_west_of_greenwich :
    let difference := Expr.operation .datetimeMinusDatetime (.const (.time .midnight))
      (.column ⟨none, "x", .of .timeTz, some 0, true⟩) none .intervalHourToSecond
    let e := Expr.operation .intervalMinusInterval (.const (.interval ⟨.second, false, 5, 0⟩)) difference
      none (.of (.interval .hourToSecond))
    let ctx : Context := { row := [.timeTz ⟨.midnight, -64800⟩] }
    let changes : List Interval.Change := [.requalify .second, .roundSeconds 0, .requalify .year,
      .negate, .ofAbsolute .day (-1000000000)]
    e.AllConstants Value.Valid ∧ (∀ v ∈ ctx.row, v.Valid) ∧
      (∀ v, e.evaluate ctx = .ok v → v.Valid) ∧
      e.evaluate ctx = .ok (.interval ⟨.hourToSecond, false, 18, 5000000000⟩) ∧
      (Interval.Change.outcomes ⟨.minuteToSecond, false, 0, 999999999⟩ changes).map
          Except.toOption =
        [some ⟨.second, false, 0, 999999999⟩, some ⟨.second, false, 1, 0⟩, none,
          some ⟨.second, true, 1, 0⟩, some ⟨.day, false, 0, 0⟩] ∧
      ∀ x ∈ Interval.Change.outcomes ⟨.minuteToSecond, false, 0, 999999999⟩ changes,
        (∃ j : Interval, x = .ok j ∧ j.Valid) ∨ ∃ d, x = .error d ∧ Interval.Fault d := by
  intro difference e ctx changes
  have hc : e.AllConstants Value.Valid :=
    ⟨(by decide : (⟨.second, false, 5, 0⟩ : Interval).Valid), trivial, trivial⟩
  have hrow : ∀ v ∈ ctx.row, v.Valid :=
    List.forall_mem_singleton.mpr (by decide : (-64800 : ZoneOffset).Valid)
  exact ⟨hc, hrow, (runs_keep_valid.1 e ctx hc hrow).1, by cbv, by decide +kernel,
    runs_keep_valid.2 _ changes (by decide)⟩

end SqlInterval
