import SqlInterval.Proofs.Expr.RunTimeChecks

/-!
# Null in evaluations

The value of an expression is null just if one of its constants and columns is. No operator makes a null
of other values, and none looks past a null on one side for what is wrong on the other.
-/

namespace SqlInterval

/-! ## One operation -/

namespace Operator

variable {o : Operator} {plus multiply : Bool} {session : ZoneOffset} {forced : Option SqlType}
  {l r v : Value}

theorem addIntervals_interval (h : addIntervals plus l r = .ok v) : ∃ k, v = .interval k := by
  obtain ⟨i, -, h⟩ := bind_eq_ok.mp h
  obtain ⟨j, -, h⟩ := bind_eq_ok.mp h
  split at h
  · obtain ⟨k, -, h⟩ := bind_eq_ok.mp h
    cases h
    exact ⟨k, rfl⟩
  · cases h

theorem scaleInterval_interval (h : scaleInterval multiply l r = .ok v) : ∃ k, v = .interval k := by
  obtain ⟨i, -, h⟩ := bind_eq_ok.mp h
  obtain ⟨factor, -, h⟩ := bind_eq_ok.mp h
  split at h
  · obtain ⟨k, -, h⟩ := bind_eq_ok.mp h
    cases h
    exact ⟨k, rfl⟩
  · obtain ⟨n, -, h⟩ := bind_eq_ok.mp h
    obtain ⟨k, -, h⟩ := bind_eq_ok.mp h
    cases h
    exact ⟨k, rfl⟩

theorem subtractDatetimes_interval (h : subtractDatetimes session forced l r = .ok v) :
    ∃ k, v = .interval k := by
  unfold subtractDatetimes at h
  split at h
  · obtain ⟨i, -, h⟩ := bind_eq_ok.mp h
    split at h
    · obtain ⟨j, -, h⟩ := bind_eq_ok.mp h
      cases h
      exact ⟨j, rfl⟩
    · cases h
      exact ⟨i, rfl⟩
  · cases h

/-- An operator gives an interval, a number, or a date or time like its left operand. -/
theorem apply_ne_null (h : o.apply session forced l r = .ok v) : v ≠ .null := by
  rintro rfl
  cases o with
  | intervalPlusInterval | intervalMinusInterval =>
      obtain ⟨k, hk⟩ := addIntervals_interval h
      cases hk
  | intervalDivideInterval =>
      obtain ⟨-, -, d, hd⟩ := divideIntervals_ok h
      cases hd
  | datetimePlusInterval | datetimeMinusInterval => cases shiftDatetime_rebuilt h
  | intervalMultiplyNumeric | intervalDivideNumeric =>
      obtain ⟨k, hk⟩ := scaleInterval_interval h
      cases hk
  | datetimeMinusDatetime =>
      obtain ⟨k, hk⟩ := subtractDatetimes_interval h
      cases hk

theorem combine_eq_null (h : o.combine session forced l r = .ok v) :
    v = .null ↔ l = .null ∨ r = .null := by
  by_cases hl : l = .null
  · subst hl
    cases h
    exact iff_of_true rfl (.inl rfl)
  · by_cases hr : r = .null
    · subst hr
      rw [combine, Value.isNull_eq_false hl] at h
      cases h
      exact iff_of_true rfl (.inr rfl)
    · rw [combine_of_ne_null hl hr] at h
      exact iff_of_false (apply_ne_null h) (not_or.mpr ⟨hl, hr⟩)

end Operator

/-! ## Whole expressions -/

namespace Expr

variable {ctx : Context} {e : Expr} {v : Value}

/-- The constants and columns, from left to right. -/
def leaves : Expr → List Expr
  | operation _ l r _ _ => l.leaves ++ r.leaves
  | e => [e]

/-- A constant that is null, or a column whose slot of the row holds null. -/
def IsNullLeaf (ctx : Context) : Expr → Prop
  | const v => v = .null
  | column c => c.read ctx = .ok .null
  | operation .. => False

theorem evaluate_eq_null (h : e.evaluate ctx = .ok v) :
    v = .null ↔ ∃ leaf ∈ e.leaves, leaf.IsNullLeaf ctx := by
  induction e generalizing v with
  | const u =>
      cases h
      simp only [leaves, List.mem_singleton, exists_eq_left, IsNullLeaf]
  | column c =>
      have hread : c.read ctx = .ok v := h
      simp only [leaves, List.mem_singleton, exists_eq_left, IsNullLeaf, hread, Except.ok.injEq]
  | operation o l r forced t ihl ihr =>
      obtain ⟨a, b, ha, hb, hv⟩ := evaluate_operation_ok h
      rw [Operator.combine_eq_null hv, ihl ha, ihr hb]
      simp only [leaves, List.mem_append, or_and_right, exists_or]

/-- Null is passed on from any leaf up to the root, and arises nowhere else; a fault anywhere below the
root stops the whole, also where the other operand is null. -/
theorem evaluate_passes_null (e : Expr) (ctx : Context) :
    (∀ v, e.evaluate ctx = .ok v → (v = .null ↔ ∃ leaf ∈ e.leaves, leaf.IsNullLeaf ctx)) ∧
      ∀ path n err, e.descend path = .ok n → n.evaluate ctx = .error err →
        ∃ err', e.evaluate ctx = .error err' :=
  ⟨fun _ h => evaluate_eq_null h, fun _ _ _ h hn => evaluate_error_of_descend h hn⟩

/-- `x - (DATE - y)` where `x` is a date and `y`, three steps down, is null. With `1 DAY / 0` for the
difference there is an error instead, even where `x` is null as well. -/
theorem evaluate_passes_null_of_column :
    let x := column ⟨none, "x", .of .date, some 0, true⟩
    let y := column ⟨none, "y", .of .date, some 1, true⟩
    let e := operation .datetimeMinusInterval x
      (operation .datetimeMinusDatetime (const (.date .epoch)) y none .intervalDay) none (.of .date)
    let ratio := operation .intervalDivideNumeric (const (.interval ⟨.day, false, 1, 0⟩))
      (const (.integer 0)) none (.of (.interval .day))
    let f := operation .datetimeMinusInterval x ratio none (.of .date)
    (e.evaluate { row := [.date .epoch, .null] } = .ok .null ∧
      ∃ leaf ∈ e.leaves, leaf.IsNullLeaf { row := [.date .epoch, .null] }) ∧
    f.descend [1] = .ok ratio ∧ ratio.evaluate { row := [.null] } =
        .error (.data (.divisionByZero "86400000000000")) ∧
      ∃ err, f.evaluate { row := [.null] } = .error err := by
  intro x y e ratio f
  have hv : e.evaluate { row := [.date .epoch, .null] } = .ok .null := rfl
  have hratio : ratio.evaluate { row := [.null] } =
      .error (.data (.divisionByZero "86400000000000")) := rfl
  exact ⟨⟨hv, ((evaluate_passes_null e _).1 _ hv).mp rfl⟩, rfl, hratio,
    (evaluate_passes_null f _).2 [1] ratio _ rfl hratio⟩

end Expr

end SqlInterval
