import SqlInterval.Proofs.Expr.Operands

/-!
# Folding keeps the value

A folded expression has the value of the expression that it replaces, in every context with the same
settings. The row does not matter, since a column is never folded away; and folding fails only where
every evaluation fails.
-/

namespace SqlInterval.Expr

variable {ctx ctx' : Context} {o : Operator} {l r : Expr} {forced : Option SqlType} {t : SqlType}

/-! ## One operation -/

/-- Of an operation there remains a value if both operands became constants, and else the operation on
what became of its operands. -/
theorem foldConstants_operation_ok {e : Expr}
    (h : (operation o l r forced t).foldConstants ctx = .ok e) :
    ∃ l' r', l.foldConstants ctx = .ok l' ∧ r.foldConstants ctx = .ok r' ∧
      ((∃ a b v, l' = const a ∧ r' = const b ∧ o.combine ctx.zoneOffset forced a b = .ok v ∧
          e = const v) ∨
        ((l'.isConst && r'.isConst) = false ∧ e = operation o l' r' forced t)) := by
  simp only [foldConstants, bind_eq_ok] at h
  obtain ⟨l', hl, r', hr, h⟩ := h
  refine ⟨l', r', hl, hr, ?_⟩
  split at h
  · rename_i a b
    obtain ⟨v, hv, h⟩ := bind_eq_ok.mp h
    cases h
    exact .inl ⟨a, b, v, rfl, rfl, hv, rfl⟩
  · rename_i hconst
    cases h
    refine .inr ⟨?_, rfl⟩
    cases l' <;> cases r' <;> simp_all [isConst]

theorem foldConstants_operation_error {err : EvalError}
    (h : (operation o l r forced t).foldConstants ctx = .error err) :
    l.foldConstants ctx = .error err ∨ r.foldConstants ctx = .error err ∨
      ∃ a b, l.foldConstants ctx = .ok (const a) ∧ r.foldConstants ctx = .ok (const b) ∧
        o.combine ctx.zoneOffset forced a b = .error err := by
  simp only [foldConstants, bind_eq_error] at h
  obtain hl | ⟨l', hl, hr | ⟨r', hr, h⟩⟩ := h
  · exact .inl hl
  · exact .inr (.inl hr)
  · split at h
    · rename_i a b
      simp only [pure_eq_ok, bind_eq_error, reduceCtorEq, and_false, exists_false, or_false] at h
      exact .inr (.inr ⟨a, b, hl, hr, h⟩)
    · cases h

/-! ## Whole expressions -/

theorem evaluate_eq_of_foldConstants {e e' : Expr} (hs : ctx.settings = ctx'.settings)
    (h : e.foldConstants ctx = .ok e') : e'.evaluate ctx' = e.evaluate ctx' := by
  induction e generalizing e' with
  | const v => cases h; rfl
  | column c => cases h; rfl
  | operation o l r forced t ihl ihr =>
      obtain ⟨l', r', hl, hr, hfold⟩ := foldConstants_operation_ok h
      simp only [evaluate, ← ihl hl, ← ihr hr]
      rcases hfold with ⟨a, b, v, rfl, rfl, hv, rfl⟩ | ⟨_, rfl⟩
      · simp only [evaluate, ok_bind]
        rw [← hv, Context.zoneOffset, Context.zoneOffset, hs]
      · rfl

/-- What fails while folding fails in every row: the operands at the fault do not read the row. -/
theorem evaluate_error_of_foldConstants {e : Expr} {err : EvalError}
    (hs : ctx.settings = ctx'.settings) (h : e.foldConstants ctx = .error err) :
    ∃ err', e.evaluate ctx' = .error err' := by
  induction e generalizing err with
  | const v => cases h
  | column c => cases h
  | operation o l r forced t ihl ihr =>
      rcases foldConstants_operation_error h with hl | hr | ⟨a, b, hl, hr, hv⟩
      · exact evaluate_operation_error (.inl (ihl hl))
      · exact evaluate_operation_error (.inr (ihr hr))
      · refine ⟨err, ?_⟩
        -- Operands that became constants have these values in every row, so the fault recurs.
        have ha := evaluate_eq_of_foldConstants hs hl
        have hb := evaluate_eq_of_foldConstants hs hr
        simp only [evaluate] at ha hb ⊢
        rw [← ha, ← hb, ok_bind, ok_bind, ← hv, Context.zoneOffset, Context.zoneOffset, hs]

/-- Folding keeps the result of every evaluation under the same settings, in whatever row, and it
rejects no expression that has a value in some row. -/
theorem foldConstants_preserves_evaluation (hs : ctx.settings = ctx'.settings) (e : Expr) :
    (∀ e', e.foldConstants ctx = .ok e' → e'.evaluate ctx' = e.evaluate ctx') ∧
      (∀ err, e.foldConstants ctx = .error err → ∃ err', e.evaluate ctx' = .error err') :=
  ⟨fun _ h => evaluate_eq_of_foldConstants hs h, fun _ h => evaluate_error_of_foldConstants hs h⟩

/-- `1 YEAR + 30 MONTH + x` is folded without a row and evaluated where `x` is `-5 MONTH`. With
`1 YEAR / 0 YEAR` in place of the sum, both fail. -/
theorem foldConstants_preserves_sum_with_column :
    ({} : Context).settings = ({ row := [.interval ⟨.month, true, 5, 0⟩] } : Context).settings ∧
      (operation .intervalPlusInterval
          (const (.interval ⟨.yearToMonth, false, 3, 6⟩))
          (column ⟨none, "x", .of (.interval .month), some 0, false⟩)
          none (.of (.interval .yearToMonth))).evaluate
            { row := [.interval ⟨.month, true, 5, 0⟩] } =
        (operation .intervalPlusInterval
          (operation .intervalPlusInterval (const (.interval ⟨.year, false, 1, 0⟩))
            (const (.interval ⟨.month, false, 30, 0⟩)) none (.of (.interval .yearToMonth)))
          (column ⟨none, "x", .of (.interval .month), some 0, false⟩)
          none (.of (.interval .yearToMonth))).evaluate
            { row := [.interval ⟨.month, true, 5, 0⟩] } ∧
      ∃ err, (operation .intervalPlusInterval
          (operation .intervalDivideInterval (const (.interval ⟨.year, false, 1, 0⟩))
            (const (.interval ⟨.year, false, 0, 0⟩)) none .yearMonthRatio)
          (column ⟨none, "x", .of (.interval .month), some 0, false⟩)
          none (.of (.interval .month))).evaluate { row := [.interval ⟨.month, true, 5, 0⟩] } =
        .error err := by
  have hs : ({} : Context).settings =
      ({ row := [.interval ⟨.month, true, 5, 0⟩] } : Context).settings := rfl
  refine ⟨hs, ?_, ?_⟩
  · exact (foldConstants_preserves_evaluation hs _).1 _ rfl
  · exact (foldConstants_preserves_evaluation hs _).2 (.data (.divisionByZero "12")) rfl

end SqlInterval.Expr
