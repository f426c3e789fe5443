import SqlInterval.Expr.Evaluate
import SqlInterval.Proofs.Outcome

/-!
# Operands of operations

An operation has a value only where both operands have one. A fault of an expression somewhere below the
root is a fault of the root.
-/

namespace SqlInterval.Expr

variable {ctx : Context} {o : Operator} {e l r : Expr} {forced : Option SqlType} {t : SqlType}

theorem evaluate_operation_ok {v : Value} (h : (operation o l r forced t).evaluate ctx = .ok v) :
    ∃ a b, l.evaluate ctx = .ok a ∧ r.evaluate ctx = .ok b ∧
      o.combine ctx.zoneOffset forced a b = .ok v := by
  obtain ⟨a, ha, h⟩ := bind_eq_ok.mp h
  obtain ⟨b, hb, h⟩ := bind_eq_ok.mp h
  exact ⟨a, b, ha, hb, h⟩

/-- An operation fails where one of its operands does, whatever the other one is. -/
theorem evaluate_operation_error (h : (∃ err, l.evaluate ctx = .error err) ∨
      ∃ err, r.evaluate ctx = .error err) :
    ∃ err, (operation o l r forced t).evaluate ctx = .error err := by
  simp only [evaluate]
  rcases h with ⟨err, hl⟩ | ⟨err, hr⟩
  · exact ⟨err, by rw [hl, error_bind]⟩
  · cases hl : l.evaluate ctx with
    | error e => exact ⟨e, rfl⟩
    | ok a => exact ⟨err, by rw [ok_bind, hr, error_bind]⟩

theorem operand_ok {index : Nat} {e' : Expr} (h : e.operand index = .ok e') :
    ∃ o l r forced t, e = operation o l r forced t ∧ (e' = l ∨ e' = r) := by
  unfold operand at h
  split at h
  · cases h; exact ⟨_, _, _, _, _, rfl, .inl rfl⟩
  · cases h; exact ⟨_, _, _, _, _, rfl, .inr rfl⟩
  · cases h

theorem descend_cons {index : Nat} {path : List Nat} {n : Expr} :
    e.descend (index :: path) = .ok n ↔ ∃ child, e.operand index = .ok child ∧
      child.descend path = .ok n := by
  rw [descend, List.foldlM_cons, bind_eq_ok]
  rfl

theorem evaluate_error_of_descend {path : List Nat} {n : Expr} {err : EvalError}
    (h : e.descend path = .ok n) (hn : n.evaluate ctx = .error err) :
    ∃ err', e.evaluate ctx = .error err' := by
  induction path generalizing e with
  | nil =>
      cases h
      exact ⟨err, hn⟩
  | cons index path ih =>
      obtain ⟨child, hchild, hrest⟩ := descend_cons.mp h
      obtain ⟨o, l, r, forced, t, rfl, rfl | rfl⟩ := operand_ok hchild
      · exact evaluate_operation_error (.inl (ih hrest))
      · exact evaluate_operation_error (.inr (ih hrest))

end SqlInterval.Expr
