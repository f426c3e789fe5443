import SqlInterval.Error

/-!
# Outcomes

A computation ends in a value or in an error. The steps of a chain succeed one after another, or the
first that fails gives the error of the whole; a data error keeps its cause when it becomes an
evaluation error.
-/

namespace SqlInterval

variable {ε α β : Type}

@[simp] theorem ok_bind (a : α) (f : α → Except ε β) : (Except.ok a >>= f) = f a := rfl

@[simp] theorem error_bind (e : ε) (f : α → Except ε β) : (Except.error e >>= f) = .error e := rfl

@[simp] theorem pure_eq_ok (a : α) : (pure a : Except ε α) = .ok a := rfl

theorem bind_eq_ok {x : Except ε α} {f : α → Except ε β} {b : β} :
    x >>= f = .ok b ↔ ∃ a, x = .ok a ∧ f a = .ok b := by
  cases x <;> simp

theorem bind_eq_error {x : Except ε α} {f : α → Except ε β} {e : ε} :
    x >>= f = .error e ↔ x = .error e ∨ ∃ a, x = .ok a ∧ f a = .error e := by
  cases x <;> simp

/-- A success can be decided as an option, whether or not errors can be compared. -/
theorem eq_ok_of_toOption {x : Except ε α} {a : α} (h : x.toOption = some a) : x = .ok a := by
  cases x with
  | ok b => exact congrArg Except.ok (Option.some.inj h)
  | error e => cases h

/-! ## Data errors in an evaluation -/

theorem lift_ok (a : α) : (liftM (Except.ok a : Except DataError α) : Except EvalError α) = .ok a :=
  rfl

theorem lift_eq_ok {x : Except DataError α} {a : α} :
    (liftM x : Except EvalError α) = .ok a ↔ x = .ok a := by
  cases x with
  | ok b =>
      exact ⟨fun h => congrArg _ (Except.ok.inj h), fun h => congrArg _ (Except.ok.inj h)⟩
  | error d => exact ⟨fun h => (nomatch h), fun h => (nomatch h)⟩

/-- The outcome is a value with `P`, or a data error: no fault of the expression itself. -/
def Sound (P : α → Prop) : Except EvalError α → Prop
  | .ok a => P a
  | .error e => ∃ d, e = .data d

namespace Sound

theorem bind {P : α → Prop} {Q : β → Prop} {x : Except EvalError α} {f : α → Except EvalError β}
    (hx : Sound P x) (hf : ∀ a, P a → Sound Q (f a)) : Sound Q (x >>= f) := by
  cases x with
  | ok a => exact hf a hx
  | error e => exact hx

theorem lift {P : α → Prop} {x : Except DataError α} (h : ∀ a, x = .ok a → P a) :
    Sound P (liftM x : Except EvalError α) := by
  cases x with
  | ok a => exact h a rfl
  | error d => exact ⟨d, rfl⟩

theorem mono {P Q : α → Prop} {x : Except EvalError α} (hx : Sound P x) (h : ∀ a, P a → Q a) :
    Sound Q x := by
  cases x with
  | ok a => exact h a hx
  | error e => exact hx

end Sound

/-! ## Outcomes that go together -/

/-- Two values of which the second is `f` of the first, or two errors with one code. -/
inductive Agree {ε α β : Type} (code : ε → FaultCode) (f : α → β) :
    Except ε α → Except ε β → Prop where
  | ok (a : α) : Agree code f (.ok a) (.ok (f a))
  | error {d e : ε} (h : code d = code e) : Agree code f (.error d) (.error e)

namespace Agree

variable {γ : Type} {code : ε → FaultCode}

theorem refl (x : Except ε α) : Agree code id x x := by
  cases x with
  | ok a => exact .ok a
  | error e => exact .error rfl

theorem ok_left {f : α → β} {a : α} {y : Except ε β} (h : Agree code f (.ok a) y) :
    y = .ok (f a) := by
  cases h
  rfl

theorem bind {f : α → β} {x : Except ε α} {y : Except ε β} (hx : Agree code f x y) {δ : Type}
    {g : γ → δ} {k : α → Except ε γ} {k' : β → Except ε δ}
    (hk : ∀ a, Agree code g (k a) (k' (f a))) : Agree code g (x >>= k) (y >>= k') := by
  cases hx with
  | ok a => exact hk a
  | error h => exact .error h

theorem lift {f : α → β} {x : Except DataError α} {y : Except DataError β}
    (h : Agree DataError.code f x y) :
    Agree EvalError.code f (liftM x : Except EvalError α) (liftM y : Except EvalError β) := by
  cases h with
  | ok a => exact .ok a
  | error h => exact .error h

end Agree

end SqlInterval
