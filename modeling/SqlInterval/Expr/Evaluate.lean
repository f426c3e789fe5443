import SqlInterval.Expr.Basic
import SqlInterval.Operator.Apply
import SqlInterval.Session

/-!
# Evaluation

An expression has a value in a context. Operands are evaluated from left to right, and both always
are: a null on the left does not hide an error on the right.
-/

namespace SqlInterval

/-- The value of the column in the current row. -/
def Column.read (c : Column) (ctx : Context) : Except EvalError Value :=
  match c.slot with
  | some slot => ctx.read slot
  | none => .error (.unmappedColumn (.ofList c.chars))

namespace Expr

def evaluate (ctx : Context) : Expr → Except EvalError Value
  | const v => .ok v
  | column c => c.read ctx
  | operation o l r forced _ => do
    let a ← l.evaluate ctx
    let b ← r.evaluate ctx
    o.combine ctx.zoneOffset forced a b

/-- Replaces every operation on constants by its value, from the leaves up. -/
def foldConstants (ctx : Context) : Expr → Except EvalError Expr
  | const v => .ok (const v)
  | column c => .ok (column c)
  | operation o l r forced t => do
    let l ← l.foldConstants ctx
    let r ← r.foldConstants ctx
    match l, r with
    | const a, const b => return const (← o.combine ctx.zoneOffset forced a b)
    | l, r => return operation o l r forced t

end Expr

end SqlInterval
