import SqlInterval.Operator.Resolve
import SqlInterval.Value.Basic

/-!
# Expressions

An expression is a constant, a column of the current row, or an operation on two expressions. The
type of an operation is found once, when it is built.
-/

namespace SqlInterval

/-- A column is known by its name, and by the slot of the row once it is mapped. -/
structure Column where
  table : Option String
  name : String
  type : SqlType
  slot : Option Nat := none
  evaluatable : Bool := false
deriving DecidableEq

namespace Column

/-- A column that names no table belongs to every one. -/
def belongsTo (c : Column) (tableAlias : String) : Bool :=
  match c.table with
  | some t => t = tableAlias
  | none => true

/-- The name with the table in front of it. -/
def chars (c : Column) : List Char :=
  match c.table with
  | some t => t.toList ++ '.' :: c.name.toList
  | none => c.name.toList

end Column

inductive Expr where
  | const (v : Value)
  | column (c : Column)
  | operation (o : Operator) (l r : Expr) (forced : Option SqlType) (type : SqlType)

namespace Expr

/-- The static type. -/
def type : Expr → SqlType
  | const v => v.type
  | column c => c.type
  | operation _ _ _ _ t => t

/-- The operation on two expressions, if the operator is defined for their types. -/
def build (o : Operator) (l r : Expr) (forced : Option SqlType) : Except EvalError Expr := do
  return operation o l r forced (← o.resolve l.type r.type forced)

def isConst : Expr → Bool
  | const _ => true
  | _ => false

/-- A column costs two and an operation one; constants are free. The costs are added up in a word of 32 bits. -/
def costWord : Expr → UInt32
  | const _ => 0
  | column _ => 2
  | operation _ l r _ _ => l.costWord + 1 + r.costWord

def cost (e : Expr) : Nat := e.costWord.toNat

/-- How many operands the root has. -/
def arity : Expr → Nat
  | operation .. => 2
  | _ => 0

/-- An operand of the root, the left one at index zero. -/
def operand (e : Expr) (index : Nat) : Except EvalError Expr :=
  match e, index with
  | operation _ l _ _ _, 0 => .ok l
  | operation _ _ r _ _, 1 => .ok r
  | _, _ => .error (.indexOutOfBounds index)

/-- The expression that a path of operands leads to. -/
def descend (e : Expr) (path : List Nat) : Except EvalError Expr := path.foldlM operand e

/-- Equality of expressions, with constants compared as values. -/
def same : Expr → Expr → Bool
  | const a, const b => a.same b
  | column a, column b => a = b
  | operation o l r f t, operation o' l' r' f' t' =>
    o = o' && l.same l' && r.same r' && f = f' && t = t'
  | _, _ => false

end Expr

end SqlInterval
