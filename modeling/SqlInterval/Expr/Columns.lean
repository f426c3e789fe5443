import SqlInterval.Expr.Basic

/-!
# Columns of expressions

A row source gives slots to the columns that belong to it. Columns of other tables, and columns that
the source does not have, stay as they are.
-/

namespace SqlInterval

structure RowSource where
  tableAlias : String
  slot? : String → Option Nat

/-- What may hold of a whole expression. -/
inductive Property where
  /-- All columns can be read at this point. -/
  | evaluatable
  /-- The same row always gives the same value. -/
  | deterministic
  /-- No row is read. -/
  | independent
deriving DecidableEq

namespace Column

def map (s : RowSource) (c : Column) : Column :=
  if c.belongsTo s.tableAlias then
    match s.slot? c.name with
    | some slot => { c with slot := some slot }
    | none => c
  else c

def setEvaluatable (tableAlias : String) (on : Bool) (c : Column) : Column :=
  if c.belongsTo tableAlias then { c with evaluatable := on } else c

def has (c : Column) : Property → Bool
  | .evaluatable => c.evaluatable
  | .deterministic => true
  | .independent => false

end Column

namespace Expr

/-- Changes every column, and nothing else. -/
def mapColumns (f : Column → Column) : Expr → Expr
  | const v => const v
  | column c => column (f c)
  | operation o l r forced t => operation o (l.mapColumns f) (r.mapColumns f) forced t

/-- Gives the columns of a row source their slots. -/
def bindColumns (s : RowSource) (e : Expr) : Expr := e.mapColumns (·.map s)

def setEvaluatable (tableAlias : String) (on : Bool) (e : Expr) : Expr :=
  e.mapColumns (·.setEvaluatable tableAlias on)

/-- The property holds of every column. -/
def has (p : Property) : Expr → Bool
  | const _ => true
  | column c => c.has p
  | operation _ l r _ _ => l.has p && r.has p

end Expr

end SqlInterval
