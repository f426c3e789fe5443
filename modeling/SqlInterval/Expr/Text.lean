import SqlInterval.Expr.Basic
import SqlInterval.Value.Literal

/-!
# SQL text of expressions

Every operation stands in brackets of its own. A prescribed type follows them; its precision and its
scale are left out where they are the default ones.
-/

namespace SqlInterval

/-- The fields of a prescribed type. -/
def SqlType.forcedChars (t : SqlType) : List Char :=
  match t.kind.qualifier? with
  | some q =>
    q.fieldsText
      (if t.precision = Qualifier.defaultPrecision then none else some t.precision)
      (if t.scale = Qualifier.defaultScale then none else some t.scale)
  | none => []

namespace Expr

def chars : Expr → List Char
  | const v => v.chars
  | column c => c.chars
  | operation o l r forced _ =>
    '(' :: l.chars ++ ' ' :: o.token :: ' ' :: r.chars ++ ')' ::
      match forced with
      | some t => ' ' :: t.forcedChars
      | none => []

def sql (e : Expr) : String := .ofList e.chars

end Expr

end SqlInterval
