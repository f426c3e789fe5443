import SqlInterval.Expr.Evaluate
import SqlInterval.Expr.Text

/-!
# Logs

The lines that an evaluation and a folding leave behind, up to the point where they end or fail. An
operation is announced once its operands are known not to be null, and an error that the types rule
out is noted where it arises.
-/

namespace SqlInterval

inductive LogLevel where
  | trace | debug
deriving DecidableEq

def LogLevel.name : LogLevel → String
  | trace => "TRACE"
  | debug => "DEBUG"

structure LogLine where
  level : LogLevel
  text : String
deriving DecidableEq

namespace Operator

/-- The lines for one operation on given operands. -/
def log (o : Operator) (session : ZoneOffset) (forced : Option SqlType) (l r : Value) :
    List LogLine :=
  if l.isNull || r.isNull then []
  else
    ⟨.trace, "evaluating " ++ o.name ++ " on " ++ l.kind.name ++ " and " ++ r.kind.name⟩ ::
      match o.apply session forced l r with
      | .error (.internal detail) => [⟨.debug, "internal evaluation error: " ++ detail⟩]
      | _ => []

end Operator

namespace Expr

def evaluateLog (ctx : Context) : Expr → List LogLine
  | const _ | column _ => []
  | operation o l r forced _ =>
    l.evaluateLog ctx ++
      match l.evaluate ctx with
      | .error _ => []
      | .ok a =>
        r.evaluateLog ctx ++
          match r.evaluate ctx with
          | .error _ => []
          | .ok b => o.log ctx.zoneOffset forced a b

/-- The line for an operation that folding replaces by a value. -/
def foldedLine (e : Expr) (v : Value) : LogLine :=
  ⟨.trace, "folded " ++ e.sql ++ " to " ++ v.sql⟩

def foldLog (ctx : Context) : Expr → List LogLine
  | const _ | column _ => []
  | operation o l r forced t =>
    l.foldLog ctx ++
      match l.foldConstants ctx with
      | .error _ => []
      | .ok l =>
        r.foldLog ctx ++
          match r.foldConstants ctx with
          | .error _ => []
          | .ok r =>
            match l, r with
            | const a, const b =>
              o.log ctx.zoneOffset forced a b ++
                match o.combine ctx.zoneOffset forced a b with
                | .error _ => []
                | .ok v => [foldedLine (operation o l r forced t) v]
            | _, _ => []

end Expr

end SqlInterval
