import SqlInterval.Interval.Absolute
import SqlInterval.Value.Basic

/-!
# Sums of intervals

Intervals of one family are added and subtracted in their absolute form, which is exact. The result
has the narrowest qualifier for both, and that can hold all that the two of them hold.
-/

namespace SqlInterval

namespace Value

/-- A value of a kind that the types rule out. -/
def unexpected (v : Value) : EvalError := .internal ("type=" ++ v.kind.name)

/-- Two values of kinds that the types do not combine. -/
def unexpectedPair (l r : Value) : EvalError :=
  .internal ("type=" ++ l.kind.name ++ " " ++ r.kind.name)

def toInterval : Value → Except EvalError Interval
  | interval i => .ok i
  | v => .error v.unexpected

end Value

/-- The amount that a sum or a difference adds. -/
def signed (plus : Bool) (a : Int) : Int := if plus then a else -a

/-- The sum or difference of two intervals, in the narrowest qualifier for both. -/
def addIntervals (plus : Bool) (l r : Value) : Except EvalError Value := do
  let a ← l.toInterval
  let b ← r.toInterval
  match a.qualifier.join? b.qualifier with
  | some q => return .interval (← Interval.ofAbsolute q (a.absolute + signed plus b.absolute))
  | none => .error (l.unexpectedPair r)

end SqlInterval
