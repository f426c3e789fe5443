import SqlInterval.Decimal.Division
import SqlInterval.Operator.Resolve
import SqlInterval.Operator.Sum

/-!
# Ratios and multiples of intervals

The ratio of two intervals is rounded once, at the scale of its type. A multiple or a fraction of an
interval is exact in the absolute form, and is cut off on the way back to the qualifier.
-/

namespace SqlInterval

/-- The ratio of two intervals, at the scale of the type for their family. -/
def divideIntervals (l r : Value) : Except EvalError Value := do
  let a ← l.toInterval
  let b ← r.toInterval
  let type :=
    if a.qualifier.isYearMonth || b.qualifier.isYearMonth then SqlType.yearMonthRatio
    else SqlType.dayTimeRatio
  return .decimal (← (Decimal.ofInt a.absolute).div (.ofInt b.absolute) type.scale)

/-- An interval multiplied or divided by a number, in its own qualifier. -/
def scaleInterval (multiply : Bool) (l r : Value) : Except EvalError Value := do
  let i ← l.toInterval
  let a := Decimal.ofInt i.absolute
  let factor ← (r.toDecimal : Except DataError Decimal)
  if multiply then
    return .interval (← Interval.ofAbsolute i.qualifier (a.mul factor).truncate)
  else
    return .interval (← Interval.ofAbsolute i.qualifier (← a.divInt factor))

end SqlInterval
