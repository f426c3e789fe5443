import SqlInterval.Operator.Difference
import SqlInterval.Operator.Scaling
import SqlInterval.Operator.Shift

/-!
# Application of operators

The value of an operation for given operands. The operator picks the arithmetic, which then looks at
the operands' kinds; null on either side gives null.
-/

namespace SqlInterval.Operator

/-- The value for operands of which none is null. -/
def apply (o : Operator) (session : ZoneOffset) (forced : Option SqlType) (l r : Value) :
    Except EvalError Value :=
  match o with
  | intervalPlusInterval | intervalMinusInterval => addIntervals o.isPlus l r
  | intervalDivideInterval => divideIntervals l r
  | datetimePlusInterval | datetimeMinusInterval => shiftDatetime o.isPlus l r
  | intervalMultiplyNumeric | intervalDivideNumeric =>
    scaleInterval (o = intervalMultiplyNumeric) l r
  | datetimeMinusDatetime => subtractDatetimes session forced l r

def combine (o : Operator) (session : ZoneOffset) (forced : Option SqlType) (l r : Value) :
    Except EvalError Value :=
  if l.isNull || r.isNull then .ok .null else o.apply session forced l r

end SqlInterval.Operator
