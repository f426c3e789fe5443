/-!
# Operators

The operations on two operands of which one is an interval, and the difference of two dates or
times. The same sign of SQL stands for several operators.
-/

namespace SqlInterval

inductive Operator where
  | intervalPlusInterval
  | intervalMinusInterval
  /-- The ratio of two intervals, which SQL itself does not know. -/
  | intervalDivideInterval
  | datetimePlusInterval
  | datetimeMinusInterval
  | intervalMultiplyNumeric
  | intervalDivideNumeric
  | datetimeMinusDatetime
deriving DecidableEq, Repr

namespace Operator

/-- The sign that SQL text shows. -/
def token : Operator → Char
  | intervalPlusInterval | datetimePlusInterval => '+'
  | intervalMinusInterval | datetimeMinusInterval | datetimeMinusDatetime => '-'
  | intervalMultiplyNumeric => '*'
  | intervalDivideInterval | intervalDivideNumeric => '/'

/-- The right operand is added. -/
def isPlus : Operator → Bool
  | intervalPlusInterval | datetimePlusInterval => true
  | _ => false

/-- The name under which the operator appears in logs. -/
def name : Operator → String
  | intervalPlusInterval => "IntervalPlusInterval"
  | intervalMinusInterval => "IntervalMinusInterval"
  | intervalDivideInterval => "IntervalDivideInterval"
  | datetimePlusInterval => "DatetimePlusInterval"
  | datetimeMinusInterval => "DatetimeMinusInterval"
  | intervalMultiplyNumeric => "IntervalMultiplyNumeric"
  | intervalDivideNumeric => "IntervalDivideNumeric"
  | datetimeMinusDatetime => "DatetimeMinusDatetime"

end Operator

end SqlInterval
