import SqlInterval.Error
import SqlInterval.Operator.Basic
import SqlInterval.SqlType

/-!
# Types of results

The type of an operation follows from the types of its operands. An operand without a type, null,
goes with every operator. The type of a difference of dates or times may be prescribed; no other
operation admits that.
-/

namespace SqlInterval

/-- The ratio of two intervals of years and months: 20 digits for the ratio of the extremes, and
twice as many after the point. -/
def SqlType.yearMonthRatio : SqlType := ⟨.decimal, 60, 40⟩

/-- The ratio of two intervals of days down to seconds, with 32 digits for the ratio of the
extremes. -/
def SqlType.dayTimeRatio : SqlType := ⟨.decimal, 96, 64⟩

namespace Operator

def incompatible (o : Operator) (l r : Kind) : EvalError :=
  .incompatible (.singleton o.token) l.name r.name

/-- The type of a sum or difference of intervals. -/
def resolveSum (l r : Kind) : Option SqlType :=
  match l, r with
  | .interval a, .interval b => (a.join? b).map fun q => .of (.interval q)
  | .interval a, .null => some (.of (.interval a))
  | .null, .interval b => some (.of (.interval b))
  | .null, .null => some (.of .null)
  | _, _ => none

def resolveRatio (l r : Kind) : Option SqlType :=
  if (l = .null ∨ l.isInterval) ∧ (r = .null ∨ r.isInterval) then
    if l.isInterval && r.isInterval && l.isYearMonth != r.isYearMonth then none
    else if l.isYearMonth || r.isYearMonth then some .yearMonthRatio
    else some .dayTimeRatio
  else none

def resolveShift (l r : SqlType) : Option SqlType :=
  if (l.kind = .null ∨ l.kind.isDatetime) ∧ (r.kind = .null ∨ r.kind.isInterval) then
    if l.kind.isTimeOfDay && r.kind.isYearMonth then none else some l
  else none

def resolveScaling (l r : SqlType) : Option SqlType :=
  if (l.kind = .null ∨ l.kind.isInterval) ∧ (r.kind = .null ∨ r.kind.isNumeric) then some l
  else none

def resolveDifference (forced : Option SqlType) (l r : Kind) : Option SqlType :=
  if (l = .null ∨ l.isDatetime) ∧ (r = .null ∨ r.isDatetime) then
    match forced with
    | some t => some ⟨t.kind, Qualifier.maxPrecision, t.scale⟩
    | none =>
      if l.isTimeOfDay && r.isTimeOfDay then some .intervalHourToSecond
      else if l = .date ∧ r = .date then some .intervalDay
      else some .intervalDayToSecond
  else none

/-- The type for operands that the operator is defined for. -/
def resolve? (o : Operator) (l r : SqlType) (forced : Option SqlType) : Option SqlType :=
  match o with
  | intervalPlusInterval | intervalMinusInterval => resolveSum l.kind r.kind
  | intervalDivideInterval => resolveRatio l.kind r.kind
  | datetimePlusInterval | datetimeMinusInterval => resolveShift l r
  | intervalMultiplyNumeric | intervalDivideNumeric => resolveScaling l r
  | datetimeMinusDatetime => resolveDifference forced l.kind r.kind

/-- The type may be prescribed for a difference of dates or times, and only as an interval. -/
def admitsForced (o : Operator) (t : SqlType) : Bool :=
  o = datetimeMinusDatetime && t.kind.isInterval

/-- The type of the result. A type that must not be prescribed is found first. -/
def resolve (o : Operator) (l r : SqlType) (forced : Option SqlType) : Except EvalError SqlType :=
  match forced.filter (!o.admitsForced ·) with
  | some t => .error (o.incompatible l.kind t.kind)
  | none =>
    match o.resolve? l r forced with
    | some t => .ok t
    | none => .error (o.incompatible l.kind r.kind)

end Operator

end SqlInterval
