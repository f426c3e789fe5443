/-!
# Interval qualifiers

An interval type spans the fields from a start field to an end field, all of one family: years and
months, or days down to seconds. The families have no common unit; the first counts months, the
second nanoseconds.
-/

namespace SqlInterval

def nanosPerSecond : Nat := 1000000000
def nanosPerMinute : Nat := 60000000000
def nanosPerHour : Nat := 3600000000000
def nanosPerDay : Nat := 86400000000000

/-- A datetime field, from the coarsest to the finest. -/
inductive Field where
  | year | month | day | hour | minute | second
deriving DecidableEq, Repr

namespace Field

def rank : Field → Nat
  | year => 0
  | month => 1
  | day => 2
  | hour => 3
  | minute => 4
  | second => 5

def keyword : Field → String
  | year => "YEAR"
  | month => "MONTH"
  | day => "DAY"
  | hour => "HOUR"
  | minute => "MINUTE"
  | second => "SECOND"

/-- One of the field in its family's unit: months, or nanoseconds. -/
def unit : Field → Nat
  | year => 12
  | month => 1
  | day => nanosPerDay
  | hour => nanosPerHour
  | minute => nanosPerMinute
  | second => nanosPerSecond

def coarser (a b : Field) : Field := if a.rank ≤ b.rank then a else b

def finer (a b : Field) : Field := if a.rank ≤ b.rank then b else a

end Field

/-- The fields that an interval carries. -/
inductive Qualifier where
  | year | month | day | hour | minute | second
  | yearToMonth | dayToHour | dayToMinute | dayToSecond | hourToMinute | hourToSecond
  | minuteToSecond
deriving DecidableEq, Repr

namespace Qualifier

def startField : Qualifier → Field
  | year | yearToMonth => .year
  | month => .month
  | day | dayToHour | dayToMinute | dayToSecond => .day
  | hour | hourToMinute | hourToSecond => .hour
  | minute | minuteToSecond => .minute
  | second => .second

def endField : Qualifier → Field
  | year => .year
  | month | yearToMonth => .month
  | day => .day
  | hour | dayToHour => .hour
  | minute | dayToMinute | hourToMinute => .minute
  | second | dayToSecond | hourToSecond | minuteToSecond => .second

/-- The qualifier that spans two fields, if they are of one family and in order. -/
def ofFields? : Field → Field → Option Qualifier
  | .year, .year => some year
  | .year, .month => some yearToMonth
  | .month, .month => some month
  | .day, .day => some day
  | .day, .hour => some dayToHour
  | .day, .minute => some dayToMinute
  | .day, .second => some dayToSecond
  | .hour, .hour => some hour
  | .hour, .minute => some hourToMinute
  | .hour, .second => some hourToSecond
  | .minute, .minute => some minute
  | .minute, .second => some minuteToSecond
  | .second, .second => some second
  | _, _ => none

def isYearMonth : Qualifier → Bool
  | year | month | yearToMonth => true
  | _ => false

def hasSeconds (q : Qualifier) : Bool := q.endField == .second

def hasRange (q : Qualifier) : Bool := q.startField != q.endField

/-- The narrowest qualifier whose fields include those of both. -/
def join? (a b : Qualifier) : Option Qualifier :=
  if a.isYearMonth = b.isYearMonth then
    ofFields? (a.startField.coarser b.startField) (a.endField.finer b.endField)
  else none

/-! ## Units -/

/-- One of the leading field. -/
def leadingUnit (q : Qualifier) : Nat := q.startField.unit

/-- The least amount that the qualifier can hold; seconds carry nanoseconds. -/
def trailingUnit (q : Qualifier) : Nat := if q.hasSeconds then 1 else q.endField.unit

/-- How many trailing units make one leading unit: what is left beside the leading field stays
below it. -/
def unitsPerLeading (q : Qualifier) : Nat := q.leadingUnit / q.trailingUnit

theorem ofFields?_fields (q : Qualifier) : ofFields? q.startField q.endField = some q := by
  cases q <;> rfl

theorem trailingUnit_pos (q : Qualifier) : 0 < q.trailingUnit := by cases q <;> decide

theorem unitsPerLeading_pos (q : Qualifier) : 0 < q.unitsPerLeading := by cases q <;> decide

theorem unitsPerLeading_mul_trailingUnit (q : Qualifier) :
    q.unitsPerLeading * q.trailingUnit = q.leadingUnit := by cases q <;> decide

end Qualifier

end SqlInterval
