import SqlInterval.Calendar.Date
import SqlInterval.Calendar.TimeOfDay
import SqlInterval.Decimal.Basic
import SqlInterval.Double.Text
import SqlInterval.Interval.Basic
import SqlInterval.SqlType

/-!
# Values

Null, four kinds of numbers, five kinds of dates and times, and intervals. A zoned value shows the
date and the time on the clocks of its zone, and keeps the zone's offset beside them.
-/

namespace SqlInterval

/-- The distance of a time zone from UTC, in seconds. -/
abbrev ZoneOffset := Int32

namespace ZoneOffset

/-- Eighteen hours. -/
def limit : Nat := 64800

def Valid (offset : ZoneOffset) : Prop := offset.toInt.natAbs ≤ limit

instance (offset : ZoneOffset) : Decidable offset.Valid := inferInstanceAs (Decidable (_ ≤ _))

/-- The distance of the offset from zero, which is a word, too, is within the limit. The least word is its own
distance, and less than any limit. -/
def Accepted (offset : ZoneOffset) : Prop := offset.abs.toInt ≤ limit

instance (offset : ZoneOffset) : Decidable offset.Accepted := inferInstanceAs (Decidable (_ ≤ _))

/-- The offset itself, if it is not too far from zero. -/
def check (offset : ZoneOffset) : Except DataError ZoneOffset :=
  if offset.Accepted then .ok offset
  else .error (.invalidValue "time zone offset" (Numeral.text offset.toInt))

end ZoneOffset

structure Timestamp where
  date : Date
  time : TimeOfDay
deriving DecidableEq

structure ZonedTime where
  time : TimeOfDay
  offset : ZoneOffset
deriving DecidableEq

structure ZonedTimestamp where
  clock : Timestamp
  offset : ZoneOffset
deriving DecidableEq

def ZonedTime.new (time : TimeOfDay) (offset : ZoneOffset) : Except DataError ZonedTime := do
  return ⟨time, ← offset.check⟩

def ZonedTimestamp.new (clock : Timestamp) (offset : ZoneOffset) :
    Except DataError ZonedTimestamp := do
  return ⟨clock, ← offset.check⟩

inductive Value where
  | null
  | integer (n : Int32)
  | bigInt (n : Int64)
  | decimal (d : Decimal)
  | double (x : Double)
  | date (d : Date)
  | time (t : TimeOfDay)
  | timeTz (t : ZonedTime)
  | timestamp (t : Timestamp)
  | timestampTz (t : ZonedTimestamp)
  | interval (i : Interval)
deriving DecidableEq

namespace Value

def isNull : Value → Bool
  | null => true
  | _ => false

def kind : Value → Kind
  | null => .null
  | integer _ => .integer
  | bigInt _ => .bigInt
  | decimal _ => .decimal
  | double _ => .double
  | date _ => .date
  | time _ => .time
  | timeTz _ => .timeTz
  | timestamp _ => .timestamp
  | timestampTz _ => .timestampTz
  | interval i => .interval i.qualifier

/-- A scale that does not fit a signed word of 32 bits is shown as the largest one. -/
def shownScale (scale : Int) : Int :=
  if Int32.minValue.toInt ≤ scale ∧ scale ≤ Int32.maxValue.toInt then scale
  else Int32.maxValue.toInt

/-- A decimal has its own precision and scale, every other value those of its kind. -/
def type : Value → SqlType
  | decimal d => ⟨.decimal, d.precision, shownScale d.scale⟩
  | v => .of v.kind

def interval? : Value → Option Interval
  | interval i => some i
  | _ => none

/-- The exact decimal that a number is. -/
def toDecimal : Value → Except DataError Decimal
  | integer n => .ok (.ofInt n.toInt)
  | bigInt n => .ok (.ofInt n.toInt)
  | decimal d => .ok d
  | double x =>
    match x.toDecimal? with
    | some d => .ok d
    | none => .error (.conversion x.text "NUMERIC")
  | v => .error (.conversion v.kind.name "NUMERIC")

/-- A time of day with its zone; one without a zone is taken to be in the session's. -/
def toZonedTime (session : ZoneOffset) : Value → Except DataError ZonedTime
  | time t => ZonedTime.new t session
  | timeTz t => .ok t
  | v => .error (.conversion v.kind.name Kind.timeTz.name)

/-- A date or timestamp with its zone; one without a zone is taken to be in the session's. -/
def toZonedTimestamp (session : ZoneOffset) : Value → Except DataError ZonedTimestamp
  | date d => ZonedTimestamp.new ⟨d, .midnight⟩ session
  | timestamp t => ZonedTimestamp.new t session
  | timestampTz t => .ok t
  | v => .error (.conversion v.kind.name Kind.timestampTz.name)

/-- Equality of values: of one kind, decimals and doubles as numbers and all else field by field. -/
def same : Value → Value → Bool
  | decimal a, decimal b => a.same b
  | double a, double b => a.same b
  | a, b => a = b

end Value

end SqlInterval
