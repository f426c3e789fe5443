import SqlInterval.Calendar.Text
import SqlInterval.Decimal.Text
import SqlInterval.Double.Text
import SqlInterval.Interval.Literal
import SqlInterval.Value.Basic

/-!
# Literals

The SQL text of a value. It tells the kinds of dates, times and intervals apart; leap seconds show
as the last nanosecond before them.
-/

namespace SqlInterval

def quoted (keyword : String) (cs : List Char) : List Char :=
  keyword.toList ++ ' ' :: '\'' :: cs ++ ['\'']

def TimeOfDay.chars (t : TimeOfDay) : List Char := clockChars t.nanos

def Timestamp.chars (t : Timestamp) : List Char := t.date.chars ++ ' ' :: t.time.chars

namespace Value

def chars : Value → List Char
  | null => "NULL".toList
  | integer n => Numeral.int n.toInt
  | bigInt n => Numeral.int n.toInt
  | decimal d => d.plain
  | double x => "CAST(".toList ++ x.plain ++ " AS DOUBLE PRECISION)".toList
  | date d => quoted "DATE" d.chars
  | time t => quoted "TIME" t.chars
  | timeTz t => quoted "TIME WITH TIME ZONE" (t.time.chars ++ offsetChars t.offset.toInt)
  | timestamp t => quoted "TIMESTAMP" t.chars
  | timestampTz t =>
    quoted "TIMESTAMP WITH TIME ZONE" (t.clock.chars ++ offsetChars t.offset.toInt)
  | interval i => i.chars

def sql (v : Value) : String := .ofList v.chars

end Value

end SqlInterval
