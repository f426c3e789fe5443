import SqlInterval.Calendar.Text
import SqlInterval.Interval.Basic

/-!
# Interval literals

`INTERVAL '-1 02:03:04.5' DAY TO SECOND`: the sign, the leading field, what remains spelled out in
the fields down to the end field, and the qualifier.
-/

namespace SqlInterval.Interval

/-- The nanoseconds beside the leading field, read as a signed word. -/
def nanos (i : Interval) : Int := i.remaining.toInt64.toInt

/-- The text between the quotes, without the sign. -/
def fieldsChars (i : Interval) : List Char :=
  let leading := Numeral.nat i.leading.toNat
  let rest := i.remaining.toNat
  let seconds := ':' :: Numeral.padInt 2 ((i.nanos.tdiv nanosPerSecond).tmod 60)
  match i.qualifier with
  | .year | .month | .day | .hour | .minute => leading
  | .second => leading ++ fractionChars i.nanos
  | .yearToMonth => leading ++ '-' :: Numeral.nat rest
  | .dayToHour => leading ++ ' ' :: Numeral.pad 2 rest
  | .dayToMinute => leading ++ ' ' :: Numeral.pad 2 (rest / 60) ++ ':' :: Numeral.pad 2 (rest % 60)
  | .dayToSecond => leading ++ ' ' :: clockChars i.nanos
  | .hourToMinute => leading ++ ':' :: Numeral.pad 2 rest
  | .hourToSecond =>
    leading ++ ':' :: Numeral.padInt 2 (i.nanos.tdiv nanosPerMinute) ++ seconds
      ++ fractionChars i.nanos
  | .minuteToSecond =>
    leading ++ ':' :: Numeral.padInt 2 (i.nanos.tdiv nanosPerSecond) ++ fractionChars i.nanos

def chars (i : Interval) : List Char :=
  "INTERVAL '".toList ++ (if i.negative then ['-'] else []) ++ i.fieldsChars ++ "' ".toList
    ++ i.qualifier.chars

end SqlInterval.Interval
