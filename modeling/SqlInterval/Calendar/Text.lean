import SqlInterval.Numeral
import SqlInterval.Qualifier
import SqlInterval.Calendar.Date

/-!
# Text of dates, clocks and zone offsets

Years have at least four digits; those beyond 9999 carry a plus sign, those before zero a minus
sign. A clock shows as many digits of the second's fraction as it has.
-/

namespace SqlInterval

def yearChars (y : Int) : List Char :=
  if y < 0 then '-' :: Numeral.pad 4 y.natAbs
  else if 9999 < y then '+' :: Numeral.nat y.natAbs
  else Numeral.pad 4 y.natAbs

/-- The form `yyyy-mm-dd`. -/
def Date.chars (d : Date) : List Char :=
  yearChars d.year ++ '-' :: Numeral.pad 2 d.month ++ '-' :: Numeral.pad 2 d.day

/-- What a count of nanoseconds has beyond whole seconds, as a decimal fraction; nothing if that is
zero. -/
def fractionChars (nanos : Int) : List Char :=
  let fraction := nanos.tmod nanosPerSecond
  if fraction = 0 then [] else '.' :: Numeral.dropTrailingZeros (Numeral.padInt 9 fraction)

/-- The form `hh:mm:ss`, with the fraction; each part has the sign of the whole. -/
def clockChars (nanos : Int) : List Char :=
  Numeral.padInt 2 (nanos.tdiv nanosPerHour)
    ++ ':' :: Numeral.padInt 2 ((nanos.tdiv nanosPerMinute).tmod 60)
    ++ ':' :: Numeral.padInt 2 ((nanos.tdiv nanosPerSecond).tmod 60)
    ++ fractionChars nanos

/-- The form `+hh:mm:ss`; minutes and seconds are left out where all that follows is zero. -/
def offsetChars (seconds : Int) : List Char :=
  let n := seconds.natAbs
  let h := (if seconds < 0 then '-' else '+') :: Numeral.pad 2 (n / 3600)
  let m := ':' :: Numeral.pad 2 (n / 60 % 60)
  let s := ':' :: Numeral.pad 2 (n % 60)
  if n % 60 ≠ 0 then h ++ m ++ s
  else if n / 60 % 60 ≠ 0 then h ++ m
  else h

end SqlInterval
