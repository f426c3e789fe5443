import SqlInterval.Calendar.Date

/-!
# Day numbers

Every date has a number, counted from 1970-01-01 as zero. The year of a number is estimated from the
mean length of a year and then corrected by one; the month follows from the day of the year.
-/

namespace SqlInterval

/-- How many days lie between 0001-01-01 and the first day of year `y`. -/
def daysBeforeYear (y : Int) : Int :=
  365 * (y - 1) + (y - 1) / 4 - (y - 1) / 100 + (y - 1) / 400

/-- How many days of year `y` precede month `m`. -/
def daysBeforeMonth (y : Int) (m : Nat) : Nat :=
  let leapDay := if isLeapYear y then 1 else 0
  match m with
  | 1 => 0
  | 2 => 31
  | 3 => 59 + leapDay
  | 4 => 90 + leapDay
  | 5 => 120 + leapDay
  | 6 => 151 + leapDay
  | 7 => 181 + leapDay
  | 8 => 212 + leapDay
  | 9 => 243 + leapDay
  | 10 => 273 + leapDay
  | 11 => 304 + leapDay
  | 12 => 334 + leapDay
  | _ => 365 + leapDay

/-- How many days lie between 0001-01-01 and 1970-01-01. -/
def epochOffset : Int := 719162

/-- The year in which the day lies that is `n` days after 0001-01-01. -/
def yearOfDay (n : Int) : Int :=
  let guess := 400 * n / 146097 + 1
  if n < daysBeforeYear guess then guess - 1
  else if daysBeforeYear (guess + 1) ≤ n then guess + 1
  else guess

/-- The month of year `y` in which its day `k`, counted from zero, lies. -/
def monthOfDay (y : Int) (k : Nat) : Nat :=
  if k < daysBeforeMonth y 2 then 1
  else if k < daysBeforeMonth y 3 then 2
  else if k < daysBeforeMonth y 4 then 3
  else if k < daysBeforeMonth y 5 then 4
  else if k < daysBeforeMonth y 6 then 5
  else if k < daysBeforeMonth y 7 then 6
  else if k < daysBeforeMonth y 8 then 7
  else if k < daysBeforeMonth y 9 then 8
  else if k < daysBeforeMonth y 10 then 9
  else if k < daysBeforeMonth y 11 then 10
  else if k < daysBeforeMonth y 12 then 11
  else 12

namespace Date

/-- Days since 1970-01-01. -/
def dayNumber (d : Date) : Int :=
  daysBeforeYear d.year + daysBeforeMonth d.year d.month + d.day - 1 - epochOffset

/-- The date with the given number, if its year is within the calendar. -/
def ofDayNumber? (n : Int) : Option Date :=
  let days := n + epochOffset
  let y := yearOfDay days
  let k := (days - daysBeforeYear y).toNat
  let m := monthOfDay y k
  ofParts? y m (k - daysBeforeMonth y m + 1)

end Date

end SqlInterval
