import SqlInterval.Calendar.Date

/-!
# Shifting by months

The months of all years are numbered through. A shifted date keeps its day, unless the month that it
arrives in is too short: then it is that month's last day.
-/

namespace SqlInterval.Date

/-- The number of the date's month; January of year zero has number zero. -/
def monthIndex (d : Date) : Int := 12 * d.year + d.month - 1

def addMonths? (d : Date) (months : Int) : Option Date :=
  let index := d.monthIndex + months
  let y := index / 12
  let m := (index % 12).toNat + 1
  ofParts? y m (min d.day (daysInMonth y m))

end SqlInterval.Date
