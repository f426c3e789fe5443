import SqlInterval.Interval.Basic

/-!
# The absolute form

An interval as one signed number: months, or nanoseconds. Arithmetic is done on this form, where it
is exact. The way back drops what is less than the trailing unit of the wanted qualifier, toward
zero.
-/

namespace SqlInterval

/-- The weight of what remains beside the leading field. A single field other than seconds has no
such part, and what is stored there does not count. -/
def Qualifier.remainingUnit (q : Qualifier) : Nat :=
  if q.unitsPerLeading = 1 then 0 else q.trailingUnit

namespace Interval

def magnitude (i : Interval) : Nat :=
  i.leading.toNat * i.qualifier.leadingUnit + i.remaining.toNat * i.qualifier.remainingUnit

def absolute (i : Interval) : Int := if i.negative then -(i.magnitude : Int) else i.magnitude

def ofAbsolute (q : Qualifier) (a : Int) : Except DataError Interval :=
  let units := a.tdiv q.trailingUnit
  let leading := units.tdiv q.unitsPerLeading
  let remaining := units.tmod q.unitsPerLeading
  if maxLeading < leading.natAbs then .error (.number leading)
  else new q (a < 0) leading.natAbs remaining.natAbs

end Interval

end SqlInterval
