import SqlInterval.Interval.Absolute

/-!
# Conversion of intervals

To another qualifier of the same family, and to fewer digits of the seconds' fraction. The second
rounds half up in magnitude; a full unit is carried into the leading field.
-/

namespace SqlInterval

/-- The multiple of `unit` nearest to `n`, of two equally near ones the greater. -/
def roundHalfUp (unit n : Nat) : Nat :=
  let rest := n % unit
  if 2 * rest < unit then n - rest else n - rest + unit

/-- What the last of `scale` fractional digits of a second counts, in nanoseconds. -/
def digitUnit (scale : Nat) : Nat := Nat.pow 10 (9 - scale)

namespace Interval

def requalify (i : Interval) (q : Qualifier) : Except DataError Interval :=
  if q = i.qualifier then .ok i
  else if q.isYearMonth ≠ i.qualifier.isYearMonth then
    .error (.conversion ("INTERVAL " ++ i.qualifier.text) ("INTERVAL " ++ q.text))
  else ofAbsolute q i.absolute

/-- The interval with its seconds rounded to `scale` fractional digits. -/
def roundSeconds (i : Interval) (scale : Int) : Except DataError Interval :=
  if Qualifier.maxScale ≤ scale ∨ i.qualifier.hasSeconds = false then .ok i
  else if scale < 0 then .error (.invalidValue "scale" (Numeral.text scale))
  else
    let rounded := roundHalfUp (digitUnit scale.toNat) i.remaining.toNat
    if rounded = i.remaining.toNat then .ok i
    else if rounded < i.qualifier.unitsPerLeading then
      new i.qualifier i.negative i.leading.toNat rounded
    else if i.leading.toNat + 1 = UInt64.size then .error (.number i.leading.toNat)
    else new i.qualifier i.negative (i.leading.toNat + 1) (rounded - i.qualifier.unitsPerLeading)

end Interval

end SqlInterval
