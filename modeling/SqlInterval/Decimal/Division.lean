import SqlInterval.Error
import SqlInterval.Decimal.Text

/-!
# Division of decimals

The quotient of two decimals at a wanted scale is one division of integers. Half a unit rounds down:
the magnitude grows only if more than half a unit was cut off.
-/

namespace SqlInterval.Decimal

/-- Two integers whose quotient is `a / b * 10 ^ scale`. -/
def scaledFraction (a b : Decimal) (scale : Int) : Int × Int :=
  let shift := scale - a.scale + b.scale
  if 0 ≤ shift then (a.unscaled * Nat.pow 10 shift.natAbs, b.unscaled)
  else (a.unscaled, b.unscaled * Nat.pow 10 shift.natAbs)

/-- The integer nearest to `n / d`, of two equally near ones the smaller in magnitude. -/
def roundHalfDown (n d : Int) : Int :=
  let q := n.tdiv d
  let r := n.tmod d
  if d.natAbs < 2 * r.natAbs then
    if r < 0 ↔ d < 0 then q + 1 else q - 1
  else q

/-- The quotient at the given scale. -/
def div (a b : Decimal) (scale : Int) : Except DataError Decimal :=
  if b.isZero then .error (.divisionByZero a.text)
  else
    let (n, d) := scaledFraction a b scale
    .ok ⟨roundHalfDown n d, scale⟩

/-- The integer part of the quotient. -/
def divInt (a b : Decimal) : Except DataError Int :=
  if b.isZero then .error (.divisionByZero a.text)
  else
    let (n, d) := scaledFraction a b 0
    .ok (n.tdiv d)

end SqlInterval.Decimal
