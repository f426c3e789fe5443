import SqlInterval.Numeral

/-!
# Decimals

A decimal is an integer times a power of ten. It is not normalized: numbers that are equal may
differ in their scale, and only their scale says how many digits they are written with.
-/

namespace SqlInterval

/-- The number `unscaled * 10 ^ (-scale)`. -/
structure Decimal where
  unscaled : Int
  scale : Int
deriving DecidableEq

namespace Decimal

def ofInt (z : Int) : Decimal := ⟨z, 0⟩

def isZero (d : Decimal) : Bool := d.unscaled = 0

/-- How many digits the unscaled number has; zero has one. -/
def precision (d : Decimal) : Nat := (Numeral.nat d.unscaled.natAbs).length

/-- The integer part. -/
def truncate (d : Decimal) : Int :=
  if d.scale ≤ 0 then d.unscaled * Nat.pow 10 d.scale.natAbs
  else d.unscaled.tdiv (Nat.pow 10 d.scale.natAbs)

/-! ## Order -/

/-- The order of two numbers that are not negative. The one whose first digit has the higher place is
the greater; if the places are equal, both are written out with the same scale. -/
def compareMagnitude (a b : Decimal) : Ordering :=
  if a.unscaled = 0 ∨ b.unscaled = 0 then compare a.unscaled.natAbs b.unscaled.natAbs
  else
    (compare (a.precision - a.scale) (b.precision - b.scale)).then
      (compare (a.unscaled.natAbs * Nat.pow 10 (b.scale - a.scale).toNat)
        (b.unscaled.natAbs * Nat.pow 10 (a.scale - b.scale).toNat))

/-- The order of the numbers, whatever their scales. -/
def cmp (a b : Decimal) : Ordering :=
  (compare a.unscaled.sign b.unscaled.sign).then
    (if a.unscaled < 0 then compareMagnitude b a else compareMagnitude a b)

/-- The decimals denote one number. -/
def same (a b : Decimal) : Bool := a.cmp b = .eq

/-! ## Product -/

def withoutTrailingZeros : Nat → Decimal → Decimal
  | 0, d => d
  | n + 1, d =>
    if d.unscaled % 10 = 0 then withoutTrailingZeros n ⟨d.unscaled / 10, d.scale - 1⟩ else d

/-- The same number with an unscaled number that does not end in zero; zero itself has scale zero. -/
def normalize (d : Decimal) : Decimal :=
  if d.isZero then ⟨0, 0⟩ else withoutTrailingZeros d.precision d

/-- The exact product. The scales add, but a factor that equals one leaves the other one
normalized. -/
def mul (a b : Decimal) : Decimal :=
  if a.same (ofInt 1) then b.normalize
  else if b.same (ofInt 1) then a.normalize
  else ⟨a.unscaled * b.unscaled, a.scale + b.scale⟩

end Decimal

end SqlInterval
