import SqlInterval.TypeName
import SqlInterval.Error

/-!
# Interval values

An interval keeps its sign apart from its magnitude: the leading field, and beside it what remains,
counted in the qualifier's trailing unit. A stored value may hold any two words; `Interval.new`
gives the valid ones.
-/

namespace SqlInterval

structure Interval where
  qualifier : Qualifier
  negative : Bool
  leading : UInt64
  remaining : UInt64
deriving DecidableEq

namespace Interval

/-- A leading field has at most eighteen digits. -/
def maxLeading : Nat := 999999999999999999

def isZero (i : Interval) : Bool := i.leading = 0 && i.remaining = 0

/-- The fields are within their bounds, and zero has no sign. -/
def Valid (i : Interval) : Prop :=
  i.leading.toNat ≤ maxLeading ∧ i.remaining.toNat < i.qualifier.unitsPerLeading ∧
    ¬ (i.negative = true ∧ i.isZero = true)

instance (i : Interval) : Decidable i.Valid := inferInstanceAs (Decidable (_ ∧ _ ∧ ¬ _))

/-- The interval with these fields, if they are within their bounds. -/
def new (q : Qualifier) (negative : Bool) (leading remaining : Nat) : Except DataError Interval :=
  if maxLeading < leading then .error (.number leading)
  else if q.unitsPerLeading ≤ remaining then
    .error (.invalidValue "remaining" (Numeral.text remaining))
  else
    .ok ⟨q, negative && (leading ≠ 0 || remaining ≠ 0), .ofNat leading, .ofNat remaining⟩

/-- The same magnitude with the other sign. -/
def negate (i : Interval) : Interval := { i with negative := !i.negative && !i.isZero }

end Interval

end SqlInterval
