import SqlInterval.Double.Basic

/-!
# Shortest decimals

The decimal with the fewest digits that lies in the interval of numbers which round to a given
double. Such a decimal with a given number of digits exists only if one of the double's two
neighbours on that grid is one, so it is enough to try these, from one digit up.
-/

namespace SqlInterval.Double

/-- Which of two equally near decimals is taken. -/
inductive Tie where
  | even | up
deriving DecidableEq

/-- Four times the significand, and four times the ends of the interval that rounds to the double.
Below a power of two the doubles lie twice as dense. -/
def quarters (x : Double) : Nat × Nat × Nat :=
  let m := 4 * x.significand
  (if x.fractionField = 0 ∧ 1 < x.exponentField then m - 1 else m - 2, m, m + 2)

/-- A number of quarters in units of `10 ^ (-scale)`, as a fraction. -/
def onGrid (x : Double) (scale : Int) (quarters : Nat) : Nat × Nat :=
  (quarters * Nat.pow 2 x.exponent.toNat * Nat.pow 10 scale.toNat,
    4 * Nat.pow 2 (-x.exponent).toNat * Nat.pow 10 (-scale).toNat)

/-- The nearer neighbour on the grid among those in the interval; the ends belong to the interval if
the significand is even. -/
def neighbour? (tie : Tie) (x : Double) (scale : Int) : Option Nat :=
  let (lo, mid, hi) := x.quarters
  let (a, d) := x.onGrid scale mid
  let low := (x.onGrid scale lo).1
  let high := (x.onGrid scale hi).1
  let inside (c : Nat) : Bool :=
    if x.significand % 2 = 0 then low ≤ c * d && c * d ≤ high else low < c * d && c * d < high
  let below := a / d
  let above := below + 1
  if inside below && inside above then
    match compare (2 * a) ((below + above) * d) with
    | .lt => some below
    | .gt => some above
    | .eq => some (if tie = .even ∧ below % 2 = 0 then below else above)
  else if inside below then some below
  else if inside above then some above
  else none

/-- How many digits the number has before the point; for a fraction, less the zeros after it. -/
def digitPlaces (x : Double) : Int :=
  let (a, d) := x.onGrid 400 (4 * x.significand)
  (Numeral.nat (a / d)).length - 400

/-- The magnitude of a finite double with the fewest digits; seventeen always suffice. -/
def shortest (tie : Tie) (x : Double) : Decimal :=
  if x.isZero then ⟨0, 0⟩
  else
    let first := 1 - x.digitPlaces
    let found := (List.range 17).findSome? fun (n : Nat) =>
      (x.neighbour? tie (first + n)).map fun (c : Nat) => (⟨c, first + n⟩ : Decimal)
    (found.getD ⟨0, 0⟩).normalize

end SqlInterval.Double
