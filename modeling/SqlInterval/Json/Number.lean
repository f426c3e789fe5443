import SqlInterval.Double.Rounding
import SqlInterval.Numeral

/-!
# Numbers in documents

A number without fraction and exponent is an integer if it fits a word of 64 bits, signed if it is
negative; every other one is a double. The double is found from the leading digits that fit a word
and a power of ten, in two roundings, and so is not always the nearest one.
-/

namespace SqlInterval.Json

/-- The parts of a number's text. -/
structure NumberParts where
  negative : Bool
  whole : List Char
  fraction : List Char
  /-- The sign and the digits of the exponent. -/
  exponent : Option (Bool × List Char)
deriving DecidableEq

namespace NumberParts

def exponent? : List Char → Option (Bool × List Char)
  | '-' :: ds => if ds ≠ [] ∧ ds.all Char.isDigit then some (true, ds) else none
  | '+' :: ds | ds => if ds ≠ [] ∧ ds.all Char.isDigit then some (false, ds) else none

/-- The digits after a point, if there is a point, and what follows them. -/
def fraction? : List Char → Option (List Char × List Char)
  | '.' :: rest =>
    let digits := rest.takeWhile Char.isDigit
    if digits = [] then none else some (digits, rest.dropWhile Char.isDigit)
  | rest => some ([], rest)

/-- Takes the text of a number apart; digits must stand wherever they can, and no zero may stand
before another digit of the whole part. -/
def ofChars? (cs : List Char) : Option NumberParts := do
  let negative := cs.head? = some '-'
  let cs := if negative then cs.tail else cs
  let whole := cs.takeWhile Char.isDigit
  let (fraction, rest) ← fraction? (cs.dropWhile Char.isDigit)
  if whole = [] ∨ (whole.head? = some '0' ∧ whole ≠ ['0']) then none
  else
    match rest with
    | [] => some ⟨negative, whole, fraction, none⟩
    | mark :: e =>
      if mark = 'e' ∨ mark = 'E' then
        (exponent? e).map fun e => ⟨negative, whole, fraction, some e⟩
      else none

end NumberParts

inductive Number where
  | integer (z : Int)
  | double (x : Double)
deriving DecidableEq

namespace Number

/-- One more than the largest word. -/
def wordSize : Nat := UInt64.size

/-- The largest exponent that is told from greater ones. -/
def maxExponent : Int := 2147483647

/-- Appends digits to a number as long as it fits a word; the rest of them is left over. -/
def accumulate : Nat → List Char → Nat × List Char
  | n, [] => (n, [])
  | n, c :: cs =>
    let next := 10 * n + (c.toNat - '0'.toNat)
    if next < wordSize then accumulate next cs else (n, c :: cs)

/-- The double `x * 10 ^ e`, unless it is too large. -/
def scaled (x : Double) (e : Int) : Option Double :=
  if e.natAbs ≤ 308 then
    let power := Double.ofFraction (Nat.pow 10 e.natAbs) 1
    if e < 0 then some (x.div power)
    else if (x.mul power).isFinite then some (x.mul power)
    else none
  else if x.isZero then some x
  else if 0 < e then none
  else scaled (x.div (Double.ofFraction (Nat.pow 10 308) 1)) (e + 308)
termination_by e.natAbs
decreasing_by omega

/-- The magnitude of a number that is no integer. Digits that do not fit are skipped; those of the
whole part then count toward the exponent. -/
def magnitude? (p : NumberParts) : Option Double :=
  let (n, skipped) := accumulate 0 p.whole
  let (m, unread) := accumulate n p.fraction
  let shift : Int := skipped.length - (p.fraction.length - unread.length)
  match p.exponent with
  | none => scaled (Double.ofFraction m 1) shift
  | some (negative, digits) =>
    let e : Int := Numeral.value digits
    if maxExponent < e then
      if m = 0 ∨ negative then some Double.zero else none
    else
      let sum := if negative then shift - e else shift + e
      scaled (Double.ofFraction m 1) (max (-maxExponent - 1) (min sum maxExponent))

/-- The number that a text denotes, if it is not too large. -/
def ofParts? (p : NumberParts) : Option Number :=
  let n := Numeral.value p.whole
  let isWhole := p.fraction = [] ∧ p.exponent = none
  if isWhole ∧ !p.negative ∧ n < wordSize then some (.integer n)
  else if isWhole ∧ p.negative ∧ 0 < n ∧ n ≤ wordSize / 2 then some (.integer (-n))
  else (magnitude? p).map fun x => .double (if p.negative then x.neg else x)

def ofChars? (cs : List Char) : Option Number := (NumberParts.ofChars? cs).bind ofParts?

/-- The number as a double; integers are rounded to the nearest one. -/
def toDouble : Number → Double
  | integer z => if z < 0 then (Double.ofFraction z.natAbs 1).neg else Double.ofFraction z.natAbs 1
  | double x => x

end Number

end SqlInterval.Json
