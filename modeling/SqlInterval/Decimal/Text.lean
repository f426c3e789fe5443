import SqlInterval.Decimal.Basic

/-!
# Text of decimals

The plain form writes every digit that the scale asks for. The short form, which documents hold,
turns to an exponent where the plain one would be mostly zeros.
-/

namespace SqlInterval.Decimal

def zeros (n : Nat) : List Char := List.replicate n '0'

def signChars (d : Decimal) : List Char := if d.unscaled < 0 then ['-'] else []

/-- The digits of the magnitude with the point where the scale puts it. -/
def plainMagnitude (d : Decimal) : List Char :=
  let digits := Numeral.nat d.unscaled.natAbs
  if d.scale ≤ 0 then digits ++ zeros d.scale.natAbs
  else
    let scale := d.scale.toNat
    if scale < digits.length then
      digits.take (digits.length - scale) ++ '.' :: digits.drop (digits.length - scale)
    else '0' :: '.' :: zeros (scale - digits.length) ++ digits

/-- The number without an exponent: a positive scale gives as many fraction digits, a negative one
as many zeros at the end. -/
def plain (d : Decimal) : List Char := d.signChars ++ d.plainMagnitude

def text (d : Decimal) : String := .ofList d.plain

/-- The first digit, a point and the other digits; the point only if there are others. -/
def pointAfterFirst : List Char → List Char
  | first :: next :: rest => first :: '.' :: next :: rest
  | digits => digits

/-- More zeros than this between the point and the first digit call for an exponent. -/
def maxLeadingZeros : Int := 5

/-- More zeros than this at the end call for an exponent. -/
def maxTrailingZeros : Int := 15

/-- The plain form, or digits and an exponent if the number is too small or too round for it. -/
def short (d : Decimal) : List Char :=
  let digits := Numeral.nat d.unscaled.natAbs
  if d.isZero then ['0']
  else if 0 < d.scale ∧ maxLeadingZeros < d.scale - digits.length then
    d.signChars ++ pointAfterFirst digits ++ 'E' :: Numeral.int (digits.length - d.scale - 1)
  else if maxTrailingZeros < -d.scale then
    d.signChars ++ digits ++ 'e' :: '+' :: Numeral.int (-d.scale)
  else d.plain

/-! ## Reading -/

def digitsOrGaps? (cs : List Char) : Option Nat :=
  if cs.all (fun c => c.isDigit || c = '_') then some (Numeral.value (cs.filter Char.isDigit))
  else none

/-- Digits, after a plus sign or none, between and after which underscores may stand. -/
def readNatural? : List Char → Option Nat
  | [] | '_' :: _ | ['+'] | '+' :: '_' :: _ => none
  | '+' :: rest | rest => digitsOrGaps? rest

/-- A natural number after a minus sign or none. -/
def readInteger? : List Char → Option Int
  | '-' :: '+' :: _ => none
  | '-' :: rest => (readNatural? rest).map fun n => -(n : Int)
  | cs => (readNatural? cs).map Int.ofNat

def readDigits? (ds : List Char) : Option Nat :=
  if ds ≠ [] ∧ ds.all Char.isDigit then some (Numeral.value ds) else none

/-- Digits after a sign or none. -/
def readExponent? : List Char → Option Int
  | '-' :: ds => (readDigits? ds).map fun n => -(n : Int)
  | '+' :: ds | ds => (readDigits? ds).map Int.ofNat

def isExponentMark (c : Char) : Bool := c = 'e' || c = 'E'

/-- Digits with a point and an exponent. The point goes, and counts toward the scale with the digits
after it; the exponent lowers the scale, which has to fit a signed word of 64 bits. -/
def read? (cs : List Char) : Option Decimal := do
  let base := cs.takeWhile (!isExponentMark ·)
  let exponent ← match cs.dropWhile (!isExponentMark ·) with
    | [] => some 0
    | _ :: e => readExponent? e
  let lead := base.takeWhile (· ≠ '.')
  let trail := (base.dropWhile (· ≠ '.')).tail
  let scale := ((trail.filter (· ≠ '_')).length : Int) - exponent
  if base = [] ∨ scale < Int64.minValue.toInt ∨ Int64.maxValue.toInt < scale then none
  else
    let unscaled ← readInteger? (lead ++ trail)
    some ⟨unscaled, scale⟩

end SqlInterval.Decimal
