import SqlInterval.Decimal.Text
import SqlInterval.Double.Shortest

/-!
# Text of doubles

SQL text never has an exponent, and a whole number has no point. Documents always show a fraction or
an exponent, so that a double does not look like an integer.
-/

namespace SqlInterval.Double

def signChars (x : Double) : List Char := if x.isNegative then ['-'] else []

/-- The number as SQL text writes it. -/
def plain (x : Double) : List Char :=
  if x.isNaN then "NaN".toList
  else if !x.isFinite then x.signChars ++ "inf".toList
  else x.signChars ++ (x.shortest .up).plainMagnitude

def text (x : Double) : String := .ofList x.plain

/-- Magnitudes from `10 ^ (-5)` on are written without an exponent. -/
def leastPlainExponent : Int := -5

/-- Magnitudes from `10 ^ 16` on are written with an exponent. -/
def greatestPlainExponent : Int := 15

/-- The number as documents write it; they have no text for what is not finite. -/
def documentChars? (x : Double) : Option (List Char) :=
  if !x.isFinite then none
  else
    let d := x.shortest .even
    let digits := Numeral.nat d.unscaled.natAbs
    let exponent : Int := digits.length - d.scale - 1
    some <| x.signChars ++
      if leastPlainExponent ≤ exponent ∧ exponent ≤ greatestPlainExponent then
        d.plainMagnitude ++ (if d.scale ≤ 0 then ".0".toList else [])
      else
        Decimal.pointAfterFirst digits ++ 'e' :: (if exponent < 0 then '-' else '+')
          :: Numeral.nat exponent.natAbs

end SqlInterval.Double
