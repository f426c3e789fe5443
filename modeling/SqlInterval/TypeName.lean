import SqlInterval.Numeral
import SqlInterval.Qualifier

/-!
# Names of interval types

`INTERVAL DAY(5) TO SECOND(3)`: the leading field takes the precision, the seconds at the end take
the scale. A type of seconds alone has one pair of brackets for both.
-/

namespace SqlInterval

def bracket (cs : List Char) : List Char := '(' :: cs ++ [')']

namespace Qualifier

/-- The precision of a leading field for which none is written. -/
def defaultPrecision : Int := 2

/-- The scale of seconds for which none is written. -/
def defaultScale : Int := 6

/-- The largest precision of a leading field. -/
def maxPrecision : Int := 18

/-- Seconds are kept to the nanosecond. -/
def maxScale : Int := 9

/-- The qualifier's fields, with the precision and the scale where they are given. -/
def fieldsText (q : Qualifier) (precision scale : Option Int) : List Char :=
  let number (o : Option Int) : List Char := (o.map (bracket ∘ Numeral.int)).getD []
  let leading := q.startField.keyword.toList
  if q = .second then
    match precision, scale with
    | none, none => leading
    | p, none => leading ++ bracket (Numeral.int (p.getD defaultPrecision))
    | p, some s =>
      leading ++ bracket (Numeral.int (p.getD defaultPrecision) ++ ", ".toList ++ Numeral.int s)
  else if q.hasRange then
    leading ++ number precision ++ " TO ".toList ++ q.endField.keyword.toList
      ++ (if q.hasSeconds then number scale else [])
  else leading ++ number precision

/-- The qualifier by itself. -/
def chars (q : Qualifier) : List Char := q.fieldsText none none

/-- The full name of the type. -/
def typeText (q : Qualifier) (precision scale : Option Int) : List Char :=
  "INTERVAL ".toList ++ q.fieldsText precision scale

def text (q : Qualifier) : String := .ofList q.chars

end Qualifier

end SqlInterval
