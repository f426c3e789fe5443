import SqlInterval.Calendar.Text
import SqlInterval.Calendar.TimeOfDay
import SqlInterval.Value.Basic
import SqlInterval.WhiteSpace

/-!
# Dates and times in documents

The forms of ISO 8601. A fraction has three, six or nine digits, and a leap second has the number
60. Reading is more liberal: white space may stand around the parts, numbers may be short, and a time
of day may lack its seconds.
-/

namespace SqlInterval

namespace TimeOfDay

/-- The digits of a second's fraction, in groups of three. -/
def fractionGroups (nano : Nat) : List Char :=
  if nano = 0 then []
  else if nano % 1000000 = 0 then '.' :: Numeral.pad 3 (nano / 1000000)
  else if nano % 1000 = 0 then '.' :: Numeral.pad 6 (nano / 1000)
  else '.' :: Numeral.pad 9 nano

/-- The form `hh:mm:ss` with the fraction. -/
def isoChars (t : TimeOfDay) : List Char :=
  let leap := if 1000000000 ≤ t.nano then 1 else 0
  Numeral.pad 2 (t.second / 3600) ++ ':' :: Numeral.pad 2 (t.second / 60 % 60)
    ++ ':' :: Numeral.pad 2 (t.second % 60 + leap) ++ fractionGroups (t.nano % 1000000000)

end TimeOfDay

def Timestamp.isoChars (t : Timestamp) : List Char := t.date.chars ++ 'T' :: t.time.isoChars

/-! ## Reading -/

namespace Iso

/-- A number of at least one and at most `width` digits, after white space. -/
def number? (width : Nat) (cs : List Char) : Option (Nat × List Char) :=
  let cs := trimStart cs
  let digits := (cs.takeWhile Char.isDigit).take width
  if digits = [] then none else some (Numeral.value digits, cs.drop digits.length)

/-- A year of at most four digits, or of any number of digits after a sign. -/
def year? (cs : List Char) : Option (Int × List Char) :=
  let unbounded? (rest : List Char) : Option (Nat × List Char) :=
    if rest.head?.any Char.isDigit then number? rest.length rest else none
  match trimStart cs with
  | '-' :: rest => (unbounded? rest).map fun (n, r) => (-(n : Int), r)
  | '+' :: rest => (unbounded? rest).map fun (n, r) => ((n : Int), r)
  | rest => (number? 4 rest).map fun (n, r) => ((n : Int), r)

/-- The character `c`, after white space. -/
def mark? (c : Char) (cs : List Char) : Option (List Char) :=
  match trimStart cs with
  | d :: rest => if d = c then some rest else none
  | [] => none

def date? (cs : List Char) : Option (Date × List Char) := do
  let (y, cs) ← year? cs
  let cs ← mark? '-' cs
  let (m, cs) ← number? 2 cs
  let cs ← mark? '-' cs
  let (d, cs) ← number? 2 cs
  let date ← Date.ofParts? y m d
  return (date, trimStart cs)

def hourAndMinute? (cs : List Char) : Option (Nat × List Char) := do
  let (h, cs) ← number? 2 cs
  let cs ← mark? ':' cs
  let (m, cs) ← number? 2 cs
  if h < 24 ∧ m < 60 then some (60 * h + m, cs) else none

/-- The fraction of a second in nanoseconds; what goes beyond them is dropped. -/
def fraction? (cs : List Char) : Option (Nat × List Char) :=
  match cs with
  | '.' :: rest =>
    let digits := rest.takeWhile Char.isDigit
    let kept := digits.take 9
    if digits = [] then none
    else some (Numeral.value kept * Nat.pow 10 (9 - kept.length), rest.drop digits.length)
  | rest => some (0, rest)

/-- A second, at most 60, and its fraction. -/
def second? (cs : List Char) : Option (Nat × Nat × List Char) := do
  let cs ← mark? ':' cs
  let (s, cs) ← number? 2 cs
  let (n, cs) ← fraction? cs
  if s ≤ 60 then some (s, n, trimStart cs) else none

/-- The time of day; second 60 runs on in the second before it. -/
def timeOfDay? (minute second nano : Nat) : Option TimeOfDay :=
  if second = 60 then TimeOfDay.ofParts? (60 * minute + 59) (nano + 1000000000)
  else TimeOfDay.ofParts? (60 * minute + second) nano

end Iso

namespace Date

def readIso? (cs : List Char) : Option Date :=
  match Iso.date? cs with
  | some (d, []) => some d
  | _ => none

end Date

namespace TimeOfDay

def readIso? (cs : List Char) : Option TimeOfDay := do
  let (minute, cs) ← Iso.hourAndMinute? cs
  match Iso.second? cs with
  | some (s, n, rest) => if rest = [] then Iso.timeOfDay? minute s n else none
  | none => if trimStart cs = [] then Iso.timeOfDay? minute 0 0 else none

end TimeOfDay

namespace Timestamp

def readIso? (cs : List Char) : Option Timestamp := do
  let (date, cs) ← Iso.date? cs
  let cs ← Iso.mark? 'T' cs
  let (minute, cs) ← Iso.hourAndMinute? cs
  let (s, n, rest) ← Iso.second? cs
  if rest = [] then return ⟨date, ← Iso.timeOfDay? minute s n⟩ else none

end Timestamp

end SqlInterval
