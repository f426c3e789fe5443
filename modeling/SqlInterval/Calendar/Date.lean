/-!
# Dates

The Gregorian calendar, extended without end in both directions and with a year zero. A date lies
between the years -262143 and 262142 and is a day of a month of its year.
-/

namespace SqlInterval

def isLeapYear (y : Int) : Bool := y % 4 = 0 && (y % 100 ≠ 0 || y % 400 = 0)

def daysInMonth (y : Int) (m : Nat) : Nat :=
  match m with
  | 2 => if isLeapYear y then 29 else 28
  | 4 | 6 | 9 | 11 => 30
  | _ => 31

structure Date where
  year : Int
  month : Nat
  day : Nat
  le_year : -262143 ≤ year := by omega
  year_le : year ≤ 262142 := by omega
  one_le_month : 1 ≤ month := by omega
  month_le : month ≤ 12 := by omega
  one_le_day : 1 ≤ day := by omega
  day_le : day ≤ daysInMonth year month
deriving DecidableEq

namespace Date

/-- Dates come one after another by year, then by month, then by day. -/
instance : LE Date where
  le d e := d.year < e.year ∨
    d.year = e.year ∧ (d.month < e.month ∨ d.month = e.month ∧ d.day ≤ e.day)

instance (d e : Date) : Decidable (d ≤ e) := inferInstanceAs (Decidable (_ ∨ _))

instance : LT Date where
  lt d e := d.year < e.year ∨
    d.year = e.year ∧ (d.month < e.month ∨ d.month = e.month ∧ d.day < e.day)

instance (d e : Date) : Decidable (d < e) := inferInstanceAs (Decidable (_ ∨ _))

/-- The date with these parts, if the calendar has it. -/
def ofParts? (y : Int) (m d : Nat) : Option Date :=
  if h : (-262143 ≤ y ∧ y ≤ 262142) ∧ (1 ≤ m ∧ m ≤ 12) ∧ (1 ≤ d ∧ d ≤ daysInMonth y m) then
    some ⟨y, m, d, h.1.1, h.1.2, h.2.1.1, h.2.1.2, h.2.2.1, h.2.2.2⟩
  else none

/-- 1970-01-01 -/
def epoch : Date := ⟨1970, 1, 1, by decide, by decide, by decide, by decide, by decide, by decide⟩

/-- -262143-01-01, the first date. -/
def first : Date := ⟨-262143, 1, 1, by decide, by decide, by decide, by decide, by decide, by decide⟩

/-- 262142-12-31, the last date. -/
def last : Date := ⟨262142, 12, 31, by decide, by decide, by decide, by decide, by decide, by decide⟩

theorem ofParts?_parts (d : Date) : ofParts? d.year d.month d.day = some d := by
  obtain ⟨y, m, d, h1, h2, h3, h4, h5, h6⟩ := d
  simp [ofParts?, *]

theorem ofParts?_eq_some {y : Int} {m d : Nat} {r : Date} (h : ofParts? y m d = some r) :
    r.year = y ∧ r.month = m ∧ r.day = d := by
  unfold ofParts? at h
  split at h
  · obtain rfl := Option.some.inj h
    exact ⟨rfl, rfl, rfl⟩
  · cases h

end Date

end SqlInterval
