import SqlInterval.Qualifier
import SqlInterval.Error

/-!
# Times of day

A second of the day and a nanosecond in it. The nanoseconds may run on for one second more, the leap
second; in a count of nanoseconds a leap second is folded into the last nanosecond before it. A time can
be in a leap second after any other one, but clocks have it only at the end of a minute.
-/

namespace SqlInterval

structure TimeOfDay where
  second : Nat
  nano : Nat
  second_lt : second < 86400
  nano_lt : nano < 2000000000
deriving DecidableEq

namespace TimeOfDay

/-- The time with these parts, if the clock has it. -/
def ofParts? (s n : Nat) : Option TimeOfDay :=
  if h : s < 86400 ∧ n < 2000000000 ∧ (1000000000 ≤ n → s % 60 = 59) then
    some ⟨s, n, h.1, h.2.1⟩
  else none

def midnight : TimeOfDay := ⟨0, 0, by decide, by decide⟩

/-- Nanoseconds since midnight. -/
def nanos (t : TimeOfDay) : Nat := t.second * nanosPerSecond + min t.nano 999999999

/-- The time of day with this many nanoseconds since midnight, which must lie within one day. -/
def ofNanos (n : Int) : Except DataError TimeOfDay :=
  if h : 0 ≤ n ∧ n < nanosPerDay then
    .ok ⟨n.toNat / nanosPerSecond, n.toNat % nanosPerSecond,
      by simp only [nanosPerSecond, nanosPerDay] at *; omega,
      by simp only [nanosPerSecond]; omega⟩
  else .error (.number n)

end TimeOfDay

end SqlInterval
