import SqlInterval.Error
import SqlInterval.Value.Basic

/-!
# Sessions

What an evaluation reads beside the expression: the settings of the session and the current row.
-/

namespace SqlInterval

structure Settings where
  /-- The zone of all times and timestamps that have none of their own. -/
  zoneOffset : ZoneOffset := 0
deriving DecidableEq

structure Context where
  settings : Settings := {}
  row : List Value := []

namespace Context

def zoneOffset (c : Context) : ZoneOffset := c.settings.zoneOffset

/-- The value in a slot of the current row. -/
def read (c : Context) (slot : Nat) : Except EvalError Value :=
  match c.row[slot]? with
  | some v => .ok v
  | none => .error (.indexOutOfBounds slot)

end Context

end SqlInterval
