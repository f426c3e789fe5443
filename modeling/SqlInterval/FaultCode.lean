import SqlInterval.Numeral

/-!
# Error codes

A code is a number with four digits. Its hundreds tell what kind of fault it stands for, and a table
holds what is known about the single codes.
-/

namespace SqlInterval

structure FaultCode where
  number : Nat
deriving DecidableEq, Repr

namespace FaultCode

def numericValueOutOfRange : FaultCode := ⟨1⟩
def divisionByZero : FaultCode := ⟨2⟩
def invalidValue : FaultCode := ⟨3⟩
def conversionFailed : FaultCode := ⟨4⟩
def incompatibleOperands : FaultCode := ⟨100⟩
def columnNotMapped : FaultCode := ⟨200⟩
def indexOutOfBounds : FaultCode := ⟨201⟩
def internal : FaultCode := ⟨900⟩

def text (c : FaultCode) : String := .ofList ("TMP".toList ++ Numeral.pad 4 c.number)

/-- Faults of the data; the number zero belongs to no family. -/
def isData (c : FaultCode) : Bool := 1 ≤ c.number && c.number < 100

/-- Faults of an expression's types. -/
def isTyping (c : FaultCode) : Bool := 100 ≤ c.number && c.number < 200

/-- Faults of evaluation. -/
def isEvaluation (c : FaultCode) : Bool := 200 ≤ c.number && c.number < 300

/-- Broken contracts, which no user should see. -/
def isInternal (c : FaultCode) : Bool := 900 ≤ c.number && c.number < 1000

/-- A short description, and a longer help text where there is one. -/
def info (c : FaultCode) : String × Option String :=
  match c.number with
  | 1 => ("Numeric value out of range",
      some "The computed value does not fit the target type; time-of-day arithmetic does not wrap around midnight")
  | 2 => ("Division by zero", none)
  | 3 => ("Invalid value", none)
  | 4 => ("Data conversion failed", none)
  | 100 => ("Incompatible operand types",
      some "Year-month and day-time intervals cannot be combined, and a time of day only accepts day-time intervals")
  | 200 => ("Column is not mapped", none)
  | 201 => ("Index out of bounds", none)
  | 900 => ("Internal error", none)
  | _ => ("Unknown error", none)

def description (c : FaultCode) : String := c.info.1

def help? (c : FaultCode) : Option String := c.info.2

end FaultCode

end SqlInterval
