import SqlInterval.FaultCode

/-!
# Errors

A data error says that a value cannot be built, converted or computed. An evaluation error is a data
error, or a fault of the expression that was to be evaluated.
-/

namespace SqlInterval

inductive DataError where
  /-- A computed value does not fit where it should go. -/
  | outOfRange (value : String)
  /-- The divisor is exactly zero. -/
  | divisionByZero (dividend : String)
  /-- A part of a value is not admitted. -/
  | invalidValue (parameter value : String)
  /-- A value has no counterpart of the wanted kind. -/
  | conversion (source target : String)
deriving DecidableEq, Repr

namespace DataError

/-- The number `z` does not fit. -/
def number (z : Int) : DataError := outOfRange (Numeral.text z)

def message : DataError → String
  | outOfRange value => "Numeric value out of range: " ++ value
  | divisionByZero dividend => "Division by zero: " ++ dividend
  | invalidValue parameter value =>
    "Invalid value \"" ++ value ++ "\" for parameter \"" ++ parameter ++ "\""
  | conversion source target => "Data conversion error converting " ++ source ++ " to " ++ target

def code : DataError → FaultCode
  | outOfRange _ => .numericValueOutOfRange
  | divisionByZero _ => .divisionByZero
  | invalidValue _ _ => .invalidValue
  | conversion _ _ => .conversionFailed

end DataError

inductive EvalError where
  | data (e : DataError)
  /-- The operation is not defined for operands of these kinds. -/
  | incompatible (operation left right : String)
  /-- The column has no slot in the row yet. -/
  | unmappedColumn (name : String)
  /-- There is no operand, or no slot of the row, with this index. -/
  | indexOutOfBounds (index : Nat)
  /-- An operand is of a kind that the types rule out. -/
  | internal (detail : String)
deriving DecidableEq, Repr

namespace EvalError

def message : EvalError → String
  | data e => e.message
  | incompatible operation left right =>
    "Incompatible operand types for " ++ operation ++ ": " ++ left ++ " and " ++ right
  | unmappedColumn name => "Column not mapped: " ++ name
  | indexOutOfBounds index => "Index " ++ Numeral.text index ++ " out of bounds"
  | internal detail => "Internal evaluation error: " ++ detail

def code : EvalError → FaultCode
  | data e => e.code
  | incompatible _ _ _ => .incompatibleOperands
  | unmappedColumn _ => .columnNotMapped
  | indexOutOfBounds _ => .indexOutOfBounds
  | internal _ => .internal

def isInternal : EvalError → Bool
  | internal _ => true
  | _ => false

end EvalError

/-- Data errors pass through an evaluation unchanged. -/
instance : MonadLift (Except DataError) (Except EvalError) where
  monadLift := Except.mapError .data

end SqlInterval
