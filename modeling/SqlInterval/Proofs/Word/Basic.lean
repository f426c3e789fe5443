import SqlInterval.Operator.Shift
import SqlInterval.Proofs.Outcome

/-!
# Steps of fixed width

A machine computes step by step in words of fixed width. A step has its exact result if the word holds it;
otherwise the computation has left its words, which is a fault beside the errors that it reports itself.
-/

namespace SqlInterval

/-- Words of 32 and of 64 bits, with a sign and without. -/
inductive Word where
  | i32 | i64 | u32 | u64
deriving DecidableEq, Repr

namespace Word

def least : Word → Int
  | i32 => Int32.minValue.toInt
  | i64 => Int64.minValue.toInt
  | u32 | u64 => 0

def greatest : Word → Int
  | i32 => Int32.maxValue.toInt
  | i64 => Int64.maxValue.toInt
  | u32 => UInt32.size - 1
  | u64 => UInt64.size - 1

/-- The number is one of the word's. -/
def Holds (w : Word) (z : Int) : Prop := w.least ≤ z ∧ z ≤ w.greatest

instance (w : Word) (z : Int) : Decidable (w.Holds z) := inferInstanceAs (Decidable (_ ∧ _))

end Word

/-- Why a computation in words gives no value. -/
inductive WordFault where
  /-- A step leaves its word: this would be its exact result. -/
  | overflow (w : Word) (exact : Int)
  /-- The operation reports an error. -/
  | error (e : EvalError)
deriving DecidableEq, Repr

/-- Errors pass through a computation in words unchanged. -/
instance : MonadLift (Except EvalError) (Except WordFault) where
  monadLift := Except.mapError .error

/-- A step whose exact result is `z`. -/
def Word.step (w : Word) (z : Int) : Except WordFault Int :=
  if w.Holds z then .ok z else .error (.overflow w z)

/-- The computation reports a data error. -/
def InWords.fail {α : Type} (e : DataError) : Except WordFault α := .error (.error (.data e))

variable {α β : Type} {z : Int}

/-! ## What the words hold -/

namespace Word

theorem holds_i32 : i32.Holds z ↔ -2147483648 ≤ z ∧ z ≤ 2147483647 := Iff.rfl

theorem holds_i64 : i64.Holds z ↔ -9223372036854775808 ≤ z ∧ z ≤ 9223372036854775807 := Iff.rfl

theorem holds_u32 : u32.Holds z ↔ 0 ≤ z ∧ z ≤ 4294967295 := Iff.rfl

theorem holds_u64 : u64.Holds z ↔ 0 ≤ z ∧ z ≤ 18446744073709551615 := Iff.rfl

theorem step_eq {w : Word} (h : w.Holds z) : w.step z = .ok z := if_pos h

theorem step_i32 (h : z.natAbs < 2147483648) : i32.step z = .ok z :=
  step_eq (holds_i32.mpr (by omega))

theorem step_i64 (h : z.natAbs < 9223372036854775808) : i64.step z = .ok z :=
  step_eq (holds_i64.mpr (by omega))

theorem step_u32 {n : Nat} (h : n < 4294967296) : u32.step n = .ok (n : Int) :=
  step_eq (holds_u32.mpr (by omega))

theorem step_u64 {n : Nat} (h : n < 18446744073709551616) : u64.step n = .ok (n : Int) :=
  step_eq (holds_u64.mpr (by omega))

end Word

/-! ## Errors in a computation in words -/

theorem liftM_ok (a : α) : (liftM (Except.ok a : Except EvalError α) : Except WordFault α) = .ok a := rfl

theorem liftM_data_ok (a : α) :
    (liftM (Except.ok a : Except DataError α) : Except WordFault α) = .ok a := rfl

theorem liftM_data_error (e : DataError) :
    (liftM (Except.error e : Except DataError α) : Except WordFault α) =
      InWords.fail e := rfl

theorem liftM_liftM (x : Except DataError α) :
    (liftM (liftM x : Except EvalError α) : Except WordFault α) = liftM x := rfl

theorem liftM_bind (x : Except EvalError α) (f : α → Except EvalError β) :
    (liftM (x >>= f) : Except WordFault β) = (liftM x >>= fun a => liftM (f a)) := by
  cases x <;> rfl

theorem liftM_data_bind (x : Except DataError α) (f : α → Except DataError β) :
    (liftM (x >>= f) : Except WordFault β) = (liftM x >>= fun a => liftM (f a)) := by
  cases x <;> rfl

end SqlInterval
