import SqlInterval.Decimal.Basic

/-!
# Doubles

A double is its 64 bits: the sign, eleven bits of exponent, 52 bits of fraction. A finite one is a
signed significand times a power of two, and so it is exactly a decimal.
-/

namespace SqlInterval

structure Double where
  bits : UInt64
deriving DecidableEq

namespace Double

def signBit : Nat := 0x8000000000000000

/-- The lowest bit of the exponent; in the significand, the bit above the fraction. -/
def hiddenBit : Nat := 0x10000000000000

def isNegative (x : Double) : Bool := signBit ≤ x.bits.toNat

def exponentField (x : Double) : Nat := x.bits.toNat / hiddenBit % 2048

def fractionField (x : Double) : Nat := x.bits.toNat % hiddenBit

def isFinite (x : Double) : Bool := x.exponentField ≠ 2047

def isNaN (x : Double) : Bool := x.exponentField = 2047 && x.fractionField ≠ 0

def isZero (x : Double) : Bool := x.exponentField = 0 && x.fractionField = 0

/-- Below the normal doubles the significand has no hidden bit. -/
def isSubnormal (x : Double) : Bool := x.exponentField = 0

/-- The magnitude of a finite double is `significand * 2 ^ exponent`. -/
def significand (x : Double) : Nat :=
  if x.isSubnormal then x.fractionField else x.fractionField + hiddenBit

def exponent (x : Double) : Int := if x.isSubnormal then -1074 else x.exponentField - 1075

/-- Equality of numbers: a NaN equals nothing, and the two zeros are equal. -/
def same (x y : Double) : Bool :=
  !x.isNaN && !y.isNaN && (x.bits = y.bits || x.isZero && y.isZero)

/-- Halves an even number as long as fraction bits are left. -/
def dropTrailingBits : Nat → Nat → Nat × Nat
  | m, 0 => (m, 0)
  | m, k + 1 => if m % 2 = 0 then dropTrailingBits (m / 2) k else (m, k + 1)

/-- The decimal that a finite double is. Its scale is the number of fraction bits left when trailing
zero bits are dropped; a subnormal double keeps all its fraction bits. -/
def toDecimal? (x : Double) : Option Decimal :=
  let sign : Int := if x.isNegative then -1 else 1
  if !x.isFinite then none
  else if x.isZero then some ⟨0, 0⟩
  else if 0 ≤ x.exponent then some ⟨sign * (x.significand * Nat.pow 2 x.exponent.toNat : Nat), 0⟩
  else
    let k := x.exponent.natAbs
    let (m, k) := if x.isSubnormal then (x.significand, k) else dropTrailingBits x.significand k
    some ⟨sign * (m * Nat.pow 5 k : Nat), k⟩

end Double

end SqlInterval
