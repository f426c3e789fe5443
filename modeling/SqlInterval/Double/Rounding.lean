import SqlInterval.Double.Basic

/-!
# Rounding to doubles

The double nearest to a fraction, of two equally near ones the one with an even significand. Product
and quotient of finite doubles are the exact ones, rounded.
-/

namespace SqlInterval

/-- The natural number nearest to `n / d`, of two equally near ones the even one. -/
def roundHalfEven (n d : Nat) : Nat :=
  let q := n / d
  let r := n % d
  if 2 * r < d then q else if d < 2 * r then q + 1 else q + q % 2

namespace Double

/-- The bits of infinity. -/
def infinityBits : Nat := 2047 * hiddenBit

def infinity : Double := ⟨.ofNat infinityBits⟩

def zero : Double := ⟨0⟩

def neg (x : Double) : Double := ⟨.ofNat ((x.bits.toNat + signBit) % UInt64.size)⟩

/-- The fraction `n / d` in units of `2 ^ e`. -/
def inUnits (n d : Nat) (e : Int) : Nat × Nat :=
  (n * Nat.pow 2 (-e).toNat, d * Nat.pow 2 e.toNat)

/-- The double nearest to `n / d`. The exponent is chosen so that the significand has 53 bits, or is
the least one; a significand that is rounded up to 54 bits carries into the exponent. -/
def ofFraction (n d : Nat) : Double :=
  if n = 0 then zero
  else
    let least : Int := n.log2 - d.log2 - 53
    let (a, b) := inUnits n d least
    let e := max (if 2 * hiddenBit ≤ a / b then least + 1 else least) (-1074)
    let (a, b) := inUnits n d e
    ⟨.ofNat (min ((e + 1074).toNat * hiddenBit + roundHalfEven a b) infinityBits)⟩

/-- The magnitude of a finite double as a fraction. -/
def fraction (x : Double) : Nat × Nat := inUnits x.significand 1 (-x.exponent)

/-- The product of magnitudes. -/
def mul (x y : Double) : Double :=
  let (a, b) := x.fraction
  let (c, d) := y.fraction
  ofFraction (a * c) (b * d)

/-- The quotient of magnitudes. -/
def div (x y : Double) : Double :=
  let (a, b) := x.fraction
  let (c, d) := y.fraction
  ofFraction (a * d) (b * c)

end Double

end SqlInterval
