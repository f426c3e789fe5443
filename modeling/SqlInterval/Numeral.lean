/-!
# Decimal numerals

The text of a number is a list of characters, most significant digit first. A width counts the sign
together with the digits, and the zeros that fill it stand between the two.
-/

namespace SqlInterval.Numeral

/-- The digits of a natural number; zero is the one digit `0`. -/
def nat (n : Nat) : List Char := Nat.toDigits 10 n

def int (z : Int) : List Char := if z < 0 then '-' :: nat z.natAbs else nat z.natAbs

/-- The digits of `n`, filled with zeros in front up to `width` digits. -/
def pad (width n : Nat) : List Char := List.replicate (width - (nat n).length) '0' ++ nat n

/-- The number with its sign, filled with zeros up to `width` characters. -/
def padInt (width : Nat) (z : Int) : List Char :=
  if z < 0 then '-' :: pad (width - 1) z.natAbs else pad width z.natAbs

/-- A fraction keeps its value when the zeros at its end go. -/
def dropTrailingZeros (ds : List Char) : List Char := (ds.reverse.dropWhile (· == '0')).reverse

/-- The number that a list of digits denotes; the empty list denotes zero. -/
def value (ds : List Char) : Nat := Nat.ofDigitChars 10 ds 0

def text (z : Int) : String := .ofList (int z)

/-! ## Reading back -/

theorem value_nat (n : Nat) : value (nat n) = n :=
  Nat.ofDigitChars_toDigits (by decide) (by decide)

theorem value_pad (width n : Nat) : value (pad width n) = n := by
  simp only [value, pad, Nat.ofDigitChars_append, Nat.ofDigitChars_replicate_zero, Nat.mul_zero]
  exact value_nat n

theorem nat_ne_nil (n : Nat) : nat n ≠ [] := Nat.toDigits_ne_nil

end SqlInterval.Numeral
