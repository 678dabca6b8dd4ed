/-
This file treats a double-precision number as the 64 bits that carry it. Two comparisons live side
by side: equality of the bits, which is what an encoding preserves, and the equality of numbers,
for which the two zeros are one and a number that is not a number differs from itself. A double
that is a whole number has an exact integer value, found from its exponent and significand.
-/

namespace DocumentDriver

/-- A double-precision number, as its bits. -/
structure Double where
  bits : UInt64
deriving DecidableEq, Repr, Inhabited

namespace Double

/-- The eleven exponent bits. -/
def exponent (double : Double) : Nat := double.bits.toNat / 2 ^ 52 % 2 ^ 11

/-- The fifty-two bits of the fraction. -/
def fraction (double : Double) : Nat := double.bits.toNat % 2 ^ 52

/-- The sign bit. -/
def isNegative (double : Double) : Bool := 2 ^ 63 ≤ double.bits.toNat

/-- Not a number: the largest exponent with a fraction. -/
def isNaN (double : Double) : Bool := double.exponent = 2047 ∧ double.fraction ≠ 0

/-- One of the two zeros. -/
def isZero (double : Double) : Bool := double.exponent = 0 ∧ double.fraction = 0

/-- The finite value is `significand * 2 ^ (scale - 1075)`, up to its sign. -/
def significand (double : Double) : Nat :=
  if double.exponent = 0 then double.fraction else 2 ^ 52 + double.fraction

/-- The power of two that scales the significand, shifted to be a natural number. -/
def scale (double : Double) : Nat := max double.exponent 1

/-- The exact value of a double that is a whole number. -/
def whole? (double : Double) : Option Int :=
  if double.exponent = 2047 then none
  else
    let magnitude : Option Nat :=
      if 1075 ≤ double.scale then some (double.significand <<< (double.scale - 1075))
      else
        let divisor := 1 <<< (1075 - double.scale)
        if double.significand % divisor = 0 then some (double.significand / divisor) else none
    magnitude.map fun (size : Nat) => if double.isNegative then -(size : Int) else (size : Int)

/-- Equality of numbers: the zeros are one, and what is not a number equals nothing. -/
def equal (left right : Double) : Bool :=
  !left.isNaN && !right.isNaN && (left.bits == right.bits || (left.isZero && right.isZero))

end Double

/-- The nearest number that a signed 64-bit word holds. -/
def clampInt64 (number : Int) : Int64 :=
  Int64.ofInt (max (-2 ^ 63) (min (2 ^ 63 - 1) number))

end DocumentDriver
