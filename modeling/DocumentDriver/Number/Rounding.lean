/-
This file rounds fractions: to whole numbers, and to the numbers with 53 binary digits. A value
half way between two neighbours goes to the even one.
-/

namespace DocumentDriver

/-- The whole number nearest to a quotient. -/
def roundDiv (numerator denominator : Nat) : Nat :=
  let quotient := numerator / denominator
  let rest := 2 * (numerator % denominator)
  if denominator < rest ∨ (rest = denominator ∧ quotient % 2 = 1) then quotient + 1 else quotient

/-- A fraction of whole numbers. -/
structure Fraction where
  numerator : Nat
  denominator : Nat
deriving DecidableEq, Repr

namespace Fraction

/-- A whole number. -/
def whole (number : Nat) : Fraction := ⟨number, 1⟩

instance : Add Fraction :=
  ⟨fun left right =>
    ⟨left.numerator * right.denominator + right.numerator * left.denominator,
      left.denominator * right.denominator⟩⟩

instance : Mul Fraction :=
  ⟨fun left right =>
    ⟨left.numerator * right.numerator, left.denominator * right.denominator⟩⟩

/-- The nearest whole number. -/
def round (value : Fraction) : Nat := roundDiv value.numerator value.denominator

/-- A fraction times a power of two. -/
def scale (value : Fraction) : Int → Fraction
  | .ofNat exponent => ⟨value.numerator <<< exponent, value.denominator⟩
  | .negSucc exponent => ⟨value.numerator, value.denominator <<< (exponent + 1)⟩

/-- The power of two that brings a fraction above 2⁵² and below 2⁵³. -/
def exponent (value : Fraction) : Int :=
  let guess : Int := 52 + value.denominator.log2 - value.numerator.log2
  let scaled := value.scale guess
  if 2 ^ 52 * scaled.denominator ≤ scaled.numerator then guess else guess + 1

/-- The nearest number with 53 binary digits. -/
def nearest (value : Fraction) : Fraction :=
  if value.numerator = 0 then whole 0
  else (whole (value.scale value.exponent).round).scale (-value.exponent)

end Fraction

end DocumentDriver
