/-
This file adds and subtracts numbers of 64 bits with a sign. Each result is looked at before it is
taken: one that 64 bits do not hold is an accident.
-/

import DocumentDriver.Accident

namespace DocumentDriver

namespace Checked

/-- A number in 64 bits with a sign. -/
def ofInt (number : Int) : Except Accident Int64 :=
  if number < -2 ^ 63 then .error .underflow
  else if 2 ^ 63 ≤ number then .error .overflow
  else .ok (Int64.ofInt number)

/-- The sum of two numbers. -/
def sum (left right : Int64) : Except Accident Int64 := ofInt (left.toInt + right.toInt)

/-- The difference of two numbers. -/
def difference (whole part : Int64) : Except Accident Int64 := ofInt (whole.toInt - part.toInt)

end Checked

end DocumentDriver
