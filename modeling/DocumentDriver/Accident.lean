/-
This file holds accidents: what a computation comes to when it cannot go on. No caller is told of an
accident, while an error is a result like any other. So what can come to either gives a result inside
another one.
-/

namespace DocumentDriver

/-- Why a computation cannot go on. -/
inductive Accident where
  /-- A place or a range does not lie inside the bytes. -/
  | outOfRange
  /-- A number is above the largest one of its kind. -/
  | overflow
  /-- A number is below the smallest one of its kind. -/
  | underflow
  /-- A negative number is taken for a size. -/
  | negativeSize
  /-- A compressor is asked for more bytes than there may be. -/
  | excessiveDemand
  /-- A loop is not over when it should be. -/
  | endless
deriving DecidableEq, Repr

end DocumentDriver
