/-
This file holds the average of the round-trip times of a server. A new sample counts for a fifth
of the next average, and the average so far for four fifths. The times are weighted as seconds
with 53 binary digits and rounded to the nearest nanosecond.
-/

import DocumentDriver.Number.Rounding
import DocumentDriver.Time.Duration

namespace DocumentDriver

namespace RoundTripTime

/-- The seconds of a length of time, each step of the sum rounded to 53 binary digits. -/
def seconds (duration : Duration) : Fraction :=
  let whole := (Fraction.whole duration.seconds).nearest
  let rest := (Fraction.mk (duration.nanoseconds % 1000000000) 1000000000).nearest
  (whole + rest).nearest

/-- A length of time times a weight of 53 binary digits. -/
def weighted (duration : Duration) (weight : Fraction) : Duration :=
  let product := (weight * seconds duration).nearest
  ⟨(product * Fraction.whole 1000000000).round⟩

/-- The weight of a new sample. -/
def sampleWeight : Fraction := (Fraction.mk 1 5).nearest

/-- The weight of the average so far. -/
def averageWeight : Fraction := (Fraction.mk 4 5).nearest

/-- The average after a new sample. The first sample is the first average. -/
def next (average : Option Duration) (sample : Duration) : Duration :=
  match average with
  | none => sample
  | some average => weighted sample sampleWeight + weighted average averageWeight

end RoundTripTime

end DocumentDriver
