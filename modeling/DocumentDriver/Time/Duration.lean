/-
This file holds lengths of time, which are whole numbers of nanoseconds, and their text: a number
of the largest unit that is not more than the length, with as many decimals as it needs. A length
may be of any size here. A client holds no more than `2 ^ 64` seconds, and a longer sum is an
accident there, but each length that it adds is told in 64 bits of milliseconds or was measured,
and two of these are far from that bound.
-/

namespace DocumentDriver

/-- A length of time. -/
structure Duration where
  nanoseconds : Nat
deriving DecidableEq, Repr, Inhabited

namespace Duration

/-- No time at all. -/
def zero : Duration := ⟨0⟩

def ofMicroseconds (microseconds : Nat) : Duration := ⟨1000 * microseconds⟩

def ofMilliseconds (milliseconds : Nat) : Duration := ⟨1000000 * milliseconds⟩

def ofSeconds (seconds : Nat) : Duration := ⟨1000000000 * seconds⟩

/-- The whole milliseconds of a length. -/
def milliseconds (duration : Duration) : Nat := duration.nanoseconds / 1000000

/-- The whole seconds of a length. -/
def seconds (duration : Duration) : Nat := duration.nanoseconds / 1000000000

instance : Add Duration := ⟨fun left right => ⟨left.nanoseconds + right.nanoseconds⟩⟩

instance : LE Duration := ⟨fun left right => left.nanoseconds ≤ right.nanoseconds⟩

instance : LT Duration := ⟨fun left right => left.nanoseconds < right.nanoseconds⟩

instance (left right : Duration) : Decidable (left ≤ right) :=
  inferInstanceAs (Decidable (left.nanoseconds ≤ right.nanoseconds))

instance (left right : Duration) : Decidable (left < right) :=
  inferInstanceAs (Decidable (left.nanoseconds < right.nanoseconds))

instance : Min Duration := ⟨fun left right => ⟨min left.nanoseconds right.nanoseconds⟩⟩

instance : Max Duration := ⟨fun left right => ⟨max left.nanoseconds right.nanoseconds⟩⟩

/-- The shorter of two lengths is one of them. -/
theorem min_eq_or (left right : Duration) : min left right = left ∨ min left right = right := by
  rcases Nat.le_total left.nanoseconds right.nanoseconds with shorter | shorter
  · exact .inl (congrArg mk (Nat.min_eq_left shorter))
  · exact .inr (congrArg mk (Nat.min_eq_right shorter))

/-! ### Text -/

/-- The units of the text with their nanoseconds and decimals, the largest first. -/
def units : List (String × Nat × Nat) :=
  [("s", 1000000000, 9), ("ms", 1000000, 6), ("µs", 1000, 3)]

/-- The decimals of a rest, as many as `places` but without zeros at the end. -/
def decimals (places rest : Nat) : List Char :=
  let digits := Nat.toDigits 10 rest
  let padded := List.replicate (places - digits.length) '0' ++ digits
  (padded.reverse.dropWhile (· = '0')).reverse

/-- A length as a number of units, with decimals for what is less than one. -/
def inUnit (nanoseconds : Nat) (name : String) (size places : Nat) : String :=
  let whole := toString (nanoseconds / size)
  match decimals places (nanoseconds % size) with
  | [] => whole ++ name
  | digits => whole ++ "." ++ String.ofList digits ++ name

/-- The text of a length. -/
def text (duration : Duration) : String :=
  match units.find? fun (_, size, _) => size ≤ duration.nanoseconds with
  | some (name, size, places) => inUnit duration.nanoseconds name size places
  | none => toString duration.nanoseconds ++ "ns"

end Duration

end DocumentDriver
