/-
This file holds regular expressions. Their flags have one written order: `i`, `m` and `x` first,
then every other character by its number, repeated flags kept. A regular expression carries the
fact that its flags stand in this order, so no later step has to sort them again.
-/

namespace DocumentDriver

namespace RegexFlags

/-- The flags that have a meaning. -/
def isRecognized (flag : Char) : Bool := flag == 'i' || flag == 'm' || flag == 'x'

/-- Characters in the order of their numbers. -/
def sorted (flags : List Char) : List Char :=
  flags.mergeSort fun left right => decide (left.toNat ≤ right.toNat)

/-- The flags in their written order. -/
def normalize (flags : List Char) : List Char :=
  sorted (flags.filter isRecognized) ++ sorted (flags.filter fun flag => !isRecognized flag)

theorem sorted_perm (flags : List Char) : (sorted flags).Perm flags := List.mergeSort_perm ..

theorem mem_sorted {flag : Char} {flags : List Char} : flag ∈ sorted flags ↔ flag ∈ flags :=
  (sorted_perm flags).mem_iff

theorem sorted_sorted (flags : List Char) : sorted (sorted flags) = sorted flags := by
  refine List.mergeSort_of_pairwise (List.pairwise_mergeSort ?_ ?_ flags)
  · intro first second third
    simpa using Nat.le_trans
  · intro first second
    simpa using Nat.le_total ..

theorem filter_sorted_of_all {keep : Char → Bool} {flags : List Char}
    (all : ∀ flag ∈ flags, keep flag = true) : (sorted flags).filter keep = sorted flags :=
  List.filter_eq_self.2 fun flag member => all flag (mem_sorted.1 member)

theorem filter_sorted_of_none {keep : Char → Bool} {flags : List Char}
    (none : ∀ flag ∈ flags, keep flag = false) : (sorted flags).filter keep = [] :=
  List.filter_eq_nil_iff.2 fun flag member => by simp [none flag (mem_sorted.1 member)]

/-- Flags in their written order stay as they are. -/
theorem normalize_normalize (flags : List Char) : normalize (normalize flags) = normalize flags := by
  have recognized : (normalize flags).filter isRecognized =
      sorted (flags.filter isRecognized) := by
    rw [normalize, List.filter_append, filter_sorted_of_all (by simp),
      filter_sorted_of_none (by simp), List.append_nil]
  have other : (normalize flags).filter (fun flag => !isRecognized flag) =
      sorted (flags.filter fun flag => !isRecognized flag) := by
    rw [normalize, List.filter_append, filter_sorted_of_none (by simp),
      filter_sorted_of_all (by simp), List.nil_append]
  rw [normalize, recognized, other, sorted_sorted, sorted_sorted]
  rfl

/-- The flags of a text in their written order. -/
def normalizeText (options : String) : String := String.ofList (normalize options.toList)

end RegexFlags

/-- A regular expression whose flags stand in their written order. -/
structure Regex where
  pattern : String
  options : String
  normal : RegexFlags.normalizeText options = options
deriving DecidableEq, Repr

/-- The regular expression with the given pattern and flags in any order. -/
def Regex.of (pattern options : String) : Regex where
  pattern := pattern
  options := RegexFlags.normalizeText options
  normal := by simp [RegexFlags.normalizeText, RegexFlags.normalize_normalize]

/-- A regular expression is made from its own parts. -/
theorem Regex.of_parts (regex : Regex) : Regex.of regex.pattern regex.options = regex := by
  obtain ⟨pattern, options, normal⟩ := regex
  simp [Regex.of, normal]

end DocumentDriver
