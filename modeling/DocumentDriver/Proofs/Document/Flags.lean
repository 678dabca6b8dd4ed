/-
This file proves that the written order of flags is a canonical form: it keeps every flag as often as
it is there, it is one for all orders in which the same flags can be given, and there is nothing left
to put into order in it. So it does no harm that flags are put into order when a regular expression is
made, again when it is written, and again when it is read.

That flags are in order is said with one number for every flag, its place. Two lists of the same flags
in the order of their places are equal, since no two flags have the same place.
-/

import DocumentDriver.Proofs.Document.Canonical
import DocumentDriver.Proofs.Document.RoundTrip

namespace DocumentDriver

namespace RegexFlags

/-! ### The order of flags -/

/-- The place of a flag: `i`, `m` and `x` come first, then all others by their numbers. -/
def place (flag : Char) : Nat :=
  if flag = 'i' then 0
  else if flag = 'm' then 1
  else if flag = 'x' then 2
  else flag.toNat + 3

/-- Every flag stands where its place is. -/
def IsOrdered (flags : List Char) : Prop := flags.Pairwise (place · ≤ place ·)

instance (flags : List Char) : Decidable (IsOrdered flags) :=
  inferInstanceAs (Decidable (flags.Pairwise (place · ≤ place ·)))

theorem isRecognized_iff {flag : Char} :
    isRecognized flag = true ↔ flag = 'i' ∨ flag = 'm' ∨ flag = 'x' := by
  simp [isRecognized, or_assoc]

theorem place_inj {left right : Char} : place left = place right ↔ left = right := by
  refine ⟨fun same => ?_, congrArg place⟩
  unfold place at same
  rw [← Char.toNat_inj]
  grind

theorem place_of_recognized {flag : Char} (recognized : isRecognized flag = true) :
    place flag < 3 := by
  rcases isRecognized_iff.1 recognized with rfl | rfl | rfl <;> decide

theorem place_of_other {flag : Char} (other : isRecognized flag = false) :
    place flag = flag.toNat + 3 := by
  have none := mt isRecognized_iff.2 (Bool.eq_false_iff.1 other)
  rw [not_or, not_or] at none
  rw [place, if_neg none.1, if_neg none.2.1, if_neg none.2.2]

/-- The recognized flags are in the order of their numbers too. -/
theorem place_le_of_toNat_le {left right : Char} (first : isRecognized left = true)
    (second : isRecognized right = true) (ordered : left.toNat ≤ right.toNat) :
    place left ≤ place right := by
  revert ordered
  rcases isRecognized_iff.1 first with rfl | rfl | rfl <;>
    rcases isRecognized_iff.1 second with rfl | rfl | rfl <;> decide

/-! ### Flags in their written order -/

theorem pairwise_sorted (flags : List Char) :
    (sorted flags).Pairwise fun left right => left.toNat ≤ right.toNat := by
  have ordered : (sorted flags).Pairwise fun left right => decide (left.toNat ≤ right.toNat) = true :=
    List.pairwise_mergeSort (fun _ _ _ => by simpa using Nat.le_trans)
      (fun _ _ => by simpa using Nat.le_total ..) flags
  exact ordered.imp of_decide_eq_true

theorem isOrdered_normalize (flags : List Char) : IsOrdered (normalize flags) := by
  refine List.pairwise_append.2 ⟨?_, ?_, ?_⟩
  · refine (pairwise_sorted _).imp_of_mem fun first second ordered => ?_
    exact place_le_of_toNat_le (List.mem_filter.1 (mem_sorted.1 first)).2
      (List.mem_filter.1 (mem_sorted.1 second)).2 ordered
  · refine (pairwise_sorted _).imp_of_mem fun first second ordered => ?_
    have left := (List.mem_filter.1 (mem_sorted.1 first)).2
    have right := (List.mem_filter.1 (mem_sorted.1 second)).2
    rw [place_of_other (by simpa using left), place_of_other (by simpa using right)]
    exact Nat.add_le_add_right ordered 3
  · intro left first right second
    have small := place_of_recognized (List.mem_filter.1 (mem_sorted.1 first)).2
    have large := (List.mem_filter.1 (mem_sorted.1 second)).2
    have later := place_of_other (Bool.not_eq_true' _ ▸ large)
    omega

/-- The same flags have one order. -/
theorem IsOrdered.eq_of_perm {left right : List Char} (first : IsOrdered left)
    (second : IsOrdered right) (same : left.Perm right) : left = right :=
  List.Perm.eq_of_pairwise
    (fun _ _ _ _ smaller larger => place_inj.1 (Nat.le_antisymm smaller larger)) first second same

theorem isOrdered_normalizeText (text : String) : IsOrdered (normalizeText text).toList := by
  rw [normalizeText, String.toList_ofList]
  exact isOrdered_normalize text.toList

/-- The written order of flags is the only order in which they stand where their places are. -/
theorem normalizeText_eq_of_isOrdered {text ordered : String} (inPlace : IsOrdered ordered.toList)
    (same : text.toList.Perm ordered.toList) : normalizeText text = ordered :=
  String.toList_inj.1 <| (isOrdered_normalizeText text).eq_of_perm inPlace <|
    (normalizeText_perm text).symm.trans same

theorem normalizeText_eq_iff {left right : String} :
    normalizeText left = normalizeText right ↔ left.toList.Perm right.toList := by
  constructor
  · intro same
    exact (normalizeText_perm left).trans (same ▸ (normalizeText_perm right).symm)
  · intro same
    exact normalizeText_eq_of_isOrdered (isOrdered_normalizeText right)
      (same.trans (normalizeText_perm right))

theorem normalizeText_normalizeText (text : String) :
    normalizeText (normalizeText text) = normalizeText text :=
  normalizeText_eq_iff.2 (normalizeText_perm text).symm

end RegexFlags

/-! ### Writing and reading -/

open RegexFlags

/-- The bytes of a regular expression whose flags are put into order once more. -/
def Encode.reordered (expression : Regex) : Written := do
  let pattern ← regexPart "pattern" expression.pattern
  return pattern ++ (← regexPart "options" (normalizeText expression.options))

theorem Encode.value_regex_of (pattern flags : String) :
    value (.regex (Regex.of pattern flags)) = reordered (Regex.of pattern flags) := by
  rw [value, reordered, Regex.of, normalizeText_normalizeText]

theorem Encode.value_regex_eq_ok_iff {expression : Regex} {bytes : Bytes} :
    value (.regex expression) = .ok bytes ↔
      0 ∉ Utf8.encode expression.pattern ∧ 0 ∉ Utf8.encode expression.options ∧
        Utf8.encode expression.pattern ++ [0] ++ (Utf8.encode expression.options ++ [0]) =
          bytes := by
  rw [value]
  simp only [bind_eq_ok_iff, regexPart_eq_ok_iff]
  constructor
  · rintro ⟨_, ⟨clean, rfl⟩, _, ⟨also, rfl⟩, same⟩
    exact ⟨clean, also, Except.ok.inj same⟩
  · rintro ⟨clean, also, rfl⟩
    exact ⟨_, ⟨clean, rfl⟩, _, ⟨also, rfl⟩, rfl⟩

/-- What is written of a regular expression is read as the regular expression. -/
theorem Decode.takes_regex_of_written {expression : Regex} {bytes : Bytes}
    (written : Encode.value (.regex expression) = .ok bytes) :
    Read.Takes regex bytes expression := by
  obtain ⟨clean, also, rfl⟩ := Encode.value_regex_eq_ok_iff.1 written
  exact takes_regex expression clean also

/-- The written order of flags is a canonical form: every flag is kept and stands where its place is,
two texts have the same written order exactly if they are permutations of each other, and the written
order of flags in their written order is the same again. So a regular expression stays as it is when
its flags are put into order once more while it is written, or once more while it is read. -/
theorem flags_have_one_order (text : String) :
    (normalizeText text).toList.Perm text.toList ∧ IsOrdered (normalizeText text).toList ∧
      (∀ other : String,
        normalizeText text = normalizeText other ↔ text.toList.Perm other.toList) ∧
      normalizeText (normalizeText text) = normalizeText text ∧
      ∀ pattern : String,
        Regex.of (Regex.of pattern text).pattern (Regex.of pattern text).options =
          Regex.of pattern text ∧
        Encode.value (.regex (Regex.of pattern text)) =
          Encode.reordered (Regex.of pattern text) ∧
        ∀ bytes, Encode.value (.regex (Regex.of pattern text)) = .ok bytes →
          Read.Takes Decode.regex bytes (Regex.of pattern text) := by
  refine ⟨(normalizeText_perm text).symm, isOrdered_normalizeText text,
    fun other => normalizeText_eq_iff, normalizeText_normalizeText text, fun pattern => ?_⟩
  exact ⟨Regex.of_parts _, Encode.value_regex_of pattern text,
    fun bytes written => Decode.takes_regex_of_written written⟩

theorem flags_have_one_order_repeated :
    (Regex.of "a" "sxuis").options = "ixssu" ∧
      Encode.value (.regex (Regex.of "a" "sxuis")) = .ok [97, 0, 105, 120, 115, 115, 117, 0] ∧
      Read.Takes Decode.regex [97, 0, 105, 120, 115, 115, 117, 0] (Regex.of "a" "sxuis") := by
  have inPlace : IsOrdered "ixssu".toList := by decide +kernel
  have same : "sxuis".toList.Perm "ixssu".toList := by decide +kernel
  have ordered : (Regex.of "a" "sxuis").options = "ixssu" :=
    normalizeText_eq_of_isOrdered inPlace same
  have written : Encode.value (.regex (Regex.of "a" "sxuis")) =
      .ok [97, 0, 105, 120, 115, 115, 117, 0] := by
    rw [Encode.value_regex_eq_ok_iff, ordered]
    decide +kernel
  obtain ⟨-, -, -, -, kept⟩ := flags_have_one_order "sxuis"
  exact ⟨ordered, written, (kept "a").2.2 _ written⟩

end DocumentDriver
