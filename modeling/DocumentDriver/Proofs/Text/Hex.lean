/-
This file says what hexadecimal digits stand for. Sixteen digits are written, all in lower case, and
a digit that is read in either case is written in lower case. Since the digits are in the order of the
numbers they stand for, two digits to a byte keep the order of byte strings, whatever their lengths.
-/

import DocumentDriver.Proofs.Text.Split
import DocumentDriver.Text.Hex

namespace DocumentDriver.Hex

/-! ### Single digits -/

theorem value?_digit {number : Nat} (small : number < 16) : value? (digit number) = some number := by
  have each : ∀ number < 16, value? (digit number) = some number := by decide
  exact each number small

theorem isHexDigit_digit {number : Nat} (small : number < 16) :
    (digit number).isHexDigit = true := by
  have each : ∀ number < 16, (digit number).isHexDigit = true := by decide
  exact each number small

theorem toNat_digit {number : Nat} (small : number < 16) :
    (digit number).toNat = if number < 10 then number + 48 else number + 87 := by
  have each : ∀ number < 16, (digit number).toNat =
      if number < 10 then number + 48 else number + 87 := by decide
  exact each number small

/-- The digits are in the order of their numbers. -/
theorem digit_lt_digit_iff {left right : Nat} (small : left < 16) (other : right < 16) :
    digit left < digit right ↔ left < right := by
  rw [Char.lt_def, UInt32.lt_iff_toNat_lt]
  change (digit left).toNat < (digit right).toNat ↔ _
  rw [toNat_digit small, toNat_digit other]
  split <;> split <;> omega

theorem digit_inj {left right : Nat} (small : left < 16) (other : right < 16) :
    digit left = digit right ↔ left = right := by
  refine ⟨fun same => Option.some.inj ?_, congrArg digit⟩
  rw [← value?_digit small, same, value?_digit other]

/-- The characters that are read as a number: its digit, in either case. -/
theorem value?_eq_some_iff {character : Char} {number : Nat} :
    value? character = some number ↔ number < 16 ∧ digit number = character.toLower := by
  have code := Split.toNat_toLower character
  constructor
  · intro read
    have small : number < 16 := by
      unfold value? at read
      grind
    refine ⟨small, Char.toNat_inj.1 ?_⟩
    rw [toNat_digit small, code]
    unfold value? at read
    grind
  · rintro ⟨small, same⟩
    rw [← same, toNat_digit small] at code
    unfold value?
    grind

theorem isHexDigit_iff {character : Char} :
    character.isHexDigit = true ↔ (48 ≤ character.toNat ∧ character.toNat ≤ 57) ∨
      (97 ≤ character.toNat ∧ character.toNat ≤ 102) ∨
        65 ≤ character.toNat ∧ character.toNat ≤ 70 := by
  simp only [Char.isHexDigit, Bool.or_eq_true, Bool.and_eq_true, decide_eq_true_iff,
    Split.isDigit_iff, ge_iff_le, UInt32.le_iff_toNat_le, or_assoc]
  rfl

theorem isHexDigit_toLower (character : Char) :
    character.toLower.isHexDigit = character.isHexDigit := by
  have code := Split.toNat_toLower character
  rw [Bool.eq_iff_iff, isHexDigit_iff, isHexDigit_iff]
  split at code <;> omega

theorem toLower_digit {number : Nat} (small : number < 16) :
    (digit number).toLower = digit number :=
  (value?_eq_some_iff.1 (value?_digit small)).2.symm

/-- The characters that are read as a number at all. -/
theorem exists_digit_iff {character : Char} :
    (∃ number < 16, digit number = character.toLower) ↔ character.isHexDigit = true := by
  constructor
  · rintro ⟨number, small, same⟩
    rw [← isHexDigit_toLower, ← same]
    exact isHexDigit_digit small
  · intro hexadecimal
    rw [isHexDigit_iff] at hexadecimal
    have read : (value? character).isSome = true := by
      unfold value?
      grind
    obtain ⟨number, found⟩ := Option.isSome_iff_exists.1 read
    exact ⟨number, value?_eq_some_iff.1 found⟩

/-! ### Two digits to a byte -/

theorem chars_cons (byte : UInt8) (bytes : Bytes) :
    chars (byte :: bytes) = digit (byte.toNat / 16) :: digit (byte.toNat % 16) :: chars bytes := rfl

theorem length_chars (bytes : Bytes) : (chars bytes).length = 2 * bytes.length := by
  induction bytes with
  | nil => rfl
  | cons byte bytes inductionHypothesis =>
    rw [chars_cons, List.length_cons, List.length_cons, List.length_cons, inductionHypothesis]
    rfl

theorem high_lt (byte : UInt8) : byte.toNat / 16 < 16 :=
  Nat.div_lt_of_lt_mul byte.toNat_lt

theorem low_lt (byte : UInt8) : byte.toNat % 16 < 16 :=
  Nat.mod_lt _ (by decide)

/-- A byte is put together from its digits. -/
theorem ofByte_ofNat {high low : Nat} (small : high < 16) (other : low < 16) :
    ofByte (UInt8.ofNat (16 * high + low)) = [digit high, digit low] := by
  have number : (UInt8.ofNat (16 * high + low)).toNat = 16 * high + low :=
    UInt8.toNat_ofNat_of_lt' (by
      change _ < 256
      omega)
  rw [ofByte, number, Nat.mul_add_div (by decide), Nat.mul_add_mod, Nat.div_eq_of_lt other,
    Nat.mod_eq_of_lt other, Nat.add_zero]

theorem exists_digit_of_mem_chars {bytes : Bytes} {character : Char}
    (member : character ∈ chars bytes) : ∃ number < 16, character = digit number := by
  obtain ⟨byte, -, written⟩ := List.mem_flatMap.1 member
  rw [ofByte, List.mem_cons, List.mem_singleton] at written
  rcases written with rfl | rfl
  · exact ⟨_, high_lt byte, rfl⟩
  · exact ⟨_, low_lt byte, rfl⟩

theorem isHexDigit_of_mem_chars {bytes : Bytes} {character : Char}
    (member : character ∈ chars bytes) : character.isHexDigit = true := by
  obtain ⟨number, small, rfl⟩ := exists_digit_of_mem_chars member
  exact isHexDigit_digit small

theorem lower_chars (bytes : Bytes) : Split.lower (chars bytes) = chars bytes := by
  have each : ∀ one ∈ chars bytes, one.toLower = one := by
    intro one member
    obtain ⟨number, small, rfl⟩ := exists_digit_of_mem_chars member
    exact toLower_digit small
  rw [Split.lower, List.map_congr_left each, List.map_id']

/-- The first byte in which two byte strings differ is the one in which their texts differ. -/
theorem chars_lt_chars_iff (left right : Bytes) : chars left < chars right ↔ left < right := by
  induction left generalizing right with
  | nil =>
    cases right with
    | nil => exact iff_of_false (List.not_lt_nil _) (List.not_lt_nil _)
    | cons byte bytes => exact iff_of_true (List.nil_lt_cons _ _) (List.nil_lt_cons _ _)
  | cons first rest inductionHypothesis =>
    cases right with
    | nil => exact iff_of_false (List.not_lt_nil _) (List.not_lt_nil _)
    | cons byte bytes =>
      rw [chars_cons, chars_cons, List.cons_lt_cons_iff, List.cons_lt_cons_iff,
        List.cons_lt_cons_iff, digit_lt_digit_iff (high_lt first) (high_lt byte),
        digit_lt_digit_iff (low_lt first) (low_lt byte), digit_inj (high_lt first) (high_lt byte),
        digit_inj (low_lt first) (low_lt byte), inductionHypothesis, UInt8.lt_iff_toNat_lt,
        ← UInt8.toNat_inj]
      -- What is left compares the two bytes by their digits, whatever comes behind them.
      by_cases behind : rest < bytes
      · simp only [behind, and_true]
        omega
      · simp only [behind, and_false, or_false]
        omega

end DocumentDriver.Hex
