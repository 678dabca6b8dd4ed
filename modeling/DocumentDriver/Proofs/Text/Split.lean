/-
This file says what cutting a text gives. Cutting at the first or at the last occurrence of a separator
finds the one place where the text falls apart so that the part before or the part behind is free of
the separator. Taking the blanks off both ends leaves nothing to take off and does not depend on how
many there were. Neither cares about the case of letters, since no letter separates anything or is
blank; nor does the reading of a number, whose decimal digits stand for what they were written for.
-/

import DocumentDriver.Text.Split
import Mathlib.Data.List.DropRight
import Mathlib.Data.List.TakeWhile

namespace DocumentDriver.Split

/-! ### Cutting at a separator -/

section

variable {Letter : Type} [BEq Letter] {separator : Letter} {text before after : List Letter}

theorem first?_eq_none_iff [LawfulBEq Letter] : first? separator text = none ↔ separator ∉ text := by
  induction text with
  | nil => simp [first?]
  | cons letter rest inductionHypothesis =>
    rw [first?, List.mem_cons, not_or]
    by_cases found : letter = separator
    · rw [if_pos (beq_iff_eq.2 found)]
      exact ⟨by simp, fun absent => absurd found.symm absent.1⟩
    · rw [if_neg (mt beq_iff_eq.1 found), Option.map_eq_none_iff, inductionHypothesis]
      exact ⟨fun absent => ⟨Ne.symm found, absent⟩, And.right⟩

theorem first?_append [LawfulBEq Letter] (absent : separator ∉ before) :
    first? separator (before ++ separator :: after) = some (before, after) := by
  induction before with
  | nil => rw [List.nil_append, first?, if_pos (beq_iff_eq.2 rfl)]
  | cons letter rest inductionHypothesis =>
    obtain ⟨other, absent⟩ := not_or.1 (mt List.mem_cons.2 absent)
    rw [List.cons_append, first?, if_neg (mt beq_iff_eq.1 (Ne.symm other)),
      inductionHypothesis absent]
    rfl

/-- The first occurrence of a separator is the one before which there is none. -/
theorem first?_eq_some_iff [LawfulBEq Letter] :
    first? separator text = some (before, after) ↔
      text = before ++ separator :: after ∧ separator ∉ before := by
  refine ⟨fun found => ?_, fun ⟨shape, absent⟩ => shape ▸ first?_append absent⟩
  by_cases member : separator ∈ text
  · obtain ⟨front, rest, shape, absent⟩ := List.eq_append_cons_of_mem member
    obtain ⟨rfl, rfl⟩ := Prod.mk.inj (Option.some.inj
      ((first?_append absent).symm.trans (shape ▸ found)))
    exact ⟨shape, absent⟩
  · exact absurd (found.symm.trans (first?_eq_none_iff.2 member)) (by simp)

theorem last?_eq_none_iff [LawfulBEq Letter] : last? separator text = none ↔ separator ∉ text := by
  induction text with
  | nil => simp [last?]
  | cons letter rest inductionHypothesis =>
    rw [last?, List.mem_cons, not_or]
    cases later : last? separator rest with
    | some parts =>
      have member : separator ∈ rest := by
        by_contra absent
        exact absurd (later.symm.trans (inductionHypothesis.2 absent)) (by simp)
      exact ⟨by simp, fun absent => absurd member absent.2⟩
    | none =>
      have absent := inductionHypothesis.1 later
      by_cases found : letter = separator
      · simp [found]
      · simp [found, Ne.symm found, absent]

theorem last?_append [LawfulBEq Letter] (absent : separator ∉ after) :
    last? separator (before ++ separator :: after) = some (before, after) := by
  induction before with
  | nil =>
    rw [List.nil_append, last?, last?_eq_none_iff.2 absent]
    exact if_pos (beq_iff_eq.2 rfl)
  | cons letter rest inductionHypothesis => rw [List.cons_append, last?, inductionHypothesis]

/-- The last occurrence of a separator is the one behind which there is none. -/
theorem last?_eq_some_iff [LawfulBEq Letter] :
    last? separator text = some (before, after) ↔
      text = before ++ separator :: after ∧ separator ∉ after := by
  refine ⟨fun found => ?_, fun ⟨shape, absent⟩ => shape ▸ last?_append absent⟩
  by_cases member : separator ∈ text.reverse
  · obtain ⟨front, rest, shape, absent⟩ := List.eq_append_cons_of_mem member
    have turned : text = rest.reverse ++ separator :: front.reverse := by
      rw [← List.reverse_reverse text, shape, List.reverse_append, List.reverse_cons,
        List.append_assoc, List.singleton_append]
    obtain ⟨rfl, rfl⟩ := Prod.mk.inj (Option.some.inj
      ((last?_append (mt List.mem_reverse.1 absent)).symm.trans (turned ▸ found)))
    exact ⟨turned, mt List.mem_reverse.1 absent⟩
  · exact absurd (found.symm.trans (last?_eq_none_iff.2 (mt List.mem_reverse.2 member))) (by simp)

/-- What stands before the first separator does not depend on what stands behind one. -/
theorem takeWhile_append_separator [LawfulBEq Letter] :
    (before ++ separator :: after).takeWhile (· != separator) =
      before.takeWhile (· != separator) := by
  rw [List.takeWhile_append]
  split
  · next whole =>
    rw [List.takeWhile_cons_of_neg (by simp), List.append_nil,
      (List.takeWhile_prefix _).eq_of_length whole]
  · rfl

/-- What stands behind the last separator does not depend on what stands before one. -/
theorem rtakeWhile_append_separator [LawfulBEq Letter] :
    (before ++ separator :: after).rtakeWhile (· != separator) =
      after.rtakeWhile (· != separator) := by
  rw [List.rtakeWhile, List.reverse_append, List.reverse_cons, List.append_assoc,
    List.singleton_append, takeWhile_append_separator, List.rtakeWhile]

theorem takeWhile_of_notMem [LawfulBEq Letter] (absent : separator ∉ text) :
    text.takeWhile (· != separator) = text :=
  List.takeWhile_eq_self_iff.2 fun _ member => bne_iff_ne.2 fun same => absent (same ▸ member)

theorem rtakeWhile_of_notMem [LawfulBEq Letter] (absent : separator ∉ text) :
    text.rtakeWhile (· != separator) = text :=
  List.rtakeWhile_eq_self_iff.2 fun _ member => bne_iff_ne.2 fun same => absent (same ▸ member)

/-- Cutting at every separator gives what the library's function for it gives. -/
theorem all_eq_splitOn : all separator text = text.splitOn separator := by
  induction text with
  | nil => rfl
  | cons letter rest inductionHypothesis =>
    rw [all, List.splitOn_cons_eq_if_modifyHead, inductionHypothesis]
    split
    · rfl
    · cases split : rest.splitOn separator with
      | nil => exact absurd split (List.splitOn_ne_nil _ _)
      | cons part parts => rfl

/-- Where a text is cut does not change with letters that are no separator before and after. -/
theorem first?_map (change : Letter → Letter)
    (keeps : ∀ letter, (change letter == separator) = (letter == separator)) :
    first? separator (text.map change) =
      (first? separator text).map (Prod.map (List.map change) (List.map change)) := by
  induction text with
  | nil => rfl
  | cons letter rest inductionHypothesis =>
    rw [List.map_cons, first?, first?, keeps, inductionHypothesis]
    split
    · rfl
    · rw [Option.map_map, Option.map_map]
      rfl

theorem last?_map (change : Letter → Letter)
    (keeps : ∀ letter, (change letter == separator) = (letter == separator)) :
    last? separator (text.map change) =
      (last? separator text).map (Prod.map (List.map change) (List.map change)) := by
  induction text with
  | nil => rfl
  | cons letter rest inductionHypothesis =>
    rw [List.map_cons, last?, last?, inductionHypothesis, keeps]
    cases last? separator rest with
    | some parts => rfl
    | none =>
      by_cases found : (letter == separator) = true
      · rw [if_pos found]
        simp [found]
      · simp [found]

end

/-! ### The case of letters -/

/-- The codes of the capital letters lie 32 before those of the small ones. -/
theorem toNat_toLower (character : Char) :
    character.toLower.toNat =
      if 65 ≤ character.toNat ∧ character.toNat ≤ 90 then character.toNat + 32
      else character.toNat := by
  have capital : (character.val ≥ 'A'.val ∧ character.val ≤ 'Z'.val) ↔
      65 ≤ character.toNat ∧ character.toNat ≤ 90 := by
    rw [ge_iff_le, UInt32.le_iff_toNat_le, UInt32.le_iff_toNat_le]
    rfl
  unfold Char.toLower
  by_cases inside : 65 ≤ character.toNat ∧ character.toNat ≤ 90
  · rw [dif_pos (capital.2 inside), if_pos inside]
    change (character.val + 32).toNat = _
    rw [UInt32.toNat_add]
    change (character.toNat + 32) % 2 ^ 32 = character.toNat + 32
    omega
  · rw [dif_neg (mt capital.1 inside), if_neg inside]

theorem toLower_toLower (character : Char) : character.toLower.toLower = character.toLower := by
  refine Char.toNat_inj.1 ?_
  have code := toNat_toLower character
  rw [toNat_toLower character.toLower, if_neg]
  split at code <;> omega

theorem lower_lower (text : List Char) : lower (lower text) = lower text := by
  rw [lower, lower, List.map_map]
  exact List.map_congr_left fun character _ => toLower_toLower character

theorem toList_toLower (text : String) : text.toLower.toList = lower text.toList :=
  String.toList_map

theorem isAlpha_iff (character : Char) :
    character.isAlpha = true ↔ (65 ≤ character.toNat ∧ character.toNat ≤ 90) ∨
      97 ≤ character.toNat ∧ character.toNat ≤ 122 := by
  change (decide ('A'.val ≤ character.val ∧ character.val ≤ 'Z'.val) ||
    ('a'.val ≤ character.val && character.val ≤ 'z'.val)) = true ↔ _
  simp only [Bool.or_eq_true, Bool.and_eq_true, decide_eq_true_iff, UInt32.le_iff_toNat_le]
  rfl

/-- A character that passes a test which no letter passes does so in either case. -/
theorem apply_toLower {test : Char → Bool}
    (noLetter : ∀ letter : Char, letter.isAlpha = true → test letter = false)
    (character : Char) : test character.toLower = test character := by
  have code := toNat_toLower character
  by_cases capital : 65 ≤ character.toNat ∧ character.toNat ≤ 90
  · rw [if_pos capital] at code
    rw [noLetter character ((isAlpha_iff _).2 (.inl capital)),
      noLetter character.toLower ((isAlpha_iff _).2 (.inr (by omega)))]
  · rw [if_neg capital] at code
    rw [Char.toNat_inj.1 code]

theorem isBlank_toLower (character : Char) : isBlank character.toLower = isBlank character := by
  refine apply_toLower (fun letter alphabetic => ?_) character
  rw [isAlpha_iff] at alphabetic
  simp only [isBlank, Bool.or_eq_false_iff, Bool.and_eq_false_iff, decide_eq_false_iff_not,
    beq_eq_false_iff_ne]
  omega

theorem isDigit_iff (character : Char) :
    character.isDigit = true ↔ 48 ≤ character.toNat ∧ character.toNat ≤ 57 := by
  rw [Char.isDigit, Bool.and_eq_true, decide_eq_true_iff, decide_eq_true_iff, ge_iff_le,
    UInt32.le_iff_toNat_le, UInt32.le_iff_toNat_le]
  rfl

theorem isDigit_toLower (character : Char) : character.toLower.isDigit = character.isDigit := by
  refine apply_toLower (fun letter alphabetic => ?_) character
  rw [isAlpha_iff] at alphabetic
  rw [Bool.eq_false_iff, ne_eq, isDigit_iff]
  omega

/-- A separator that is no letter separates in either case. -/
theorem toLower_beq {separator : Char} (noLetter : separator.isAlpha = false)
    (character : Char) : (character.toLower == separator) = (character == separator) := by
  have other (letter : Char) (alphabetic : letter.isAlpha = true) : (letter == separator) = false :=
    beq_eq_false_iff_ne.2 fun same => Bool.false_ne_true (noLetter.symm.trans (same ▸ alphabetic))
  exact apply_toLower other character

theorem toLower_eq_iff {separator : Char} (noLetter : separator.isAlpha = false)
    (character : Char) : character.toLower = separator ↔ character = separator := by
  rw [← beq_iff_eq, toLower_beq noLetter, beq_iff_eq]

theorem mem_lower_iff {separator : Char} (noLetter : separator.isAlpha = false)
    {text : List Char} : separator ∈ lower text ↔ separator ∈ text := by
  rw [lower, List.mem_map]
  constructor
  · rintro ⟨character, member, same⟩
    exact (toLower_eq_iff noLetter character).1 same ▸ member
  · exact fun member => ⟨separator, member, (toLower_eq_iff noLetter separator).2 rfl⟩

theorem head?_lower_eq_iff {separator : Char} (noLetter : separator.isAlpha = false)
    {text : List Char} : (lower text).head? = some separator ↔ text.head? = some separator := by
  cases text with
  | nil => rfl
  | cons first rest =>
    change some first.toLower = some separator ↔ some first = some separator
    rw [Option.some_inj, Option.some_inj, toLower_eq_iff noLetter]

/-! ### Blanks -/

theorem dropWhile_isBlank_lower (text : List Char) :
    (lower text).dropWhile isBlank = lower (text.dropWhile isBlank) := by
  rw [lower, List.dropWhile_map]
  refine congrArg (List.map _ <| List.dropWhile · text) (funext isBlank_toLower)

theorem trim_lower (text : List Char) : trim (lower text) = lower (trim text) := by
  rw [trim, dropWhile_isBlank_lower, lower, ← List.map_reverse]
  change ((lower _).dropWhile isBlank).reverse = _
  rw [dropWhile_isBlank_lower, lower, ← List.map_reverse]
  rfl

/-- Blanks around a text do not count. -/
theorem trim_append {before after : List Char} (text : List Char)
    (front : ∀ one ∈ before, isBlank one = true) (back : ∀ one ∈ after, isBlank one = true) :
    trim (before ++ text ++ after) = trim text := by
  have backwards : ∀ one ∈ after.reverse, isBlank one = true :=
    fun one member => back one (List.mem_reverse.1 member)
  rw [trim, trim, List.append_assoc, List.dropWhile_append_of_pos front, List.dropWhile_append]
  split
  · next empty =>
    rw [List.isEmpty_iff.1 empty, List.dropWhile_eq_nil_iff.2 back]
  · rw [List.reverse_append, List.dropWhile_append_of_pos backwards]

/-- A text without blanks at its ends stays as it is. -/
theorem trim_eq_self {text : List Char} (front : ∀ one ∈ text.head?, isBlank one = false)
    (back : ∀ one ∈ text.getLast?, isBlank one = false) : trim text = text := by
  have untouched (other : List Char) (first : ∀ one ∈ other.head?, isBlank one = false) :
      other.dropWhile isBlank = other := by
    cases other with
    | nil => rfl
    | cons one rest => exact List.dropWhile_cons_of_neg (by simp [first one rfl])
  rw [trim, untouched text front, untouched text.reverse (by rwa [List.head?_reverse]),
    List.reverse_reverse]

theorem mem_of_mem_trim {text : List Char} {character : Char} (member : character ∈ trim text) :
    character ∈ text := by
  rw [trim, List.mem_reverse] at member
  exact (List.dropWhile_suffix _).subset (List.mem_reverse.1 ((List.dropWhile_suffix _).subset member))

/-- What is left of a text begins with no blank. -/
theorem isBlank_head_trim {text : List Char} {first : Char} (begins : first ∈ (trim text).head?) :
    isBlank first = false := by
  have shape : trim text <+: text.dropWhile isBlank := by
    have suffix := List.dropWhile_suffix isBlank (l := (text.dropWhile isBlank).reverse)
    rw [← List.reverse_prefix] at suffix
    rwa [List.reverse_reverse] at suffix
  obtain ⟨rest, split⟩ := shape
  have found : (text.dropWhile isBlank).head? = some first := by
    rw [← split, List.head?_append, Option.mem_def.1 begins]
    rfl
  have kept := List.head?_dropWhile_not isBlank text
  rw [found] at kept
  simpa using kept

/-- What is left of a text ends with no blank. -/
theorem isBlank_getLast_trim {text : List Char} {last : Char}
    (ends : last ∈ (trim text).getLast?) : isBlank last = false := by
  rw [trim, List.getLast?_reverse] at ends
  have kept := List.head?_dropWhile_not isBlank (text.dropWhile isBlank).reverse
  rw [Option.mem_def.1 ends] at kept
  simpa using kept

theorem trim_trim (text : List Char) : trim (trim text) = trim text :=
  trim_eq_self (fun _ begins => isBlank_head_trim begins) fun _ ends => isBlank_getLast_trim ends

/-! ### Numbers -/

theorem digits?_lower (before : Nat) (text : List Char) :
    digits? before (lower text) = digits? before text := by
  induction text generalizing before with
  | nil => rfl
  | cons character rest inductionHypothesis =>
    change digits? before (character.toLower :: lower rest) = _
    rw [digits?, digits?, isDigit_toLower]
    by_cases digit : character.isDigit = true
    · have range := (isDigit_iff character).1 digit
      have same : character.toLower = character :=
        Char.toNat_inj.1 ((toNat_toLower character).trans (if_neg (by omega)))
      rw [if_pos digit, if_pos digit, same, inductionHypothesis]
    · rw [if_neg digit, if_neg digit]

theorem number?_of_unsigned (bound : Nat) {text : List Char} (unsigned : text.head? ≠ some '+') :
    number? bound text =
      if text.isEmpty then none else (digits? 0 text).filter (· ≤ bound) := by
  unfold number?
  dsimp only
  split
  · exact absurd rfl unsigned
  · rfl

/-- A number that is read does not exceed the bound. -/
theorem le_of_number? {bound number : Nat} {text : List Char}
    (read : number? bound text = some number) : number ≤ bound := by
  have bounded (digits : List Char) : (if digits.isEmpty then none
      else (digits? 0 digits).filter (· ≤ bound)) = some number → number ≤ bound := by
    intro found
    split at found
    · cases found
    · exact of_decide_eq_true (Option.filter_eq_some_iff.1 found).2
  exact bounded _ read

theorem number?_lower (bound : Nat) (text : List Char) :
    number? bound (lower text) = number? bound text := by
  have same (digits : List Char) : (lower digits).isEmpty = digits.isEmpty := List.isEmpty_map
  by_cases signed : text.head? = some '+'
  · obtain ⟨rest, rfl⟩ := List.head?_eq_some_iff.1 signed
    change (if (lower rest).isEmpty then none else (digits? 0 (lower rest)).filter (· ≤ bound)) = _
    rw [same, digits?_lower]
    rfl
  · have unsigned : (lower text).head? ≠ some '+' := mt (head?_lower_eq_iff (by decide)).1 signed
    rw [number?_of_unsigned bound unsigned, number?_of_unsigned bound signed, same, digits?_lower]

theorem digits?_eq_some {text : List Char} (digits : ∀ one ∈ text, one.isDigit = true)
    (before : Nat) : digits? before text = some (Nat.ofDigitChars 10 text before) := by
  induction text generalizing before with
  | nil => rfl
  | cons first rest inductionHypothesis =>
    rw [digits?, if_pos (digits first List.mem_cons_self), Nat.ofDigitChars_cons]
    exact inductionHypothesis (fun one member => digits one (List.mem_cons_of_mem _ member)) _

/-- A text is read as a number digit by digit, and not at all if one of its characters is none. -/
theorem digits?_eq_if (text : List Char) (before : Nat) :
    digits? before text =
      if text.all Char.isDigit then some (Nat.ofDigitChars 10 text before) else none := by
  split
  · next digits => exact digits?_eq_some (List.all_eq_true.1 digits) before
  · next wrong =>
    induction text generalizing before with
    | nil => exact absurd List.all_nil wrong
    | cons first rest inductionHypothesis =>
      rw [List.all_cons, Bool.and_eq_true, not_and] at wrong
      rw [digits?]
      split
      · next digit => exact inductionHypothesis _ (wrong digit)
      · rfl

/-- The digits of a number are read as this number. -/
theorem number?_toDigits {bound number : Nat} (within : number ≤ bound) :
    number? bound (Nat.toDigits 10 number) = some number := by
  have digits : ∀ one ∈ Nat.toDigits 10 number, one.isDigit = true :=
    fun one member => Nat.isDigit_of_mem_toDigits (by decide) (by decide) member
  have unsigned : (Nat.toDigits 10 number).head? ≠ some '+' := fun plus =>
    absurd (digits '+' (List.mem_of_head? plus)) (by decide)
  rw [number?_of_unsigned bound unsigned, digits?_eq_some digits, Nat.ofDigitChars_ten_toDigits,
    if_neg (by simp [Nat.toDigits_ne_nil])]
  exact Option.filter_some_pos (decide_eq_true within)

theorem isBlank_of_isDigit {character : Char} (digit : character.isDigit = true) :
    isBlank character = false := by
  rw [isDigit_iff] at digit
  simp only [isBlank, Bool.or_eq_false_iff, Bool.and_eq_false_iff, decide_eq_false_iff_not,
    beq_eq_false_iff_ne]
  omega

/-- A text with a number at its end does not end with a blank. -/
theorem isBlank_getLast_of_toDigits {text : List Char} {number : Nat}
    (ends : Nat.toDigits 10 number <:+ text) : ∀ last ∈ text.getLast?, isBlank last = false := by
  obtain ⟨front, rfl⟩ := ends
  intro last found
  have written := List.getLast?_eq_some_getLast (Nat.toDigits_ne_nil (n := number) (b := 10))
  rw [Option.mem_def, List.getLast?_append, written] at found
  refine isBlank_of_isDigit (Nat.isDigit_of_mem_toDigits (b := 10) (n := number) (by decide)
    (by decide) ?_)
  exact Option.some.inj found ▸ List.getLast_mem _

end DocumentDriver.Split
