/-
This file proves how identifiers and their texts belong together. The text of an identifier is read
as this identifier. Any other text without a plus sign is read exactly if it is 24 hexadecimal digits,
and it differs from the text of what was read in the case of its letters only. Identifiers are in the
order of their texts, so it does not matter which of the two are compared.

All of this follows from one fact: a text without a plus sign is read as the identifier whose text it
is in lower case.
-/

import DocumentDriver.Document.ObjectId
import DocumentDriver.Proofs.Text.Hex

namespace DocumentDriver

namespace ObjectId

open Hex Split

/-! ### Pairs of digits -/

/-- Two characters without a plus sign are the byte whose digits they are. -/
theorem pair?_eq_some_iff {high low : Char} {byte : UInt8} (unsigned : high ≠ '+') :
    pair? high low = some byte ↔ ofByte byte = [high.toLower, low.toLower] := by
  rw [pair?, if_neg unsigned]
  simp only [Option.bind_eq_bind, Option.bind_eq_some_iff, Option.pure_def, Option.some_inj,
    value?_eq_some_iff]
  constructor
  · rintro ⟨upper, ⟨small, same⟩, lower, ⟨other, equal⟩, rfl⟩
    rw [ofByte_ofNat small other, same, equal]
  · intro written
    obtain ⟨same, rest⟩ := List.cons_eq_cons.1 written
    refine ⟨_, ⟨high_lt byte, same⟩, _, ⟨low_lt byte, (List.cons_eq_cons.1 rest).1⟩, ?_⟩
    rw [Nat.div_add_mod, UInt8.ofNat_toNat]

/-- A text without a plus sign is the bytes whose digits it is. -/
theorem pairs?_eq_some_iff {text : List Char} {bytes : Bytes} (unsigned : '+' ∉ text) :
    pairs? text = some bytes ↔ chars bytes = lower text := by
  induction text using pairs?.induct generalizing bytes with
  | case1 =>
    cases bytes with
    | nil => exact iff_of_true rfl rfl
    | cons byte rest => exact iff_of_false (by simp [pairs?]) (by simp [chars_cons, lower])
  | case2 single =>
    cases bytes with
    | nil => exact iff_of_false (by simp [pairs?]) (by simp [chars, lower])
    | cons byte rest => exact iff_of_false (by simp [pairs?]) (by simp [chars_cons, lower])
  | case3 high low rest inductionHypothesis =>
    obtain ⟨first, -, later⟩ : '+' ≠ high ∧ '+' ≠ low ∧ '+' ∉ rest := by simpa using unsigned
    simp only [pairs?, Option.bind_eq_bind, Option.bind_eq_some_iff, Option.pure_def,
      Option.some_inj, pair?_eq_some_iff (Ne.symm first), inductionHypothesis later]
    cases bytes with
    | nil => exact iff_of_false (by simp) (by simp [chars, lower])
    | cons byte others =>
      constructor
      · rintro ⟨one, written, more, behind, same⟩
        obtain ⟨rfl, rfl⟩ := List.cons_eq_cons.1 same
        change ofByte one ++ chars more = _
        rw [written, behind]
        rfl
      · intro whole
        change [digit _, digit _] ++ chars others = [high.toLower, low.toLower] ++ lower rest at whole
        obtain ⟨written, behind⟩ := List.append_inj whole rfl
        exact ⟨byte, written, others, behind, rfl⟩

/-- Digits in pairs are the digits of some bytes. -/
theorem exists_chars_eq {text : List Char} (count : Nat) (even : text.length = 2 * count)
    (digits : ∀ one ∈ text, one.isHexDigit = true) : ∃ bytes, chars bytes = lower text := by
  induction text using pairs?.induct generalizing count with
  | case1 => exact ⟨[], rfl⟩
  | case2 single =>
    rw [List.length_singleton] at even
    omega
  | case3 high low rest inductionHypothesis =>
    simp only [List.mem_cons, forall_eq_or_imp] at digits
    obtain ⟨upper, small, same⟩ := exists_digit_iff.2 digits.1
    obtain ⟨lower, other, equal⟩ := exists_digit_iff.2 digits.2.1
    obtain ⟨bytes, behind⟩ := inductionHypothesis (count - 1)
      (by rw [List.length_cons, List.length_cons] at even; omega) digits.2.2
    refine ⟨UInt8.ofNat (16 * upper + lower) :: bytes, ?_⟩
    change ofByte _ ++ chars bytes = _
    rw [ofByte_ofNat small other, same, equal, behind]
    rfl

/-! ### Texts of identifiers -/

theorem length_toBytes (id : ObjectId) : id.toBytes.length = 12 := id.bytes.length_toList

theorem toList_hex (id : ObjectId) : id.hex.toList = chars id.toBytes := String.toList_ofList

theorem length_hex (id : ObjectId) : id.hex.toList.length = 24 := by
  rw [toList_hex, length_chars, length_toBytes]

theorem toBytes_injective {left right : ObjectId} (same : left.toBytes = right.toBytes) :
    left = right := by
  obtain ⟨left⟩ := left
  obtain ⟨right⟩ := right
  exact congrArg ObjectId.mk (Vector.toList_inj.1 same)

theorem ofBytes?_toBytes (id : ObjectId) : ofBytes? id.toBytes = some id := by
  rw [ofBytes?, dif_pos id.length_toBytes]
  exact congrArg some (toBytes_injective rfl)

theorem toBytes_of_ofBytes? {bytes : Bytes} {id : ObjectId} (made : ofBytes? bytes = some id) :
    id.toBytes = bytes := by
  unfold ofBytes? at made
  split at made
  · cases made
    rfl
  · cases made

theorem ofBytes?_eq_some_iff {bytes : Bytes} {id : ObjectId} :
    ofBytes? bytes = some id ↔ id.toBytes = bytes :=
  ⟨toBytes_of_ofBytes?, fun same => same ▸ ofBytes?_toBytes id⟩

/-- The length in bytes of a text that is all ASCII is its length. -/
theorem utf8ByteSize_of_ascii {text : String} (ascii : text.toList.all (·.toNat < 128) = true) :
    text.utf8ByteSize = text.toList.length := by
  obtain ⟨characters, rfl⟩ : ∃ characters, text = String.ofList characters :=
    ⟨text.toList, String.ofList_toList.symm⟩
  rw [String.toList_ofList] at ascii ⊢
  induction characters with
  | nil => rfl
  | cons first rest inductionHypothesis =>
    rw [List.all_cons, Bool.and_eq_true, decide_eq_true_iff] at ascii
    have single : first.utf8Size = 1 :=
      Char.utf8Size_eq_one_iff.2 (UInt32.le_iff_toNat_le.2 (Nat.le_of_lt_succ ascii.1))
    rw [String.ofList_cons, String.utf8ByteSize_append, inductionHypothesis ascii.2,
      String.utf8ByteSize_singleton, single, List.length_cons, Nat.add_comm]

theorem ascii_of_digits {text : List Char} (digits : ∀ one ∈ text, one.isHexDigit = true) :
    text.all (·.toNat < 128) = true := by
  refine List.all_eq_true.2 fun one member => decide_eq_true ?_
  have range := isHexDigit_iff.1 (digits one member)
  omega

/-- What is read are pairs of digits, 24 characters of ASCII in all. -/
theorem parse_eq_ok_iff {text : String} {id : ObjectId} :
    parse text = .ok id ↔
      (text.utf8ByteSize = 24 ∧ text.toList.all (·.toNat < 128) = true) ∧
        pairs? text.toList = some id.toBytes := by
  have whole : pairs? text.toList >>= ofBytes? = some id ↔
      pairs? text.toList = some id.toBytes := by
    simp only [Option.bind_eq_bind, Option.bind_eq_some_iff, ofBytes?_eq_some_iff]
    exact ⟨fun ⟨bytes, read, same⟩ => same ▸ read, fun read => ⟨_, read, rfl⟩⟩
  rw [parse, ← whole]
  split
  · next wrong => exact iff_of_false (by simp) fun right => by grind
  · next right =>
    rw [not_or, not_not, not_not] at right
    rw [and_iff_right right]
    cases pairs? text.toList >>= ofBytes? with
    | none => exact iff_of_false (by simp) (by simp)
    | some found => simp

theorem isHexDigit_of_chars {text : List Char} {bytes : Bytes} (written : chars bytes = lower text) :
    ∀ one ∈ text, one.isHexDigit = true := by
  intro one member
  have small : one.toLower ∈ chars bytes := written ▸ List.mem_map_of_mem member
  exact (isHexDigit_toLower one).symm.trans (isHexDigit_of_mem_chars small)

/-- A text without a plus sign is read as the identifier whose text it is in lower case. -/
theorem parse_eq_ok_iff_hex {text : String} {id : ObjectId} (unsigned : '+' ∉ text.toList) :
    parse text = .ok id ↔ id.hex = text.toLower := by
  have texts : id.hex = text.toLower ↔ chars id.toBytes = lower text.toList := by
    rw [← String.toList_inj, toList_hex, toList_toLower]
  rw [parse_eq_ok_iff, pairs?_eq_some_iff unsigned, texts]
  refine and_iff_right_of_imp fun written => ?_
  have ascii := ascii_of_digits (isHexDigit_of_chars written)
  refine ⟨?_, ascii⟩
  rw [utf8ByteSize_of_ascii ascii, ← length_hex id, toList_hex, written, lower, List.length_map]

/-- Which texts without a plus sign are read at all. -/
theorem exists_parse_iff {text : String} (unsigned : '+' ∉ text.toList) :
    (∃ id, parse text = .ok id) ↔
      text.length = 24 ∧ ∀ one ∈ text.toList, one.isHexDigit = true := by
  constructor
  · rintro ⟨id, read⟩
    obtain ⟨⟨size, ascii⟩, pairs⟩ := parse_eq_ok_iff.1 read
    exact ⟨(utf8ByteSize_of_ascii ascii).symm.trans size,
      isHexDigit_of_chars ((pairs?_eq_some_iff unsigned).1 pairs)⟩
  · rintro ⟨size, digits⟩
    have ascii := ascii_of_digits digits
    obtain ⟨bytes, written⟩ := exists_chars_eq 12 size digits
    have twelve : bytes.length = 12 := by
      have lengths := congrArg List.length written
      rw [length_chars, lower, List.length_map, String.length_toList, size] at lengths
      omega
    refine ⟨⟨⟨bytes.toArray, twelve⟩⟩, parse_eq_ok_iff.2 ⟨⟨?_, ascii⟩, ?_⟩⟩
    · exact (utf8ByteSize_of_ascii ascii).trans size
    · exact (pairs?_eq_some_iff unsigned).2 written

theorem isHexDigit_of_mem_hex {id : ObjectId} {one : Char} (member : one ∈ id.hex.toList) :
    one.isHexDigit = true := isHexDigit_of_mem_chars (toList_hex id ▸ member)

theorem toLower_hex (id : ObjectId) : id.hex.toLower = id.hex := by
  rw [← String.toList_inj, toList_toLower, toList_hex, lower_chars]

theorem parse_hex (id : ObjectId) : parse id.hex = .ok id :=
  (parse_eq_ok_iff_hex fun plus => absurd (isHexDigit_of_mem_hex plus) (by decide)).2
    (toLower_hex id).symm

theorem lt_iff_hex_lt (left right : ObjectId) : left < right ↔ left.hex < right.hex := by
  rw [String.lt_iff, toList_hex, toList_hex, chars_lt_chars_iff]
  exact Iff.rfl

/-- The text of an identifier is read as this identifier. A text without a plus sign is read exactly if
it is 24 hexadecimal digits, and then as the identifier whose text it is in lower case. Identifiers are
in the order of their texts. -/
theorem texts_stand_for_identifiers :
    (∀ id : ObjectId, parse id.hex = .ok id) ∧
      (∀ text : String, '+' ∉ text.toList →
        ((∃ id, parse text = .ok id) ↔
          text.length = 24 ∧ ∀ one ∈ text.toList, one.isHexDigit = true) ∧
        ∀ id, parse text = .ok id ↔ id.hex = text.toLower) ∧
      ∀ left right : ObjectId, left < right ↔ left.hex < right.hex :=
  ⟨parse_hex, fun _ unsigned => ⟨exists_parse_iff unsigned, fun _ => parse_eq_ok_iff_hex unsigned⟩,
    lt_iff_hex_lt⟩

theorem texts_stand_for_identifiers_capitals :
    let id : ObjectId :=
      ⟨#v[0x50, 0x7F, 0x1F, 0x77, 0xBC, 0xF8, 0x6C, 0xD7, 0x99, 0x43, 0x90, 0x11]⟩
    '+' ∉ "507F1F77bcf86cd799439011".toList ∧ parse "507F1F77bcf86cd799439011" = .ok id ∧
      id.hex = "507f1f77bcf86cd799439011" := by
  intro id
  have unsigned : '+' ∉ "507F1F77bcf86cd799439011".toList := by decide +kernel
  obtain ⟨-, texts, -⟩ := texts_stand_for_identifiers
  have read := ((texts _ unsigned).2 id).2 (by decide +kernel)
  exact ⟨unsigned, read, by decide +kernel⟩

/-- A plus sign is read like a zero in front of the second digit of a pair. -/
example : (parse "+57f1f77bcf86cd799439011").map hex = .ok "057f1f77bcf86cd799439011" := by
  decide +kernel

end ObjectId

end DocumentDriver
