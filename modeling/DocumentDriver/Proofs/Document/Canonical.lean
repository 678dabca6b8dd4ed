/-
This file proves that writing undoes reading. Bytes are the written form of their layout, so a
document is written as the bytes it was read from if only the layout is the one that a writer
chooses: places as the keys of arrays, flags in order. Where the choices differ, the written form
may be longer than what was read, and the only thing that can go wrong is that a length no longer
fits.
-/

import DocumentDriver.Proofs.Document.Layout

namespace DocumentDriver

/-! ### Zero bytes -/

namespace Utf8

theorem mem_encode {byte : UInt8} {text : String} :
    byte ∈ encode text ↔ ∃ character ∈ text.toList, byte ∈ String.utf8EncodeChar character := by
  rw [← List.mem_flatMap]
  conv_lhs => rw [← String.ofList_toList (s := text)]
  unfold encode
  rw [String.toByteArray_ofList, List.utf8Encode, List.data_toByteArray]

/-- Putting the characters of a text in another order brings in no zero byte. -/
theorem zero_not_mem_of_perm {text other : String} (same : text.toList.Perm other.toList)
    (clean : 0 ∉ encode text) : 0 ∉ encode other := by
  intro zero
  obtain ⟨character, member, inside⟩ := mem_encode.1 zero
  exact clean (mem_encode.2 ⟨character, same.mem_iff.2 member, inside⟩)

theorem zero_not_mem_toString (number : Nat) : 0 ∉ encode (toString number) := by
  intro zero
  obtain ⟨digit, member, inside⟩ := mem_encode.1 zero
  have written : toString number = String.ofList (Nat.toDigits 10 number) := rfl
  rw [written, String.toList_ofList] at member
  have decimal := Nat.isDigit_of_mem_toDigits (by decide) (by decide) member
  rw [Char.isDigit, Bool.and_eq_true, decide_eq_true_iff, decide_eq_true_iff] at decimal
  obtain ⟨low, high⟩ := decimal
  have narrow : digit.utf8Size = 1 :=
    Char.utf8Size_eq_one_iff.2 (UInt32.le_trans high (by decide))
  rw [String.utf8EncodeChar_eq_singleton narrow, List.mem_singleton] at inside
  have least : 48 ≤ digit.val.toNat := UInt32.le_iff_toNat_le.1 low
  have most : digit.val.toNat ≤ 57 := UInt32.le_iff_toNat_le.1 high
  have same : 0 = digit.val.toNat % 256 := by
    rw [← UInt32.toNat_toUInt8, ← inside]
    rfl
  omega

end Utf8

/-- Flags in their written order are the same flags. -/
theorem RegexFlags.normalizeText_perm (options : String) :
    options.toList.Perm (normalizeText options).toList := by
  unfold normalizeText normalize
  rw [String.toList_ofList]
  exact ((sorted_perm _).append (sorted_perm _) |>.trans (List.filter_append_perm _ _)).symm

namespace Encode

/-! ### Writing that can only be too long -/

/-- If the step fails, a length does not fit its field. -/
def FailsForLength {Result : Type} (step : Except Error Result) : Prop :=
  ∀ error, step = .error error → ∃ reason, error = .integerRange reason

theorem failsForLength_of_ok {Result : Type} {step : Except Error Result} {result : Result}
    (succeeded : step = .ok result) : FailsForLength step :=
  failsOnly_of_ok succeeded

theorem FailsForLength.bind {Result Next : Type} {first : Except Error Result}
    {next : Result → Except Error Next} (front : FailsForLength first)
    (back : ∀ result, FailsForLength (next result)) : FailsForLength (first >>= next) :=
  FailsOnly.bind front back

theorem failsForLength_length (count : Nat) : FailsForLength (length count) := by
  unfold length
  split
  · exact nofun
  · rintro _ ⟨⟩
    exact ⟨_, rfl⟩

theorem failsForLength_measured (contents : Bytes) : FailsForLength (measured contents) :=
  (failsForLength_length _).bind fun _ => failsForLength_of_ok rfl

/-- A field of a container whose writing can only be too long. -/
def CanOnlyBeTooLong (field : String × Value) : Prop :=
  0 ∉ Utf8.encode field.1 ∧ FailsForLength (value field.2)

theorem failsForLength_entries {fields : Document} (each : ∀ field ∈ fields, CanOnlyBeTooLong field) :
    FailsForLength (entries fields) := by
  induction fields with
  | nil => exact failsForLength_of_ok (by rw [entries])
  | cons first rest inductionHypothesis =>
    obtain ⟨⟨clean, content⟩, others⟩ := List.forall_mem_cons.1 each
    rw [entries]
    exact (failsForLength_of_ok (name_eq_ok_iff.2 ⟨clean, rfl⟩)).bind fun _ =>
      content.bind fun _ => (inductionHypothesis others).bind fun _ => failsForLength_of_ok rfl

/-- An array is written with keys of its own, so the given ones do not matter. -/
theorem failsForLength_items {fields : Document} (index : Nat)
    (each : ∀ field ∈ fields, CanOnlyBeTooLong field) :
    FailsForLength (items index (fields.map (·.2))) := by
  induction fields generalizing index with
  | nil => exact failsForLength_of_ok (by rw [List.map_nil, items])
  | cons first rest inductionHypothesis =>
    obtain ⟨⟨-, content⟩, others⟩ := List.forall_mem_cons.1 each
    have place := name_eq_ok_iff.2 ⟨Utf8.zero_not_mem_toString index, rfl⟩
    rw [List.map_cons, items]
    exact (failsForLength_of_ok place).bind fun _ =>
      content.bind fun _ => (inductionHypothesis (index + 1) others).bind fun _ =>
        failsForLength_of_ok rfl

end Encode

namespace Layout

open Encode

mutual

/-- What has a written layout fails to be written only because it is too long. -/
theorem failsForLength_value (layout : Layout) {bytes : Bytes} (form : layout.written = .ok bytes) :
    FailsForLength (Encode.value layout.value) := by
  match layout with
  | plain content =>
    rw [written] at form
    rw [value]
    exact failsForLength_of_ok form
  | document fields =>
    rw [written] at form
    obtain ⟨inner, listed, -⟩ := bind_eq_ok_iff.1 form
    rw [value, Encode.value]
    exact (failsForLength_entries (canOnlyBeTooLong fields listed)).bind fun elements =>
      failsForLength_measured (elements ++ [0])
  | array elements =>
    rw [written] at form
    obtain ⟨inner, listed, -⟩ := bind_eq_ok_iff.1 form
    rw [value, Encode.value]
    exact (failsForLength_items 0 (canOnlyBeTooLong elements listed)).bind fun elements =>
      failsForLength_measured (elements ++ [0])
  | regex pattern options =>
    rw [written] at form
    obtain ⟨front, first, rest⟩ := bind_eq_ok_iff.1 form
    obtain ⟨back, second, -⟩ := bind_eq_ok_iff.1 rest
    -- The flags are written in another order than they came in, but they are the same flags.
    have clean := Utf8.zero_not_mem_of_perm (RegexFlags.normalizeText_perm options)
      (regexPart_eq_ok_iff.1 second).1
    rw [value, Encode.value]
    exact (failsForLength_of_ok first).bind fun _ =>
      (failsForLength_of_ok (regexPart_eq_ok_iff.2 ⟨clean, rfl⟩)).bind fun _ =>
        failsForLength_of_ok rfl
  | codeWithScope content scope =>
    rw [written] at form
    obtain ⟨code, coded, rest⟩ := bind_eq_ok_iff.1 form
    obtain ⟨inner, listed, -⟩ := bind_eq_ok_iff.1 rest
    rw [value, Encode.value]
    exact (failsForLength_of_ok coded).bind fun front =>
      (failsForLength_entries (canOnlyBeTooLong scope listed)).bind fun elements =>
        (failsForLength_measured (elements ++ [0])).bind fun whole =>
          failsForLength_measured (front ++ whole)

theorem canOnlyBeTooLong (elements : Elements) {bytes : Bytes}
    (form : writtenElements elements = .ok bytes) :
    ∀ field ∈ entries elements, CanOnlyBeTooLong field := by
  match elements with
  | [] =>
    rw [entries]
    exact nofun
  | (key, first) :: rest =>
    rw [writtenElements] at form
    obtain ⟨label, named, form⟩ := bind_eq_ok_iff.1 form
    obtain ⟨contents, inner, form⟩ := bind_eq_ok_iff.1 form
    obtain ⟨others, listed, -⟩ := bind_eq_ok_iff.1 form
    rw [entries]
    exact List.forall_mem_cons.2 ⟨⟨(name_eq_ok_iff.1 named).1, failsForLength_value first inner⟩,
      canOnlyBeTooLong rest listed⟩

end

/-! ### Canonical layouts -/

/-- An array whose elements have their places as keys is written with these keys. -/
theorem labelled_of_numbered {index : Nat} {elements : Elements}
    (numbered : ∀ place (inside : place < elements.length),
      elements[place].1 = toString (index + place)) :
    labelled index ((entries elements).map (·.2)) = entries elements := by
  induction elements generalizing index with
  | nil => rw [entries, List.map_nil, labelled]
  | cons first rest inductionHypothesis =>
    have here : first.1 = toString index := numbered 0 (Nat.zero_lt_succ _)
    have others : ∀ place (inside : place < rest.length),
        rest[place].1 = toString (index + 1 + place) := by
      intro place inside
      rw [Nat.add_right_comm]
      exact numbered (place + 1) (Nat.succ_lt_succ inside)
    rw [entries, List.map_cons, labelled, inductionHypothesis others, here]

mutual

/-- A value with a canonical layout is written as the layout is. -/
theorem encode_value_of_canonical (layout : Layout) (canonical : layout.IsCanonical) :
    Encode.value layout.value = layout.written := by
  match layout with
  | plain content => rw [value, written]
  | document fields =>
    rw [value, written, Encode.value, encode_entries_of_canonical fields canonical]
  | array elements =>
    obtain ⟨numbered, inner⟩ := canonical
    have places : ∀ place (inside : place < elements.length),
        elements[place].1 = toString (0 + place) := by
      intro place inside
      rw [Nat.zero_add]
      exact numbered place inside
    rw [value, written, Encode.value, items_eq_entries, labelled_of_numbered places,
      encode_entries_of_canonical elements inner]
  | regex pattern options =>
    rw [value, written, Encode.value]
    show (do
      let front ← regexPart "pattern" pattern
      return front ++ (← regexPart "options" (RegexFlags.normalizeText options))) = _
    rw [show RegexFlags.normalizeText options = options from canonical]
  | codeWithScope content scope =>
    rw [value, written, Encode.value, encode_entries_of_canonical scope canonical]

theorem encode_entries_of_canonical (elements : Elements) (canonical : AllCanonical elements) :
    Encode.entries (entries elements) = writtenElements elements := by
  match elements with
  | [] => rw [entries, writtenElements, Encode.entries]
  | (key, first) :: rest =>
    obtain ⟨here, others⟩ := canonical
    rw [entries, writtenElements, Encode.entries, encode_value_of_canonical first here,
      encode_entries_of_canonical rest others]

end

end Layout

namespace Document

/-! ### Whole documents -/

/-- What is known of a document that was read: its layout, whose written form the bytes are. -/
structure HasLayout (bytes : Bytes) (document : Document) (elements : Elements) : Prop where
  read : layout bytes = .ok elements
  same : Layout.entries elements = document
  written : Layout.writtenElements elements >>= Encode.container = .ok bytes
  distinct : document.KeysDistinct
  shallow : document.depth ≤ 200

theorem run_of_decode {bytes : Bytes} {document : Document} (read : decode bytes = .ok document) :
    ∃ after, Read.document (Reader.start bytes) = .ok (document, after) ∧ after.rest = [] := by
  obtain ⟨⟨given, after⟩, run, last⟩ := bind_eq_ok_iff.1 read
  dsimp only at last
  split at last
  next ended =>
    cases last
    exact ⟨after, run, List.isEmpty_iff.1 ended⟩
  next => cases last

theorem exists_hasLayout {bytes : Bytes} {document : Document}
    (read : decode bytes = .ok document) : ∃ elements, HasLayout bytes document elements := by
  obtain ⟨after, run, ended⟩ := run_of_decode read
  obtain ⟨elements, detailed, same, distinct, shallow⟩ :=
    (Layout.followsContainers 201).document run
  obtain ⟨head, form, whole⟩ := Layout.sound_readElements 201 detailed
  rw [ended, List.append_nil] at whole
  subst whole
  refine ⟨elements, ?_, same, form, distinct, Nat.le_of_lt_succ shallow⟩
  unfold layout
  rw [show Layout.readElements (Decode.maxDepth + 1) _ = _ from detailed]
  rfl

theorem decode_of_encode {bytes : Bytes} {document : Document} (distinct : document.KeysDistinct)
    (shallow : document.depth ≤ 200) (written : document.encode = .ok bytes) :
    decode bytes = .ok document := by
  rw [encode_eq] at written
  unfold decode
  rw [show Reader.start bytes = ⟨0, bytes⟩ from rfl,
    (takes_document distinct shallow written).exhausts]
  rfl

theorem HasLayout.encode_eq_ok {bytes : Bytes} {document : Document} {elements : Elements}
    (known : HasLayout bytes document elements) (canonical : Layout.AllCanonical elements) :
    document.encode = .ok bytes := by
  rw [encode_eq, ← known.same, Layout.encode_entries_of_canonical elements canonical]
  exact known.written

/-- A document that was read can be written unless that takes more bytes than a length can say,
and then it is read back. With its places as the keys of arrays and its flags in order it is
written as it was. Since a document and its layout determine the bytes, nothing else in them is
passed over by a reader. -/
theorem encode_decoded (bytes : Bytes) (document : Document)
    (read : decode bytes = .ok document) :
    ((∃ reason, document.encode = .error (.integerRange reason)) ∨
      ∃ written, document.encode = .ok written ∧ decode written = .ok document) ∧
    ∃ elements, layout bytes = .ok elements ∧ Layout.entries elements = document ∧
      (Layout.AllCanonical elements → document.encode = .ok bytes) ∧
      ∀ other, decode other = .ok document → layout other = .ok elements → other = bytes := by
  obtain ⟨elements, known⟩ := exists_hasLayout read
  refine ⟨?_, elements, known.read, known.same, known.encode_eq_ok, ?_⟩
  · -- Other keys and another order of flags may be written than were read, so only that the keys
    -- and flags can be written carries over from the bytes, not that they are short enough.
    have tooLong : Encode.FailsForLength document.encode := by
      obtain ⟨inner, listed, -⟩ := bind_eq_ok_iff.1 known.written
      rw [encode_eq, ← known.same]
      exact (Encode.failsForLength_entries (Layout.canOnlyBeTooLong elements listed)).bind
        fun entries => Encode.failsForLength_measured (entries ++ [0])
    cases written : document.encode with
    | error error =>
      obtain ⟨reason, rfl⟩ := tooLong error written
      exact .inl ⟨reason, rfl⟩
    | ok whole => exact .inr ⟨whole, rfl, decode_of_encode known.distinct known.shallow written⟩
  · intro other again placed
    obtain ⟨_, others⟩ := exists_hasLayout again
    cases placed.symm.trans others.read
    exact Except.ok.inj (others.written.symm.trans known.written)

/-- The bytes of a document that holds an array and a regular expression. -/
def canonicalBytes : Bytes :=
  [30, 0, 0, 0, 4, 97, 0, 12, 0, 0, 0, 8, 48, 0, 1, 10, 49, 0, 0, 11, 114, 0, 120, 0, 105, 109, 97,
   98, 0, 0]

theorem encode_decoded_canonicalBytes :
    ∃ document, decode canonicalBytes = .ok document ∧ document.encode = .ok canonicalBytes := by
  have read : decode canonicalBytes = .ok [("a", .array [.boolean true, .null]),
      ("r", .regex (Regex.of "x" "imab"))] := by rfl
  obtain ⟨-, elements, placed, -, written, -⟩ := encode_decoded _ _ read
  have known : layout canonicalBytes = .ok [("a", .array [("0", .plain (.boolean true)),
      ("1", .plain .null)]), ("r", .regex "x" "imab")] := by rfl
  cases known.symm.trans placed
  refine ⟨_, read, written ⟨⟨?_, trivial, trivial, trivial⟩, ?_, trivial⟩⟩
  · intro index inside
    match index with
    | 0 | 1 => rfl
  · show RegexFlags.normalizeText "imab" = "imab"
    simp [RegexFlags.normalizeText, RegexFlags.normalize, RegexFlags.sorted,
      RegexFlags.isRecognized, List.mergeSort]

end Document

end DocumentDriver
