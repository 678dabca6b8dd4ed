/-
This file says exactly which documents can be written. Every step of a writer settles the same three
questions: whether a key in front of it holds a zero byte, whether a regular expression does, and how
many bytes it takes. If it succeeds there is no such fault and the bytes are as many as were counted;
if it fails, its error tells of a fault that is there, or the count is too large for a length. The inner
lengths need no condition of their own, because whatever is inside a value is no larger than the value.
-/

import DocumentDriver.Proofs.Document.Inside
import DocumentDriver.Proofs.Document.Canonical

namespace DocumentDriver

namespace Encode

open Value (Has IsMiskeyed IsBrokenRegex)

/-! ### Faults and the errors that tell of them -/

/-- An error tells of a fault that is there: a zero byte in a key, a zero byte in a regular expression,
or a size of which a length field cannot tell. -/
inductive Blames (zeroKey zeroRegex : Prop) (size : Nat) : Error → Prop
  | key (reason : String) (zero : zeroKey) : Blames zeroKey zeroRegex size (.invalidKey reason)
  | regex (reason : String) (zero : zeroRegex) : Blames zeroKey zeroRegex size (.invalidType reason)
  | size (reason : String) (large : 2 ^ 31 ≤ size) :
      Blames zeroKey zeroRegex size (.integerRange reason)

/-- What is wrong with a part is wrong with the whole. -/
theorem Blames.mono {zeroKey zeroRegex wholeKey wholeRegex : Prop} {size whole : Nat} {error : Error}
    (blames : Blames zeroKey zeroRegex size error) (keys : zeroKey → wholeKey)
    (regexes : zeroRegex → wholeRegex) (fits : size ≤ whole) :
    Blames wholeKey wholeRegex whole error := by
  cases blames with
  | key reason zero => exact .key reason (keys zero)
  | regex reason zero => exact .regex reason (regexes zero)
  | size reason large => exact .size reason (Nat.le_trans large fits)

/-- A step that gives bytes gives as many as were counted and has no fault, and one that fails tells of
a fault that it has. -/
structure Settles (zeroKey zeroRegex : Prop) (size : Nat) (step : Written) : Prop where
  written : ∀ bytes, step = .ok bytes → bytes.length = size ∧ ¬zeroKey ∧ ¬zeroRegex
  refused : FailsOnly (Blames zeroKey zeroRegex size) step

/-- A step gives bytes exactly if it has no fault, once a length can tell of its size. -/
theorem Settles.succeeds_iff {zeroKey zeroRegex : Prop} {size : Nat} {step : Written}
    (settles : Settles zeroKey zeroRegex size step) (small : size < 2 ^ 31) :
    (∃ bytes, step = .ok bytes) ↔ ¬zeroKey ∧ ¬zeroRegex := by
  constructor
  · rintro ⟨bytes, done⟩
    exact (settles.written bytes done).2
  · rintro ⟨keys, regexes⟩
    cases outcome : step with
    | ok bytes => exact ⟨bytes, rfl⟩
    | error error =>
      cases settles.refused error outcome with
      | key reason zero => exact absurd zero keys
      | regex reason zero => exact absurd zero regexes
      | size reason large => exact absurd small (Nat.not_lt.2 large)

theorem Settles.of_iff {zeroKey zeroRegex otherKey otherRegex : Prop} {size : Nat}
    {step : Written} (settles : Settles zeroKey zeroRegex size step) (keys : otherKey ↔ zeroKey)
    (regexes : otherRegex ↔ zeroRegex) : Settles otherKey otherRegex size step := by
  rwa [propext keys, propext regexes]

variable {zeroKey zeroRegex : Prop} {size : Nat}

theorem settles_ok {bytes : Bytes} (counted : bytes.length = size) :
    Settles False False size (.ok bytes) where
  written := by
    rintro _ ⟨⟩
    exact ⟨counted, id, id⟩
  refused := nofun

/-- Of two steps one after the other, the first must not be larger than both together. -/
theorem Settles.bind {nextKey nextRegex : Prop} {whole : Nat} {first : Written}
    {next : Bytes → Written} (front : Settles zeroKey zeroRegex size first) (fits : size ≤ whole)
    (back : ∀ bytes, bytes.length = size → Settles nextKey nextRegex whole (next bytes)) :
    Settles (zeroKey ∨ nextKey) (zeroRegex ∨ nextRegex) whole (first >>= next) := by
  cases outcome : first with
  | error problem =>
    refine ⟨nofun, fun error same => ?_⟩
    cases same
    exact (front.refused problem outcome).mono .inl .inl fits
  | ok middle =>
    -- What succeeded has no fault, so only those of the second step are left.
    obtain ⟨counted, keys, regexes⟩ := front.written middle outcome
    refine (back middle counted).of_iff ?_ ?_
    · exact or_iff_right keys
    · exact or_iff_right regexes

/-! ### Fields -/

theorem length_encode (text : String) : (Utf8.encode text).length = text.utf8ByteSize := by
  simp [Utf8.encode]

/-- A length that counts no more than the whole is the only thing that can be wrong here. -/
theorem settles_prefixed {count : Nat} {contents : Bytes} (fits : count ≤ size)
    (counted : 4 + contents.length = size) :
    Settles False False size (do return (← length count) ++ contents) where
  written := by
    intro bytes done
    obtain ⟨-, rfl⟩ := prefixed_eq_ok_iff.1 done
    rw [List.length_append, length_littleEndian]
    exact ⟨counted, id, id⟩
  refused := by
    intro error failed
    by_cases small : count < 2 ^ 31
    · rw [length, if_pos small] at failed
      cases failed
    · rw [length, if_neg small] at failed
      cases failed
      exact .size _ (Nat.le_trans (Nat.not_lt.1 small) fits)

theorem settles_text (content : String) :
    Settles False False (4 + content.utf8ByteSize + 1) (text content) := by
  have behind : (Utf8.encode content ++ [0]).length = content.utf8ByteSize + 1 := by
    rw [List.length_append, length_encode, List.length_singleton]
  refine settles_prefixed ?_ ?_
  · rw [length_encode]
    omega
  · rw [behind]
    omega

theorem settles_measured {contents : Bytes} (counted : 4 + contents.length = size) :
    Settles False False size (measured contents) :=
  settles_prefixed (by omega) counted

theorem settles_container {elements : Bytes} (counted : 4 + elements.length + 1 = size) :
    Settles False False size (container elements) := by
  refine settles_measured ?_
  rw [List.length_append, List.length_singleton]
  omega

/-- A text that ends with a zero byte and must hold none before. -/
theorem settles_terminated {cause : Unwritable} {content : String}
    (fault : zeroKey ∨ zeroRegex ↔ 0 ∈ Utf8.encode content)
    (told : 0 ∈ Utf8.encode content → ∀ size, Blames zeroKey zeroRegex size cause.toError) :
    Settles zeroKey zeroRegex (content.utf8ByteSize + 1)
      (if 0 ∈ Utf8.encode content then refuse cause else .ok (Utf8.encode content ++ [0])) where
  written := by
    intro bytes done
    obtain ⟨clean, rfl⟩ := terminated_eq_ok_iff.1 done
    rw [List.length_append, length_encode]
    exact ⟨rfl, not_or.1 fun faulty => clean (fault.1 faulty)⟩
  refused := by
    split
    · rintro _ ⟨⟩
      exact told ‹_› _
    · exact nofun

theorem settles_name (key : String) :
    Settles (0 ∈ Utf8.encode key) False (key.utf8ByteSize + 1) (name key) :=
  settles_terminated (iff_of_eq (or_false _)) fun zero _ => .key _ zero

theorem settles_regexPart (part content : String) :
    Settles False (0 ∈ Utf8.encode content) (content.utf8ByteSize + 1) (regexPart part content) :=
  settles_terminated (iff_of_eq (false_or _)) fun zero _ => .regex _ zero

/-- Old binary data has two lengths in front, and the outer one counts the inner one. -/
theorem settles_binary (data : Binary) :
    Settles False False (Value.binary data).size (binary data) := by
  rw [Value.size]
  unfold binary length
  by_cases small : data.bytes.length < 2 ^ 31
  · rw [if_pos small]
    refine Settles.of_iff (Settles.bind (settles_ok (length_littleEndian _ _)) (by omega)
      fun inner counted => ?_) or_self_iff.symm or_self_iff.symm
    by_cases old : data.subtype = .old
    · rw [if_pos old, if_pos old]
      by_cases room : data.bytes.length + 4 < 2 ^ 31
      · rw [if_pos room]
        refine settles_ok ?_
        simp only [List.length_append, List.length_cons, length_littleEndian, counted]
        omega
      · rw [if_neg room]
        refine ⟨nofun, ?_⟩
        rintro _ ⟨⟩
        exact .size _ (by omega)
    · rw [if_neg old, if_neg old]
      refine settles_ok ?_
      simp only [List.length_append, List.length_cons, counted]
      omega
  · rw [if_neg small]
    refine ⟨nofun, ?_⟩
    rintro _ ⟨⟩
    exact .size _ (by omega)

/-! ### Entries and values -/

/-- One entry and what follows it. -/
theorem settles_entry {key : String} {content : Value} {rest : Written} {contentKey contentRegex : Prop}
    (front : Settles contentKey contentRegex content.size (value content))
    (back : Settles zeroKey zeroRegex size rest) :
    Settles ((0 ∈ Utf8.encode key ∨ contentKey) ∨ zeroKey) (contentRegex ∨ zeroRegex)
      (1 + (key.utf8ByteSize + 1) + content.size + size)
      (do
        let label ← name key
        let contents ← value content
        return content.elementType.byte :: (label ++ (contents ++ (← rest)))) := by
  refine ((settles_name key).bind (by omega) fun label labelled =>
    front.bind (by omega) fun contents sized => back.bind (by omega) fun others counted =>
      settles_ok ?_).of_iff ?_ ?_
  · rw [List.length_cons, List.length_append, List.length_append, labelled, sized, counted]
    omega
  · rw [or_false, or_assoc]
  · rw [or_false, false_or]

/-- A value that is no container has only faults of its own. -/
theorem settles_leaf {content : Value} {step : Written} (leaf : ¬content.IsContainer)
    (settles : Settles False content.IsBrokenRegex content.size step) :
    Settles (Has IsMiskeyed content) (Has IsBrokenRegex content) content.size step := by
  refine settles.of_iff ?_ (Value.has_iff_of_not_isContainer leaf)
  rw [Value.has_iff_of_not_isContainer leaf, iff_false]
  cases content with
  | document => exact absurd trivial leaf
  | _ => exact id

mutual

theorem settles_value (content : Value) :
    Settles (Has IsMiskeyed content) (Has IsBrokenRegex content) content.size (value content) := by
  match content with
  | .double _ | .undefined | .null | .maxKey | .minKey | .objectId _ | .boolean _ | .dateTime _
  | .int32 _ | .timestamp _ | .int64 _ | .decimal128 _ =>
    rw [value]
    refine settles_leaf id (settles_ok ?_)
    simp [Value.size, Bytes.ofInt64, Bytes.ofInt32, Bytes.ofUInt32, ObjectId.toBytes,
      length_littleEndian]
  | .string _ | .code _ | .symbol _ =>
    rw [value]
    refine settles_leaf id ?_
    rw [Value.size]
    exact settles_text _
  | .binary data =>
    rw [value]
    exact settles_leaf id (settles_binary data)
  | .regex expression =>
    rw [value]
    refine settles_leaf id ?_
    rw [Value.size]
    refine ((settles_regexPart _ _).bind (by omega) fun pattern sized =>
      (settles_regexPart _ _).bind (by omega) fun options counted => settles_ok ?_).of_iff ?_ ?_
    · rw [List.length_append, sized, counted]
      omega
    · simp
    · rw [or_false]
      rfl
  | .dbPointer pointer =>
    rw [value]
    refine settles_leaf id ?_
    rw [Value.size]
    refine ((settles_text _).bind (by omega) fun space sized => settles_ok ?_).of_iff ?_ ?_
    · simp [sized, ObjectId.toBytes]
    · simp
    · simp [IsBrokenRegex]
  | .document fields =>
    rw [value, Value.size]
    refine ((settles_entries fields).bind (by omega) fun elements sized =>
      settles_container ?_).of_iff ?_ ?_
    · rw [sized]
    · rw [or_false, Value.has_isMiskeyed_document_iff]
    · rw [or_false, Value.has_isBrokenRegex_document_iff]
  | .array values =>
    rw [value, Value.size]
    refine ((settles_items 0 values).bind (by omega) fun elements sized =>
      settles_container ?_).of_iff ?_ ?_
    · rw [sized]
    · rw [or_false, Value.has_array_iff]
      exact or_iff_right id
    · rw [or_false, Value.has_array_iff]
      exact or_iff_right id
  | .codeWithScope text scope =>
    rw [value, Value.size]
    refine ((settles_text text).bind (by omega) fun code sized =>
      (settles_entries scope).bind (by omega) fun elements counted =>
        (settles_container (congrArg (4 + · + 1) counted)).bind (by omega) fun inner measured =>
          settles_measured ?_).of_iff ?_ ?_
    · rw [List.length_append, sized, measured]
      omega
    · rw [or_false, or_false, false_or, ← Value.has_isMiskeyed_document_iff,
        Value.has_codeWithScope_iff]
      exact or_iff_right id
    · rw [or_false, or_false, false_or, ← Value.has_isBrokenRegex_document_iff,
        Value.has_codeWithScope_iff]
      exact or_iff_right id

theorem settles_entries (fields : List (String × Value)) :
    Settles (∃ field ∈ fields, 0 ∈ Utf8.encode field.1 ∨ Has IsMiskeyed field.2)
      (∃ field ∈ fields, Has IsBrokenRegex field.2) (Value.sizeEntries fields) (entries fields) := by
  match fields with
  | [] =>
    rw [entries, Value.sizeEntries]
    refine (settles_ok List.length_nil).of_iff ?_ ?_
    · simp
    · simp
  | (key, first) :: rest =>
    rw [entries, Value.sizeEntries]
    exact (settles_entry (settles_value first) (settles_entries rest)).of_iff
      (List.exists_mem_cons_iff ..) (List.exists_mem_cons_iff ..)

theorem settles_items (index : Nat) (values : List Value) :
    Settles (∃ content ∈ values, Has IsMiskeyed content)
      (∃ content ∈ values, Has IsBrokenRegex content) (Value.sizeItems index values)
      (items index values) := by
  match values with
  | [] =>
    rw [items, Value.sizeItems]
    refine (settles_ok List.length_nil).of_iff ?_ ?_
    · simp
    · simp
  | first :: rest =>
    rw [items, Value.sizeItems]
    refine (settles_entry (settles_value first) (settles_items (index + 1) rest)).of_iff
      ?_ (List.exists_mem_cons_iff ..)
    rw [or_iff_right (Utf8.zero_not_mem_toString index)]
    exact List.exists_mem_cons_iff ..

end

/-! ### The values inside -/

theorem entries_append_eq_ok {front back : List (String × Value)} {bytes : Bytes}
    (written : entries (front ++ back) = .ok bytes) :
    ∃ before after, entries front = .ok before ∧ entries back = .ok after ∧
      before ++ after = bytes := by
  induction front generalizing bytes with
  | nil => exact ⟨[], bytes, by rw [entries], written, List.nil_append _⟩
  | cons first rest inductionHypothesis =>
    obtain ⟨head, tail, element, others, rfl⟩ := entries_cons_eq_ok_iff.1 written
    obtain ⟨before, after, done, last, rfl⟩ := inductionHypothesis others
    exact ⟨head ++ before, after, entries_cons_eq_ok_iff.2 ⟨head, before, element, done, rfl⟩, last,
      List.append_assoc ..⟩

theorem isPart_of_container {elements bytes : Bytes} (written : container elements = .ok bytes) :
    IsPart 4 elements bytes := by
  obtain ⟨-, rfl⟩ := container_eq_ok_iff.1 written
  exact ⟨littleEndian 4 (elements.length + 5), [0], (List.append_assoc ..).symm,
    length_littleEndian _ _⟩

/-- The value of an entry stands behind the entries before it, its type byte and its key. -/
theorem isPart_of_entries {before after : List (String × Value)} {key : String} {content : Value}
    {bytes : Bytes} (written : entries (before ++ (key, content) :: after) = .ok bytes) :
    ∃ part, value content = .ok part ∧
      IsPart (Value.sizeEntries before + (1 + (key.utf8ByteSize + 1))) part bytes := by
  obtain ⟨front, back, done, others, rfl⟩ := entries_append_eq_ok written
  obtain ⟨head, tail, ⟨-, part, given, rfl⟩, -, rfl⟩ := entries_cons_eq_ok_iff.1 others
  refine ⟨part, given, front ++ [content.elementType.byte] ++ (Utf8.encode key ++ [0]), tail, ?_, ?_⟩
  · simp only [List.append_assoc]
  · simp only [List.length_append, List.length_singleton, length_encode,
      ((settles_entries before).written front done).1]
    omega

theorem labelled_append (index : Nat) (front back : List Value) :
    labelled index (front ++ back) = labelled index front ++ labelled (index + front.length) back := by
  induction front generalizing index with
  | nil => rfl
  | cons first rest inductionHypothesis =>
    rw [List.cons_append, labelled, labelled, inductionHypothesis, List.length_cons,
      Nat.add_right_comm, ← Nat.add_assoc, List.cons_append]

theorem sizeEntries_labelled (index : Nat) (values : List Value) :
    Value.sizeEntries (labelled index values) = Value.sizeItems index values := by
  induction values generalizing index with
  | nil => rw [labelled, Value.sizeEntries, Value.sizeItems]
  | cons first rest inductionHypothesis =>
    rw [labelled, Value.sizeEntries, Value.sizeItems, inductionHypothesis]

/-- What is inside a value is written inside its bytes, at its place, as it would be alone. -/
theorem isPart_of_holds {outer inner : Value} {place : Nat} (holds : Value.Holds outer place inner)
    {bytes : Bytes} (written : value outer = .ok bytes) :
    ∃ part, value inner = .ok part ∧ IsPart place part bytes := by
  induction holds generalizing bytes with
  | itself content => exact ⟨bytes, written, isPart_self bytes⟩
  | entry holds inductionHypothesis =>
    rw [value] at written
    obtain ⟨elements, done, framed⟩ := bind_eq_ok_iff.1 written
    obtain ⟨middle, given, behind⟩ := isPart_of_entries done
    obtain ⟨part, last, deep⟩ := inductionHypothesis given
    refine ⟨part, last, ?_⟩
    rw [Nat.add_assoc 4]
    exact ((isPart_of_container framed).trans behind).trans deep
  | @item before after content inner place holds inductionHypothesis =>
    rw [value] at written
    obtain ⟨elements, done, framed⟩ := bind_eq_ok_iff.1 written
    -- The item is the entry whose key is its place, behind the items before it as entries.
    rw [items_eq_entries, labelled_append, labelled, Nat.zero_add] at done
    obtain ⟨middle, given, behind⟩ := isPart_of_entries done
    obtain ⟨part, last, deep⟩ := inductionHypothesis given
    refine ⟨part, last, ?_⟩
    rw [Nat.add_assoc 4, ← sizeEntries_labelled]
    exact ((isPart_of_container framed).trans behind).trans deep
  | @scope text fields inner place holds inductionHypothesis =>
    rw [value] at written
    obtain ⟨code, coded, rest⟩ := bind_eq_ok_iff.1 written
    obtain ⟨elements, done, rest⟩ := bind_eq_ok_iff.1 rest
    obtain ⟨middle, framed, rest⟩ := bind_eq_ok_iff.1 rest
    obtain ⟨-, rfl⟩ := measured_eq_ok_iff.1 rest
    have alone : value (.document fields) = .ok middle := by
      rw [value]
      exact bind_eq_ok_iff.2 ⟨elements, done, framed⟩
    obtain ⟨part, last, deep⟩ := inductionHypothesis alone
    refine ⟨part, last, IsPart.trans ⟨littleEndian 4 ((code ++ middle).length + 4) ++ code, [],
      ?_, ?_⟩ deep⟩
    · rw [List.append_nil, List.append_assoc]
    · rw [List.length_append, length_littleEndian, ((settles_text text).written code coded).1]

/-- A document, an array and code with a scope begin with the length of their whole written form. -/
theorem declared_of_value {content : Value} {bytes : Bytes} (framed : content.IsContainer)
    (written : value content = .ok bytes) :
    (Bytes.toInt32 (bytes.take 4)).toInt = bytes.length := by
  have front : bytes.length < 2 ^ 31 ∧ bytes.take 4 = littleEndian 4 bytes.length := by
    cases content with
    | document fields =>
      rw [value] at written
      obtain ⟨_, _, done⟩ := bind_eq_ok_iff.1 written
      exact declared_of_container done
    | array values =>
      rw [value] at written
      obtain ⟨_, _, done⟩ := bind_eq_ok_iff.1 written
      exact declared_of_container done
    | codeWithScope text scope =>
      rw [value] at written
      obtain ⟨_, _, rest⟩ := bind_eq_ok_iff.1 written
      obtain ⟨_, _, rest⟩ := bind_eq_ok_iff.1 rest
      obtain ⟨_, _, done⟩ := bind_eq_ok_iff.1 rest
      exact declared_of_measured done
    | _ => exact framed.elim
  rw [front.2]
  exact Read.toInt_toInt32_littleEndian bytes.length front.1

end Encode

namespace Document

/-- A key of the document or of a document inside it, at any level, holds a zero byte. -/
def HasZeroKey (document : Document) : Prop := Value.Has Value.IsMiskeyed (.document document)

/-- A part of a regular expression inside the document, at any level, holds a zero byte. -/
def HasZeroRegex (document : Document) : Prop := Value.Has Value.IsBrokenRegex (.document document)

theorem settles_encode (document : Document) :
    Encode.Settles document.HasZeroKey document.HasZeroRegex document.size document.encode := by
  have settles := Encode.settles_value (.document document)
  rwa [Encode.value, ← encode_eq, Value.size] at settles

/-- A document can be written exactly if no key and no regular expression in it holds a zero byte and
its size is one that a length can tell. Then the bytes are as many as its size, and every document,
array and code with a scope in it stands at its place, begins with its exact length and is as large as
its own size. An error tells of a fault that the document has. -/
theorem encode_succeeds_iff (document : Document) :
    ((∃ bytes, document.encode = .ok bytes) ↔
      ¬document.HasZeroKey ∧ ¬document.HasZeroRegex ∧ document.size ≤ 2 ^ 31 - 1) ∧
    (∀ bytes, document.encode = .ok bytes → bytes.length = document.size ∧
      ∀ place inner, Value.Holds (.document document) place inner → inner.IsContainer →
        ∃ part, IsPart place part bytes ∧ Encode.value inner = .ok part ∧
          part.length = inner.size ∧ (Bytes.toInt32 (part.take 4)).toInt = part.length) ∧
    ∀ error, document.encode = .error error →
      Encode.Blames document.HasZeroKey document.HasZeroRegex document.size error := by
  have settles := Encode.settles_value (.document document)
  have same : Encode.value (.document document) = document.encode := by
    rw [Encode.value, encode_eq]
  have sized : (Value.document document).size = document.size := by
    rw [Value.size, size]
  rw [same, sized] at settles
  refine ⟨⟨?_, ?_⟩, ?_, settles.refused⟩
  · rintro ⟨bytes, written⟩
    obtain ⟨counted, keys, regexes⟩ := settles.written bytes written
    rw [encode_eq] at written
    obtain ⟨elements, -, framed⟩ := bind_eq_ok_iff.1 written
    have small := (Encode.declared_of_container framed).1
    exact ⟨keys, regexes, by omega⟩
  · rintro ⟨keys, regexes, small⟩
    exact (settles.succeeds_iff (by omega)).2 ⟨keys, regexes⟩
  · intro bytes written
    refine ⟨(settles.written bytes written).1, fun place inner holds framed => ?_⟩
    obtain ⟨part, given, inside⟩ := Encode.isPart_of_holds holds (same.trans written)
    exact ⟨part, inside, given, ((Encode.settles_value inner).written part given).1,
      Encode.declared_of_value framed given⟩

/-- A document with a zero byte in a key, below an array. -/
def miskeyed : Document := [("list", .array [.document [("\x00", .null)]])]

theorem hasZeroKey_miskeyed : miskeyed.HasZeroKey := by
  have below : Value.Has Value.IsMiskeyed (.document [("\x00", .null)]) :=
    Value.has_isMiskeyed_document_iff.2 ⟨_, List.mem_singleton_self _, .inl (by decide +kernel)⟩
  have listed : Value.Has Value.IsMiskeyed (.array [.document [("\x00", .null)]]) :=
    Value.has_array_iff.2 (.inr ⟨_, List.mem_singleton_self _, below⟩)
  exact Value.has_isMiskeyed_document_iff.2 ⟨_, List.mem_singleton_self _, .inr listed⟩

theorem encode_succeeds_iff_pair :
    (∃ bytes, sample.encode = .ok bytes ∧ bytes.length = sample.size) ∧
      ¬∃ bytes, miskeyed.encode = .ok bytes := by
  constructor
  · obtain ⟨bytes, written⟩ : ∃ bytes, sample.encode = .ok bytes := ⟨_, rfl⟩
    exact ⟨bytes, written, ((encode_succeeds_iff sample).2.1 bytes written).1⟩
  · exact fun done => ((encode_succeeds_iff miskeyed).1.1 done).1 hasZeroKey_miskeyed

end Document

end DocumentDriver
