/-
This file shows that documents delimit themselves. What is taken off the front of some bytes as a
document is fixed by these bytes alone: they say how many they are, end with a zero byte, and are
neither cut short nor gone beyond, whatever follows them. So documents that stand one after the other
come apart again, in the body of a message as in a section of it.
-/

import DocumentDriver.Proofs.Message.Canonical

namespace DocumentDriver

open Read Encode

/-! ### One document -/

namespace Document

/-- The document at the start of some bytes is the one that its own bytes hold. -/
theorem decodeLeading_eq_ok_iff {bytes : Bytes} {document : Document} {count : Nat} :
    decodeLeading bytes = .ok (document, count) ↔
      count ≤ bytes.length ∧ decode (bytes.take count) = .ok document := by
  constructor
  · intro read
    obtain ⟨⟨_, after⟩, run, same⟩ := bind_eq_ok_iff.1 read
    cases same
    obtain ⟨head, taken, split⟩ := exists_takes_of_run run
    obtain rfl : bytes = head ++ after.rest := split
    have position : 0 + head.length = after.position :=
      congrArg (·.2.position) (Except.ok.inj ((taken 0 after.rest).symm.trans run))
    rw [← position, Nat.zero_add, List.take_left]
    exact ⟨by simp, decode_eq_ok_iff_takes.2 taken⟩
  · rintro ⟨inside, read⟩
    have run := decode_eq_ok_iff_takes.1 read 0 (bytes.drop count)
    rw [List.take_append_drop, List.length_take_of_le inside, Nat.zero_add] at run
    show (Read.document ⟨0, bytes⟩ >>= _ : Except Error (Document × Nat)) = _
    rw [run]
    rfl

/-- A document declares the number of its bytes in front, and the last of them is zero. -/
theorem framing_of_decode {part : Bytes} {document : Document} (read : decode part = .ok document) :
    5 ≤ part.length ∧ part.length < 2 ^ 31 ∧ part.take 4 = littleEndian 4 part.length ∧
      part.getLast? = some 0 := by
  obtain ⟨elements, contained⟩ := exists_container_of_decode read
  have whole := length_of_container contained
  obtain ⟨small, front⟩ := declared_of_container contained
  obtain ⟨-, same⟩ := container_eq_ok_iff.1 contained
  refine ⟨by omega, small, front, ?_⟩
  rw [← same, ← List.append_assoc, List.getLast?_concat]

/-- No document is the beginning of another. -/
theorem decode_front_fails {front suffix : Bytes} {document other : Document}
    (read : decode (front ++ suffix) = .ok document) (some : suffix ≠ []) :
    decode front ≠ .ok other := by
  intro early
  obtain ⟨after, run, ended⟩ := run_of_decode read
  have taken := decode_eq_ok_iff_takes.1 early 0 suffix
  cases taken.symm.trans run
  exact some ended

end Document

/-! ### Documents one after the other -/

theorem exhausts_decoded {documents : List Document} {parts : List Bytes}
    (each : DecodeTo documents parts) : Exhausts Read.documents parts.flatten documents := by
  refine TakesEach.exhausts ?_
  induction each with
  | nil => exact .nil
  | cons read others inductionHypothesis =>
    exact .cons (decode_eq_ok_iff_takes.1 read) (ne_nil_of_decode read) inductionHypothesis

/-- Documents delimit themselves. Whatever is read at the start of some bytes takes at least five of
them and no more than there are; these declare their number and end with a zero byte, they hold the
same document when they are alone, and nothing behind them changes that. No document is the
beginning of another. Documents one after the other are read as these documents, both to the end of
a body and in a sequence of any name. -/
theorem documents_delimit_themselves :
    (∀ bytes document count, Document.decodeLeading bytes = .ok (document, count) →
      (5 ≤ count ∧ count ≤ bytes.length ∧ count < 2 ^ 31) ∧
      bytes.take 4 = littleEndian 4 count ∧ bytes[count - 1]? = some 0 ∧
      Document.decode (bytes.take count) = .ok document ∧
      ∀ suffix, Document.decodeLeading (bytes.take count ++ suffix) = .ok (document, count)) ∧
    (∀ front suffix document, Document.decode (front ++ suffix) = .ok document → suffix ≠ [] →
      ∀ other, Document.decode front ≠ .ok other) ∧
    ∀ documents parts, DecodeTo documents parts →
      Exhausts Read.documents parts.flatten documents ∧
      ∀ identifier contents, 0 ∉ Utf8.encode identifier →
        measured (Utf8.encode identifier ++ [0] ++ parts.flatten) = .ok contents →
        Takes Section.readSequence contents ⟨identifier, documents⟩ := by
  refine ⟨fun bytes document count read => ?_,
    fun front suffix document read some other => Document.decode_front_fails read some,
    fun documents parts each => ⟨exhausts_decoded each, fun identifier contents clean framed =>
      Section.takes_named clean (exhausts_decoded each) framed⟩⟩
  obtain ⟨inside, alone⟩ := Document.decodeLeading_eq_ok_iff.1 read
  have size : (bytes.take count).length = count := List.length_take_of_le inside
  obtain ⟨least, small, front, last⟩ := Document.framing_of_decode alone
  rw [size] at least small front
  rw [List.getLast?_eq_getElem?, size, List.getElem?_take_of_lt (by omega)] at last
  rw [List.take_take, Nat.min_eq_left (by omega)] at front
  refine ⟨⟨least, inside, small⟩, front, last, alone, fun suffix => ?_⟩
  refine Document.decodeLeading_eq_ok_iff.2 ⟨by simp [size], ?_⟩
  rwa [List.take_left' size]

/-- A document that holds an empty one, and two bytes behind it. -/
def leadingBytes : Bytes := [13, 0, 0, 0, 3, 97, 0, 5, 0, 0, 0, 0, 0, 7, 0]

theorem documents_delimit_themselves_leadingBytes :
    Document.decodeLeading leadingBytes = .ok ([("a", .document [])], 13) ∧
      Document.decode (leadingBytes.take 13) = .ok [("a", .document [])] ∧
      Exhausts Read.documents (leadingBytes.take 13 ++ leadingBytes.take 13)
        [[("a", .document [])], [("a", .document [])]] := by
  have read : Document.decodeLeading leadingBytes = .ok ([("a", .document [])], 13) := by rfl
  obtain ⟨-, -, -, alone, -⟩ := documents_delimit_themselves.1 _ _ _ read
  have twice := (documents_delimit_themselves.2.2 _ _ (.cons alone (.cons alone .nil))).1
  exact ⟨read, alone, twice⟩

end DocumentDriver
