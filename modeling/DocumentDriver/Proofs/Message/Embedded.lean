/-
This file finds the documents in the bytes of a message. A document declares its own length, so its
bytes are found without reading what is in it: after the fields of its kind, a body is a run of such
parts. Where a document is read in front of other bytes, it is read from its own part alone.
-/

import DocumentDriver.Proofs.Document.Canonical
import DocumentDriver.Proofs.Message.Bodies

namespace DocumentDriver

open Read

namespace Read

/-- The bytes of one document, as many as it declares. -/
def framed : Read Bytes := do
  let declared ← peekInt32
  take declared.toInt.toNat

/-- The bytes of all documents up to the end, each apart. -/
def allFramed : Read (List Bytes) := listUntilEnd framed

end Read

/-- The bytes of the documents in one section. -/
def Section.embedded : Read (List Bytes) := do
  let kind ← Read.byte
  if kind = 0 then return [← framed] else
  let size ← Read.length
  let contents ← take (size - 4)
  Read.inside contents do
    let _ ← Read.name
    allFramed

namespace OpCode

/-- The bytes of the documents in the body of a message of this kind, each apart. -/
def embedded : OpCode → Read (List Bytes)
  | .reply => do
    let _ ← Read.flags
    let _ ← Read.int64
    let _ ← Read.int32
    let _ ← Read.int32
    allFramed
  | .insert => do
    let _ ← Read.flags
    let _ ← Read.name
    allFramed
  | .update | .delete => do
    let _ ← Read.int32
    let _ ← Read.name
    let _ ← Read.flags
    allFramed
  | .query => do
    let _ ← Read.flags
    let _ ← Read.name
    let _ ← Read.int32
    let _ ← Read.int32
    allFramed
  | .msg => do
    let _ ← Read.flags
    return (← listUntilEnd Section.embedded).flatten
  | .getMore | .killCursors | .compressed => do
    let _ ← remainder
    return []

end OpCode

/-- The bytes of the documents in a message of this kind, each apart. -/
def Message.embedded (kind : OpCode) (bytes : Bytes) : Except Error (List Bytes) := do
  let (parts, _) ← kind.embedded (Reader.start (bytes.drop headerLength))
  return parts

theorem Message.embedded_eq_ok {kind : OpCode} {header body : Bytes} {parts : List Bytes}
    (front : header.length = headerLength) (placed : Exhausts kind.embedded body parts) :
    embedded kind (header ++ body) = .ok parts := by
  unfold embedded Reader.start
  rw [List.drop_left' front, placed]
  rfl

/-! ### Documents in front of other bytes -/

/-- These bytes are read as these documents, one after the other. -/
abbrev DecodeTo (documents : List Document) (parts : List Bytes) : Prop :=
  List.Forall₂ (fun document part => Document.decode part = .ok document) documents parts

/-- A document is read from its own bytes alone, so it is read from them whatever follows. -/
theorem exists_takes_of_run {reader after : Reader} {document : Document}
    (run : Read.document reader = .ok (document, after)) :
    ∃ head, Takes Read.document head document ∧ reader.rest = head ++ after.rest := by
  rw [Read.document, Decode.document] at run ⊢
  obtain ⟨elements, between, ran, inner⟩ := exists_of_bind_eq_ok run
  obtain ⟨head, contained, split⟩ := Decode.sound_frame ran
  obtain ⟨rfl, last, whole⟩ := of_inside_eq_ok inner
  exact ⟨head, (Decode.takes_frame contained).bind_last (takes_inside whole), split⟩

theorem decode_eq_ok_iff_takes {part : Bytes} {document : Document} :
    Document.decode part = .ok document ↔ Takes Read.document part document := by
  constructor
  · intro read
    obtain ⟨after, run, ended⟩ := Document.run_of_decode read
    obtain ⟨head, taken, split⟩ := exists_takes_of_run run
    rw [ended, List.append_nil] at split
    obtain rfl : part = head := split
    exact taken
  · intro taken
    show (Read.document ⟨0, part⟩ >>= _ : Except Error Document) = _
    rw [taken.exhausts]
    rfl

theorem sound_document :
    Sound Read.document fun document head => Document.decode head = .ok document := by
  intro reader document after run
  obtain ⟨head, taken, split⟩ := exists_takes_of_run run
  exact ⟨head, decode_eq_ok_iff_takes.2 taken, split⟩

theorem exists_container_of_decode {part : Bytes} {document : Document}
    (read : Document.decode part = .ok document) :
    ∃ elements, Encode.container elements = .ok part := by
  obtain ⟨elements, known⟩ := Document.exists_hasLayout read
  obtain ⟨inner, -, contained⟩ := bind_eq_ok_iff.1 known.written
  exact ⟨inner, contained⟩

/-- A container is found by the length that it declares, whatever it holds. -/
theorem takes_framed {elements part : Bytes} (contained : Encode.container elements = .ok part) :
    Takes framed part part := by
  obtain ⟨small, front⟩ := Encode.declared_of_container contained
  have number : Takes int32 (littleEndian 4 part.length)
      (Bytes.toInt32 (littleEndian 4 part.length)) :=
    takes_number 4 _ _ _ (length_littleEndian _ _) rfl
  have declared : (Bytes.toInt32 (littleEndian 4 part.length)).toInt = part.length :=
    toInt_toInt32_littleEndian _ small
  intro position rest
  have peeked : peekInt32 ⟨position, part ++ rest⟩ =
      .ok (Bytes.toInt32 (littleEndian 4 part.length), ⟨position, part ++ rest⟩) := by
    have split : part ++ rest = littleEndian 4 part.length ++ (part.drop 4 ++ rest) := by
      rw [← front, ← List.append_assoc, List.take_append_drop]
    rw [split]
    exact peekInt32_of_takes number position _
  unfold framed
  rw [run_bind, peeked]
  generalize Bytes.toInt32 (littleEndian 4 part.length) = number at declared
  show take number.toInt.toNat _ = _
  rw [declared, Int.toNat_natCast]
  exact takes_take part position rest

theorem ne_nil_of_decode {part : Bytes} {document : Document}
    (read : Document.decode part = .ok document) : part ≠ [] := by
  obtain ⟨elements, contained⟩ := exists_container_of_decode read
  exact Encode.ne_nil_of_container contained

theorem soundToEnd_documents :
    SoundToEnd Read.documents fun documents bytes =>
      ∃ parts, DecodeTo documents parts ∧ parts.flatten = bytes :=
  soundToEnd_listUntilEnd sound_document fun _ _ => ne_nil_of_decode

theorem exhausts_containers {parts : List Bytes}
    (each : ∀ part ∈ parts, ∃ elements, Encode.container elements = .ok part) :
    Exhausts allFramed parts.flatten parts := by
  refine TakesEach.exhausts ?_
  induction parts with
  | nil => exact .nil
  | cons first rest inductionHypothesis =>
    obtain ⟨⟨elements, contained⟩, later⟩ := List.forall_mem_cons.1 each
    exact .cons (takes_framed contained) (Encode.ne_nil_of_container contained)
      (inductionHypothesis later)

theorem exists_container_of_decodeTo {documents : List Document} {parts : List Bytes}
    (each : DecodeTo documents parts) :
    ∀ part ∈ parts, ∃ elements, Encode.container elements = .ok part := by
  induction each with
  | nil => exact nofun
  | cons read others inductionHypothesis =>
    exact List.forall_mem_cons.2 ⟨exists_container_of_decode read, inductionHypothesis⟩

theorem exhausts_allFramed {documents : List Document} {parts : List Bytes}
    (each : DecodeTo documents parts) : Exhausts allFramed parts.flatten parts :=
  exhausts_containers (exists_container_of_decodeTo each)

namespace Section

theorem takes_embedded_body {elements part : Bytes}
    (contained : Encode.container elements = .ok part) : Takes embedded (0 :: part) [part] := by
  refine (takes_byte 0).bind ?_
  rw [if_pos rfl]
  exact (takes_framed contained).bind_pure fun part => [part]

theorem takes_embedded_sequence {identifier : String} {parts : List Bytes} {contents : Bytes}
    (clean : 0 ∉ Utf8.encode identifier)
    (each : ∀ part ∈ parts, ∃ elements, Encode.container elements = .ok part)
    (framed : Encode.measured (Utf8.encode identifier ++ [0] ++ parts.flatten) = .ok contents) :
    Takes embedded (1 :: contents) parts := by
  obtain ⟨small, rfl⟩ := Encode.measured_eq_ok_iff.1 framed
  refine (takes_byte 1).bind ?_
  rw [if_neg (by decide)]
  refine (takes_length _ small).bind ?_
  rw [Nat.add_sub_cancel]
  exact (takes_take _).bind_last
    ((takes_name _ clean).bind_exhausts (exhausts_containers each)).inside

end Section

theorem nodup_keys_of_decodeTo {documents : List Document} {parts : List Bytes}
    (each : DecodeTo documents parts) : ∀ document ∈ documents, document.keys.Nodup := by
  induction each with
  | nil => exact nofun
  | cons read others inductionHypothesis =>
    obtain ⟨_, known⟩ := Document.exists_hasLayout read
    exact List.forall_mem_cons.2 ⟨known.distinct.1, inductionHypothesis⟩

/-- What was read from canonical parts is written as these parts. -/
theorem encode_of_canonical {documents : List Document} {parts : List Bytes}
    (each : DecodeTo documents parts) (canonical : ∀ part ∈ parts, Document.IsCanonicalForm part) :
    List.Forall₂ (fun document part => document.encode = .ok part) documents parts := by
  induction each with
  | nil => exact .nil
  | @cons document part _ _ read others inductionHypothesis =>
    obtain ⟨⟨elements, placed, inOrder⟩, later⟩ := List.forall_mem_cons.1 canonical
    obtain ⟨_, known⟩ := Document.exists_hasLayout read
    cases placed.symm.trans known.read
    exact .cons (known.encode_eq_ok inOrder) (inductionHypothesis later)

end DocumentDriver
