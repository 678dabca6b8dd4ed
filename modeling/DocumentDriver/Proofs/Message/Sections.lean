/-
This file proves that the sections of a message which carries a command are read back: its one body
and its sequences in their order. The body is written first and never carries a checksum, so a
reader finds the flag of the checksum removed and every other flag in place.
-/

import DocumentDriver.Proofs.Message.Bodies

namespace DocumentDriver

open Read

/-! ### Flags -/

namespace Flags

/-- None of the bits is set which a reader must know although no flag has them. -/
def IsKnown (flags : Flags) : Prop :=
  ∀ bit, 2 ≤ bit → bit ≤ 15 → flags.word.toNat.testBit bit = false

/-- Removing flags sets none. -/
theorem isKnown_diff {flags : Flags} (known : flags.IsKnown) (others : Flags) :
    (flags.diff others).IsKnown := by
  intro bit least most
  unfold diff
  rw [UInt32.toNat_and, Nat.testBit_and, known bit least most, Bool.false_and]

/-- The bits that a reader must know and does not are those from 2 to 15. -/
theorem unknownFlags_eq_empty {flags : Flags} (known : flags.IsKnown) :
    Msg.unknownFlags flags = Flags.empty := by
  have reserved : MsgFlags.required.word &&&
      ~~~(MsgFlags.checksumPresent.union MsgFlags.moreToCome).word = 0xFFFC := rfl
  have inside : ∀ bit < 16, Nat.testBit 0xFFFC bit = true → 2 ≤ bit := by decide
  unfold Msg.unknownFlags Flags.empty
  rw [UInt32.and_assoc, reserved, Flags.mk.injEq, ← UInt32.toNat_inj, UInt32.toNat_and]
  refine Nat.eq_of_testBit_eq fun bit => ?_
  rw [Nat.testBit_and]
  show (flags.word.toNat.testBit bit && Nat.testBit 0xFFFC bit) = Nat.testBit 0 bit
  rw [Nat.zero_testBit]
  cases marked : Nat.testBit 0xFFFC bit with
  | false => rw [Bool.and_false]
  | true =>
    have low : bit < 16 := by
      refine Nat.lt_of_not_le fun high => ?_
      have small : 0xFFFC < 2 ^ bit :=
        Nat.lt_of_lt_of_le (by decide) (Nat.pow_le_pow_right Nat.two_pos high)
      rw [Nat.testBit_lt_two_pow small] at marked
      cases marked
    rw [known bit (inside bit low marked) (Nat.le_of_lt_succ low), Bool.false_and]

theorem contains_diff_checksumPresent (flags : Flags) :
    (flags.diff MsgFlags.checksumPresent).contains MsgFlags.checksumPresent = false := by
  unfold contains diff
  rw [UInt32.and_assoc]
  show (flags.word &&& 0 == 1) = false
  rw [UInt32.and_zero]
  rfl

end Flags

/-! ### Sections -/

namespace Section

/-- The documents in a section. -/
def documents : Section → List Document
  | .body document => [document]
  | .sequence run => run.documents

theorem takes_named {identifier : String} {documents : List Document} {list bytes : Bytes}
    (clean : 0 ∉ Utf8.encode identifier) (exhausted : Exhausts Read.documents list documents)
    (measured : Encode.measured (Utf8.encode identifier ++ [0] ++ list) = .ok bytes) :
    Takes readSequence bytes ⟨identifier, documents⟩ := by
  obtain ⟨small, rfl⟩ := Encode.measured_eq_ok_iff.1 measured
  refine (takes_length _ small).bind ?_
  rw [if_neg (by omega), Nat.add_sub_cancel]
  exact (takes_take _).bind_last
    ((takes_name _ clean).bind_exhausts (exhausted.bind_pure _)).inside

theorem takes_readSequence {limit : Nat} {run : DocumentSequence} {bytes identifier list : Bytes}
    (embeddable : ∀ document ∈ run.documents, document.IsEmbeddable)
    (named : Encode.name run.identifier = .ok identifier)
    (listed : Encode.documents { maxSize := some limit } run.documents = .ok list)
    (measured : Encode.measured (identifier ++ list) = .ok bytes) :
    Takes readSequence bytes run := by
  obtain ⟨clean, rfl⟩ := Encode.name_eq_ok_iff.1 named
  exact takes_named clean (exhausts_plain_documents rfl embeddable listed) measured

theorem takes_read {limit : Nat} {part : Section} {bytes : Bytes}
    (embeddable : ∀ document ∈ part.documents, document.IsEmbeddable)
    (written : part.toBytes limit = .ok bytes) : Takes read bytes part ∧ bytes ≠ [] := by
  cases part with
  | body document =>
    obtain ⟨contents, inner, same⟩ := bind_eq_ok_iff.1 written
    cases same
    refine ⟨(takes_byte 0).bind ?_, List.cons_ne_nil _ _⟩
    rw [if_pos rfl]
    exact (takes_encodedWith (embeddable document (List.mem_singleton.2 rfl)) inner).bind_pure _
  | sequence run =>
    obtain ⟨identifier, named, written⟩ := bind_eq_ok_iff.1 written
    obtain ⟨list, listed, written⟩ := bind_eq_ok_iff.1 written
    obtain ⟨contents, measured, same⟩ := bind_eq_ok_iff.1 written
    cases same
    refine ⟨(takes_byte 1).bind ?_, List.cons_ne_nil _ _⟩
    rw [if_neg (by decide), if_pos rfl]
    exact (takes_readSequence embeddable named listed measured).bind_pure _

/-- The sections after a body are gathered last to first. -/
theorem steps_sequences {limit : Nat} {runs : List DocumentSequence} {bytes : Bytes}
    (before : SectionsRead)
    (embeddable : ∀ run ∈ runs, ∀ document ∈ run.documents, document.IsEmbeddable)
    (written : listToBytes limit (runs.map .sequence) = .ok bytes) :
    Steps SectionsRead.step before bytes
      { before with reversed := runs.reverse ++ before.reversed } := by
  induction runs generalizing before bytes with
  | nil =>
    cases written
    exact .done before
  | cons first rest inductionHypothesis =>
    obtain ⟨head, one, written⟩ := bind_eq_ok_iff.1 written
    obtain ⟨tail, others, same⟩ := bind_eq_ok_iff.1 written
    cases same
    obtain ⟨here, later⟩ := List.forall_mem_cons.1 embeddable
    obtain ⟨taken, some⟩ : Takes read head (.sequence first) ∧ head ≠ [] := takes_read here one
    rw [List.reverse_cons, List.append_assoc]
    refine .more (taken.bind_last (takes_liftM ?_)) some
      (inductionHypothesis { before with reversed := first :: before.reversed } later others)
    rfl

end Section

namespace Msg

/-- The documents in a message. -/
def documents (message : Msg) : List Document :=
  message.command :: message.sequences.flatMap (·.documents)

theorem steps_sections {message : Msg} {limit : Nat} {bytes : Bytes}
    (embeddable : ∀ document ∈ message.documents, document.IsEmbeddable)
    (written : Section.listToBytes limit message.sections = .ok bytes) :
    Steps SectionsRead.step {} bytes
      { command := some message.command, reversed := message.sequences.reverse } := by
  obtain ⟨head, one, written⟩ := bind_eq_ok_iff.1 written
  obtain ⟨tail, others, same⟩ := bind_eq_ok_iff.1 written
  cases same
  obtain ⟨here, later⟩ := List.forall_mem_cons.1 embeddable
  obtain ⟨taken, some⟩ : Takes Section.read head (.body message.command) ∧ head ≠ [] :=
    Section.takes_read (List.forall_mem_singleton.2 here) one
  have first : Takes (SectionsRead.step {}) head { command := message.command } :=
    taken.bind_last (takes_liftM rfl)
  have runs := Section.steps_sequences { command := message.command }
    (fun run member document found => later document (List.mem_flatMap.2 ⟨run, member, found⟩))
    others
  rw [List.append_nil] at runs
  exact .more first some runs

/-- A body comes back without its checksum, the flag for it, and the ceiling for documents. -/
theorem exhausts_body {message : Msg} {bytes : Bytes} (header : Header)
    (embeddable : ∀ document ∈ message.documents, document.IsEmbeddable)
    (known : message.flags.IsKnown) (written : message.body = .ok bytes) :
    Exhausts (readBody header) bytes
      { message with
        requestId := header.requestId
        responseTo := header.responseTo
        flags := message.flags.diff MsgFlags.checksumPresent
        checksum := none
        maxDocumentSize := none } := by
  obtain ⟨sections, listed, same⟩ := bind_eq_ok_iff.1 written
  cases same
  have found := (steps_sections embeddable listed).exhausts.inside
  have split : splitChecksum (message.flags.diff MsgFlags.checksumPresent) sections =
      .ok (sections, none) := by
    unfold splitChecksum
    rw [Flags.contains_diff_checksumPresent, if_neg Bool.false_ne_true]
  refine (takes_flags _).bind_exhausts ?_
  rw [Flags.unknownFlags_eq_empty (Flags.isKnown_diff known _), if_neg (not_not_intro rfl)]
  refine (exhausts_remainder sections).bind ((takes_liftM split).bind_last ?_)
  refine found.bind_last ?_
  show Takes (pure (Msg.mk _ _ _ _ message.sequences.reverse.reverse _ _)) [] _
  rw [List.reverse_reverse]
  exact takes_pure _

end Msg

end DocumentDriver
