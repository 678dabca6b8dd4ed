/-
This file says exactly which messages that carry a command can be written. Two ceilings apply, one to
the command and one to every document of a sequence, and each document is held against its own while
the message is being put together. What is written is described by the parts in which its documents
stand: the writer succeeds exactly if there is such a description, every part of it keeps its ceiling,
and the parts are found again in the bytes without reading them.
-/

import Mathlib.Algebra.Ring.Nat
import DocumentDriver.Proofs.Document.Restriction
import DocumentDriver.Proofs.Message.Embedded
import DocumentDriver.Proofs.Message.Refusal
import DocumentDriver.Proofs.Message.RoundTrip

namespace DocumentDriver

open Read Encode

/-! ### Documents under a ceiling -/

namespace Document

/-- The plain written form of the document, if it is no longer than a ceiling. -/
def IsWrittenWithin (ceiling : Nat) (document : Document) (part : Bytes) : Prop :=
  document.encode = .ok part ∧ part.length ≤ ceiling

theorem encodeWith_maxSize_eq_ok_iff {ceiling : Nat} {document : Document} {bytes : Bytes} :
    document.encodeWith { maxSize := some ceiling } = .ok bytes ↔
      document.IsWrittenWithin ceiling bytes := by
  rw [encodeWith_eq_framed, bind_eq_ok_iff]
  constructor
  · rintro ⟨whole, framed, kept⟩
    obtain ⟨rfl, fits⟩ := capped_eq_ok_iff.1 kept
    exact ⟨(framed_eq_ok_iff.1 framed).1, fits ceiling rfl⟩
  · rintro ⟨written, fits⟩
    refine ⟨bytes, framed_eq_ok_iff.2 ⟨written, nofun⟩, capped_eq_ok_iff.2 ⟨rfl, ?_⟩⟩
    rintro _ ⟨⟩
    exact fits

theorem IsWrittenWithin.length {ceiling : Nat} {document : Document} {part : Bytes}
    (written : document.IsWrittenWithin ceiling part) : part.length = document.size :=
  ((settles_encode document).written part written.1).1

theorem IsWrittenWithin.exists_container {ceiling : Nat} {document : Document} {part : Bytes}
    (written : document.IsWrittenWithin ceiling part) :
    ∃ elements, Encode.container elements = .ok part := by
  have framed := written.1
  rw [encode_eq] at framed
  obtain ⟨elements, -, contained⟩ := bind_eq_ok_iff.1 framed
  exact ⟨elements, contained⟩

end Document

/-- These documents, each with its own ceiling, are written as these parts. -/
abbrev AreWrittenWithin (carried : List (Document × Nat)) (parts : List Bytes) : Prop :=
  List.Forall₂ (fun entry part => entry.1.IsWrittenWithin entry.2 part) carried parts

theorem AreWrittenWithin.exists_container {carried : List (Document × Nat)} {parts : List Bytes}
    (written : AreWrittenWithin carried parts) :
    ∀ part ∈ parts, ∃ elements, Encode.container elements = .ok part := by
  induction written with
  | nil => exact nofun
  | cons first others inductionHypothesis =>
    exact List.forall_mem_cons.2 ⟨first.exists_container, inductionHypothesis⟩

theorem AreWrittenWithin.length {carried : List (Document × Nat)} {parts : List Bytes}
    (written : AreWrittenWithin carried parts) :
    parts.flatten.length = (carried.map (·.1.size)).sum := by
  induction written with
  | nil => rfl
  | cons first others inductionHypothesis =>
    rw [List.flatten_cons, List.length_append, first.length, inductionHypothesis, List.map_cons,
      List.sum_cons]

theorem exists_areWrittenWithin_iff {carried : List (Document × Nat)} :
    (∃ parts, AreWrittenWithin carried parts) ↔
      ∀ entry ∈ carried, ∃ part, entry.1.IsWrittenWithin entry.2 part := by
  induction carried with
  | nil => exact ⟨nofun, fun _ => ⟨[], .nil⟩⟩
  | cons first rest inductionHypothesis =>
    rw [List.forall_mem_cons, ← inductionHypothesis]
    constructor
    · rintro ⟨_, _ | ⟨here, later⟩⟩
      exact ⟨⟨_, here⟩, _, later⟩
    · rintro ⟨⟨part, here⟩, parts, later⟩
      exact ⟨part :: parts, .cons here later⟩

theorem Encode.documents_eq_ok_iff {ceiling : Nat} {documents : List Document} {bytes : Bytes} :
    Encode.documents { maxSize := some ceiling } documents = .ok bytes ↔
      ∃ parts, AreWrittenWithin (documents.map (·, ceiling)) parts ∧ parts.flatten = bytes := by
  induction documents generalizing bytes with
  | nil =>
    constructor
    · rintro ⟨⟩
      exact ⟨[], .nil, rfl⟩
    · rintro ⟨_, ⟨⟩, rfl⟩
      rfl
  | cons first rest inductionHypothesis =>
    constructor
    · intro written
      obtain ⟨head, one, written⟩ := bind_eq_ok_iff.1 written
      obtain ⟨tail, others, same⟩ := bind_eq_ok_iff.1 written
      cases same
      obtain ⟨parts, later, rfl⟩ := inductionHypothesis.1 others
      exact ⟨head :: parts, .cons (Document.encodeWith_maxSize_eq_ok_iff.1 one) later, rfl⟩
    · rintro ⟨_, _ | ⟨here, later⟩, rfl⟩
      exact bind_eq_ok_iff.2 ⟨_, Document.encodeWith_maxSize_eq_ok_iff.2 here,
        bind_eq_ok_iff.2 ⟨_, inductionHypothesis.2 ⟨_, later, rfl⟩, rfl⟩⟩

/-! ### Sections -/

/-- The number of bytes of a sequence, with its own length in front. -/
def DocumentSequence.size (run : DocumentSequence) : Nat :=
  4 + (run.identifier.utf8ByteSize + 1) + (run.documents.map Document.size).sum

namespace Section

/-- The documents of a section, each with the size that its written form may have at most. The command
may be larger than a document of a sequence by the room for its own fields. -/
def carried (limit : Nat) : Section → List (Document × Nat)
  | .body document => [(document, min (limit + commandOverhead) maxCeiling)]
  | .sequence run => run.documents.map (·, limit)

/-- The number of bytes of a section behind its kind byte. Either kind begins with a length that counts
all of them. -/
def size : Section → Nat
  | .body document => document.size
  | .sequence run => run.size

/-- The name of a section, if it has one, holds no zero byte. -/
def IsClean : Section → Prop
  | .body _ => True
  | .sequence run => 0 ∉ Utf8.encode run.identifier

/-- A section is written as these bytes, with its documents in these parts of them. -/
inductive IsWritten (limit : Nat) : Section → List Bytes → Bytes → Prop
  | body {document : Document} {part : Bytes}
    (fits : document.IsWrittenWithin (min (limit + commandOverhead) maxCeiling) part) :
    IsWritten limit (.body document) [part] (0 :: part)
  | sequence {run : DocumentSequence} {parts : List Bytes} {contents : Bytes}
    (clean : 0 ∉ Utf8.encode run.identifier)
    (each : AreWrittenWithin (run.documents.map (·, limit)) parts)
    (framed : measured (Utf8.encode run.identifier ++ [0] ++ parts.flatten) = .ok contents) :
    IsWritten limit (.sequence run) parts (1 :: contents)

variable {limit : Nat} {part : Section} {parts : List Bytes} {bytes : Bytes}

theorem toBytes_eq_ok_iff :
    part.toBytes limit = .ok bytes ↔ ∃ parts, IsWritten limit part parts bytes := by
  cases part with
  | body document =>
    constructor
    · intro written
      obtain ⟨contents, inner, same⟩ := bind_eq_ok_iff.1 written
      cases same
      exact ⟨[contents], .body (Document.encodeWith_maxSize_eq_ok_iff.1 inner)⟩
    · rintro ⟨_, ⟨fits⟩⟩
      exact bind_eq_ok_iff.2 ⟨_, Document.encodeWith_maxSize_eq_ok_iff.2 fits, rfl⟩
  | sequence run =>
    constructor
    · intro written
      obtain ⟨identifier, named, written⟩ := bind_eq_ok_iff.1 written
      obtain ⟨list, listed, written⟩ := bind_eq_ok_iff.1 written
      obtain ⟨contents, framed, same⟩ := bind_eq_ok_iff.1 written
      cases same
      obtain ⟨clean, rfl⟩ := name_eq_ok_iff.1 named
      obtain ⟨parts, each, rfl⟩ := documents_eq_ok_iff.1 listed
      exact ⟨parts, .sequence clean each framed⟩
    · rintro ⟨parts, written⟩
      cases written with
      | sequence clean each framed =>
      exact bind_eq_ok_iff.2 ⟨_, name_eq_ok_iff.2 ⟨clean, rfl⟩, bind_eq_ok_iff.2
        ⟨_, documents_eq_ok_iff.2 ⟨parts, each, rfl⟩, bind_eq_ok_iff.2 ⟨_, framed, rfl⟩⟩⟩

theorem IsWritten.ne_nil (written : IsWritten limit part parts bytes) : bytes ≠ [] := by
  cases written <;> exact List.cons_ne_nil _ _

theorem IsWritten.carries (written : IsWritten limit part parts bytes) :
    AreWrittenWithin (part.carried limit) parts := by
  cases written with
  | body fits => exact .cons fits .nil
  | sequence clean each framed => exact each

theorem IsWritten.takes (written : IsWritten limit part parts bytes) :
    Takes embedded bytes parts := by
  cases written with
  | body fits =>
    obtain ⟨elements, contained⟩ := fits.exists_container
    exact takes_embedded_body contained
  | sequence clean each framed =>
    exact takes_embedded_sequence clean each.exists_container framed

/-- The contents of a sequence are as many bytes as its size says, but for its length. -/
theorem length_named {run : DocumentSequence}
    (each : AreWrittenWithin (run.documents.map (·, limit)) parts) :
    (Utf8.encode run.identifier ++ [0] ++ parts.flatten).length + 4 = run.size := by
  have listed : (run.documents.map (·, limit)).map (·.1.size) = run.documents.map Document.size := by
    rw [List.map_map]
    rfl
  simp only [List.length_append, List.length_singleton, length_encode, each.length, listed,
    DocumentSequence.size]
  omega

theorem IsWritten.length (written : IsWritten limit part parts bytes) :
    bytes.length = 1 + part.size := by
  cases written with
  | body fits => rw [List.length_cons, fits.length, Nat.add_comm, size]
  | sequence clean each framed =>
    obtain ⟨-, rfl⟩ := measured_eq_ok_iff.1 framed
    have counted := length_named each
    rw [List.length_cons, List.length_append, length_littleEndian, size]
    omega

/-- A section can be written exactly if its documents keep their ceilings, its name holds no zero byte
and its length can be told. -/
theorem exists_isWritten_iff : (∃ parts bytes, IsWritten limit part parts bytes) ↔
    (∃ parts, AreWrittenWithin (part.carried limit) parts) ∧ part.IsClean ∧
      part.size < 2 ^ 31 := by
  constructor
  · rintro ⟨parts, bytes, written⟩
    refine ⟨⟨parts, written.carries⟩, ?_⟩
    cases written with
    | body fits =>
      obtain ⟨elements, contained⟩ := fits.exists_container
      refine ⟨trivial, ?_⟩
      rw [size, ← fits.length]
      exact (declared_of_container contained).1
    | sequence clean each framed =>
      refine ⟨clean, ?_⟩
      rw [size, ← length_named each]
      exact (measured_eq_ok_iff.1 framed).1
  · rintro ⟨⟨parts, each⟩, clean, small⟩
    cases part with
    | body document =>
      cases each with
      | cons fits none => exact ⟨_, _, .body fits⟩
    | sequence run =>
      rw [size, ← length_named each] at small
      exact ⟨parts, _, .sequence clean each (measured_eq_ok_iff.2 ⟨small, rfl⟩)⟩

/-- Sections are written as these bytes, with their documents in these parts of them. -/
inductive AreWritten (limit : Nat) : List Section → List Bytes → Bytes → Prop
  | nil : AreWritten limit [] [] []
  | cons {first : Section} {rest : List Section} {parts others : List Bytes} {head tail : Bytes}
    (here : IsWritten limit first parts head) (later : AreWritten limit rest others tail) :
    AreWritten limit (first :: rest) (parts ++ others) (head ++ tail)

variable {sections : List Section}

theorem listToBytes_eq_ok_iff :
    listToBytes limit sections = .ok bytes ↔ ∃ parts, AreWritten limit sections parts bytes := by
  constructor
  · induction sections generalizing bytes with
    | nil =>
      rintro ⟨⟩
      exact ⟨[], .nil⟩
    | cons first rest inductionHypothesis =>
      intro written
      obtain ⟨head, one, written⟩ := bind_eq_ok_iff.1 written
      obtain ⟨tail, others, same⟩ := bind_eq_ok_iff.1 written
      cases same
      obtain ⟨parts, here⟩ := toBytes_eq_ok_iff.1 one
      obtain ⟨more, later⟩ := inductionHypothesis others
      exact ⟨parts ++ more, .cons here later⟩
  · rintro ⟨parts, written⟩
    induction written with
    | nil => rfl
    | cons here later inductionHypothesis =>
      exact bind_eq_ok_iff.2 ⟨_, toBytes_eq_ok_iff.2 ⟨_, here⟩,
        bind_eq_ok_iff.2 ⟨_, inductionHypothesis, rfl⟩⟩

theorem AreWritten.carries (written : AreWritten limit sections parts bytes) :
    AreWrittenWithin (sections.flatMap (carried limit)) parts := by
  induction written with
  | nil => exact .nil
  | cons here later inductionHypothesis =>
    rw [List.flatMap_cons]
    exact List.rel_append here.carries inductionHypothesis

theorem AreWritten.exhausts (written : AreWritten limit sections parts bytes) :
    ∃ grouped, TakesEach embedded bytes grouped ∧ grouped.flatten = parts := by
  induction written with
  | nil => exact ⟨[], .nil, rfl⟩
  | @cons first rest parts others head tail here later inductionHypothesis =>
    obtain ⟨grouped, each, rfl⟩ := inductionHypothesis
    exact ⟨parts :: grouped, .cons here.takes here.ne_nil each, List.flatten_cons⟩

theorem AreWritten.length (written : AreWritten limit sections parts bytes) :
    bytes.length = (sections.map (1 + ·.size)).sum := by
  induction written with
  | nil => rfl
  | cons here later inductionHypothesis =>
    rw [List.length_append, here.length, inductionHypothesis, List.map_cons, List.sum_cons]

theorem exists_areWritten_iff : (∃ parts bytes, AreWritten limit sections parts bytes) ↔
    ∀ part ∈ sections, ∃ parts bytes, IsWritten limit part parts bytes := by
  induction sections with
  | nil => exact ⟨nofun, fun _ => ⟨[], [], .nil⟩⟩
  | cons first rest inductionHypothesis =>
    rw [List.forall_mem_cons, ← inductionHypothesis]
    constructor
    · rintro ⟨_, _, _ | ⟨here, later⟩⟩
      exact ⟨⟨_, _, here⟩, _, _, later⟩
    · rintro ⟨⟨_, _, here⟩, _, _, later⟩
      exact ⟨_, _, .cons here later⟩

end Section

/-! ### Which document is too large -/

/-- An error tells that a document is too large only if one of these is, with the size that it has and
the ceiling that it must keep. -/
def BlamesCarried (carried : List (Document × Nat)) (error : Error) : Prop :=
  ∀ size max, error = .documentTooLarge size max → ∃ entry ∈ carried, ∃ part,
    entry.1.encode = .ok part ∧ size = part.length ∧ max = entry.2 ∧ max < size

theorem BlamesCarried.mono {few many : List (Document × Nat)} {error : Error}
    (blames : BlamesCarried few error) (among : ∀ entry ∈ few, entry ∈ many) :
    BlamesCarried many error := by
  intro size max same
  obtain ⟨entry, member, exceeded⟩ := blames size max same
  exact ⟨entry, among entry member, exceeded⟩

/-- What can be wrong with a name or a length is no matter of documents. -/
theorem Encode.Settles.blamesCarried {zeroKey zeroRegex : Prop} {size : Nat} {step : Written}
    (settles : Settles zeroKey zeroRegex size step) (carried : List (Document × Nat)) :
    FailsOnly (BlamesCarried carried) step := by
  rintro error failed size max rfl
  cases settles.refused _ failed

theorem Document.blamesCarried_encodeWith {ceiling : Nat} {document : Document} :
    FailsOnly (BlamesCarried [(document, ceiling)])
      (document.encodeWith { maxSize := some ceiling }) := by
  rintro error failed size max rfl
  obtain ⟨part, written, -, ceiling, exceeds, rfl⟩ := encodeWith_eq_tooLarge_iff.1 failed
  cases ceiling
  exact ⟨_, List.mem_singleton_self _, part, written, rfl, rfl, exceeds⟩

theorem Encode.blamesCarried_documents {ceiling : Nat} {documents : List Document} :
    FailsOnly (BlamesCarried (documents.map (·, ceiling)))
      (Encode.documents { maxSize := some ceiling } documents) := by
  induction documents with
  | nil => exact failsOnly_of_ok rfl
  | cons first rest inductionHypothesis =>
    refine FailsOnly.bind (fun error failed => ?_) fun _ => FailsOnly.bind (fun error failed => ?_)
      fun _ => failsOnly_of_ok rfl
    · refine (Document.blamesCarried_encodeWith error failed).mono fun entry member => ?_
      rw [List.mem_singleton.1 member]
      exact List.mem_cons_self
    · exact (inductionHypothesis error failed).mono fun _ => List.mem_cons_of_mem _

namespace Section

theorem blamesCarried_toBytes {limit : Nat} {part : Section} :
    FailsOnly (BlamesCarried (part.carried limit)) (part.toBytes limit) := by
  cases part with
  | body document =>
    exact Document.blamesCarried_encodeWith.bind fun _ => failsOnly_of_ok rfl
  | sequence run =>
    exact ((settles_name _).blamesCarried _).bind fun _ => blamesCarried_documents.bind fun _ =>
      ((settles_measured rfl).blamesCarried _).bind fun _ => failsOnly_of_ok rfl

theorem blamesCarried_listToBytes {limit : Nat} {sections : List Section} :
    FailsOnly (BlamesCarried (sections.flatMap (carried limit))) (listToBytes limit sections) := by
  induction sections with
  | nil => exact failsOnly_of_ok rfl
  | cons first rest inductionHypothesis =>
    rw [List.flatMap_cons]
    refine FailsOnly.bind (fun error failed => ?_) fun _ => FailsOnly.bind (fun error failed => ?_)
      fun _ => failsOnly_of_ok rfl
    · exact (blamesCarried_toBytes error failed).mono fun _ => List.mem_append_left _
    · exact (inductionHypothesis error failed).mono fun _ => List.mem_append_right _

end Section

/-! ### Messages -/

namespace Msg

/-- The documents of a message, each with the size that its written form may have at most. The command
may be larger than a document of a sequence by the room for its own fields. -/
def carried (message : Msg) : List (Document × Nat) :=
  (message.command,
    min (message.documentLimit + Section.commandOverhead) Section.maxCeiling) ::
    message.sequences.flatMap fun run => run.documents.map (·, message.documentLimit)

/-- The number of bytes of a message: its header, its flags, and its sections, each behind a byte for
its kind. -/
def size (message : Msg) : Nat :=
  headerLength + 4 + (1 + message.command.size) + (message.sequences.map (1 + ·.size)).sum

/-- What a message must be like to be written. -/
structure IsWritable (message : Msg) : Prop where
  /-- The command and every document of a sequence have written forms that keep their ceilings. -/
  fits : ∀ entry ∈ message.carried, ∃ part, entry.1.IsWrittenWithin entry.2 part
  /-- No name of a sequence holds a zero byte. -/
  clean : ∀ run ∈ message.sequences, 0 ∉ Utf8.encode run.identifier
  /-- The length of every sequence can be told. -/
  told : ∀ run ∈ message.sequences, run.size < 2 ^ 31
  /-- The length of the whole can be told. -/
  whole : message.size < 2 ^ 31

theorem flatMap_carried (message : Msg) :
    message.sections.flatMap (Section.carried message.documentLimit) = message.carried := by
  unfold sections carried
  rw [List.flatMap_cons, List.flatMap_map]
  rfl

theorem sum_sections (message : Msg) :
    headerLength + 4 + (message.sections.map (1 + ·.size)).sum = message.size := by
  unfold sections size
  rw [List.map_cons, List.sum_cons, List.map_map, ← Nat.add_assoc]
  rfl

/-- A body is written as its flags and its sections. -/
theorem body_eq_ok_iff {message : Msg} {body : Bytes} :
    message.body = .ok body ↔ ∃ parts tail,
      Section.AreWritten message.documentLimit message.sections parts tail ∧
      (message.flags.diff MsgFlags.checksumPresent).toBytes ++ tail = body := by
  constructor
  · intro written
    obtain ⟨tail, listed, same⟩ := bind_eq_ok_iff.1 written
    cases same
    obtain ⟨parts, placed⟩ := Section.listToBytes_eq_ok_iff.1 listed
    exact ⟨parts, tail, placed, rfl⟩
  · rintro ⟨parts, tail, placed, rfl⟩
    exact bind_eq_ok_iff.2 ⟨tail, Section.listToBytes_eq_ok_iff.2 ⟨parts, placed⟩, rfl⟩

theorem length_body {message : Msg} {body : Bytes} (written : message.body = .ok body) :
    headerLength + body.length = message.size := by
  obtain ⟨parts, tail, placed, rfl⟩ := body_eq_ok_iff.1 written
  have width : (message.flags.diff MsgFlags.checksumPresent).toBytes.length = 4 :=
    length_littleEndian _ _
  rw [List.length_append, width, placed.length, ← sum_sections, Nat.add_assoc]

/-- The parts of a body are found without reading what is in them. -/
theorem exists_parts_of_body {message : Msg} {body : Bytes} (written : message.body = .ok body) :
    ∃ parts, Exhausts (OpCode.embedded .msg) body parts ∧
      AreWrittenWithin message.carried parts := by
  obtain ⟨parts, tail, placed, rfl⟩ := body_eq_ok_iff.1 written
  obtain ⟨grouped, each, rfl⟩ := placed.exhausts
  refine ⟨grouped.flatten, ?_, message.flatMap_carried ▸ placed.carries⟩
  exact (takes_flags _).bind_exhausts (each.exhausts.bind_pure List.flatten)

/-- A section of a message that is small enough and keeps the rules of the whole keeps its own. -/
theorem exists_isWritten_of_isWritable {message : Msg} (writable : message.IsWritable)
    {part : Section} (member : part ∈ message.sections) :
    ∃ parts bytes, Section.IsWritten message.documentLimit part parts bytes := by
  refine Section.exists_isWritten_iff.2 ⟨exists_areWrittenWithin_iff.2 fun entry inside => ?_, ?_⟩
  · refine writable.fits entry ?_
    rw [← flatMap_carried]
    exact List.mem_flatMap.2 ⟨part, member, inside⟩
  · rcases List.mem_cons.1 member with rfl | later
    -- The length of the command can be told because that of the whole can.
    · refine ⟨trivial, Nat.lt_of_le_of_lt ?_ writable.whole⟩
      show message.command.size ≤ message.size
      unfold size
      omega
    · obtain ⟨run, among, rfl⟩ := List.mem_map.1 later
      exact ⟨writable.clean run among, writable.told run among⟩

theorem exists_serialize_iff {message : Msg} :
    (∃ bytes, (Message.msg message).serialize = .ok bytes) ↔ message.IsWritable := by
  constructor
  · rintro ⟨bytes, written⟩
    obtain ⟨body, contents, small, -⟩ := Message.serialize_eq_ok_iff.1 written
    obtain ⟨parts, tail, placed, -⟩ := body_eq_ok_iff.1 contents
    have named : ∀ run ∈ message.sequences, 0 ∉ Utf8.encode run.identifier ∧ run.size < 2 ^ 31 := by
      intro run among
      have member : Section.sequence run ∈ message.sections :=
        List.mem_cons_of_mem _ (List.mem_map_of_mem among)
      obtain ⟨-, clean, told⟩ := Section.exists_isWritten_iff.1
        (Section.exists_areWritten_iff.1 ⟨parts, tail, placed⟩ _ member)
      exact ⟨clean, told⟩
    exact {
      fits := exists_areWrittenWithin_iff.1 ⟨parts, message.flatMap_carried ▸ placed.carries⟩
      clean := fun run among => (named run among).1
      told := fun run among => (named run among).2
      whole := length_body contents ▸ small }
  · intro writable
    obtain ⟨parts, tail, placed⟩ := Section.exists_areWritten_iff.2 fun part member =>
      exists_isWritten_of_isWritable writable member
    have contents := body_eq_ok_iff.2 ⟨parts, tail, placed, rfl⟩
    have small := writable.whole
    rw [← length_body contents] at small
    exact ⟨_, Message.serialize_eq_ok_iff.2 ⟨_, contents, small, rfl⟩⟩

theorem blamesCarried_serialize (message : Msg) :
    FailsOnly (BlamesCarried message.carried) (Message.msg message).serialize := by
  have listed := @Section.blamesCarried_listToBytes message.documentLimit message.sections
  rw [flatMap_carried] at listed
  refine FailsOnly.bind (listed.bind fun _ => failsOnly_of_ok rfl) fun body =>
    FailsOnly.bind ?_ fun _ => failsOnly_of_ok rfl
  rintro error failed size max rfl
  unfold Encode.length at failed
  split at failed <;> cases failed

/-- A message that carries a command is written exactly if every document in it keeps its own ceiling,
the names hold no zero byte and every length can be told. What is written is as long as was counted and
holds no document above its ceiling. Where one is, nothing is written at all, and an error that tells
of a document which is too large tells of one in the message. -/
theorem serialize_within_ceilings (message : Msg) :
    ((∃ bytes, (Message.msg message).serialize = .ok bytes) ↔ message.IsWritable) ∧
    (∀ bytes, (Message.msg message).serialize = .ok bytes → bytes.length = message.size ∧
      ∃ parts, Message.embedded .msg bytes = .ok parts ∧
        AreWrittenWithin message.carried parts) ∧
    (∀ entry ∈ message.carried, ∀ part, entry.1.encode = .ok part → entry.2 < part.length →
      ∃ error, (Message.msg message).serialize = .error error ∧ error.kind = .codec) ∧
    ∀ error, (Message.msg message).serialize = .error error →
      BlamesCarried message.carried error := by
  refine ⟨exists_serialize_iff, fun bytes written => ?_, fun entry member part encoded exceeds => ?_,
    blamesCarried_serialize message⟩
  · obtain ⟨body, contents, -, rfl⟩ := Message.serialize_eq_ok_iff.1 written
    obtain ⟨parts, placed, each⟩ := exists_parts_of_body contents
    refine ⟨?_, parts, Message.embedded_eq_ok (Header.length_toBytes _) placed, each⟩
    rw [List.length_append, Header.length_toBytes, length_body contents]
  · cases outcome : (Message.msg message).serialize with
    | error error => exact ⟨error, rfl, refuses_msg message error outcome⟩
    | ok bytes =>
      obtain ⟨kept, written, fits⟩ := (exists_serialize_iff.1 ⟨bytes, outcome⟩).fits entry member
      cases encoded.symm.trans written
      exact absurd exceeds (Nat.not_lt.2 fits)

/-- A command with a sequence whose second document is larger than the ceiling. -/
def oversized : Msg where
  requestId := 7
  command := [("insert", .string "pears")]
  sequences := [⟨"documents", [[], [("kind", .string "ripe")]]⟩]
  maxDocumentSize := some 16

theorem serialize_within_ceilings_oversized :
    (∃ error, (Message.msg oversized).serialize = .error error ∧ error.kind = .codec) ∧
    ∃ bytes, (Message.msg Message.sampleMsg).serialize = .ok bytes ∧
      bytes.length = Message.sampleMsg.size ∧ Message.sampleMsg.IsWritable := by
  obtain ⟨part, encoded⟩ : ∃ part, Document.encode [("kind", .string "ripe")] = .ok part := ⟨_, rfl⟩
  have long : 16 < part.length := by
    cases encoded
    decide
  obtain ⟨bytes, written⟩ : ∃ bytes, (Message.msg Message.sampleMsg).serialize = .ok bytes :=
    ⟨_, rfl⟩
  obtain ⟨-, -, refused, -⟩ := serialize_within_ceilings oversized
  obtain ⟨writable, measured, -, -⟩ := serialize_within_ceilings Message.sampleMsg
  exact ⟨refused ([("kind", .string "ripe")], 16) (.tail _ (.tail _ (.head _))) part encoded long,
    bytes, written, (measured bytes written).1, writable.1 ⟨bytes, written⟩⟩

end Msg

end DocumentDriver
