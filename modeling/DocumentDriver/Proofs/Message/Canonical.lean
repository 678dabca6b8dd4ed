/-
This file proves that writing a message undoes reading it. A message that carries a command may have
its sections in any order and a checksum behind them; if it has its body first and no checksum, its
sections are written as they were read. With the header, which only repeats what the message says,
this holds of whole messages.
-/

import DocumentDriver.Proofs.Message.Sections
import DocumentDriver.Proofs.Message.Soundness

namespace DocumentDriver

open Read Encode

/-! ### Flags -/

/-- Removing flags that are not there changes nothing. -/
theorem Flags.diff_checksumPresent {flags : Flags}
    (absent : flags.contains MsgFlags.checksumPresent = false) :
    flags.diff MsgFlags.checksumPresent = flags := by
  have even : flags.word.toNat % 2 ≠ 1 := by
    intro odd
    have present : flags.word &&& 1 = 1 := by
      rw [← UInt32.toNat_inj, UInt32.toNat_and]
      exact (Nat.and_one_is_mod _).trans odd
    unfold contains at absent
    rw [show flags.word &&& MsgFlags.checksumPresent.word = 1 from present] at absent
    cases absent
  have others : ∀ bit < 32, Nat.testBit 0xFFFFFFFE bit = false → bit = 0 := by decide
  unfold diff
  rw [Flags.mk.injEq, ← UInt32.toNat_inj, UInt32.toNat_and]
  refine Nat.eq_of_testBit_eq fun bit => ?_
  rw [Nat.testBit_and]
  show (flags.word.toNat.testBit bit && Nat.testBit 0xFFFFFFFE bit) = _
  cases kept : Nat.testBit 0xFFFFFFFE bit with
  | true => rw [Bool.and_true]
  | false =>
    rw [Bool.and_false]
    by_cases low : bit < 32
    · rw [others bit low kept, Nat.testBit_zero, decide_eq_false even]
    · have small : flags.word.toNat < 2 ^ bit :=
        Nat.lt_of_lt_of_le flags.word.toNat_lt (Nat.pow_le_pow_right Nat.two_pos (by omega))
      rw [Nat.testBit_lt_two_pow small]

namespace Section

/-! ### Sections -/

/-- The bytes of a section, with its documents in these parts of them. -/
inductive IsForm : Section → List Bytes → Bytes → Prop
  | body {document : Document} {part : Bytes} (read : Document.decode part = .ok document) :
    IsForm (.body document) [part] (0 :: part)
  | sequence {run : DocumentSequence} {parts : List Bytes} {contents : Bytes}
    (clean : 0 ∉ Utf8.encode run.identifier) (each : DecodeTo run.documents parts)
    (framed : measured (Utf8.encode run.identifier ++ [0] ++ parts.flatten) = .ok contents) :
    IsForm (.sequence run) parts (1 :: contents)

/-- The bytes of sections one after the other. -/
inductive AreForms : List Section → List Bytes → Bytes → Prop
  | nil : AreForms [] [] []
  | cons {first : Section} {rest : List Section} {parts others : List Bytes} {head tail : Bytes}
    (here : IsForm first parts head) (later : AreForms rest others tail) :
    AreForms (first :: rest) (parts ++ others) (head ++ tail)

theorem sound_readSequence : Sound readSequence fun run head =>
    ∃ parts, 0 ∉ Utf8.encode run.identifier ∧ DecodeTo run.documents parts ∧
      measured (Utf8.encode run.identifier ++ [0] ++ parts.flatten) = .ok head := by
  refine (sound_length.bind fun size => sound_unless ((sound_take (size - 4)).bind fun contents =>
    (sound_name.bind_toEnd fun identifier => soundToEnd_documents.map fun documents =>
      DocumentSequence.mk identifier documents).inside contents)).weaken ?_
  rintro _ _ ⟨size, _, _, ⟨small, rfl⟩, ⟨large, contents, _, _, ⟨rfl, exact⟩, ⟨⟨identifier, _, _,
    ⟨clean, rfl⟩, ⟨documents, ⟨parts, each, rfl⟩, rfl⟩, whole⟩, rfl⟩, rfl⟩, rfl⟩
  have long : contents.length + 4 = size := by omega
  refine ⟨parts, clean, each, measured_eq_ok_iff.2 ?_⟩
  rw [whole, long, List.append_nil]
  exact ⟨small, rfl⟩

theorem sound_read : Sound read fun part head => ∃ parts, IsForm part parts head := by
  have announced (kind : UInt8) : Sound (if kind = 0 then return .body (← Read.document)
      else if kind = 1 then return .sequence (← readSequence)
      else Read.fail (.invalidPayloadType kind))
      fun (part : Section) tail => ∃ parts, IsForm part parts (kind :: tail) := by
    by_cases zero : kind = 0
    · rw [if_pos zero]
      refine (sound_document.map Section.body).weaken ?_
      rintro _ tail ⟨document, read, rfl⟩
      exact ⟨[tail], zero ▸ .body read⟩
    rw [if_neg zero]
    by_cases one : kind = 1
    · rw [if_pos one]
      refine (sound_readSequence.map Section.sequence).weaken ?_
      rintro _ tail ⟨run, ⟨parts, clean, each, framed⟩, rfl⟩
      exact ⟨parts, one ▸ .sequence clean each framed⟩
    · rw [if_neg one]
      exact sound_fail _ _
  refine (sound_byte.bind announced).weaken ?_
  rintro part _ ⟨kind, _, tail, rfl, formed, rfl⟩
  exact formed

theorem IsForm.ne_nil {part : Section} {parts : List Bytes} {bytes : Bytes}
    (form : IsForm part parts bytes) : bytes ≠ [] := by
  cases form <;> exact List.cons_ne_nil _ _

theorem IsForm.takes {part : Section} {parts : List Bytes} {bytes : Bytes}
    (form : IsForm part parts bytes) : Takes embedded bytes parts := by
  cases form with
  | body read =>
    obtain ⟨elements, contained⟩ := exists_container_of_decode read
    exact takes_embedded_body contained
  | sequence clean each framed =>
    exact takes_embedded_sequence clean (exists_container_of_decodeTo each) framed

theorem IsForm.each {part : Section} {parts : List Bytes} {bytes : Bytes}
    (form : IsForm part parts bytes) : DecodeTo part.documents parts := by
  cases form with
  | body read => exact .cons read .nil
  | sequence clean each framed => exact each

theorem IsForm.givesUnless {part : Section} {parts : List Bytes} {bytes : Bytes} (limit : Nat)
    (form : IsForm part parts bytes) (canonical : ∀ part ∈ parts, Document.IsCanonicalForm part) :
    GivesUnless (part.IsRefused limit) (part.toBytes limit) bytes := by
  have each := encode_of_canonical form.each canonical
  cases form with
  | body read =>
    obtain ⟨⟩ | ⟨written, -⟩ := each
    exact (Document.givesUnless_encodeWith rfl written).bind (.inl rfl)
  | sequence clean read framed =>
    refine GivesUnless.bind (.inl (name_eq_ok_iff.2 ⟨clean, rfl⟩)) ?_
    exact (Document.givesUnless_documents (fun _ _ => rfl) each).bind
      (GivesUnless.bind (.inl framed) (.inl rfl))

theorem AreForms.exhausts {sections : List Section} {parts : List Bytes} {bytes : Bytes}
    (forms : AreForms sections parts bytes) :
    ∃ grouped, TakesEach embedded bytes grouped ∧ grouped.flatten = parts := by
  induction forms with
  | nil => exact ⟨[], .nil, rfl⟩
  | @cons first rest parts others head tail here later inductionHypothesis =>
    obtain ⟨grouped, each, same⟩ := inductionHypothesis
    exact ⟨parts :: grouped, .cons here.takes here.ne_nil each, by rw [List.flatten_cons, same]⟩

theorem AreForms.each {sections : List Section} {parts : List Bytes} {bytes : Bytes}
    (forms : AreForms sections parts bytes) :
    DecodeTo (sections.flatMap documents) parts := by
  induction forms with
  | nil => exact .nil
  | cons here later inductionHypothesis =>
    rw [List.flatMap_cons]
    exact List.rel_append here.each inductionHypothesis

theorem AreForms.givesUnless {sections : List Section} {parts : List Bytes} {bytes : Bytes}
    (limit : Nat) (forms : AreForms sections parts bytes)
    (canonical : ∀ part ∈ parts, Document.IsCanonicalForm part) :
    GivesUnless (∃ part ∈ sections, part.IsRefused limit) (listToBytes limit sections) bytes := by
  induction forms with
  | nil => exact .inl rfl
  | @cons first rest parts others head tail here later inductionHypothesis =>
    obtain ⟨front, back⟩ := List.forall_mem_append.1 canonical
    refine ((here.givesUnless limit front).mono ?_).bind
      (((inductionHypothesis back).mono ?_).bind (.inl rfl))
    · exact fun refused => ⟨first, List.mem_cons_self, refused⟩
    · exact fun ⟨part, member, refused⟩ => ⟨part, List.mem_cons_of_mem _ member, refused⟩

/-! ### Gathering sections -/

/-- One more section is added to those before it. -/
def IsStep (before after : SectionsRead) (bytes : Bytes) : Prop :=
  ∃ part parts, IsForm part parts bytes ∧ before.add part = .ok after

theorem sound_step (before : SectionsRead) : Sound before.step (IsStep before) := by
  refine (sound_read.bind fun part => sound_liftM (before.add part)).weaken ?_
  rintro after _ ⟨part, head, _, ⟨parts, form⟩, ⟨added, rfl⟩, rfl⟩
  rw [List.append_nil]
  exact ⟨part, parts, form, added⟩

/-- Behind the body only sequences are accepted. -/
theorem sequences_of_passes {before found : SectionsRead} {bytes : Bytes}
    (passes : Passes IsStep before bytes found) (known : before.command.isSome = true) :
    ∃ (runs : List DocumentSequence) (parts : List Bytes),
      AreForms (runs.map .sequence) parts bytes ∧
      found = { before with reversed := runs.reverse ++ before.reversed } := by
  induction passes with
  | done => exact ⟨[], [], .nil, rfl⟩
  | @more before middle after head tail portion others inductionHypothesis =>
    obtain ⟨part, parts, form, added⟩ := portion
    obtain ⟨command, reversed⟩ := before
    obtain ⟨command, rfl⟩ := Option.isSome_iff_exists.1 known
    cases part with
    | body document => cases added
    | sequence run =>
      cases added
      obtain ⟨runs, more, forms, rfl⟩ := inductionHypothesis rfl
      refine ⟨run :: runs, parts ++ more, .cons form forms, ?_⟩
      rw [List.reverse_cons, List.append_assoc, List.singleton_append]

/-- Where a body comes first, it is the command, and sequences follow. -/
theorem sections_of_passes {found : SectionsRead} {bytes : Bytes}
    (passes : Passes IsStep {} bytes found) (first : bytes.head? = some 0) :
    ∃ (command : Document) (runs : List DocumentSequence) (parts : List Bytes),
      AreForms (.body command :: runs.map .sequence) parts bytes ∧
      found = { command := some command, reversed := runs.reverse } := by
  cases passes with
  | done => cases first
  | @more _ middle _ head tail portion others =>
    obtain ⟨part, parts, form, added⟩ := portion
    cases form with
    | sequence clean each framed => cases first
    | @body document part read =>
      cases added
      obtain ⟨runs, more, forms, rfl⟩ := sequences_of_passes others rfl
      refine ⟨document, runs, [part] ++ more, .cons (.body read) forms, ?_⟩
      rw [List.append_nil]

end Section

/-- A message is made only from sections with a body among them. -/
theorem Msg.sound_gathered (make : Document → Msg) (found : SectionsRead) :
    Sound (match found.command with
      | none => violation .noBody
      | some command => return make command)
      fun message tail => ∃ command, found.command = some command ∧ make command = message ∧
        tail = [] := by
  cases known : found.command with
  | none => exact sound_fail _ _
  | some command =>
    refine (sound_pure _).weaken ?_
    rintro _ _ ⟨same, empty⟩
    exact ⟨command, rfl, same, empty⟩

theorem Msg.soundToEnd_readBody {header : Header} (kind : header.kind = .msg) :
    SoundToEnd (readBody header) fun message => Message.IsFormOf header (.msg message) := by
  have nonempty (before after : SectionsRead) (head : Bytes)
      (step : Section.IsStep before after head) : head ≠ [] := by
    obtain ⟨_, _, form, -⟩ := step
    exact form.ne_nil
  refine (sound_flags.bind_toEnd fun flags => soundToEnd_unless (soundToEnd_remainder.bind fun rest =>
    (sound_liftM (splitChecksum flags rest)).bind fun pair =>
      ((soundToEnd_untilEnd Section.sound_step nonempty {}).inside pair.1).bind fun found =>
        sound_gathered (fun command => Msg.mk header.requestId header.responseTo flags command
          found.reversed.reverse pair.2 none) found)).weaken ?_
  rintro _ _ ⟨flags, _, _, rfl, ⟨-, rest, rfl, ⟨sections, checksum⟩, _, _, ⟨split, rfl⟩, ⟨found, _, _,
    ⟨passes, rfl⟩, ⟨command, known, rfl, rfl⟩, rfl⟩, -⟩, rfl⟩
  refine ⟨⟨kind.symm, rfl, fun _ => rfl⟩, fun regular => ?_⟩
  have unchecked := regular.unchecked _ rfl
  unfold splitChecksum at split
  rw [unchecked, if_neg Bool.false_ne_true] at split
  obtain ⟨rfl, rfl⟩ : rest = sections ∧ none = checksum := by
    cases split
    exact ⟨rfl, rfl⟩
  have first : rest.head? = some 0 := by
    have width : flags.toBytes.length = 4 := length_littleEndian _ _
    have fifth := regular.bodyFirst _ rfl
    rwa [List.getElem?_append_right (Nat.le_of_eq width), width, Nat.sub_self,
      ← List.head?_eq_getElem?] at fifth
  -- Sequences are gathered last to first, so they come out in the order of their bytes.
  obtain ⟨body, runs, parts, forms, rfl⟩ := Section.sections_of_passes passes first
  obtain rfl : body = command := Option.some.inj known
  rw [List.reverse_reverse]
  refine ⟨parts, ?_, ?_, fun canonical => ?_⟩
  · obtain ⟨grouped, each, rfl⟩ := forms.exhausts
    exact (takes_flags flags).bind_exhausts (each.exhausts.bind_pure List.flatten)
  · have each := forms.each
    rwa [List.flatMap_cons, List.flatMap_map] at each
  · refine (forms.givesUnless defaultMaxDocumentSize canonical).bind (.inl ?_)
    rw [Flags.diff_checksumPresent unchecked]
    rfl

namespace Message

/-! ### Whole messages -/

/-- What is read as a body stands in it and says what its header says. -/
theorem soundToEnd_readBody (header : Header) :
    SoundToEnd (readBody header) (IsFormOf header) := by
  have lifted {Kind : Type} {read : Read Kind} {make : Kind → Message}
      (sound : SoundToEnd read fun message => IsFormOf header (make message)) :
      SoundToEnd (make <$> read) (IsFormOf header) := by
    refine (sound.map make).weaken ?_
    rintro _ body ⟨message, form, rfl⟩
    exact form
  unfold readBody
  cases kind : header.kind with
  | reply => exact lifted (Reply.soundToEnd_readBody kind)
  | update => exact lifted (Update.soundToEnd_readBody kind)
  | insert => exact lifted (Insert.soundToEnd_readBody kind)
  | query => exact lifted (Query.soundToEnd_readBody kind)
  | getMore => exact lifted (GetMore.soundToEnd_readBody kind)
  | delete => exact lifted (Delete.soundToEnd_readBody kind)
  | killCursors => exact lifted (KillCursors.soundToEnd_readBody kind)
  | compressed => exact lifted (Compressed.soundToEnd_readBody kind)
  | msg => exact lifted (Msg.soundToEnd_readBody kind)

/-- The bytes of a message in which nothing is left to the writer's choice. -/
structure IsCanonicalForm (message : Message) (bytes : Bytes) : Prop where
  /-- Every document in them stands in its canonical form. -/
  embedded : ∀ parts, embedded message.kind bytes = .ok parts →
    ∀ part ∈ parts, Document.IsCanonicalForm part
  /-- The header names an answered message only where the kind has one. -/
  unanswered : message.kind.answers = false → bytes.int32At 8 = 0
  /-- The body holds nothing that a writer never writes. -/
  regular : message.IsRegular (bytes.drop headerLength)

/-- A header is written again as it was, since it declares the length of the whole. -/
theorem header_eq {bytes : Bytes} {max : Nat} {message : Message} {header : Header}
    (known : HasHeader bytes max header) (headed : message.IsHeadedBy header)
    (unanswered : message.kind.answers = false → bytes.int32At 8 = 0) :
    message.header (Bytes.toInt32 (littleEndian 4 bytes.length)) = header := by
  obtain ⟨-, front, declared, -⟩ := known
  obtain ⟨kind, requestId, answered⟩ := headed
  have high := header.length.toInt_lt
  have length : Bytes.toInt32 (littleEndian 4 bytes.length) = header.length := by
    rw [← Int32.toInt_inj, toInt_toInt32_littleEndian _ (by omega), declared]
  have responseTo : message.responseTo = header.responseTo := by
    cases answers : message.kind.answers with
    | true => exact answered answers
    | false =>
      obtain ⟨-, here, -⟩ := Header.fields_of_toBytes front
      rw [← here, unanswered answers]
      cases message <;> first | rfl | cases answers
  unfold Message.header
  rw [length, requestId, responseTo, kind]

/-- A message that was read from canonical bytes is written as these bytes, unless a writer refuses
it: an insertion without documents, with a reserved key or a document that is too large, or a
command with a document that is too large. Every other message can be written. -/
theorem serialize_decoded (bytes : Bytes) (max : Nat) (message : Message)
    (read : decode bytes max = .ok message) (canonical : message.IsCanonicalForm bytes) :
    (∃ parts, embedded message.kind bytes = .ok parts ∧ DecodeTo message.documents parts) ∧
      (message.serialize = .ok bytes ∨
        message.IsRefused ∧ ∃ error, message.serialize = .error error) := by
  obtain ⟨header, known, after, run⟩ := exists_header_of_decode read
  obtain ⟨⟨headed, form⟩, -⟩ := soundToEnd_readBody header run
  obtain ⟨parts, stands⟩ := form canonical.regular
  have found : embedded message.kind bytes = .ok parts := by
    unfold embedded
    rw [show message.kind.embedded (Reader.start (bytes.drop headerLength)) = _ from stands.placed 0]
    rfl
  refine ⟨⟨parts, found, stands.each⟩, ?_⟩
  have same := header_eq known headed canonical.unanswered
  have small : bytes.length < 2 ^ 31 := by
    have high := header.length.toInt_lt
    rw [known.declared] at high
    omega
  refine GivesUnless.bind (stands.written (canonical.embedded parts found)) (.inl ?_)
  show (Encode.length (headerLength + (bytes.drop headerLength).length) >>= _ : Written) = _
  rw [known.length_eq, length_eq_ok_iff.2 ⟨small, rfl⟩]
  show Except.ok ((message.header _).toBytes ++ bytes.drop headerLength) = _
  rw [same, known.front]

/-- The bytes of a command with one sequence. -/
def commandBytes : Bytes :=
  [41, 0, 0, 0, 7, 0, 0, 0, 3, 0, 0, 0, 221, 7, 0, 0] ++ [2, 0, 0, 0] ++
    (0 :: [8, 0, 0, 0, 10, 97, 0, 0]) ++ (1 :: [11, 0, 0, 0, 100, 0, 5, 0, 0, 0, 0])

/-- The command in them. -/
def readCommand : Msg where
  requestId := 7
  responseTo := 3
  flags := MsgFlags.moreToCome
  command := [("a", .null)]
  sequences := [⟨"d", [[]]⟩]

theorem isCanonicalForm_commandBytes : (msg readCommand).IsCanonicalForm commandBytes where
  embedded := by
    have found : embedded .msg commandBytes =
        .ok [[8, 0, 0, 0, 10, 97, 0, 0], [5, 0, 0, 0, 0]] := by rfl
    intro parts given
    cases found.symm.trans given
    refine List.forall_mem_cons.2 ⟨⟨[("a", .plain .null)], by rfl, trivial, trivial⟩, ?_⟩
    exact List.forall_mem_singleton.2 ⟨[], by rfl, trivial⟩
  unanswered := nofun
  regular := {
    unchecked := by
      rintro command ⟨⟩
      rfl
    bodyFirst := fun _ _ => rfl
    idFirst := nofun }

theorem serialize_decoded_commandBytes :
    decode commandBytes commandBytes.length = .ok (msg readCommand) ∧
      (msg readCommand).serialize = .ok commandBytes := by
  have read : decode commandBytes commandBytes.length = .ok (msg readCommand) := by rfl
  have command : Document.encode [("a", .null)] = .ok [8, 0, 0, 0, 10, 97, 0, 0] := by rfl
  have empty : Document.encode [] = .ok [5, 0, 0, 0, 0] := by rfl
  have accepted : ¬(msg readCommand).IsRefused := by
    rintro ⟨part, member, refused⟩
    obtain rfl | rfl := List.mem_pair.1 member
    · exact Document.not_isRefused_of_fits command (by decide) refused
    · obtain ⟨document, inside, refused⟩ := refused
      obtain rfl := List.mem_singleton.1 inside
      exact Document.not_isRefused_of_fits empty (by decide) refused
  obtain ⟨-, outcome⟩ := serialize_decoded _ _ _ read isCanonicalForm_commandBytes
  exact ⟨read, outcome.resolve_right fun failed => accepted failed.1⟩

end Message

end DocumentDriver
