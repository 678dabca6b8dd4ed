/-
This file says which lists of sections make a message. Sections delimit themselves, so any list of
them is read back; what is kept of it is the bodies among them and the sequences in their order.
One body makes a message wherever it stands, none or several do not, and a checksum is cut off before
the sections are looked at, so it changes nothing in them.
-/

import DocumentDriver.Proofs.Message.Delimited

namespace DocumentDriver

open Read Encode

/-! ### Sections in any order -/

namespace Section

/-- The document of a section that is a body. -/
def body? : Section → Option Document
  | .body document => some document
  | .sequence _ => none

/-- The run of a section that is a sequence. -/
def run? : Section → Option DocumentSequence
  | .body _ => none
  | .sequence run => some run

/-- The bodies among sections. -/
def bodies (sections : List Section) : List Document := sections.filterMap body?

/-- The sequences among sections, in their order. -/
def runs (sections : List Section) : List DocumentSequence := sections.filterMap run?

theorem IsForm.takes_read {part : Section} {parts : List Bytes} {bytes : Bytes}
    (form : IsForm part parts bytes) : Takes read bytes part := by
  cases form with
  | body read =>
    refine (takes_byte 0).bind ?_
    rw [if_pos rfl]
    exact (decode_eq_ok_iff_takes.1 read).bind_pure Section.body
  | sequence clean each framed =>
    refine (takes_byte 1).bind ?_
    rw [if_neg (by decide), if_pos rfl]
    exact (takes_named clean (exhausts_decoded each) framed).bind_pure Section.sequence

theorem fails_read {kind : UInt8} (other : kind ≠ 0 ∧ kind ≠ 1) :
    Fails read [kind] (.invalidPayloadType kind) := by
  refine (takes_byte kind).bind_fails_last ?_
  rw [if_neg other.1, if_neg other.2]
  exact fun _ _ => rfl

end Section

namespace SectionsRead

/-- All these sections are added, one after the other. -/
def addAll (before : SectionsRead) : List Section → Except Error SectionsRead
  | [] => .ok before
  | first :: rest => do
    let middle ← before.add first
    middle.addAll rest

/-- The bodies read so far and those among further sections. -/
def bodiesWith (before : SectionsRead) (sections : List Section) : List Document :=
  before.command.toList ++ Section.bodies sections

theorem addAll_of_few {before : SectionsRead} {sections : List Section}
    (few : (before.bodiesWith sections).length ≤ 1) :
    before.addAll sections = .ok ⟨(before.bodiesWith sections).head?,
      (Section.runs sections).reverse ++ before.reversed⟩ := by
  obtain ⟨command, reversed⟩ := before
  induction sections generalizing command reversed with
  | nil => cases command <;> rfl
  | cons first rest inductionHypothesis =>
    cases first with
    | sequence run =>
      show addAll ⟨command, run :: reversed⟩ rest = _
      rw [inductionHypothesis command (run :: reversed) few]
      show _ = Except.ok (SectionsRead.mk _ ((run :: Section.runs rest).reverse ++ reversed))
      rw [List.reverse_cons, List.append_assoc]
      rfl
    | body document =>
      cases command with
      | none => exact inductionHypothesis (some document) reversed few
      | some earlier => simp [bodiesWith, Section.bodies, Section.body?] at few

theorem addAll_of_many {before : SectionsRead} {sections : List Section}
    (atMost : before.command.toList.length ≤ 1)
    (many : 1 < (before.bodiesWith sections).length) :
    before.addAll sections = .error Violation.secondBody.toError := by
  obtain ⟨command, reversed⟩ := before
  induction sections generalizing command reversed with
  | nil => cases command <;> simp [bodiesWith, Section.bodies] at many
  | cons first rest inductionHypothesis =>
    cases first with
    | sequence run => exact inductionHypothesis command (run :: reversed) atMost many
    | body document =>
      cases command with
      | none => exact inductionHypothesis (some document) reversed (Nat.le_refl 1) many
      | some earlier => rfl

/-- A section that can be added is a step. -/
theorem takes_step {before after : SectionsRead} {part : Section} {parts : List Bytes}
    {bytes : Bytes} (form : Section.IsForm part parts bytes) (added : before.add part = .ok after) :
    Takes before.step bytes after :=
  form.takes_read.bind_last (takes_liftM added)

theorem steps_addAll {sections : List Section} {parts : List Bytes} {bytes : Bytes}
    (forms : Section.AreForms sections parts bytes) {before after : SectionsRead}
    (added : before.addAll sections = .ok after) : Steps step before bytes after := by
  induction forms generalizing before with
  | nil =>
    cases added
    exact .done _
  | cons here later inductionHypothesis =>
    obtain ⟨middle, first, rest⟩ := bind_eq_ok_iff.1 added
    exact .more (takes_step here first) here.ne_nil (inductionHypothesis rest)

/-- Where sections cannot all be added, one of them is the first that cannot. -/
theorem steps_until_refused {sections : List Section} {parts : List Bytes} {bytes : Bytes}
    (forms : Section.AreForms sections parts bytes) {before : SectionsRead} {error : Error}
    (refused : before.addAll sections = .error error) :
    ∃ front head tail middle, bytes = front ++ (head ++ tail) ∧ Steps step before front middle ∧
      head ≠ [] ∧ Fails middle.step head error := by
  induction forms generalizing before with
  | nil => cases refused
  | @cons first rest parts others head tail here later inductionHypothesis =>
    cases added : before.add first with
    | error problem =>
      rw [addAll, added] at refused
      cases refused
      refine ⟨[], head, tail, before, rfl, .done before, here.ne_nil,
        here.takes_read.bind_fails_last ?_⟩
      rw [added]
      exact fun _ _ => rfl
    | ok middle =>
      rw [addAll, added] at refused
      obtain ⟨front, portion, back, last, rfl, steps, some, failed⟩ := inductionHypothesis refused
      refine ⟨head ++ front, portion, back, last, ?_, .more (takes_step here added) here.ne_nil steps,
        some, failed⟩
      rw [List.append_assoc]

/-- What is gathered from the bytes of all sections of a message. -/
def gather (bytes : Bytes) : Except Error SectionsRead :=
  (·.1) <$> untilEnd step {} (Reader.start bytes)

theorem gather_of_few {sections : List Section} {parts : List Bytes} {bytes : Bytes}
    (forms : Section.AreForms sections parts bytes) (few : (Section.bodies sections).length ≤ 1) :
    gather bytes = .ok ⟨(Section.bodies sections).head?, (Section.runs sections).reverse⟩ := by
  have added : addAll {} sections = _ := addAll_of_few few
  rw [List.append_nil] at added
  have run := (steps_addAll forms added).exhausts 0
  unfold gather Reader.start
  rw [run]
  rfl

/-- A second body is refused where it stands, so nothing behind it is looked at. -/
theorem gather_of_many {sections : List Section} {parts : List Bytes} {bytes : Bytes}
    (forms : Section.AreForms sections parts bytes) (many : 1 < (Section.bodies sections).length)
    (rest : Bytes) : gather (bytes ++ rest) = .error Violation.secondBody.toError := by
  have refused : addAll {} sections = _ := addAll_of_many (Nat.zero_le 1) many
  obtain ⟨front, head, tail, middle, rfl, steps, some, failed⟩ := steps_until_refused forms refused
  have run := steps.fails failed some (tail ++ rest) 0
  unfold gather Reader.start
  rw [List.append_assoc, List.append_assoc, run]
  rfl

theorem gather_of_unknown {sections : List Section} {parts : List Bytes} {bytes : Bytes}
    (forms : Section.AreForms sections parts bytes) (few : (Section.bodies sections).length ≤ 1)
    {kind : UInt8} (other : kind ≠ 0 ∧ kind ≠ 1) (rest : Bytes) :
    gather (bytes ++ kind :: rest) = .error (.invalidPayloadType kind) := by
  have added : addAll {} sections = _ := addAll_of_few few
  have run := (steps_addAll forms added).fails ((Section.fails_read other).bind _)
    (List.cons_ne_nil kind []) rest 0
  unfold gather Reader.start
  rw [show bytes ++ kind :: rest = bytes ++ ([kind] ++ rest) from rfl,
    show untilEnd step {} _ = .error (.invalidPayloadType kind) from run]
  rfl

end SectionsRead

/-! ### Flags -/

namespace Flags

theorem isKnown_union {flags : Flags} (known : flags.IsKnown) :
    (flags.union MsgFlags.checksumPresent).IsKnown := by
  intro bit least most
  have high : Nat.testBit 1 bit = false := Nat.testBit_lt_two_pow (Nat.one_lt_two_pow (by omega))
  unfold union
  rw [UInt32.toNat_or, Nat.testBit_or, known bit least most]
  exact high

theorem contains_union_checksumPresent (flags : Flags) :
    (flags.union MsgFlags.checksumPresent).contains MsgFlags.checksumPresent = true := by
  unfold contains union
  rw [beq_iff_eq, ← UInt32.toNat_inj, UInt32.toNat_and, UInt32.toNat_or]
  refine Nat.eq_of_testBit_eq fun bit => ?_
  rw [Nat.testBit_and, Nat.testBit_or]
  exact Bool.and_eq_right_iff_imp.2 fun marked => by rw [marked, Bool.or_true]

end Flags

/-! ### Messages -/

namespace Msg

/-- The message that the bytes after a header hold. -/
def fromBody (header : Header) (bytes : Bytes) : Except Error Msg :=
  (·.1) <$> readBody header (Reader.start bytes)

/-- The message that was gathered, if there is a body in it. -/
def ofGathered (header : Header) (flags : Flags) (checksum : Option UInt32) (found : SectionsRead) :
    Except Error Msg :=
  match found.command with
  | none => .error Violation.noBody.toError
  | some command => .ok {
      requestId := header.requestId
      responseTo := header.responseTo
      flags := flags
      command := command
      sequences := found.reversed.reverse
      checksum := checksum }

theorem fromBody_eq {header : Header} {flags : Flags} (known : flags.IsKnown)
    {rest sections : Bytes} {checksum : Option UInt32}
    (split : splitChecksum flags rest = .ok (sections, checksum)) :
    fromBody header (flags.toBytes ++ rest) =
      SectionsRead.gather sections >>= ofGathered header flags checksum := by
  have marked : Read.flags (Reader.start (flags.toBytes ++ rest)) =
      .ok (flags, ⟨0 + flags.toBytes.length, rest⟩) := takes_flags flags 0 rest
  unfold fromBody readBody SectionsRead.gather
  rw [run_bind_of_eq_ok marked, Flags.unknownFlags_eq_empty known, if_neg (not_not_intro rfl),
    run_bind_of_eq_ok (exhausts_remainder rest _), run_bind_of_eq_ok ((takes_liftM split).run _)]
  dsimp only
  cases ran : untilEnd SectionsRead.step {} (Reader.start sections) with
  | error error =>
    rw [run_bind, show Read.inside sections _ ⟨_, []⟩ = .error error from fails_inside ran _ []]
    rfl
  | ok pair =>
    rw [run_bind_of_eq_ok ((takes_inside ran).run _)]
    show _ = ofGathered header flags checksum pair.1
    unfold ofGathered
    cases pair.1.command <;> rfl

theorem splitChecksum_plain {flags : Flags}
    (unchecked : flags.contains MsgFlags.checksumPresent = false) (bytes : Bytes) :
    splitChecksum flags bytes = .ok (bytes, none) := by
  unfold splitChecksum
  rw [unchecked, if_neg Bool.false_ne_true]

theorem splitChecksum_checked (flags : Flags) (bytes : Bytes) {four : Bytes}
    (width : four.length = 4) :
    splitChecksum (flags.union MsgFlags.checksumPresent) (bytes ++ four) =
      .ok (bytes, some (Bytes.toUInt32 four)) := by
  unfold splitChecksum
  rw [Flags.contains_union_checksumPresent, if_pos rfl, List.length_append, width,
    if_neg (by omega), Nat.add_sub_cancel]
  dsimp only
  rw [List.take_left, List.drop_left]

/-- The message with a checksum, which its flags announce. -/
def withChecksum (checksum : UInt32) (message : Msg) : Msg :=
  { message with
    flags := message.flags.union MsgFlags.checksumPresent
    checksum := some checksum }

theorem ofGathered_checked (header : Header) (flags : Flags) (checksum : UInt32) :
    ofGathered header (flags.union MsgFlags.checksumPresent) (some checksum) =
      fun found => withChecksum checksum <$> ofGathered header flags none found := by
  funext found
  unfold ofGathered
  cases found.command <;> rfl

section Plain

variable (header : Header) {flags : Flags} (known : flags.IsKnown)
  (unchecked : flags.contains MsgFlags.checksumPresent = false)
include known unchecked

theorem fromBody_plain (bytes : Bytes) : fromBody header (flags.toBytes ++ bytes) =
    SectionsRead.gather bytes >>= ofGathered header flags none :=
  fromBody_eq known (splitChecksum_plain unchecked bytes)

variable {sections : List Section} {parts : List Bytes} {bytes : Bytes}
  (forms : Section.AreForms sections parts bytes)
include forms

theorem fromBody_of_few (few : (Section.bodies sections).length ≤ 1) :
    fromBody header (flags.toBytes ++ bytes) = ofGathered header flags none
      ⟨(Section.bodies sections).head?, (Section.runs sections).reverse⟩ := by
  rw [fromBody_plain header known unchecked, SectionsRead.gather_of_few forms few]
  rfl

theorem fromBody_of_none (without : Section.bodies sections = []) :
    fromBody header (flags.toBytes ++ bytes) = .error Violation.noBody.toError := by
  rw [fromBody_of_few header known unchecked forms (without ▸ Nat.zero_le 1), without]
  rfl

theorem fromBody_of_one {command : Document} (one : Section.bodies sections = [command]) :
    fromBody header (flags.toBytes ++ bytes) = .ok {
      requestId := header.requestId
      responseTo := header.responseTo
      flags := flags
      command := command
      sequences := Section.runs sections
      checksum := none
      maxDocumentSize := none } := by
  rw [fromBody_of_few header known unchecked forms (one ▸ Nat.le_refl 1), one]
  unfold ofGathered
  dsimp only [List.head?]
  rw [List.reverse_reverse]

theorem fromBody_of_many (many : 1 < (Section.bodies sections).length) (rest : Bytes) :
    fromBody header (flags.toBytes ++ (bytes ++ rest)) = .error Violation.secondBody.toError := by
  rw [fromBody_plain header known unchecked, SectionsRead.gather_of_many forms many]
  rfl

theorem fromBody_of_unknown (few : (Section.bodies sections).length ≤ 1) {kind : UInt8}
    (other : kind ≠ 0 ∧ kind ≠ 1) (rest : Bytes) :
    fromBody header (flags.toBytes ++ (bytes ++ kind :: rest)) =
      .error (.invalidPayloadType kind) := by
  rw [fromBody_plain header known unchecked, SectionsRead.gather_of_unknown forms few other]
  rfl

/-- Of sections only the bodies and the order of the sequences matter. -/
theorem fromBody_of_perm {others : List Section} {otherParts : List Bytes} {otherBytes : Bytes}
    (otherForms : Section.AreForms others otherParts otherBytes)
    (same : (Section.bodies others).Perm (Section.bodies sections))
    (runs : Section.runs others = Section.runs sections) :
    fromBody header (flags.toBytes ++ otherBytes) = fromBody header (flags.toBytes ++ bytes) := by
  by_cases few : (Section.bodies sections).length ≤ 1
  · have equal : Section.bodies others = Section.bodies sections := by
      match listed : Section.bodies sections with
      | [] => exact List.perm_nil.1 (listed ▸ same)
      | [command] => exact List.perm_singleton.1 (listed ▸ same)
      | _ :: _ :: _ => simp [listed] at few
    rw [fromBody_of_few header known unchecked forms few,
      fromBody_of_few header known unchecked otherForms (equal ▸ few), equal, runs]
  · have many := Nat.lt_of_not_le few
    have one := fromBody_of_many header known unchecked forms many []
    have two := fromBody_of_many header known unchecked otherForms
      (same.length_eq ▸ many) []
    rw [List.append_nil] at one two
    rw [one, two]

end Plain

/-- A checksum is cut off first, whatever stands in front of it. -/
theorem fromBody_checked (header : Header) {flags : Flags} (known : flags.IsKnown)
    (unchecked : flags.contains MsgFlags.checksumPresent = false) (bytes : Bytes) {four : Bytes}
    (width : four.length = 4) :
    fromBody header ((flags.union MsgFlags.checksumPresent).toBytes ++ (bytes ++ four)) =
      withChecksum (Bytes.toUInt32 four) <$> fromBody header (flags.toBytes ++ bytes) := by
  rw [fromBody_eq (Flags.isKnown_union known) (splitChecksum_checked flags bytes width),
    fromBody_plain header known unchecked, ofGathered_checked]
  cases SectionsRead.gather bytes <;> rfl

/-- Sections make a message exactly if one of them is a body. It may stand anywhere: the command is
its document, the sequences are the others in their order, and sections with the same sequences in
the same order and the same bodies give the same. Without a body, and from a second one on whatever
follows it, the format is broken; before that, a section of an unknown kind is reported with its kind.
A checksum is cut off first: four more bytes, of whatever value, behind whatever bytes, change nothing
but the checksum and its flag. -/
theorem one_body_anywhere (header : Header) (flags : Flags) (known : flags.IsKnown)
    (unchecked : flags.contains MsgFlags.checksumPresent = false) :
    (∀ sections parts bytes, Section.AreForms sections parts bytes →
      (∀ message, fromBody header (flags.toBytes ++ bytes) = .ok message ↔
        ∃ command, Section.bodies sections = [command] ∧ message = {
          requestId := header.requestId
          responseTo := header.responseTo
          flags := flags
          command := command
          sequences := Section.runs sections
          checksum := none
          maxDocumentSize := none }) ∧
      (Section.bodies sections = [] →
        fromBody header (flags.toBytes ++ bytes) = .error Violation.noBody.toError) ∧
      (1 < (Section.bodies sections).length → ∀ rest,
        fromBody header (flags.toBytes ++ (bytes ++ rest)) = .error Violation.secondBody.toError) ∧
      ((Section.bodies sections).length ≤ 1 → ∀ kind rest, kind ≠ 0 ∧ kind ≠ 1 →
        fromBody header (flags.toBytes ++ (bytes ++ kind :: rest)) =
          .error (.invalidPayloadType kind)) ∧
      ∀ others otherParts otherBytes, Section.AreForms others otherParts otherBytes →
        (Section.bodies others).Perm (Section.bodies sections) →
        Section.runs others = Section.runs sections →
        fromBody header (flags.toBytes ++ otherBytes) = fromBody header (flags.toBytes ++ bytes)) ∧
    ∀ bytes four : Bytes, four.length = 4 →
      fromBody header ((flags.union MsgFlags.checksumPresent).toBytes ++ (bytes ++ four)) =
        withChecksum (Bytes.toUInt32 four) <$> fromBody header (flags.toBytes ++ bytes) := by
  refine ⟨fun sections parts bytes forms => ⟨fun message => ?_,
    fromBody_of_none header known unchecked forms, fromBody_of_many header known unchecked forms,
    fun few kind rest other => fromBody_of_unknown header known unchecked forms few other rest,
    fun others otherParts otherBytes otherForms =>
      fromBody_of_perm header known unchecked forms otherForms⟩,
    fun bytes four width => fromBody_checked header known unchecked bytes width⟩
  constructor
  · intro read
    match listed : Section.bodies sections with
    | [] => cases (fromBody_of_none header known unchecked forms listed).symm.trans read
    | [command] =>
      cases (fromBody_of_one header known unchecked forms listed).symm.trans read
      exact ⟨command, rfl, rfl⟩
    | first :: second :: rest =>
      have several : 1 < (Section.bodies sections).length := by simp [listed]
      have refused := fromBody_of_many header known unchecked forms several []
      rw [List.append_nil] at refused
      cases refused.symm.trans read
  · rintro ⟨command, one, rfl⟩
    exact fromBody_of_one header known unchecked forms one

/-- A section with an empty document as its body. -/
def bodySection : Bytes := [0, 5, 0, 0, 0, 0]

/-- A section with one empty document in a sequence. -/
def sequenceSection : Bytes := [1, 11, 0, 0, 0, 97, 0, 5, 0, 0, 0, 0]

theorem one_body_anywhere_moved :
    MsgFlags.moreToCome.IsKnown ∧
      MsgFlags.moreToCome.contains MsgFlags.checksumPresent = false ∧
      ∃ message : Msg, message.flags = MsgFlags.moreToCome ∧ message.sequences = [⟨"a", [[]]⟩] ∧
        fromBody ⟨0, 7, 0, .msg⟩ ([2, 0, 0, 0] ++ (bodySection ++ sequenceSection)) = .ok message ∧
        fromBody ⟨0, 7, 0, .msg⟩ ([2, 0, 0, 0] ++ (sequenceSection ++ bodySection)) = .ok message ∧
        fromBody ⟨0, 7, 0, .msg⟩ ([3, 0, 0, 0] ++ (bodySection ++ sequenceSection ++ [1, 2, 3, 4])) =
          .ok (withChecksum 0x04030201 message) := by
  have known : MsgFlags.moreToCome.IsKnown := by
    have small : ∀ bit < 16, 2 ≤ bit → Nat.testBit 2 bit = false := by decide
    exact fun bit least most => small bit (Nat.lt_succ_of_le most) least
  have unchecked : MsgFlags.moreToCome.contains MsgFlags.checksumPresent = false := by rfl
  have read : Document.decode [5, 0, 0, 0, 0] = .ok [] := by rfl
  have body : Section.IsForm (.body []) [[5, 0, 0, 0, 0]] bodySection := .body read
  have run : Section.IsForm (.sequence ⟨"a", [[]]⟩) [[5, 0, 0, 0, 0]] sequenceSection :=
    .sequence (by decide) (.cons read .nil) rfl
  have front : Section.AreForms [.body [], .sequence ⟨"a", [[]]⟩] _ (bodySection ++ sequenceSection) :=
    .cons body (.cons run .nil)
  have back : Section.AreForms [.sequence ⟨"a", [[]]⟩, .body []] _ (sequenceSection ++ bodySection) :=
    .cons run (.cons body .nil)
  obtain ⟨gathered, checked⟩ := one_body_anywhere ⟨0, 7, 0, .msg⟩ MsgFlags.moreToCome known unchecked
  obtain ⟨makes, -, -, -, moved⟩ := gathered _ _ _ front
  have made := (makes _).2 ⟨[], rfl, rfl⟩
  refine ⟨known, unchecked, _, rfl, rfl, made, (moved _ _ _ back (.refl _) rfl).trans made, ?_⟩
  refine (checked (bodySection ++ sequenceSection) [1, 2, 3, 4] rfl).trans ?_
  rw [made]
  rfl

end Msg

end DocumentDriver
