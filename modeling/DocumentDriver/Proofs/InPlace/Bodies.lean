/-
This file shows that no bytes break the readers of messages. Ranges of a body are computed only from
lengths that were compared with it, the cursors of a message are counted in the bytes that are left,
and a compressor is asked only for what the ceiling for messages leaves room for.
-/

import DocumentDriver.InPlace.Message
import DocumentDriver.Proofs.InPlace.Document
import DocumentDriver.Proofs.Message.Canonical

namespace DocumentDriver

/-- What a reader of messages tells a caller. -/
inductive Error.IsUnreadable : Error → Prop
  | corruptData (reason : String) : IsUnreadable (.corruptData reason)
  | protocol (reason : String) : IsUnreadable (.protocol reason)
  | messageTooLarge (size max : Nat) : IsUnreadable (.messageTooLarge size max)
  | unknownOpCode (code : Int32) : IsUnreadable (.unknownOpCode code)
  | invalidPayloadType (kind : UInt8) : IsUnreadable (.invalidPayloadType kind)
  | compression (reason : String) : IsUnreadable (.compression reason)

/-- What a reader of a body tells a caller. It does not look at the ceiling for messages. -/
inductive Error.IsMalformed : Error → Prop
  | corruptData (reason : String) : IsMalformed (.corruptData reason)
  | protocol (reason : String) : IsMalformed (.protocol reason)
  | unknownOpCode (code : Int32) : IsMalformed (.unknownOpCode code)
  | invalidPayloadType (kind : UInt8) : IsMalformed (.invalidPayloadType kind)

open Error

namespace InPlace

/-- Among the errors that are allowed are those of readers of bodies. -/
class AllowsMalformed (allowed : Error → Prop) : Prop where
  malformed : ∀ error, IsMalformed error → allowed error

instance : AllowsMalformed IsMalformed := ⟨fun _ => id⟩

instance : AllowsMalformed IsUnreadable where
  malformed := by
    rintro _ (reason | reason | code | kind)
    · exact .corruptData reason
    · exact .protocol reason
    · exact .unknownOpCode code
    · exact .invalidPayloadType kind

variable {allowed : Error → Prop} [AllowsMalformed allowed]

instance : AllowsCorruption allowed := ⟨fun reason => AllowsMalformed.malformed _ (.corruptData reason)⟩

theorem allows_protocol (reason : String) : allowed (.protocol reason) :=
  AllowsMalformed.malformed _ (.protocol reason)

end InPlace

open InPlace

/-! ### Steps that read nothing -/

section Steps

variable {allowed : Error → Prop} [AllowsMalformed allowed]

theorem OpCode.failsOnly_ofCode (code : Int32) : FailsOnly allowed (ofCode code) := by
  unfold ofCode
  split
  · exact failsOnly_of_ok rfl
  · rintro _ ⟨⟩
    exact AllowsMalformed.malformed _ (.unknownOpCode code)

theorem Header.failsOnly_checkLength (length : Int32) (max : Nat) :
    FailsOnly IsUnreadable (checkLength length max) := by
  unfold checkLength
  split
  · rintro _ ⟨⟩
    exact .protocol _
  split
  · rintro _ ⟨⟩
    exact .messageTooLarge _ _
  · exact failsOnly_of_ok rfl

theorem SectionsRead.failsOnly_add (before : SectionsRead) (part : Section) :
    FailsOnly allowed (before.add part) := by
  cases part with
  | sequence run => exact failsOnly_of_ok rfl
  | body document =>
    unfold add
    cases before.command with
    | none => exact failsOnly_of_ok rfl
    | some earlier =>
      rintro _ ⟨⟩
      exact allows_protocol _

theorem Compressed.failsOnly_restoredLength (message : Compressed) :
    FailsOnly allowed message.restoredLength := by
  unfold restoredLength
  split
  · exact failsOnly_of_ok rfl
  · rintro _ ⟨⟩
    exact allows_protocol _

end Steps

/-! ### Places in a body -/

theorem SectionsRead.sound_step_ne_nil (before : SectionsRead) :
    Read.Sound before.step fun _ head => head ≠ [] :=
  (Section.sound_step before).weaken fun _ _ ⟨_, _, form, _⟩ => form.ne_nil

/-- Flags take the first four bytes. -/
theorem Read.place_of_flags {bytes : Bytes} {flags : Flags} {later : Nat}
    (inside : later ≤ bytes.length)
    (ran : Read.flags ⟨0, bytes.drop 0⟩ = .ok (flags, ⟨later, bytes.drop later⟩)) : later = 4 := by
  obtain ⟨_, rfl, split⟩ := sound_flags ran
  have size := congrArg List.length split
  have width : flags.toBytes.length = 4 := length_littleEndian _ _
  rw [List.length_append, List.length_drop, List.length_drop, width] at size
  omega

theorem Msg.length_of_separated {flags : Flags} {bytes : Bytes} {pair : Bytes × Option UInt32}
    {after : Reader} (separated : (Read.remainder >>= fun rest =>
      liftM (splitChecksum flags rest)) ⟨4, bytes.drop 4⟩ = .ok (pair, after)) :
    pair.1.length ≤ bytes.length := by
  obtain ⟨rest, _, taken, split⟩ := Read.exists_of_bind_eq_ok separated
  obtain ⟨_, ⟨given, -⟩, -⟩ := Read.sound_liftM _ split
  obtain ⟨rfl, -⟩ := Read.soundToEnd_remainder taken
  have fewer : (bytes.drop 4).length ≤ bytes.length := by
    rw [List.length_drop]
    omega
  unfold splitChecksum at given
  split at given
  · split at given
    · cases given
    · cases given
      exact Nat.le_trans (List.length_take_le' _ _) fewer
  · cases given
    exact fewer

theorem Bytes.exists_four {bytes : Bytes} (size : bytes.length = 4) :
    ∃ first second third fourth, bytes = [first, second, third, fourth] := by
  obtain _ | ⟨first, _ | ⟨second, _ | ⟨third, _ | ⟨fourth, _ | ⟨fifth, rest⟩⟩⟩⟩⟩ := bytes
  case cons.cons.cons.cons.nil => exact ⟨first, second, third, fourth, rfl⟩
  all_goals simp at size

theorem InPlace.index_behind {bytes behind : Bytes} {split place : Nat} {byte : UInt8}
    (stands : bytes.drop split = behind) (there : behind[place]? = some byte) :
    index bytes (split + place) = .ok byte := by
  refine index_eq_ok ?_
  rw [← List.getElem?_drop, stands, there]

namespace InPlace

variable [Machine] {allowed : Error → Prop} [AllowsMalformed allowed]

/-! ### Fields -/

theorem mirrors_violation {Result : Type} (cause : Violation) :
    Mirrors allowed (violation cause : Scan Result) (Read.violation cause) :=
  mirrors_fail (allows_protocol _)

theorem mirrors_unlessViolation {Result : Type} {condition : Prop} [Decidable condition]
    {cause : Violation} {scan : Scan Result} {read : Read Result}
    (rest : ¬condition → Mirrors allowed scan read) :
    Mirrors allowed (if condition then violation cause else scan)
      (if condition then Read.violation cause else read) :=
  mirrors_unless (allows_protocol _) rest

theorem mirrors_flags : Mirrors allowed flags Read.flags := mirrors_uint32.map Flags.mk

theorem mirrors_documents : Mirrors allowed documents Read.documents :=
  mirrors_listUntilEmpty mirrors_outermost (Decode.sound_document _)

theorem mirrors_zero (kind : OpCode) : Mirrors allowed (zero kind) (Read.zero kind) :=
  mirrors_int32.bind fun _ => mirrors_ite (fun _ => mirrors_pure ()) fun _ => mirrors_violation _

theorem mirrors_finish (kind : OpCode) : Mirrors allowed (finish kind) (Read.finish kind) := by
  intro whole place _ inside
  unfold finish Read.finish
  show Agrees allowed whole (Scan.isEmpty ⟨whole, place⟩ >>= _)
    (if (whole.drop place).isEmpty then _ else _)
  rw [run_isEmpty inside, ok_bind]
  cases ended : (whole.drop place).isEmpty with
  | true => exact .done inside
  | false =>
    show Agrees allowed whole (Scan.remaining ⟨whole, place⟩ >>= _) _
    rw [run_remaining inside, List.length_drop]
    exact .refused (allows_protocol _)

/-! ### The older kinds -/

variable (header : Header)

theorem mirrors_query : Mirrors allowed (query header) (Query.readBody header) := by
  refine mirrors_flags.bind fun flags => mirrors_name.bind fun collection =>
    mirrors_int32.bind fun skip => mirrors_int32.bind fun limit => mirrors_outermost.bind fun query =>
      mirrors_isEmpty.bind fun ended => ?_
  have rest (fields : Option Document) : Mirrors allowed
      (finish .query >>= fun _ => pure
        (Query.mk header.requestId flags collection skip limit query fields))
      (Read.finish .query >>= fun _ => pure
        (Query.mk header.requestId flags collection skip limit query fields)) :=
    (mirrors_finish .query).bind fun _ => mirrors_pure _
  cases ended with
  | true => exact rest none
  | false => exact (mirrors_outermost.map some).bind rest

theorem mirrors_reply : Mirrors allowed (reply header) (Reply.readBody header) :=
  mirrors_flags.bind fun _ => mirrors_int64.bind fun _ => mirrors_int32.bind fun _ =>
    mirrors_int32.bind fun _ => mirrors_documents.bind fun _ =>
      mirrors_unlessViolation fun _ => mirrors_pure _

theorem mirrors_insert : Mirrors allowed (insert header) (Insert.readBody header) :=
  mirrors_flags.bind fun _ => mirrors_name.bind fun _ => mirrors_documents.bind fun _ =>
    mirrors_pure _

theorem mirrors_update : Mirrors allowed (update header) (Update.readBody header) :=
  (mirrors_zero .update).bind fun _ => mirrors_name.bind fun _ => mirrors_flags.bind fun _ =>
    mirrors_outermost.bind fun _ => mirrors_outermost.bind fun _ =>
      (mirrors_finish .update).bind fun _ => mirrors_pure _

theorem mirrors_delete : Mirrors allowed (delete header) (Delete.readBody header) :=
  (mirrors_zero .delete).bind fun _ => mirrors_name.bind fun _ => mirrors_flags.bind fun _ =>
    mirrors_outermost.bind fun _ => (mirrors_finish .delete).bind fun _ => mirrors_pure _

theorem mirrors_getMore : Mirrors allowed (getMore header) (GetMore.readBody header) :=
  (mirrors_zero .getMore).bind fun _ => mirrors_name.bind fun _ => mirrors_int32.bind fun _ =>
    mirrors_int64.bind fun _ => (mirrors_finish .getMore).bind fun _ => mirrors_pure _

theorem mirrors_compressed : Mirrors allowed (compressed header) (Compressed.readBody header) :=
  mirrors_int32.bind fun code => (mirrors_attempt (OpCode.failsOnly_ofCode code)).bind fun _ =>
    mirrors_int32.bind fun _ => mirrors_unlessViolation fun _ => mirrors_byte.bind fun _ =>
      mirrors_remainder.bind fun _ => mirrors_pure _

/-- As many numbers as eight times fit are all that is left. -/
theorem run_listOf_int64 {whole : Bytes} (small : whole.length < Machine.largest) (count place : Nat)
    (exact : place + 8 * count = whole.length) :
    ∃ numbers, Scan.listOf Scan.int64 count ⟨whole, place⟩ =
        .ok (numbers, ⟨whole, whole.length⟩) ∧
      Read.TakesEach Read.int64 (whole.drop place) numbers := by
  induction count generalizing place with
  | zero =>
    obtain rfl : place = whole.length := by omega
    rw [List.drop_length]
    exact ⟨[], rfl, .nil⟩
  | succ count inductionHypothesis =>
    obtain ⟨numbers, listed, each⟩ := inductionHypothesis (place + 8) (by omega)
    have size : ((whole.drop place).take 8).length = 8 := by
      rw [List.length_take, List.length_drop]
      omega
    have split : whole.drop place = (whole.drop place).take 8 ++ whole.drop (place + 8) := by
      rw [← List.drop_drop, List.take_append_drop]
    have taken : Read.Takes Read.int64 ((whole.drop place).take 8) _ :=
      Read.takes_number 8 _ _ _ size rfl
    have run := taken place (whole.drop (place + 8))
    rw [← split, size] at run
    have agrees : Agrees IsMalformed whole _ _ := mirrors_int64 small (by omega : place ≤ _)
    rw [run] at agrees
    rw [split]
    refine ⟨_, ?_, .cons taken (List.ne_nil_of_length_pos (by omega)) each⟩
    show Scan.int64 ⟨whole, place⟩ >>= _ = _
    rw [agrees.eq_ok, ok_bind]
    show Scan.listOf Scan.int64 count ⟨whole, place + 8⟩ >>= _ = _
    rw [listed]
    rfl

/-- The product may stop at the largest size, but there are fewer bytes than that. -/
theorem saturatingProduct_eq_iff {count left : Nat} (small : left < Machine.largest) :
    saturatingProduct count 8 = left ↔ 8 * count = left := by
  unfold saturatingProduct
  omega

theorem mirrors_killCursors :
    Mirrors allowed (killCursors header) (KillCursors.readBody header) := by
  refine (mirrors_zero .killCursors).bind fun _ => mirrors_length.bind fun count => ?_
  intro whole place small inside
  show Agrees allowed whole (Scan.remaining ⟨whole, place⟩ >>= fun pair =>
      (if saturatingProduct count 8 ≠ pair.1 then _ else _ : Scan KillCursors) pair.2)
    ((if 8 * count ≠ (whole.drop place).length then _ else _ : Read KillCursors)
      ⟨place, whole.drop place⟩)
  rw [run_remaining inside, ok_bind, List.length_drop]
  by_cases counted : 8 * count = whole.length - place
  · have product := (saturatingProduct_eq_iff (by omega)).2 counted
    obtain ⟨numbers, listed, each⟩ := run_listOf_int64 small count place (by omega)
    rw [if_neg (not_not_intro product), if_neg (not_not_intro counted)]
    refine agrees_bind ?_ fun numbers later inside _ => .done inside
    have left : place + (whole.drop place).length = whole.length := by
      rw [List.length_drop]
      omega
    rw [listed, each.exhausts, left]
    exact .end whole numbers
  · have product : saturatingProduct count 8 ≠ whole.length - place :=
      fun same => counted ((saturatingProduct_eq_iff (by omega)).1 same)
    rw [if_pos product, if_pos counted]
    exact .refused (allows_protocol _)

/-! ### Commands -/

omit header

theorem mirrors_sequence : Mirrors allowed sequence Section.readSequence := by
  refine mirrors_length.bind_sound Read.sound_length fun size _ ⟨small, _⟩ =>
    mirrors_unlessViolation fun large => ?_
  rw [liftM_bind (difference_eq_ok (Nat.not_lt.1 large))]
  refine (mirrors_take (size - 4)).bind_sound (Read.sound_take (size - 4)) ?_
  rintro contents _ ⟨rfl, exact⟩
  exact Mirrors.within (mirrors_name.bind fun _ => mirrors_documents.bind fun _ => mirrors_pure _)
    (below_largest (by omega))

theorem mirrors_part : Mirrors allowed part Section.read :=
  mirrors_byte.bind fun kind =>
    mirrors_ite (fun _ => mirrors_outermost.bind fun _ => mirrors_pure _) fun _ =>
      mirrors_ite (fun _ => mirrors_sequence.bind fun _ => mirrors_pure _) fun _ =>
        mirrors_fail (AllowsMalformed.malformed _ (.invalidPayloadType kind))

theorem mirrors_gather (before : SectionsRead) :
    Mirrors allowed (gather before) before.step :=
  mirrors_part.bind fun part => mirrors_attempt (before.failsOnly_add part)

/-- Sections are separated from a checksum by places in the whole body, flags included. -/
theorem agrees_sections (flags : Flags) {bytes : Bytes} (small : bytes.length < Machine.largest)
    (inside : 4 ≤ bytes.length) :
    Agrees allowed bytes (sections flags ⟨bytes, 4⟩)
      ((Read.remainder >>= fun rest => liftM (Msg.splitChecksum flags rest)) ⟨4, bytes.drop 4⟩) := by
  have left : (bytes.drop 4).length = bytes.length - 4 := List.length_drop
  have whole : 4 + (bytes.drop 4).length = bytes.length := by omega
  cases marked : flags.contains MsgFlags.checksumPresent with
  | false =>
    unfold sections Msg.splitChecksum
    rw [marked]
    exact agrees_bind (mirrors_remainder small inside) fun rest later within _ => .done within
  | true =>
    rw [Read.run_bind_of_eq_ok (Read.exhausts_remainder _ _), whole]
    unfold sections Msg.splitChecksum
    rw [marked, if_pos rfl, if_pos rfl, left]
    show Agrees allowed bytes ((if bytes.length < 8 then _ else _ : Scan _) ⟨bytes, 4⟩) _
    by_cases short : bytes.length < 8
    · rw [if_pos short, if_pos (by omega)]
      exact .refused (allows_protocol _)
    · have size : (bytes.drop (bytes.length - 4)).length = 4 := by
        rw [List.length_drop]
        omega
      obtain ⟨first, second, third, fourth, stands⟩ := Bytes.exists_four size
      have behind : (bytes.drop 4).drop (bytes.length - 4 - 4) = [first, second, third, fourth] := by
        rw [List.drop_drop, ← stands]
        congr 1
        omega
      have byte (place : Nat) (byte : UInt8)
          (there : [first, second, third, fourth][place]? = some byte) :
          index bytes (bytes.length - 4 + place) = .ok byte := index_behind stands there
      rw [if_neg short, if_neg (by omega), liftM_bind (difference_eq_ok inside)]
      dsimp only
      rw [liftM_bind (show index bytes (bytes.length - 4) = .ok first from byte 0 first rfl),
        liftM_bind (sum_eq_ok (by omega)), liftM_bind (byte 1 second rfl),
        liftM_bind (sum_eq_ok (by omega)), liftM_bind (byte 2 third rfl),
        liftM_bind (sum_eq_ok (by omega)), liftM_bind (byte 3 fourth rfl),
        liftM_bind (slice_eq_ok (by omega) (Nat.sub_le _ _)), behind, List.drop_take]
      exact .end bytes _

/-- Since sections are separated by places in the body, a command is read from its start only. -/
theorem agrees_msg (header : Header) {bytes : Bytes} (small : bytes.length < Machine.largest) :
    Agrees allowed bytes (msg header ⟨bytes, 0⟩) (Msg.readBody header ⟨0, bytes.drop 0⟩) := by
  refine agrees_bind (mirrors_flags small (Nat.zero_le _)) fun flags later inside ran => ?_
  obtain rfl := Read.place_of_flags inside ran
  dsimp only
  by_cases unknown : Msg.unknownFlags flags ≠ Flags.empty
  · rw [if_pos unknown, if_pos unknown]
    exact .refused (allows_protocol _)
  rw [if_neg unknown, if_neg unknown, ← bind_assoc]
  refine agrees_bind (agrees_sections flags small inside) fun pair later inside separated => ?_
  have fewer := Msg.length_of_separated separated
  refine (?_ : Mirrors allowed _ _) small inside
  refine Mirrors.bind (Mirrors.within
    (mirrors_untilEmpty mirrors_gather SectionsRead.sound_step_ne_nil {}) (by omega)) fun found => ?_
  cases found.command with
  | none => exact mirrors_violation .noBody
  | some command => exact mirrors_pure _

/-! ### All kinds -/

theorem agrees_body (header : Header) {bytes : Bytes} (small : bytes.length < Machine.largest) :
    Agrees allowed bytes (body header ⟨bytes, 0⟩)
      (Message.readBody header (Reader.start bytes)) := by
  have lifted {Kind : Type} {scan : Scan Kind} {read : Read Kind} (make : Kind → Message)
      (agrees : Agrees allowed bytes (scan ⟨bytes, 0⟩) (read ⟨0, bytes.drop 0⟩)) :
      Agrees allowed bytes ((make <$> scan) ⟨bytes, 0⟩) ((make <$> read) ⟨0, bytes⟩) := by
    have joined : Agrees allowed bytes
        ((scan >>= fun result => pure (make result)) ⟨bytes, 0⟩)
        ((read >>= fun result => pure (make result)) ⟨0, bytes.drop 0⟩) :=
      agrees_bind agrees fun _ _ inside _ => .done inside
    rwa [List.drop_zero] at joined
  have first := Nat.zero_le bytes.length
  unfold body Message.readBody Reader.start
  cases header.kind with
  | reply => exact lifted _ (mirrors_reply header small first)
  | update => exact lifted _ (mirrors_update header small first)
  | insert => exact lifted _ (mirrors_insert header small first)
  | query => exact lifted _ (mirrors_query header small first)
  | getMore => exact lifted _ (mirrors_getMore header small first)
  | delete => exact lifted _ (mirrors_delete header small first)
  | killCursors => exact lifted _ (mirrors_killCursors header small first)
  | compressed => exact lifted _ (mirrors_compressed header small first)
  | msg => exact lifted _ (agrees_msg header small)

end InPlace

namespace Message

/-- Since a machine may be as large as the bytes need, this holds of all bytes: what is wrong with a body
is never that it is too large. -/
theorem failsOnly_readBody (header : Header) (bytes : Bytes) :
    FailsOnly IsMalformed (readBody header (Reader.start bytes)) := by
  let machine : Machine := ⟨bytes.length + 2 ^ 32, by omega⟩
  have held : bytes.length < machine.largest := Nat.lt_add_of_pos_right (by decide)
  exact (agrees_body header held).failsOnly

theorem failsOnly_ofBody (header : Header) (bytes : Bytes) :
    FailsOnly IsMalformed (ofBody header bytes) := by
  refine FailsOnly.bind ?_ fun _ => (failsOnly_readBody header _).bind fun _ => failsOnly_of_ok rfl
  unfold checkDeclaredLength
  split
  · exact failsOnly_of_ok rfl
  · rintro _ ⟨⟩
    exact .protocol _

end Message

end DocumentDriver
