/-
This file proves that reading a written message gives the message back, apart from what is lost on
purpose. The header declares the length of the whole, so both ways of reading a message, for any
kind and for one that is asked for, get as far as the body, which is read back kind by kind.
-/

import DocumentDriver.Proofs.Message.Sections

namespace DocumentDriver

open Read

namespace Header

theorem length_toBytes (header : Header) : header.toBytes.length = headerLength := by
  simp [toBytes, Bytes.ofInt32, headerLength]

theorem takes_fields {header : Header} {max : Nat} (least : headerLength ≤ header.length.toInt)
    (most : header.length.toInt.toNat ≤ max) : Takes (fields max) header.toBytes header := by
  have checked : checkLength header.length max = .ok () := by
    unfold checkLength
    rw [if_neg (Int.not_lt.2 least), if_neg (Nat.not_lt.2 most)]
  unfold toBytes
  rw [List.append_assoc, List.append_assoc]
  exact (takes_int32 header.length).bind ((takes_liftM checked).bind
    ((takes_int32 header.requestId).bind ((takes_int32 header.responseTo).bind
      ((takes_int32 header.kind.code).bind_last
        ((takes_liftM (OpCode.ofCode_code header.kind)).bind_pure _)))))

/-- The header in front of a body is read whatever the body is. -/
theorem parse_toBytes {header : Header} {max : Nat}
    (least : headerLength ≤ header.length.toInt) (most : header.length.toInt.toNat ≤ max)
    (body : Bytes) : parse (header.toBytes ++ body) max = .ok header := by
  have exact := header.length_toBytes
  unfold parse Reader.start
  dsimp only
  rw [List.take_left' exact, exact, if_neg (Nat.lt_irrefl _),
    (takes_fields least most).exhausts]
  rfl

end Header

namespace Message

/-- The documents in a message. -/
def documents : Message → List Document
  | reply message => message.documents
  | update message => [message.selector, message.update]
  | insert message => message.documents
  | query message => message.query :: message.fields.toList
  | delete message => [message.selector]
  | msg message => message.documents
  | getMore _ | killCursors _ | compressed _ => []

/-- What a message must be like for its reader to accept it. -/
structure IsReadable (message : Message) : Prop where
  /-- No document in it holds a key twice or is nested too deep. -/
  embeddable : ∀ document ∈ message.documents, document.IsEmbeddable
  /-- A command sets no flag that its reader must know and does not. -/
  known : ∀ command, message = msg command → command.flags.IsKnown
  /-- A compressed message declares no negative size. -/
  sized : ∀ packed, message = compressed packed → 0 ≤ packed.size.toInt

/-- The message that arrives when a message is sent. -/
def received : Message → Message
  | insert message => insert { message with documents := message.documents.map Document.idFirst }
  | msg message =>
    msg { message with
      flags := message.flags.diff MsgFlags.checksumPresent
      checksum := none
      maxDocumentSize := none }
  | message => message

/-- The header in front of a message. -/
def header (message : Message) (length : Int32) : Header :=
  ⟨length, message.requestId, message.responseTo, message.kind⟩

theorem serialize_eq_ok_iff {message : Message} {bytes : Bytes} :
    message.serialize = .ok bytes ↔ ∃ body, message.body = .ok body ∧
      headerLength + body.length < 2 ^ 31 ∧
      (message.header (Bytes.toInt32 (littleEndian 4 (headerLength + body.length)))).toBytes ++
        body = bytes := by
  unfold serialize
  rw [bind_eq_ok_iff]
  refine exists_congr fun body => and_congr_right fun _ => ?_
  rw [bind_eq_ok_iff]
  constructor
  · rintro ⟨length, declared, same⟩
    obtain ⟨small, rfl⟩ := Encode.length_eq_ok_iff.1 declared
    exact ⟨small, Except.ok.inj same⟩
  · rintro ⟨small, rfl⟩
    exact ⟨_, Encode.length_eq_ok_iff.2 ⟨small, rfl⟩, rfl⟩

/-- A body that follows its own header is read back, whatever length the header declares. -/
theorem exhausts_body {message : Message} {bytes : Bytes} (readable : message.IsReadable)
    (written : message.body = .ok bytes) (length : Int32) :
    Exhausts (readBody (message.header length)) bytes message.received := by
  have embeddable := readable.embeddable
  cases message with
  | reply message => exact (Reply.exhausts_body _ embeddable written).map reply
  | update message =>
    obtain ⟨selector, rest⟩ := List.forall_mem_cons.1 embeddable
    exact (Update.exhausts_body _ selector (List.forall_mem_singleton.1 rest) written).map update
  | insert message => exact (Insert.exhausts_body _ embeddable written).map insert
  | query message =>
    obtain ⟨asked, fields⟩ := List.forall_mem_cons.1 embeddable
    refine (Query.exhausts_body _ asked (fun document chosen => ?_) written).map query
    exact fields document (Option.mem_toList.2 chosen)
  | getMore message => exact (GetMore.exhausts_body _ written).map getMore
  | delete message =>
    exact (Delete.exhausts_body _ (List.forall_mem_singleton.1 embeddable) written).map delete
  | killCursors message => exact (KillCursors.exhausts_body _ written).map killCursors
  | compressed message =>
    exact (Compressed.exhausts_body _ (readable.sized message rfl) written).map compressed
  | msg message =>
    exact (Msg.exhausts_body _ embeddable (readable.known message rfl) written).map msg

theorem ofBody_serialized {message : Message} {body : Bytes} {length : Int32}
    (readable : message.IsReadable) (written : message.body = .ok body)
    (declared : length.toInt = (headerLength + body.length : Nat)) :
    ofBody (message.header length) ((message.header length).toBytes ++ body) =
      .ok message.received := by
  have exact := (message.header length).length_toBytes
  have checked : checkDeclaredLength (message.header length)
      ((message.header length).toBytes ++ body) = .ok () := by
    unfold checkDeclaredLength
    rw [List.length_append, exact]
    exact if_pos declared
  unfold ofBody Reader.start
  rw [checked, List.drop_left' exact]
  show readBody _ _ >>= _ = _
  rw [exhausts_body readable written]
  rfl

/-- A written message declares its own length, and both ways of reading it give back what is
meant to arrive. -/
theorem decode_serialized (message : Message) (readable : message.IsReadable) (bytes : Bytes)
    (written : message.serialize = .ok bytes) (max : Nat) (enough : bytes.length ≤ max) :
    (∃ header, Header.parse bytes max = .ok header ∧ header.length.toInt = bytes.length ∧
      header.kind = message.kind ∧ header.requestId = message.requestId ∧
      header.responseTo = message.responseTo) ∧
    decode bytes max = .ok message.received ∧
    decodeKind message.kind bytes max = .ok message.received := by
  obtain ⟨body, contents, small, rfl⟩ := serialize_eq_ok_iff.1 written
  have declared := toInt_toInt32_littleEndian (headerLength + body.length) small
  generalize Bytes.toInt32 (littleEndian 4 (headerLength + body.length)) = length at declared enough
  rw [List.length_append, Header.length_toBytes] at enough
  have parsed : Header.parse ((message.header length).toBytes ++ body) max =
      .ok (message.header length) := by
    refine Header.parse_toBytes ?_ ?_ body
    · show (headerLength : Int) ≤ length.toInt
      omega
    · show length.toInt.toNat ≤ max
      omega
  have given := ofBody_serialized readable contents declared
  refine ⟨⟨message.header length, parsed, ?_, rfl, rfl, rfl⟩, ?_, ?_⟩
  · rw [List.length_append, Header.length_toBytes]
    exact declared
  · unfold decode
    rw [parsed]
    exact given
  · unfold decodeKind
    rw [parsed]
    show (if message.kind ≠ message.kind then _ else _) = _
    rw [if_neg (not_not_intro rfl)]
    exact given

/-- A command with a sequence, whose flags announce a checksum. -/
def sampleMsg : Msg where
  requestId := 7
  flags := ⟨0x10003⟩
  command := [("insert", .string "pears"), ("ordered", .boolean true)]
  sequences := [⟨"documents", [[("kind", .string "ripe"), ("_id", .int32 1)], []]⟩]
  checksum := some 5

theorem isReadable_sampleMsg : (msg sampleMsg).IsReadable where
  embeddable := by
    simp [documents, Msg.documents, sampleMsg, Document.IsEmbeddable, Document.KeysDistinct,
      Document.keys, Document.depth, Value.EntriesKeysDistinct, Value.KeysDistinct,
      Value.depthEntries, Value.depth]
  known := by
    rintro command ⟨⟩ bit least most
    have none : ∀ bit ≤ 15, 2 ≤ bit → Nat.testBit 0x10003 bit = false := by decide
    exact none bit most least
  sized := nofun

theorem decode_serialized_sampleMsg : ∃ bytes, (msg sampleMsg).serialize = .ok bytes ∧
    decode bytes bytes.length = .ok (msg sampleMsg).received := by
  obtain ⟨bytes, written⟩ : ∃ bytes, (msg sampleMsg).serialize = .ok bytes := ⟨_, rfl⟩
  exact ⟨bytes, written, (decode_serialized (msg sampleMsg) isReadable_sampleMsg bytes written
    bytes.length (Nat.le_refl _)).2.1⟩

end Message

end DocumentDriver
