/-
This file proves for the older kinds of messages that a body is written as it was read. Every field
has one written form, and nothing else is tolerated between or behind them, so all that is left to
choose is how the documents stand in their bytes. What a writer may still refuse is said here for
every kind, and so are the few things that a reader accepts although a writer never writes them.
-/

import DocumentDriver.Proofs.Document.Options
import DocumentDriver.Proofs.Message.Embedded
import DocumentDriver.Proofs.Message.Header

namespace DocumentDriver

open Read Encode

/-- Messages of this kind say which message they answer. -/
def OpCode.answers : OpCode → Bool
  | .reply | .compressed | .msg => true
  | _ => false

/-- Why a writer may refuse a section. -/
def Section.IsRefused (limit : Nat) : Section → Prop
  | .body document => document.IsRefused { maxSize := some (min (limit + commandOverhead) maxCeiling) }
  | .sequence run => ∃ document ∈ run.documents, document.IsRefused { maxSize := some limit }

namespace Message

/-- Why a writer may refuse a message that was read. -/
def IsRefused : Message → Prop
  | insert message =>
    message.documents = [] ∨ ∃ document ∈ message.documents, document.IsRefused .user
  | msg message => ∃ part ∈ message.sections, part.IsRefused message.documentLimit
  | _ => False

/-- What a header says about a message. -/
def IsHeadedBy (message : Message) (header : Header) : Prop :=
  message.kind = header.kind ∧ message.requestId = header.requestId ∧
    (message.kind.answers = true → message.responseTo = header.responseTo)

/-- A body without the things that a reader accepts and a writer never writes. -/
structure IsRegular (message : Message) (body : Bytes) : Prop where
  /-- No checksum is announced. -/
  unchecked : ∀ command, message = msg command →
    command.flags.contains MsgFlags.checksumPresent = false
  /-- The first section, behind four bytes of flags, is the one of the command. -/
  bodyFirst : ∀ command, message = msg command → body[4]? = some 0
  /-- Where a document that is inserted has an `_id`, this is its first key. -/
  idFirst : ∀ insertion, message = insert insertion → ∀ document ∈ insertion.documents,
    "_id" ∈ document.keys → document.keys.head? = some "_id"

/-- The message stands in this body, with its documents in these parts of it. -/
structure StandsIn (message : Message) (body : Bytes) (parts : List Bytes) : Prop where
  placed : Exhausts message.kind.embedded body parts
  each : DecodeTo message.documents parts
  written : (∀ part ∈ parts, Document.IsCanonicalForm part) →
    GivesUnless message.IsRefused message.body body

/-- What has been read from a whole body. -/
def IsFormOf (header : Header) (message : Message) (body : Bytes) : Prop :=
  message.IsHeadedBy header ∧ (message.IsRegular body → ∃ parts, message.StandsIn body parts)

end Message

/-! ### Fields -/

theorem sound_flags : Sound Read.flags fun flags head => flags.toBytes = head := by
  refine (sound_uint32.map Flags.mk).weaken ?_
  rintro _ head ⟨word, form, rfl⟩
  exact form

theorem sound_zero (kind : OpCode) : Sound (Read.zero kind) fun _ head => Bytes.ofInt32 0 = head := by
  have tested (number : Int32) :
      Sound (if number = 0 then return () else violation (.reservedField kind number))
        fun _ tail => number = 0 ∧ tail = [] := by
    by_cases zero : number = 0
    · rw [if_pos zero]
      exact (sound_pure ()).weaken fun _ _ ⟨_, empty⟩ => ⟨zero, empty⟩
    · rw [if_neg zero]
      exact sound_fail _ _
  refine (sound_int32.bind tested).weaken ?_
  rintro _ _ ⟨_, _, _, rfl, ⟨rfl, rfl⟩, rfl⟩
  exact (List.append_nil _).symm

theorem soundToEnd_finish {Result : Type} (kind : OpCode) (result : Result) :
    SoundToEnd (Read.finish kind >>= fun _ => pure result)
      fun given bytes => result = given ∧ bytes = [] := by
  rintro ⟨position, rest⟩ given after run
  cases rest with
  | nil =>
    cases run
    exact ⟨⟨rfl, rfl⟩, rfl⟩
  | cons first rest => cases run

/-! ### The older kinds -/

theorem Update.soundToEnd_readBody {header : Header} (kind : header.kind = .update) :
    SoundToEnd (readBody header) fun message => Message.IsFormOf header (.update message) := by
  refine ((sound_zero .update).bind_toEnd fun _ => sound_name.bind_toEnd fun collection =>
    sound_flags.bind_toEnd fun flags => sound_document.bind_toEnd fun selector =>
      sound_document.bind_toEnd fun update => soundToEnd_finish .update
        (Update.mk header.requestId collection flags selector update)).weaken ?_
  rintro _ _ ⟨_, _, _, rfl, ⟨collection, _, _, ⟨clean, rfl⟩, ⟨flags, _, _, rfl, ⟨selector, first, _,
    one, ⟨update, second, _, two, ⟨rfl, rfl⟩, rfl⟩, rfl⟩, rfl⟩, rfl⟩, rfl⟩
  have each : DecodeTo [selector, update] [first, second] := .cons one (.cons two .nil)
  refine ⟨⟨kind.symm, rfl, nofun⟩, fun _ => ⟨[first, second], ?_, each, ?_⟩⟩
  · exact (takes_int32 0).bind_exhausts ((takes_name collection clean).bind_exhausts
      ((takes_flags flags).bind_exhausts (exhausts_allFramed each)))
  · intro canonical
    obtain ⟨⟩ | ⟨one, others⟩ := encode_of_canonical each canonical
    obtain ⟨⟩ | ⟨two, -⟩ := others
    refine .inl ?_
    rw [Message.body, body, name_eq_ok_iff.2 ⟨clean, rfl⟩]
    show (selector.encode >>= _ : Written) = _
    rw [one]
    show (update.encode >>= _ : Written) = _
    rw [two, List.append_nil]
    rfl

theorem Delete.soundToEnd_readBody {header : Header} (kind : header.kind = .delete) :
    SoundToEnd (readBody header) fun message => Message.IsFormOf header (.delete message) := by
  refine ((sound_zero .delete).bind_toEnd fun _ => sound_name.bind_toEnd fun collection =>
    sound_flags.bind_toEnd fun flags => sound_document.bind_toEnd fun selector =>
      soundToEnd_finish .delete (Delete.mk header.requestId collection flags selector)).weaken ?_
  rintro _ _ ⟨_, _, _, rfl, ⟨collection, _, _, ⟨clean, rfl⟩, ⟨flags, _, _, rfl, ⟨selector, part, _,
    one, ⟨rfl, rfl⟩, rfl⟩, rfl⟩, rfl⟩, rfl⟩
  have each : DecodeTo [selector] [part] := .cons one .nil
  refine ⟨⟨kind.symm, rfl, nofun⟩, fun _ => ⟨[part], ?_, each, ?_⟩⟩
  · exact (takes_int32 0).bind_exhausts ((takes_name collection clean).bind_exhausts
      ((takes_flags flags).bind_exhausts (exhausts_allFramed each)))
  · intro canonical
    obtain ⟨⟩ | ⟨one, -⟩ := encode_of_canonical each canonical
    refine .inl ?_
    rw [Message.body, body, name_eq_ok_iff.2 ⟨clean, rfl⟩]
    show (selector.encode >>= _ : Written) = _
    rw [one, List.append_nil]
    rfl

theorem Query.soundToEnd_readBody {header : Header} (kind : header.kind = .query) :
    SoundToEnd (readBody header) fun message => Message.IsFormOf header (.query message) := by
  have selected (make : Option Document → Query) (ended : Bool) : SoundToEnd
      (if ended then pure none >>= fun fields => Read.finish .query >>= fun _ => pure (make fields)
        else some <$> Read.document >>= fun fields =>
          Read.finish .query >>= fun _ => pure (make fields))
      fun message tail => ∃ fields : Option Document, ∃ parts,
        DecodeTo fields.toList parts ∧ make fields = message ∧ parts.flatten = tail := by
    cases ended with
    | true =>
      refine ((sound_pure none).bind_toEnd fun fields => soundToEnd_finish .query _).weaken ?_
      rintro _ _ ⟨_, _, _, ⟨rfl, rfl⟩, ⟨rfl, rfl⟩, rfl⟩
      exact ⟨none, [], .nil, rfl, rfl⟩
    | false =>
      refine ((sound_document.map some).bind_toEnd fun fields =>
        soundToEnd_finish .query _).weaken ?_
      rintro _ _ ⟨_, part, _, ⟨document, read, rfl⟩, ⟨rfl, rfl⟩, rfl⟩
      exact ⟨some document, [part], .cons read .nil, rfl, rfl⟩
  refine (sound_flags.bind_toEnd fun flags => sound_name.bind_toEnd fun collection =>
    sound_int32.bind_toEnd fun skip => sound_int32.bind_toEnd fun limit =>
      sound_document.bind_toEnd fun query => sound_atEnd.bind_toEnd fun ended =>
        selected (Query.mk header.requestId flags collection skip limit query) ended).weaken ?_
  rintro _ _ ⟨flags, _, _, rfl, ⟨collection, _, _, ⟨clean, rfl⟩, ⟨skip, _, _, rfl, ⟨limit, _, _, rfl,
    ⟨query, part, _, one, ⟨_, _, _, rfl, ⟨fields, rest, others, rfl, rfl⟩, rfl⟩, rfl⟩, rfl⟩, rfl⟩,
    rfl⟩, rfl⟩
  have each : DecodeTo (query :: fields.toList) (part :: rest) := .cons one others
  rw [List.nil_append]
  refine ⟨⟨kind.symm, rfl, nofun⟩, fun _ => ⟨part :: rest, ?_, each, ?_⟩⟩
  · exact (takes_flags flags).bind_exhausts ((takes_name collection clean).bind_exhausts
      ((takes_int32 skip).bind_exhausts ((takes_int32 limit).bind_exhausts
        (exhausts_allFramed each))))
  · intro canonical
    obtain ⟨⟩ | ⟨one, others⟩ := encode_of_canonical each canonical
    refine .inl ?_
    rw [Message.body, body, name_eq_ok_iff.2 ⟨clean, rfl⟩]
    show (query.encode >>= _ : Written) = _
    rw [one]
    cases fields with
    | none =>
      obtain ⟨⟩ := others
      rfl
    | some document =>
      obtain ⟨⟩ | ⟨two, last⟩ := others
      obtain ⟨⟩ := last
      show (document.encode >>= _ : Written) = _
      rw [two, List.flatten_singleton]
      rfl

theorem Reply.soundToEnd_readBody {header : Header} (kind : header.kind = .reply) :
    SoundToEnd (readBody header) fun message => Message.IsFormOf header (.reply message) := by
  refine (sound_flags.bind_toEnd fun flags => sound_int64.bind_toEnd fun cursorId =>
    sound_int32.bind_toEnd fun startingFrom => sound_int32.bind_toEnd fun count =>
      soundToEnd_documents.bind fun documents => sound_unless (sound_pure (Reply.mk header.requestId
        header.responseTo flags cursorId startingFrom documents))).weaken ?_
  rintro _ _ ⟨flags, _, _, rfl, ⟨cursorId, _, _, rfl, ⟨startingFrom, _, _, rfl, ⟨count, _, _, rfl,
    ⟨documents, ⟨parts, each, rfl⟩, counted, rfl, -⟩, rfl⟩, rfl⟩, rfl⟩, rfl⟩
  refine ⟨⟨kind.symm, rfl, fun _ => rfl⟩, fun _ => ⟨parts, ?_, each, ?_⟩⟩
  · exact (takes_flags flags).bind_exhausts ((takes_int64 cursorId).bind_exhausts
      ((takes_int32 startingFrom).bind_exhausts ((takes_int32 count).bind_exhausts
        (exhausts_allFramed each))))
  · intro canonical
    have declared : count.toInt = documents.length := not_not.1 counted
    have positive : ¬count.toInt < 0 := by omega
    obtain ⟨small, number⟩ := littleEndian_of_nonneg positive
    rw [declared, Int.toNat_natCast] at small number
    refine .inl ?_
    rw [Message.body, body, length_eq_ok_iff.2 ⟨small, number⟩]
    show (Encode.documents {} documents >>= _ : Written) = _
    rw [Document.documents_eq_ok (encode_of_canonical each canonical)]
    rfl

theorem GetMore.soundToEnd_readBody {header : Header} (kind : header.kind = .getMore) :
    SoundToEnd (readBody header) fun message => Message.IsFormOf header (.getMore message) := by
  refine ((sound_zero .getMore).bind_toEnd fun _ => sound_name.bind_toEnd fun collection =>
    sound_int32.bind_toEnd fun limit => sound_int64.bind_toEnd fun cursorId =>
      soundToEnd_finish .getMore
        (GetMore.mk header.requestId collection limit cursorId)).weaken ?_
  rintro _ _ ⟨_, _, _, rfl, ⟨collection, _, _, ⟨clean, rfl⟩, ⟨limit, _, _, rfl, ⟨cursorId, _, _, rfl,
    ⟨rfl, rfl⟩, rfl⟩, rfl⟩, rfl⟩, rfl⟩
  refine ⟨⟨kind.symm, rfl, nofun⟩, fun _ => ⟨[], (exhausts_remainder _).bind_pure _, .nil,
    fun _ => .inl ?_⟩⟩
  rw [Message.body, body, name_eq_ok_iff.2 ⟨clean, rfl⟩, List.append_nil]
  rfl

theorem KillCursors.soundToEnd_readBody {header : Header} (kind : header.kind = .killCursors) :
    SoundToEnd (readBody header) fun message => Message.IsFormOf header (.killCursors message) := by
  have some (number : Int64) (head : Bytes) (form : Bytes.ofInt64 number = head) : head ≠ [] := by
    rw [← form]
    exact List.cons_ne_nil _ _
  refine ((sound_zero .killCursors).bind_toEnd fun _ => sound_length.bind_toEnd fun count =>
    soundToEnd_get fun reader => soundToEnd_unless ((soundToEnd_listUntilEnd sound_int64 some).map
      fun cursorIds => KillCursors.mk header.requestId cursorIds)).weaken ?_
  rintro _ _ ⟨_, _, _, rfl, ⟨count, _, _, ⟨small, rfl⟩, ⟨reader, left, counted, cursorIds,
    ⟨parts, each, rfl⟩, rfl⟩, rfl⟩, rfl⟩
  have form : cursorIds.flatMap Bytes.ofInt64 = parts.flatten := by
    have written := List.forall₂_map_left_iff.2 each
    rw [List.forall₂_eq_eq_eq] at written
    rw [List.flatMap_def, written]
  have exact := length_flatMap_ofInt64 cursorIds
  rw [form, ← left] at exact
  -- The count is compared with the bytes that are left, which hold eight for every number.
  have same : cursorIds.length = count := by
    have declared := not_not.1 counted
    omega
  refine ⟨⟨kind.symm, rfl, nofun⟩, fun _ => ⟨[], (exhausts_remainder _).bind_pure _, .nil,
    fun _ => .inl ?_⟩⟩
  rw [Message.body, body, length_eq_ok_iff.2 ⟨same ▸ small, rfl⟩, ← form, same]
  rfl

theorem Compressed.soundToEnd_readBody {header : Header} (kind : header.kind = .compressed) :
    SoundToEnd (readBody header) fun message => Message.IsFormOf header (.compressed message) := by
  refine (sound_int32.bind_toEnd fun code => (sound_liftM (OpCode.ofCode code)).bind_toEnd
    fun inner => sound_int32.bind_toEnd fun size => soundToEnd_unless
      (sound_byte.bind_toEnd fun compressor => soundToEnd_remainder.map fun bytes =>
        Compressed.mk header.requestId header.responseTo inner size compressor bytes)).weaken ?_
  rintro _ _ ⟨code, _, _, rfl, ⟨inner, _, _, ⟨known, rfl⟩, ⟨size, _, _, rfl, ⟨-, compressor, _, _, rfl,
    ⟨bytes, rfl, rfl⟩, rfl⟩, rfl⟩, rfl⟩, rfl⟩
  refine ⟨⟨kind.symm, rfl, fun _ => rfl⟩, fun _ => ⟨[], (exhausts_remainder _).bind_pure _, .nil,
    fun _ => .inl ?_⟩⟩
  rw [Message.body, body, OpCode.code_of_ofCode known]
  rfl

theorem Insert.soundToEnd_readBody {header : Header} (kind : header.kind = .insert) :
    SoundToEnd (readBody header) fun message => Message.IsFormOf header (.insert message) := by
  refine (sound_flags.bind_toEnd fun flags => sound_name.bind_toEnd fun collection =>
    soundToEnd_documents.map fun documents =>
      Insert.mk header.requestId flags collection documents).weaken ?_
  rintro _ _ ⟨flags, _, _, rfl, ⟨collection, _, _, ⟨clean, rfl⟩, ⟨documents, ⟨parts, each, rfl⟩, rfl⟩,
    rfl⟩, rfl⟩
  refine ⟨⟨kind.symm, rfl, nofun⟩, fun regular => ⟨parts, ?_, each, ?_⟩⟩
  · exact (takes_flags flags).bind_exhausts ((takes_name collection clean).bind_exhausts
      (exhausts_allFramed each))
  · intro canonical
    have inPlace : ∀ document ∈ documents, document.ordered .user = document :=
      fun document member => Document.idFirst_of_first (nodup_keys_of_decodeTo each document member)
        (regular.idFirst _ rfl document member)
    rw [Message.body, body]
    cases documents with
    | nil => exact .inr ⟨.inl rfl, _, rfl⟩
    | cons first rest =>
      have given := Document.givesUnless_documents inPlace (encode_of_canonical each canonical)
      refine (GivesUnless.bind (.inl (name_eq_ok_iff.2 ⟨clean, rfl⟩))
        ((given.mono .inr).bind (.inl rfl)))

end DocumentDriver
