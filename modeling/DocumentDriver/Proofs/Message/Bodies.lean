/-
This file proves for every kind of message that reading the written body gives the body back. The
number of the message and the number it answers come from the header, so they are left open here.
Two kinds come back changed: documents that are inserted have `_id` first, and a message that
carries a command has lost what is never written.
-/

import DocumentDriver.Message.Basic
import DocumentDriver.Proofs.Document.RoundTrip

namespace DocumentDriver

open Read

/-! ### Documents in a body -/

/-- A document as a body may carry it: no key occurs twice, and it is not nested too deep. -/
def Document.IsEmbeddable (document : Document) : Prop :=
  document.KeysDistinct ∧ document.depth ≤ 200

theorem Document.isEmbeddable_ordered {document : Document} (embeddable : document.IsEmbeddable)
    (options : EncodeOptions) : (document.ordered options).IsEmbeddable := by
  unfold Document.ordered
  split
  · exact ⟨keysDistinct_idFirst embeddable.1,
      Nat.le_trans (depth_idFirst_le document) embeddable.2⟩
  · exact embeddable

theorem takes_encodedWith {options : EncodeOptions} {document : Document} {bytes : Bytes}
    (embeddable : document.IsEmbeddable) (written : document.encodeWith options = .ok bytes) :
    Takes Read.document bytes (document.ordered options) := by
  obtain ⟨distinct, shallow⟩ := Document.isEmbeddable_ordered embeddable options
  exact Document.takes_document distinct shallow (Document.container_of_encodeWith written)

theorem takes_encoded {document : Document} {bytes : Bytes} (embeddable : document.IsEmbeddable)
    (written : document.encode = .ok bytes) : Takes Read.document bytes document :=
  takes_encodedWith embeddable written

theorem ne_nil_of_encodeWith {options : EncodeOptions} {document : Document} {bytes : Bytes}
    (written : document.encodeWith options = .ok bytes) : bytes ≠ [] := by
  obtain ⟨_, -, contained⟩ := bind_eq_ok_iff.1 (Document.container_of_encodeWith written)
  exact Encode.ne_nil_of_container contained

/-- A run of documents is read to the end, each in the order in which it was written. -/
theorem exhausts_documents {options : EncodeOptions} {documents : List Document} {bytes : Bytes}
    (embeddable : ∀ document ∈ documents, document.IsEmbeddable)
    (written : Encode.documents options documents = .ok bytes) :
    Exhausts Read.documents bytes (documents.map (Document.ordered options)) := by
  refine TakesEach.exhausts ?_
  induction documents generalizing bytes with
  | nil =>
    cases written
    exact .nil
  | cons first rest inductionHypothesis =>
    obtain ⟨head, one, written⟩ := bind_eq_ok_iff.1 written
    obtain ⟨tail, others, same⟩ := bind_eq_ok_iff.1 written
    cases same
    obtain ⟨here, later⟩ := List.forall_mem_cons.1 embeddable
    exact .cons (takes_encodedWith here one) (ne_nil_of_encodeWith one)
      (inductionHypothesis later others)

theorem exhausts_plain_documents {documents : List Document} {bytes : Bytes}
    {options : EncodeOptions} (inPlace : options.moveId = false)
    (embeddable : ∀ document ∈ documents, document.IsEmbeddable)
    (written : Encode.documents options documents = .ok bytes) :
    Exhausts Read.documents bytes documents := by
  have unmoved : Document.ordered options = id := by
    funext document
    unfold Document.ordered
    rw [inPlace, if_neg Bool.false_ne_true]
    rfl
  have read := exhausts_documents embeddable written
  rwa [unmoved, List.map_id] at read

/-! ### Fields of a body -/

theorem takes_flags (flags : Flags) : Takes Read.flags flags.toBytes flags :=
  (takes_uint32 flags.word).map Flags.mk

theorem takes_zero (kind : OpCode) : Takes (Read.zero kind) (Bytes.ofInt32 0) () := by
  refine (takes_int32 0).bind_last ?_
  rw [if_pos rfl]
  exact takes_pure ()

/-- A body that ends where it should is read. -/
theorem exhausts_finish {Result : Type} (kind : OpCode) (result : Result) :
    Exhausts (Read.finish kind >>= fun _ => pure result) [] result :=
  fun _ => rfl

/-! ### The older kinds -/

theorem Query.exhausts_body {message : Query} {bytes : Bytes} (header : Header)
    (query : message.query.IsEmbeddable)
    (fields : ∀ document ∈ message.fields, document.IsEmbeddable)
    (written : message.body = .ok bytes) :
    Exhausts (readBody header) bytes { message with requestId := header.requestId } := by
  obtain ⟨requestId, flags, collection, skip, limit, asked, selected⟩ := message
  obtain ⟨named, label, written⟩ := bind_eq_ok_iff.1 written
  obtain ⟨first, one, written⟩ := bind_eq_ok_iff.1 written
  obtain ⟨clean, rfl⟩ := Encode.name_eq_ok_iff.1 label
  cases selected with
  | none =>
    cases written
    rw [List.append_nil]
    exact (takes_flags flags).bind_exhausts ((takes_name _ clean).bind_exhausts
      ((takes_int32 skip).bind_exhausts ((takes_int32 limit).bind_exhausts
        ((takes_encoded query one).bind_exhausts_last (exhausts_finish _ _).at_end))))
  | some document =>
    obtain ⟨second, two, same⟩ := bind_eq_ok_iff.1 written
    cases same
    have embeddable := fields document rfl
    have ended : Exhausts (do
        let fields ← some <$> Read.document
        Read.finish .query
        return Query.mk header.requestId flags collection skip limit asked fields) second _ :=
      ((takes_encoded embeddable two).map some).bind_exhausts_last (exhausts_finish _ _)
    exact (takes_flags flags).bind_exhausts ((takes_name _ clean).bind_exhausts
      ((takes_int32 skip).bind_exhausts ((takes_int32 limit).bind_exhausts
        ((takes_encoded query one).bind_exhausts
          (Exhausts.before_end ended (ne_nil_of_encodeWith two))))))

theorem Reply.exhausts_body {message : Reply} {bytes : Bytes} (header : Header)
    (embeddable : ∀ document ∈ message.documents, document.IsEmbeddable)
    (written : message.body = .ok bytes) :
    Exhausts (readBody header) bytes
      { message with requestId := header.requestId, responseTo := header.responseTo } := by
  obtain ⟨count, counted, written⟩ := bind_eq_ok_iff.1 written
  obtain ⟨run, listed, same⟩ := bind_eq_ok_iff.1 written
  cases same
  obtain ⟨small, rfl⟩ := Encode.length_eq_ok_iff.1 counted
  have declared := toInt_toInt32_littleEndian message.documents.length small
  have number : Takes int32 (littleEndian 4 message.documents.length)
      (Bytes.toInt32 (littleEndian 4 message.documents.length)) :=
    takes_number 4 _ _ _ (length_littleEndian _ _) rfl
  refine (takes_flags message.flags).bind_exhausts ((takes_int64 _).bind_exhausts
    ((takes_int32 _).bind_exhausts (number.bind_exhausts ?_)))
  refine (exhausts_plain_documents rfl embeddable listed).bind ?_
  rw [if_neg (not_not_intro declared)]
  exact takes_pure _

theorem Insert.exhausts_body {message : Insert} {bytes : Bytes} (header : Header)
    (embeddable : ∀ document ∈ message.documents, document.IsEmbeddable)
    (written : message.body = .ok bytes) :
    Exhausts (readBody header) bytes
      { message with
        requestId := header.requestId
        documents := message.documents.map Document.idFirst } := by
  unfold body at written
  split at written
  · cases written
  obtain ⟨named, label, written⟩ := bind_eq_ok_iff.1 written
  obtain ⟨run, listed, same⟩ := bind_eq_ok_iff.1 written
  cases same
  obtain ⟨clean, rfl⟩ := Encode.name_eq_ok_iff.1 label
  exact (takes_flags message.flags).bind_exhausts ((takes_name _ clean).bind_exhausts
    ((exhausts_documents embeddable listed).bind_pure _))

theorem Update.exhausts_body {message : Update} {bytes : Bytes} (header : Header)
    (selector : message.selector.IsEmbeddable) (update : message.update.IsEmbeddable)
    (written : message.body = .ok bytes) :
    Exhausts (readBody header) bytes { message with requestId := header.requestId } := by
  obtain ⟨named, label, written⟩ := bind_eq_ok_iff.1 written
  obtain ⟨first, one, written⟩ := bind_eq_ok_iff.1 written
  obtain ⟨second, two, same⟩ := bind_eq_ok_iff.1 written
  cases same
  obtain ⟨clean, rfl⟩ := Encode.name_eq_ok_iff.1 label
  exact (takes_zero .update).bind_exhausts ((takes_name _ clean).bind_exhausts
    ((takes_flags message.flags).bind_exhausts ((takes_encoded selector one).bind_exhausts
      ((takes_encoded update two).bind_exhausts_last (exhausts_finish _ _)))))

theorem Delete.exhausts_body {message : Delete} {bytes : Bytes} (header : Header)
    (selector : message.selector.IsEmbeddable) (written : message.body = .ok bytes) :
    Exhausts (readBody header) bytes { message with requestId := header.requestId } := by
  obtain ⟨named, label, written⟩ := bind_eq_ok_iff.1 written
  obtain ⟨first, one, same⟩ := bind_eq_ok_iff.1 written
  cases same
  obtain ⟨clean, rfl⟩ := Encode.name_eq_ok_iff.1 label
  exact (takes_zero .delete).bind_exhausts ((takes_name _ clean).bind_exhausts
    ((takes_flags message.flags).bind_exhausts
      ((takes_encoded selector one).bind_exhausts_last (exhausts_finish _ _))))

theorem GetMore.exhausts_body {message : GetMore} {bytes : Bytes} (header : Header)
    (written : message.body = .ok bytes) :
    Exhausts (readBody header) bytes { message with requestId := header.requestId } := by
  obtain ⟨named, label, same⟩ := bind_eq_ok_iff.1 written
  cases same
  obtain ⟨clean, rfl⟩ := Encode.name_eq_ok_iff.1 label
  exact (takes_zero .getMore).bind_exhausts ((takes_name _ clean).bind_exhausts
    ((takes_int32 message.limit).bind_exhausts
      ((takes_int64 message.cursorId).bind_exhausts_last (exhausts_finish _ _))))

theorem takesEach_int64 (numbers : List Int64) :
    TakesEach int64 (numbers.flatMap Bytes.ofInt64) numbers := by
  induction numbers with
  | nil => exact .nil
  | cons first rest inductionHypothesis =>
    rw [List.flatMap_cons]
    exact .cons (takes_int64 first) (List.cons_ne_nil _ _) inductionHypothesis

theorem length_flatMap_ofInt64 (numbers : List Int64) :
    (numbers.flatMap Bytes.ofInt64).length = 8 * numbers.length := by
  induction numbers with
  | nil => rfl
  | cons first rest inductionHypothesis =>
    rw [List.flatMap_cons, List.length_append, inductionHypothesis, Bytes.ofInt64,
      length_littleEndian, List.length_cons]
    omega

theorem KillCursors.exhausts_body {message : KillCursors} {bytes : Bytes} (header : Header)
    (written : message.body = .ok bytes) :
    Exhausts (readBody header) bytes { message with requestId := header.requestId } := by
  obtain ⟨count, counted, same⟩ := bind_eq_ok_iff.1 written
  cases same
  obtain ⟨small, rfl⟩ := Encode.length_eq_ok_iff.1 counted
  refine (takes_zero .killCursors).bind_exhausts ((takes_length _ small).bind_exhausts ?_)
  intro position
  have exact := length_flatMap_ofInt64 message.cursorIds
  show (if 8 * message.cursorIds.length ≠ (message.cursorIds.flatMap Bytes.ofInt64).length
    then _ else _ : Read KillCursors) _ = _
  rw [if_neg (not_not_intro exact.symm)]
  exact (takesEach_int64 message.cursorIds).exhausts.bind_pure _ position

/-! ### Compressed bodies -/

theorem Compressed.exhausts_body {message : Compressed} {bytes : Bytes} (header : Header)
    (sized : 0 ≤ message.size.toInt) (written : message.body = .ok bytes) :
    Exhausts (readBody header) bytes
      { message with requestId := header.requestId, responseTo := header.responseTo } := by
  cases written
  have known := takes_liftM (OpCode.ofCode_code message.inner)
  refine (takes_int32 message.inner.code).bind_exhausts (known.bind_exhausts
    ((takes_int32 message.size).bind_exhausts ?_))
  rw [if_neg (Int.not_lt.2 sized)]
  exact (takes_byte message.compressor).bind_exhausts
    ((exhausts_remainder message.bytes).bind_pure _)

end DocumentDriver
