/-
This file proves that compression can be trusted from both sides. What one side compresses, the
other restores as if it had come uncompressed, the errors included, as long as the compressor gives
back what it took. And whatever a compressor gives, a message that is restored is of the kind that
was announced, carries the numbers of its wrapper, and was read from exactly the announced number of
bytes, which the ceiling for messages allows.
-/

import DocumentDriver.Message.Compression
import DocumentDriver.Proofs.Message.Canonical

namespace DocumentDriver

open Read Encode

/-- The compressor gives back these bytes, if it compresses them. -/
def Compressor.Restores (compressor : Compressor) (original : Bytes) : Prop :=
  ∀ packed, compressor.compress original = .ok packed →
    compressor.decompress packed original.length = .ok original

/-- The compressor gives back everything that it compresses. -/
def Compressor.IsLossless (compressor : Compressor) : Prop :=
  ∀ original packed, compressor.compress original = .ok packed →
    compressor.decompress packed original.length = .ok original

theorem Compressor.isLossless_noop : noop.IsLossless := by
  rintro original _ ⟨⟩
  exact if_pos rfl

namespace Compressed

/-- A size and a header together have a length if it fits 31 bits. -/
theorem restoredLength_eq_ok_iff {message : Compressed} {length : Int32} :
    message.restoredLength = .ok length ↔ length.toInt = message.size.toInt + headerLength := by
  have low := message.size.le_toInt
  have high := length.toInt_lt
  have sixteen : headerLength = 16 := rfl
  unfold restoredLength
  by_cases fits : message.size.toInt + headerLength < 2 ^ 31
  · have same : (Int32.ofInt (message.size.toInt + headerLength)).toInt =
        message.size.toInt + headerLength := Int32.toInt_ofInt_of_le (by omega) (by omega)
    rw [if_pos fits, Except.ok.injEq, ← Int32.toInt_inj, same, eq_comm]
  · rw [if_neg fits]
    exact ⟨nofun, fun same => absurd (same ▸ high) fits⟩

/-- What is known of a wrapper that was made from a message. -/
structure Wraps (message : Message) (compressor : Compressor) (bytes : Bytes)
    (wrapper : Compressed) : Prop where
  plain : message.kind ≠ .compressed
  requestId : wrapper.requestId = message.requestId
  responseTo : wrapper.responseTo = message.responseTo
  inner : wrapper.inner = message.kind
  id : wrapper.compressor = compressor.id
  size : wrapper.size.toInt = (bytes.drop headerLength).length
  packed : compressor.compress (bytes.drop headerLength) = .ok wrapper.bytes

theorem wraps_of_ofMessage {message : Message} {compressor : Compressor} {wrapper : Compressed}
    {bytes : Bytes} (wrapped : ofMessage message compressor = .ok wrapper)
    (written : message.serialize = .ok bytes) : Wraps message compressor bytes wrapper := by
  unfold ofMessage at wrapped
  by_cases plain : message.kind = .compressed
  · rw [if_pos plain] at wrapped
    cases wrapped
  rw [if_neg plain] at wrapped
  obtain ⟨whole, given, wrapped⟩ := bind_eq_ok_iff.1 wrapped
  cases written.symm.trans given
  obtain ⟨size, declared, wrapped⟩ := bind_eq_ok_iff.1 wrapped
  obtain ⟨packed, compressed, same⟩ := bind_eq_ok_iff.1 wrapped
  cases same
  obtain ⟨small, rfl⟩ := length_eq_ok_iff.1 declared
  exact ⟨plain, rfl, rfl, rfl, rfl, toInt_toInt32_littleEndian _ small, compressed⟩

/-- Only what can be written is wrapped. -/
theorem exists_serialize_of_ofMessage {message : Message} {compressor : Compressor}
    {wrapper : Compressed} (wrapped : ofMessage message compressor = .ok wrapper) :
    ∃ bytes, message.serialize = .ok bytes := by
  unfold ofMessage at wrapped
  split at wrapped
  · cases wrapped
  · obtain ⟨bytes, written, -⟩ := bind_eq_ok_iff.1 wrapped
    exact ⟨bytes, written⟩

/-- Restoring checks the announced size, expands the bytes and reads the message. -/
theorem restore_eq {wrapper : Compressed} {registry : CompressorRegistry} {compressor : Compressor}
    {length : Int32} {body : Bytes} (max : Nat) (plain : wrapper.inner ≠ .compressed)
    (announced : length.toInt = wrapper.size.toInt + headerLength)
    (registered : registry.get? wrapper.compressor = some compressor)
    (expanded : compressor.decompress wrapper.bytes wrapper.size.toInt.toNat = .ok body) :
    wrapper.restore registry max = (do
      Header.checkLength length max
      Message.decode ((Header.mk length wrapper.requestId wrapper.responseTo
        wrapper.inner).toBytes ++ body) max) := by
  unfold restore
  rw [if_neg plain, restoredLength_eq_ok_iff.2 announced, registered]
  show (Header.checkLength length max >>= fun _ =>
    compressor.decompress wrapper.bytes wrapper.size.toInt.toNat >>= fun body => _) = _
  rw [expanded]
  simp only [bind, Except.bind]

end Compressed

namespace Message

/-- A message that does not fit the ceiling is refused for its length before anything else. -/
theorem checkLength_then_decode {header : Header} (max : Nat) (body : Bytes) :
    (do
      Header.checkLength header.length max
      decode (header.toBytes ++ body) max) = decode (header.toBytes ++ body) max := by
  cases checked : Header.checkLength header.length max with
  | ok => simp only [bind, Except.bind]
  | error error =>
    unfold decode
    rw [Header.parse_of_checkLength checked]
    rfl

/-- All that is asked of a compressor is that it gives back this body. -/
theorem restore_wrapper_of_restores {message : Message} {compressor : Compressor}
    {registry : CompressorRegistry} {wrapper : Compressed} {bytes : Bytes} (max : Nat)
    (registered : registry.get? compressor.id = some compressor)
    (restores : compressor.Restores (bytes.drop headerLength))
    (wraps : Compressed.Wraps message compressor bytes wrapper)
    (written : message.serialize = .ok bytes) :
    wrapper.restore registry max = decode bytes max := by
  obtain ⟨known, -⟩ := hasHeader_of_serialize written (Nat.le_refl _)
  have expanded : compressor.decompress wrapper.bytes wrapper.size.toInt.toNat =
      .ok (bytes.drop headerLength) := by
    rw [wraps.size, Int.toNat_natCast]
    exact restores _ wraps.packed
  have announced : (message.header (Bytes.toInt32 (littleEndian 4 bytes.length))).length.toInt =
      wrapper.size.toInt + headerLength := by
    rw [known.declared, wraps.size, ← known.length_eq]
    omega
  rw [Compressed.restore_eq max (wraps.inner ▸ wraps.plain) announced (wraps.id ▸ registered)
    expanded, wraps.requestId, wraps.responseTo, wraps.inner]
  -- The length is checked once before anything is expanded, and again in the header.
  exact (checkLength_then_decode max _).trans (congrArg (decode · max) known.front)

theorem restore_wrapper {message : Message} {compressor : Compressor}
    {registry : CompressorRegistry} {wrapper : Compressed} {bytes : Bytes} (max : Nat)
    (registered : registry.get? compressor.id = some compressor) (lossless : compressor.IsLossless)
    (wraps : Compressed.Wraps message compressor bytes wrapper)
    (written : message.serialize = .ok bytes) :
    wrapper.restore registry max = decode bytes max :=
  restore_wrapper_of_restores max registered (lossless _) wraps written

/-- A wrapper arrives as it was sent. -/
theorem decode_wrapper {message : Message} {compressor : Compressor} {wrapper : Compressed}
    {bytes framed : Bytes} {max : Nat} (wraps : Compressed.Wraps message compressor bytes wrapper)
    (written : (compressed wrapper).serialize = .ok framed) (enough : framed.length ≤ max) :
    decode framed max = .ok (compressed wrapper) := by
  have readable : (compressed wrapper).IsReadable := by
    refine ⟨nofun, nofun, ?_⟩
    rintro _ ⟨⟩
    rw [wraps.size]
    exact Int.natCast_nonneg _
  exact decode_eq_received readable written enough

theorem isReplyable_wrapper {message : Message} {compressor : Compressor} {wrapper : Compressed}
    {bytes : Bytes} (wraps : Compressed.Wraps message compressor bytes wrapper) :
    (compressed wrapper).isReplyable = (message.isReplyable || message.kind == .msg) := by
  obtain ⟨plain, -, -, same, -, -, -⟩ := wraps
  obtain ⟨requestId, responseTo, inner, size, id, packed⟩ := wrapper
  obtain rfl : inner = message.kind := same
  cases message with
  | compressed message => exact absurd rfl plain
  | msg message => exact (Bool.or_true _).symm
  | _ => rfl

/-- A wrapper around a message for which a reply is not declined is answered like the message. -/
theorem isReplyable_wrapper_of_awaited {message : Message} {compressor : Compressor}
    {wrapper : Compressed} {bytes : Bytes}
    (wraps : Compressed.Wraps message compressor bytes wrapper)
    (awaited : ∀ command, message = msg command → command.moreToCome = false) :
    (compressed wrapper).isReplyable = message.isReplyable := by
  rw [isReplyable_wrapper wraps]
  cases message with
  | msg command =>
    have waits : (msg command).isReplyable = true := by
      show (!command.moreToCome) = true
      rw [awaited command rfl]
      rfl
    rw [waits, Bool.true_or]
  | _ => exact Bool.or_false _

/-- A message that one side compresses is restored by the other as if it had come uncompressed, the
same message or the same error, whether the wrapper is handed over or sent. The wrapper is answered
like the message, but for a command that asks for no reply, since its flags are not seen. -/
theorem restore_compressed (message : Message) (compressor : Compressor)
    (registry : CompressorRegistry) (registered : registry.get? compressor.id = some compressor)
    (lossless : compressor.IsLossless) (wrapper : Compressed)
    (wrapped : Compressed.ofMessage message compressor = .ok wrapper) (bytes : Bytes)
    (written : message.serialize = .ok bytes) (max : Nat) :
    wrapper.restore registry max = decode bytes max ∧
      (∀ framed, (compressed wrapper).serialize = .ok framed → framed.length ≤ max →
        ofBytes framed max registry = decode bytes max) ∧
      ((∀ command, message = msg command → command.moreToCome = false) →
        (compressed wrapper).isReplyable = message.isReplyable) ∧
      ∀ command, message = msg command → command.moreToCome = true →
        (compressed wrapper).isReplyable = true ∧ message.isReplyable = false := by
  have wraps := Compressed.wraps_of_ofMessage wrapped written
  have restored := restore_wrapper max registered lossless wraps written
  have replyable := isReplyable_wrapper wraps
  refine ⟨restored, fun framed sent enough => ?_, fun awaited => ?_, fun command same last => ?_⟩
  · unfold ofBytes
    rw [decode_wrapper wraps sent enough]
    exact restored
  · exact isReplyable_wrapper_of_awaited wraps awaited
  · subst same
    refine ⟨replyable.trans (Bool.or_true _), ?_⟩
    show (!command.moreToCome) = false
    rw [last]
    rfl

theorem restore_compressed_sampleMsg :
    ∃ wrapper bytes framed, Compressed.ofMessage (msg sampleMsg) .noop = .ok wrapper ∧
      (msg sampleMsg).serialize = .ok bytes ∧ (compressed wrapper).serialize = .ok framed ∧
      ofBytes framed framed.length .default = decode bytes framed.length := by
  refine ⟨_, _, _, rfl, rfl, rfl, ?_⟩
  exact (restore_compressed (msg sampleMsg) .noop .default rfl Compressor.isLossless_noop _ rfl _
    rfl _).2.1 _ rfl (Nat.le_refl _)

/-! ### Hostile wrappers -/

/-- A restored message has the kind and the numbers of its wrapper, and its body has the announced
length, whatever the compressor gave. -/
structure RestoredFrom (wrapper : Compressed) (registry : CompressorRegistry) (max : Nat)
    (message : Message) (body : Bytes) : Prop where
  plain : wrapper.inner ≠ .compressed
  expanded : ∃ compressor, registry.get? wrapper.compressor = some compressor ∧
    compressor.decompress wrapper.bytes body.length = .ok body
  size : wrapper.size.toInt = body.length
  most : body.length + headerLength ≤ max
  read : ∃ length after, readBody ⟨length, wrapper.requestId, wrapper.responseTo, wrapper.inner⟩
    (Reader.start body) = .ok (message, after)

theorem exists_restoredFrom {wrapper : Compressed} {registry : CompressorRegistry} {max : Nat}
    {message : Message} (restored : wrapper.restore registry max = .ok message) :
    ∃ body, RestoredFrom wrapper registry max message body := by
  unfold Compressed.restore at restored
  by_cases nested : wrapper.inner = .compressed
  · rw [if_pos nested] at restored
    cases restored
  rw [if_neg nested] at restored
  obtain ⟨length, announced, restored⟩ := bind_eq_ok_iff.1 restored
  obtain ⟨_, checked, restored⟩ := bind_eq_ok_iff.1 restored
  cases registered : registry.get? wrapper.compressor with
  | none =>
    rw [registered] at restored
    cases restored
  | some compressor =>
    rw [registered] at restored
    obtain ⟨body, expanded, restored⟩ := bind_eq_ok_iff.1 restored
    obtain ⟨least, most⟩ := Header.bounds_of_checkLength checked
    obtain ⟨header, known, after, run⟩ := exists_header_of_decode restored
    have same : header = ⟨length, wrapper.requestId, wrapper.responseTo, wrapper.inner⟩ :=
      Except.ok.inj (known.parsed.symm.trans (Header.parse_toBytes least most body))
    subst same
    rw [List.drop_left' (Header.length_toBytes _)] at run
    -- The header was made from the announced size, and reading compares it with the bytes there are.
    have declared : length.toInt = (headerLength + body.length : Nat) := by
      rw [← Header.length_toBytes _, ← List.length_append]
      exact known.declared
    have size : wrapper.size.toInt = body.length := by
      have together := Compressed.restoredLength_eq_ok_iff.1 announced
      omega
    have fits : body.length + headerLength ≤ max := by omega
    rw [size, Int.toNat_natCast] at expanded
    exact ⟨body, nested, ⟨compressor, registered, expanded⟩, size, fits, length, after, run⟩

/-- What is restored is of the kind that the wrapper announces. -/
theorem RestoredFrom.kind {wrapper : Compressed} {registry : CompressorRegistry} {max : Nat}
    {message : Message} {body : Bytes}
    (restored : RestoredFrom wrapper registry max message body) : message.kind = wrapper.inner := by
  obtain ⟨length, after, run⟩ := restored.read
  obtain ⟨⟨⟨kind, -⟩, -⟩, -⟩ := soundToEnd_readBody _ run
  exact kind

/-- What comes out of bytes is never compressed. -/
theorem kind_of_ofBytes {bytes : Bytes} {max : Nat} {registry : CompressorRegistry}
    {message : Message} (read : ofBytes bytes max registry = .ok message) :
    message.kind ≠ .compressed := by
  obtain ⟨given, -, rest⟩ := bind_eq_ok_iff.1 read
  cases given with
  | compressed wrapper =>
    obtain ⟨body, restored⟩ := exists_restoredFrom rest
    exact restored.kind ▸ restored.plain
  | _ =>
    cases rest
    exact nofun

/-- The message was restored from the wrapper that stands in these bytes. -/
structure IsRestored (message : Message) (bytes : Bytes) (max : Nat)
    (registry : CompressorRegistry) : Prop where
  /-- It is of the kind that the wrapper announces. -/
  kind : message.kind.code = bytes.int32At 16
  /-- It has the number of the wrapper. -/
  requestId : message.requestId = bytes.int32At 4
  /-- It answers what the wrapper answers, if its kind answers anything. -/
  responseTo : message.kind.answers = true → message.responseTo = bytes.int32At 8
  /-- It was read from as many bytes as the wrapper announces, and the ceiling leaves room for them
  and a header. -/
  body : ∃ body compressor id, (bytes.int32At 20).toInt = (body.length : Nat) ∧
    body.length + headerLength ≤ max ∧ bytes[24]? = some id ∧ registry.get? id = some compressor ∧
    compressor.decompress (bytes.drop 25) body.length = .ok body ∧
    ∃ header after, header.kind = message.kind ∧
      readBody header (Reader.start body) = .ok (message, after)

/-- The fields of a wrapper stand behind its header. -/
theorem fields_of_wrapper {header : Header} {wrapper : Compressed} {bytes rest : Bytes}
    (front : header.toBytes ++ rest = bytes) (written : wrapper.body = .ok rest) :
    bytes.int32At 16 = wrapper.inner.code ∧ bytes.int32At 20 = wrapper.size ∧
      bytes[24]? = some wrapper.compressor ∧ bytes.drop 25 = wrapper.bytes := by
  cases written
  subst front
  have four (number : Int32) := Bytes.length_ofInt32 number
  have split : header.toBytes ++ (Bytes.ofInt32 wrapper.inner.code ++ (Bytes.ofInt32 wrapper.size ++
      wrapper.compressor :: wrapper.bytes)) = header.toBytes ++ Bytes.ofInt32 wrapper.inner.code ++
        Bytes.ofInt32 wrapper.size ++ wrapper.compressor :: wrapper.bytes := by
    simp only [List.append_assoc]
  have before : (header.toBytes ++ Bytes.ofInt32 wrapper.inner.code ++
      Bytes.ofInt32 wrapper.size).length = 24 := by
    rw [List.length_append, List.length_append, Header.length_toBytes, four, four]
    rfl
  refine ⟨Bytes.int32At_append header.length_toBytes, ?_, ?_, ?_⟩
  · rw [← List.append_assoc]
    exact Bytes.int32At_append (by rw [List.length_append, Header.length_toBytes, four]; rfl)
  · rw [split, List.getElem?_append_right (Nat.le_of_eq before), before]
    rfl
  · rw [split, List.append_cons]
    exact List.drop_left' (by rw [List.length_append, before]; rfl)

/-- A wrapper that was read stands in its body as it is written. -/
theorem body_of_wrapper {header : Header} {wrapper : Compressed} {body : Bytes}
    (form : IsFormOf header (compressed wrapper) body) : wrapper.body = .ok body := by
  obtain ⟨parts, stands⟩ := form.2 ⟨nofun, nofun, nofun⟩
  obtain ⟨⟩ := stands.each
  exact (stands.written nofun).eq_ok not_false

/-- What comes out of bytes is never compressed, and where a wrapper stood in them, it is what the
wrapper announces, from as many bytes as the wrapper announces, within the ceiling. Nothing is
assumed of the compressors: they may give any bytes. -/
theorem ofBytes_announced (bytes : Bytes) (max : Nat) (registry : CompressorRegistry)
    (message : Message) (read : ofBytes bytes max registry = .ok message) :
    message.kind ≠ .compressed ∧
      (bytes.int32At 12 = OpCode.compressed.code → message.IsRestored bytes max registry) := by
  obtain ⟨given, decoded, rest⟩ := bind_eq_ok_iff.1 read
  obtain ⟨header, known, after, run⟩ := exists_header_of_decode decoded
  obtain ⟨form, -⟩ := soundToEnd_readBody header run
  obtain ⟨requestId, responseTo, code⟩ := Header.fields_of_toBytes known.front
  by_cases wrapped : given.kind = .compressed
  · cases given with
    | compressed wrapper =>
      obtain ⟨body, restored⟩ := exists_restoredFrom rest
      obtain ⟨compressor, registered, expanded⟩ := restored.expanded
      obtain ⟨length, last, inside⟩ := restored.read
      obtain ⟨⟨⟨kind, number, answered⟩, -⟩, -⟩ := soundToEnd_readBody _ inside
      obtain ⟨inner, size, id, packed⟩ := fields_of_wrapper known.front (body_of_wrapper form)
      refine ⟨kind ▸ restored.plain, fun _ => ⟨?_, ?_, fun answers => ?_, body, compressor,
        wrapper.compressor, ?_, restored.most, id, registered, ?_, _, last, kind.symm, inside⟩⟩
      · rw [kind, inner]
      · rw [number, requestId]
        exact form.1.2.1
      · rw [answered answers, responseTo]
        exact form.1.2.2 rfl
      · rw [size]
        exact restored.size
      · rw [packed]
        exact expanded
    | _ => cases wrapped
  · obtain rfl : given = message := by
      cases given with
      | compressed wrapper => exact absurd rfl wrapped
      | _ => exact Except.ok.inj rest
    refine ⟨wrapped, fun announced => absurd ?_ wrapped⟩
    rw [form.1.1, ← Except.ok.injEq (ε := Error), ← OpCode.ofCode_code, ← code, announced]
    exact OpCode.ofCode_code .compressed

/-- The bytes of a wrapper around a command, whose compressor leaves the bytes as they are. -/
def wrapperBytes : Bytes :=
  [50, 0, 0, 0, 7, 0, 0, 0, 3, 0, 0, 0, 220, 7, 0, 0] ++ [221, 7, 0, 0, 25, 0, 0, 0, 0] ++
    commandBytes.drop headerLength

theorem ofBytes_announced_wrapperBytes :
    ofBytes wrapperBytes 50 .default = .ok (msg readCommand) ∧
      (msg readCommand).IsRestored wrapperBytes 50 .default := by
  have read : ofBytes wrapperBytes 50 .default = .ok (msg readCommand) := rfl
  exact ⟨read, (ofBytes_announced _ _ _ _ read).2 (by decide)⟩

end Message

end DocumentDriver
