/-
This file says what a receiver may refuse as too large although its sender took it for small enough. A
sender counts the bytes that it sends. Its receiver counts the same bytes, so it never refuses them for
their own number, and what is wrong with a body is never its size. But of a wrapper a receiver also
counts the bytes that it announces, and these a sender does not look at.
-/

import DocumentDriver.Proofs.Connection.Pairing
import DocumentDriver.Proofs.InPlace.Message

namespace DocumentDriver

open Error

/-- The error is not about the size of a message. -/
def Error.IsNoMatterOfSize (error : Error) : Prop :=
  ∀ size limit, error ≠ .messageTooLarge size limit

theorem Error.IsMalformed.isNoMatterOfSize {error : Error} (malformed : error.IsMalformed) :
    error.IsNoMatterOfSize := by
  cases malformed <;> exact nofun

/-- Where nothing that follows is a matter of size, only the first step can be one. -/
theorem bind_eq_tooLarge_iff {Middle Result : Type} {first : Except Error Middle}
    {next : Middle → Except Error Result} {size limit : Nat}
    (rest : ∀ middle, first = .ok middle → FailsOnly IsNoMatterOfSize (next middle)) :
    first >>= next = .error (.messageTooLarge size limit) ↔
      first = .error (.messageTooLarge size limit) := by
  cases first with
  | error error =>
    show Except.error error = _ ↔ _
    rw [Except.error.injEq, Except.error.injEq]
  | ok middle => exact ⟨fun failed => absurd rfl (rest middle rfl _ failed size limit), nofun⟩

namespace Header

theorem checkLength_eq_tooLarge_iff {length : Int32} {max size limit : Nat} :
    checkLength length max = .error (.messageTooLarge size limit) ↔
      headerLength ≤ length.toInt ∧ length.toInt = size ∧ max < size ∧ limit = max := by
  unfold checkLength
  by_cases short : length.toInt < headerLength
  · rw [if_pos short]
    exact ⟨nofun, fun fits => absurd fits.1 (Int.not_le.2 short)⟩
  rw [if_neg short]
  by_cases long : max < length.toInt.toNat
  · rw [if_pos long, Except.error.injEq, Error.messageTooLarge.injEq]
    omega
  · rw [if_neg long]
    refine ⟨nofun, fun exceeds => absurd ?_ long⟩
    omega

end Header

namespace Message

/-- Behind a header that was found acceptable nothing is refused for its size. -/
theorem decode_isNoMatterOfSize {header : Header} {bytes : Bytes} {max : Nat}
    (parsed : Header.parse bytes max = .ok header) :
    FailsOnly IsNoMatterOfSize (decode bytes max) := by
  intro error failed
  unfold decode at failed
  rw [parsed] at failed
  exact (failsOnly_ofBody header bytes error failed).isNoMatterOfSize

end Message

namespace Compressed

/-- The wrapper announces a message of so many bytes, header included. -/
structure Announces (wrapper : Compressed) (size : Nat) : Prop where
  plain : wrapper.inner ≠ .compressed
  announced : wrapper.size.toInt + headerLength = size
  sized : 0 ≤ wrapper.size.toInt
  told : size < 2 ^ 31

theorem Announces.of_same {wrapper other : Compressed} {size : Nat}
    (announces : wrapper.Announces size) (inner : other.inner = wrapper.inner)
    (same : other.size = wrapper.size) : other.Announces size := by
  obtain ⟨plain, announced, sized, told⟩ := announces
  rw [← inner] at plain
  rw [← same] at announced sized
  exact ⟨plain, announced, sized, told⟩

/-- A wrapper that was made from a message announces just this message. -/
theorem Wraps.announces_iff {message : Message} {compressor : Compressor} {bytes : Bytes}
    {wrapper : Compressed} (wraps : Wraps message compressor bytes wrapper)
    (written : message.serialize = .ok bytes) {size : Nat} :
    wrapper.Announces size ↔ size = bytes.length := by
  obtain ⟨known, -⟩ := Message.hasHeader_of_serialize written (Nat.le_refl _)
  have small := Int32.toInt_lt (Bytes.toInt32 (littleEndian 4 bytes.length))
  rw [show (Bytes.toInt32 _).toInt = _ from known.declared] at small
  have together := known.length_eq
  have counted := wraps.size
  constructor
  · intro announces
    have announced := announces.announced
    omega
  · rintro rfl
    exact ⟨wraps.inner ▸ wraps.plain, by omega, by omega, by omega⟩

/-- What a compressor gives, or that it gives nothing, is no matter of size, once the announced one has
been accepted. -/
theorem expanded_isNoMatterOfSize {wrapper : Compressed} {compressor : Compressor}
    (exact : compressor.IsExact) {length : Int32} {max : Nat}
    (checked : Header.checkLength length max = .ok ()) :
    FailsOnly IsNoMatterOfSize (do
      let body ← compressor.decompress wrapper.bytes wrapper.size.toInt.toNat
      Message.decode ((Header.mk length wrapper.requestId wrapper.responseTo
        wrapper.inner).toBytes ++ body) max) := by
  refine FailsOnly.bind (fun error failed => ?_) fun body => ?_
  · have gives := exact wrapper.bytes wrapper.size.toInt.toNat
    rw [failed] at gives
    cases gives with
    | refused reason => exact nofun
  · obtain ⟨least, most⟩ := Header.bounds_of_checkLength checked
    exact Message.decode_isNoMatterOfSize (Header.parse_toBytes least most body)

/-- A wrapper is refused as too large exactly if it announces more bytes than the ceiling admits. -/
theorem restore_eq_tooLarge_iff {wrapper : Compressed} {registry : CompressorRegistry}
    (exact : registry.IsExact) {max size limit : Nat} :
    wrapper.restore registry max = .error (.messageTooLarge size limit) ↔
      wrapper.Announces size ∧ max < size ∧ limit = max := by
  unfold restore
  by_cases nested : wrapper.inner = .compressed
  · rw [if_pos nested]
    exact ⟨nofun, fun ⟨announces, _⟩ => absurd nested announces.plain⟩
  rw [if_neg nested]
  cases restored : wrapper.restoredLength with
  | error error =>
    have malformed : FailsOnly IsMalformed wrapper.restoredLength := wrapper.failsOnly_restoredLength
    constructor
    · rintro ⟨⟩
      exact absurd (malformed _ restored) nofun
    · rintro ⟨⟨-, announced, -, told⟩, -⟩
      unfold restoredLength at restored
      rw [if_pos (by omega)] at restored
      cases restored
  | ok length =>
    have together := restoredLength_eq_ok_iff.1 restored
    have high := length.toInt_lt
    show (Header.checkLength length max >>= _ : Except Error Message) = _ ↔ _
    refine (bind_eq_tooLarge_iff fun _ checked => ?_).trans (Header.checkLength_eq_tooLarge_iff.trans ?_)
    · cases registered : registry.get? wrapper.compressor with
      | none =>
        rintro _ ⟨⟩
        exact nofun
      | some compressor => exact expanded_isNoMatterOfSize (exact _ _ registered) checked
    · constructor
      · rintro ⟨least, length, exceeds, rfl⟩
        exact ⟨⟨nested, by omega, by omega, by omega⟩, exceeds, rfl⟩
      · rintro ⟨⟨-, announced, sized, -⟩, exceeds, rfl⟩
        exact ⟨by omega, by omega, exceeds, rfl⟩

end Compressed

namespace Message

/-- What a written message is read as is a wrapper only if the message is one, and then both announce
the same. -/
theorem wrapper_of_decode_serialized {message : Message} {bytes : Bytes} {max : Nat}
    {given : Compressed} (written : message.serialize = .ok bytes) (enough : bytes.length ≤ max)
    (read : decode bytes max = .ok (compressed given)) :
    ∃ wrapper, message = compressed wrapper ∧ wrapper.inner = given.inner ∧
      wrapper.size = given.size := by
  obtain ⟨known, contents⟩ := hasHeader_of_serialize written enough
  obtain ⟨header, found, after, run⟩ := exists_header_of_decode read
  cases found.parsed.symm.trans known.parsed
  obtain ⟨form, -⟩ := soundToEnd_readBody _ run
  have kind : OpCode.compressed = message.kind := form.1.1
  cases message with
  | compressed wrapper =>
    -- Both wrappers are written into the same body, at the same places.
    obtain ⟨inner, size, -⟩ := fields_of_wrapper known.front contents
    obtain ⟨otherInner, otherSize, -⟩ := fields_of_wrapper known.front (body_of_wrapper form)
    refine ⟨wrapper, rfl, ?_, size.symm.trans otherSize⟩
    have same := congrArg OpCode.ofCode (inner.symm.trans otherInner)
    rwa [OpCode.ofCode_code, OpCode.ofCode_code, Except.ok.injEq] at same
  | _ => cases kind

/-- A receiver with the same ceiling refuses a message as too large exactly if it is a wrapper that
announces more than the ceiling. -/
theorem ofBytes_eq_tooLarge_iff {message : Message} {registry : CompressorRegistry} {bytes : Bytes}
    {max size limit : Nat} (written : message.serialize = .ok bytes) (enough : bytes.length ≤ max)
    (exact : registry.IsExact) :
    ofBytes bytes max registry = .error (.messageTooLarge size limit) ↔
      (∃ wrapper, message = compressed wrapper ∧ wrapper.Announces size) ∧ max < size ∧
        limit = max := by
  obtain ⟨known, -⟩ := hasHeader_of_serialize written enough
  unfold ofBytes
  constructor
  · intro failed
    -- The message need not be readable here, so this goes by what was read and not by what was sent.
    cases read : decode bytes max with
    | error error =>
      rw [read] at failed
      cases failed
      exact absurd rfl (decode_isNoMatterOfSize known.parsed _ read size limit)
    | ok given =>
      rw [read] at failed
      cases given with
      | compressed inside =>
        obtain ⟨announces, exceeds⟩ := (Compressed.restore_eq_tooLarge_iff exact).1 failed
        obtain ⟨wrapper, same, inner, size⟩ := wrapper_of_decode_serialized written enough read
        exact ⟨⟨wrapper, same, announces.of_same inner size⟩, exceeds⟩
      | _ => cases failed
  · rintro ⟨⟨wrapper, rfl, announces⟩, exceeds⟩
    have readable : (compressed wrapper).IsReadable := by
      refine ⟨nofun, nofun, ?_⟩
      rintro _ ⟨⟩
      exact announces.sized
    rw [decode_eq_received readable written enough]
    exact (Compressed.restore_eq_tooLarge_iff exact).2 ⟨announces, exceeds⟩

end Message

namespace Exchange

/-- A receiver with the ceiling of the sender refuses what is sent as too large only if it is a wrapper,
and then exactly if this announces a message that is larger than the ceiling. So a message that is sent
as it is never meets this refusal, and one that is sent compressed meets it exactly if it would not have
been sent as it is. The receiver may know any compressors that give what they are asked for, such as
those that are known from the start. -/
theorem refused_for_what_is_announced (message : Message) (registry : CompressorRegistry) (max : Nat)
    (peer : Peer) (bytes : Bytes) (sent : (run message registry max peer).sent = some bytes) :
    CompressorRegistry.default.IsExact ∧ ∀ receiving : CompressorRegistry, receiving.IsExact →
      (∀ size limit, Message.ofBytes bytes max receiving = .error (.messageTooLarge size limit) ↔
        (∃ wrapper, message = .compressed wrapper ∧ wrapper.Announces size) ∧ max < size ∧
          limit = max) ∧
      (message.kind ≠ .compressed → ∀ size limit,
        Message.ofBytes bytes max receiving ≠ .error (.messageTooLarge size limit)) ∧
      ∀ plain compressor wrapper, message = .compressed wrapper →
        Compressed.ofMessage plain compressor = .ok wrapper →
        ∀ size limit, Message.ofBytes bytes max receiving = .error (.messageTooLarge size limit) ↔
          bytesOf plain max = .error (.messageTooLarge size limit) := by
  obtain ⟨written, fits⟩ := bytesOf_eq_ok_iff.1 (bytesOf_of_sent sent)
  refine ⟨CompressorRegistry.isExact_default, fun receiving exact => ?_⟩
  have refused {size limit : Nat} :
      Message.ofBytes bytes max receiving = .error (.messageTooLarge size limit) ↔ _ :=
    Message.ofBytes_eq_tooLarge_iff written fits exact
  refine ⟨fun size limit => refused, fun plain size limit failed => ?_,
    fun plain compressor wrapper same wrapped size limit => ?_⟩
  · obtain ⟨⟨wrapper, rfl, -⟩, -⟩ := refused.1 failed
    exact plain rfl
  · obtain ⟨whole, known⟩ := Compressed.exists_serialize_of_ofMessage wrapped
    have wraps := Compressed.wraps_of_ofMessage wrapped known
    subst same
    rw [refused, bytesOf_eq_tooLarge_iff known, ← wraps.announces_iff known]
    refine and_congr_left' ⟨?_, fun announces => ⟨wrapper, rfl, announces⟩⟩
    rintro ⟨_, ⟨⟩, announces⟩
    exact announces

/-- The wrapper of a command with a padding of 96 equal letters, as a compressor of the usual level gives
it. It takes 60 bytes and announces 142. -/
def paddedPing : Compressed where
  requestId := 7
  responseTo := 0
  inner := .msg
  size := 126
  compressor := 2
  bytes := [120, 156, 99, 96, 0, 130, 74, 32, 22, 40, 200, 204, 75, 103, 96, 4, 178, 152, 10, 18, 83,
    24, 18, 129, 140, 10, 26, 3, 6, 6, 0, 137, 39, 48, 209]

/-- A peer that takes everything and closes the connection. -/
def silent : Peer where
  send _ := .ok ()
  receive _ := .error .connectionClosed

/-- What is sent under a ceiling may have to be refused as too large under the same one. -/
theorem sent_may_be_refused :
    ∃ bytes, (run (.compressed paddedPing) .default 100 silent).sent = some bytes ∧
      Message.ofBytes bytes 100 .default = .error (.messageTooLarge 142 100) := by
  exact ⟨_, rfl, rfl⟩

theorem refused_for_what_is_announced_ping :
    ∃ bytes, (run (.compressed paddedPing) .default 100 silent).sent = some bytes ∧
      Message.ofBytes bytes 100 .default = .error (.messageTooLarge 142 100) ∧
      ∃ short, (run Socket.ping .default 100 silent).sent = some short ∧
        ∀ size limit, Message.ofBytes short 100 .default ≠ .error (.messageTooLarge size limit) := by
  obtain ⟨bytes, sent⟩ : ∃ bytes,
    (run (.compressed paddedPing) .default 100 silent).sent = some bytes := ⟨_, rfl⟩
  obtain ⟨short, plain⟩ : ∃ short, (run Socket.ping .default 100 silent).sent = some short := ⟨_, rfl⟩
  have announces : paddedPing.Announces 142 := ⟨by decide, by decide, by decide, by decide⟩
  obtain ⟨exact, padded⟩ := refused_for_what_is_announced _ _ _ _ _ sent
  obtain ⟨-, unpadded⟩ := refused_for_what_is_announced _ _ _ _ _ plain
  exact ⟨bytes, sent, ((padded .default exact).1 142 100).2
    ⟨⟨paddedPing, rfl, announces⟩, by decide, rfl⟩, short, plain,
    (unpadded .default exact).2.1 nofun⟩

end Exchange

end DocumentDriver
