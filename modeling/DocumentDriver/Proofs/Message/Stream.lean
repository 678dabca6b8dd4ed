/-
This file proves that a stream never loses its place. A written message is taken off the front of
whatever stream begins with it, no byte more and no byte less, so that any number of them written
one after the other is read back one by one, and what follows the last is left as it was. A header
that is refused takes its own sixteen bytes with it and nothing behind them.
-/

import DocumentDriver.Message.Stream
import DocumentDriver.Proofs.Message.Header

namespace DocumentDriver

open Read

/-! ### Headers that are refused -/

theorem Bytes.ofInt32_int32At {bytes : Bytes} {place : Nat} (long : place + 4 ≤ bytes.length) :
    Bytes.ofInt32 (bytes.int32At place) = (bytes.drop place).take 4 := by
  refine ofInt32_toInt32 ?_
  rw [List.length_take, List.length_drop]
  omega

/-- Sixteen bytes are four numbers. -/
theorem Bytes.take_headerLength {bytes : Bytes} (long : headerLength ≤ bytes.length) :
    bytes.take headerLength = Bytes.ofInt32 (bytes.int32At 0) ++ (Bytes.ofInt32 (bytes.int32At 4) ++
      (Bytes.ofInt32 (bytes.int32At 8) ++ Bytes.ofInt32 (bytes.int32At 12))) := by
  unfold headerLength at long ⊢
  rw [ofInt32_int32At (by omega), ofInt32_int32At (by omega), ofInt32_int32At (by omega),
    ofInt32_int32At (by omega), ← List.append_assoc, ← List.append_assoc, List.drop_zero,
    ← List.take_add, ← List.take_add, ← List.take_add]

theorem OpCode.ofCode_of_unknown {code : Int32} (unknown : ∀ kind : OpCode, kind.code ≠ code) :
    ofCode code = .error (.unknownOpCode code) := by
  unfold ofCode
  have none : all.find? (·.code == code) = none :=
    List.find?_eq_none.2 fun kind _ => by simpa using unknown kind
  rw [none]

namespace Header

/-- Only the first sixteen bytes are looked at. -/
theorem parse_take (bytes : Bytes) (max : Nat) :
    parse (bytes.take headerLength) max = parse bytes max := by
  unfold parse
  rw [List.take_take, Nat.min_self]

/-- The bytes begin with a header that is refused: its length does not cover it or exceeds the
ceiling, or its code announces no kind. -/
def IsRefused (bytes : Bytes) (max : Nat) : Prop :=
  (bytes.int32At 0).toInt < headerLength ∨ max < (bytes.int32At 0).toInt.toNat ∨
    ∀ kind : OpCode, kind.code ≠ bytes.int32At 12

/-- Why a header is refused: its length is looked at before its kind. -/
def refusal (bytes : Bytes) (max : Nat) : Error :=
  if (bytes.int32At 0).toInt < headerLength then
    (Violation.messageLength (bytes.int32At 0)).toError
  else if max < (bytes.int32At 0).toInt.toNat then
    .messageTooLarge (bytes.int32At 0).toInt.toNat max
  else .unknownOpCode (bytes.int32At 12)

theorem parse_of_isRefused {bytes : Bytes} {max : Nat} (long : headerLength ≤ bytes.length)
    (refused : IsRefused bytes max) : parse bytes max = .error (refusal bytes max) := by
  have front := Bytes.take_headerLength long
  have exact : (bytes.take headerLength).length = headerLength := List.length_take_of_le long
  have failed : Fails (fields max) (bytes.take headerLength) (refusal bytes max) := by
    rw [front]
    unfold refusal
    by_cases short : (bytes.int32At 0).toInt < headerLength
    · rw [if_pos short]
      exact fails_fields_of_length (if_pos short) _
    · by_cases large : max < (bytes.int32At 0).toInt.toNat
      · rw [if_neg short, if_pos large]
        exact fails_fields_of_length ((if_neg short).trans (if_pos large)) _
      · rw [if_neg short, if_neg large]
        have checked : checkLength (bytes.int32At 0) max = .ok () :=
          (if_neg short).trans (if_neg large)
        have unknown := OpCode.ofCode_of_unknown ((refused.resolve_left short).resolve_left large)
        have stopped : Fails (liftM (OpCode.ofCode (bytes.int32At 12))) []
            (.unknownOpCode (bytes.int32At 12)) := by
          rw [unknown]
          exact fun _ _ => rfl
        exact (takes_int32 _).bind_fails ((takes_liftM checked).bind_fails
          ((takes_int32 _).bind_fails ((takes_int32 _).bind_fails
            ((takes_int32 _).bind_fails_last (stopped.bind _)))))
  have parsed := parse_of_fails exact failed []
  rwa [List.append_nil, parse_take] at parsed

end Header

namespace Stream

variable {Result : Type}

/-! ### One attempt -/

theorem readBytes_of_refused {stream : Bytes} {max : Nat} {error : Error}
    (long : headerLength ≤ stream.length) (refused : Header.parse stream max = .error error) :
    readBytes stream max = ⟨.error error, stream.drop headerLength⟩ := by
  unfold readBytes
  dsimp only
  rw [List.length_take_of_le long, if_neg (Nat.lt_irrefl _), Header.parse_take, refused]

/-- A message is taken off any stream that begins with it. -/
theorem readBytes_append {frame : Bytes} {max : Nat} {header : Header}
    (known : Message.HasHeader frame max header) (rest : Bytes) :
    readBytes (frame ++ rest) max = ⟨.ok frame, rest⟩ := by
  have long : headerLength ≤ frame.length := by
    have size := known.length_eq
    omega
  have front : (frame ++ rest).take headerLength = frame.take headerLength :=
    List.take_append_of_le_length long
  have behind : (frame ++ rest).drop headerLength = frame.drop headerLength ++ rest :=
    List.drop_append_of_le_length long
  have body : header.bodyLength = (frame.drop headerLength).length := by
    unfold Header.bodyLength
    rw [known.declared, Int.toNat_natCast, List.length_drop]
  unfold readBytes
  dsimp only
  rw [front, List.length_take_of_le long, if_neg (Nat.lt_irrefl _), Header.parse_take, known.parsed,
    behind]
  dsimp only
  rw [body, List.take_left, if_neg (Nat.lt_irrefl _), List.drop_left, List.take_append_drop]

/-! ### Many attempts -/

/-- The attempt takes these bytes off any stream that begins with them, and gives this result. -/
def TakesOff (attempt : Bytes → Attempt Result) (frame : Bytes) (result : Except Error Result) :
    Prop :=
  ∀ rest, attempt (frame ++ rest) = ⟨result, rest⟩

/-- What a number of attempts give one after the other, each on what the last one left, and the
bytes that are left in the end. -/
def readTimes (attempt : Bytes → Attempt Result) :
    Nat → Bytes → List (Except Error Result) × Bytes
  | 0, stream => ([], stream)
  | count + 1, stream =>
    let next := attempt stream
    let later := readTimes attempt count next.rest
    (next.result :: later.1, later.2)

theorem readTimes_flatten {attempt : Bytes → Attempt Result} {result : Bytes → Except Error Result}
    {frames : List Bytes} (each : ∀ frame ∈ frames, TakesOff attempt frame (result frame))
    (tail : Bytes) :
    readTimes attempt frames.length (frames.flatten ++ tail) = (frames.map result, tail) := by
  induction frames with
  | nil => rfl
  | cons frame rest inductionHypothesis =>
    obtain ⟨first, others⟩ := List.forall_mem_cons.1 each
    have taken := first (rest.flatten ++ tail)
    rw [← List.append_assoc] at taken
    rw [List.length_cons, List.flatten_cons, readTimes, taken, inductionHypothesis others,
      List.map_cons]

/-- The last of some attempts is made on what the others left. -/
theorem readTimes_succ (attempt : Bytes → Attempt Result) (count : Nat) (stream : Bytes) :
    readTimes attempt (count + 1) stream =
      ((readTimes attempt count stream).1 ++
          [(attempt (readTimes attempt count stream).2).result],
        (attempt (readTimes attempt count stream).2).rest) := by
  induction count generalizing stream with
  | zero => rfl
  | succ count inductionHypothesis =>
    rw [readTimes, inductionHypothesis]
    rfl

/-! ### What was written -/

/-- The bytes of messages that can be written, none of them longer than the ceiling. -/
def AreFrames (max : Nat) (messages : List Message) (frames : List Bytes) : Prop :=
  List.Forall₂ (fun message frame => message.serialize = .ok frame ∧ frame.length ≤ max) messages
    frames

theorem write_of_areFrames {max : Nat} {messages : List Message} {frames : List Bytes}
    (written : AreFrames max messages frames) : write messages = .ok frames.flatten := by
  induction written with
  | nil => rfl
  | cons first _ inductionHypothesis =>
    unfold write
    rw [first.1, inductionHypothesis]
    rfl

theorem takesOff_readBytes_of_areFrames {max : Nat} {messages : List Message}
    {frames : List Bytes} (written : AreFrames max messages frames) (frame : Bytes)
    (member : frame ∈ frames) : TakesOff (readBytes · max) frame (.ok frame) := by
  induction written with
  | nil => cases member
  | cons first _ inductionHypothesis =>
    rcases List.mem_cons.1 member with rfl | later
    · exact readBytes_append (Message.hasHeader_of_serialize first.1 first.2).1
    · exact inductionHypothesis later

/-- Whether the bytes hold a message that can be understood does not matter to the stream. -/
theorem TakesOff.read {frame : Bytes} {max : Nat}
    (taken : TakesOff (readBytes · max) frame (.ok frame)) (registry : CompressorRegistry) :
    TakesOff (Stream.read · max registry) frame (Message.ofBytes frame max registry) := by
  intro rest
  have front : readBytes (frame ++ rest) max = ⟨.ok frame, rest⟩ := taken rest
  show Stream.read (frame ++ rest) max registry = _
  unfold Stream.read
  rw [front]
  rfl

/-- A stream never loses its place. Messages that are written one after the other, none of them
longer than the ceiling, are read back one by one, whatever follows them and whether or not each of
them can be understood; what follows is left unread, and at the end of the stream the connection
counts as closed. A header that is refused is taken off the stream, and nothing behind it. -/
theorem stream_keeps_place (max : Nat) (registry : CompressorRegistry) :
    (∀ messages frames, AreFrames max messages frames →
      write messages = .ok frames.flatten ∧
      (∀ tail,
        readTimes (readBytes · max) messages.length (frames.flatten ++ tail) =
          (frames.map .ok, tail) ∧
        readTimes (read · max registry) messages.length (frames.flatten ++ tail) =
          (frames.map (Message.ofBytes · max registry), tail)) ∧
      readTimes (readBytes · max) (messages.length + 1) frames.flatten =
        (frames.map .ok ++ [.error .connectionClosed], []) ∧
      readTimes (read · max registry) (messages.length + 1) frames.flatten =
        (frames.map (Message.ofBytes · max registry) ++ [.error .connectionClosed], [])) ∧
      ∀ stream, headerLength ≤ stream.length → Header.IsRefused stream max →
        readBytes stream max = ⟨.error (Header.refusal stream max), stream.drop headerLength⟩ ∧
        read stream max registry =
          ⟨.error (Header.refusal stream max), stream.drop headerLength⟩ := by
  constructor
  · intro messages frames written
    have count : messages.length = frames.length := List.Forall₂.length_eq written
    have taken := takesOff_readBytes_of_areFrames written
    have bytes (tail : Bytes) := readTimes_flatten taken tail
    have parsed (tail : Bytes) :=
      readTimes_flatten (fun frame member => (taken frame member).read registry) tail
    rw [count]
    refine ⟨write_of_areFrames written, fun tail => ⟨bytes tail, parsed tail⟩, ?_, ?_⟩
    · have whole := bytes []
      rw [List.append_nil] at whole
      rw [readTimes_succ, whole]
      rfl
    · have whole := parsed []
      rw [List.append_nil] at whole
      rw [readTimes_succ, whole]
      rfl
  · intro stream long refused
    have front := readBytes_of_refused long (Header.parse_of_isRefused long refused)
    refine ⟨front, ?_⟩
    unfold read
    rw [front]
    rfl

/-- Two messages of different kinds. -/
def samplePair : List Message := [.msg Message.sampleMsg, .killCursors ⟨8, [5]⟩]

theorem stream_keeps_place_pair :
    (∃ frames, AreFrames 200 samplePair frames ∧
      readTimes (readBytes · 200) 2 (frames.flatten ++ [1, 2]) = (frames.map .ok, [1, 2])) ∧
      Header.IsRefused (List.replicate 18 0) 200 ∧
      readBytes (List.replicate 18 0) 200 =
        ⟨.error (Violation.messageLength 0).toError, [0, 0]⟩ := by
  have written : ∃ frames, AreFrames 200 samplePair frames :=
    ⟨_, .cons ⟨rfl, by decide +kernel⟩ (.cons ⟨rfl, by decide +kernel⟩ .nil)⟩
  obtain ⟨pairs, headers⟩ := stream_keeps_place 200 .default
  obtain ⟨frames, areFrames⟩ := written
  have refused : Header.IsRefused (List.replicate 18 0) 200 := .inl (by decide)
  exact ⟨⟨frames, areFrames, ((pairs _ _ areFrames).2.1 [1, 2]).1⟩, refused,
    (headers _ (by decide) refused).1⟩

end Stream

end DocumentDriver
