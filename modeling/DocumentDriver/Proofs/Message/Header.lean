/-
This file says what is known once the header of a message has been read. The header is exactly the
first sixteen bytes, each field in its place, and the length that it declares is that of the whole
message and no greater than the ceiling.
-/

import DocumentDriver.Message.Basic
import DocumentDriver.Proofs.Bytes.Soundness
import DocumentDriver.Proofs.Message.RoundTrip

namespace DocumentDriver

open Read

/-- The signed 32-bit number that stands at a place. -/
def Bytes.int32At (bytes : Bytes) (place : Nat) : Int32 := Bytes.toInt32 ((bytes.drop place).take 4)

theorem Bytes.length_ofInt32 (number : Int32) : (Bytes.ofInt32 number).length = 4 :=
  length_littleEndian _ _

theorem Bytes.int32At_append {front rest : Bytes} {place : Nat} {number : Int32}
    (before : front.length = place) :
    Bytes.int32At (front ++ (Bytes.ofInt32 number ++ rest)) place = number := by
  unfold Bytes.int32At
  rw [List.drop_left' before, List.take_left' (Bytes.length_ofInt32 _), toInt32_ofInt32]

namespace Header

theorem sound_fields (max : Nat) :
    Sound (fields max) fun header head =>
      header.toBytes = head ∧ checkLength header.length max = .ok () := by
  refine (sound_int32.bind fun length => (sound_liftM (checkLength length max)).bind fun _ =>
    sound_int32.bind fun requestId => sound_int32.bind fun responseTo =>
      sound_int32.bind fun code => (sound_liftM (OpCode.ofCode code)).map fun kind =>
        Header.mk length requestId responseTo kind).weaken ?_
  rintro _ _ ⟨length, _, _, rfl, ⟨_, _, _, ⟨checked, rfl⟩, ⟨requestId, _, _, rfl, ⟨responseTo, _, _,
    rfl, ⟨code, _, _, rfl, ⟨kind, ⟨known, rfl⟩, rfl⟩, rfl⟩, rfl⟩, rfl⟩, rfl⟩, rfl⟩
  refine ⟨?_, checked⟩
  unfold toBytes
  rw [OpCode.code_of_ofCode known, List.append_nil, List.nil_append, List.append_assoc,
    List.append_assoc]

theorem bounds_of_checkLength {length : Int32} {max : Nat}
    (checked : checkLength length max = .ok ()) :
    (headerLength : Int) ≤ length.toInt ∧ length.toInt.toNat ≤ max := by
  unfold checkLength at checked
  split at checked
  · cases checked
  split at checked
  · cases checked
  next least most => exact ⟨Int.not_lt.1 least, Nat.not_lt.1 most⟩

theorem of_parse_eq_ok {bytes : Bytes} {max : Nat} {header : Header}
    (parsed : parse bytes max = .ok header) :
    header.toBytes ++ bytes.drop headerLength = bytes ∧
      checkLength header.length max = .ok () := by
  unfold parse at parsed
  dsimp only at parsed
  split at parsed
  · cases parsed
  next long =>
    cases run : fields max (Reader.start (bytes.take headerLength)) with
    | error error =>
      rw [run] at parsed
      cases parsed
    | ok pair =>
      rw [run] at parsed
      cases parsed
      obtain ⟨head, ⟨rfl, checked⟩, split⟩ := sound_fields max run
      have size : (bytes.take headerLength).length = headerLength + pair.2.rest.length := by
        rw [← length_toBytes pair.1, ← List.length_append, ← split]
        rfl
      have none : pair.2.rest = [] := by
        refine List.eq_nil_of_length_eq_zero ?_
        have most := List.length_take_le headerLength bytes
        omega
      rw [none, List.append_nil] at split
      have front : bytes.take headerLength = pair.1.toBytes := split
      exact ⟨by rw [← front, List.take_append_drop], checked⟩

/-- Nothing behind a length that is refused is looked at. -/
theorem fails_fields_of_length {length : Int32} {max : Nat} {error : Error}
    (refused : checkLength length max = .error error) (rest : Bytes) :
    Fails (fields max) (Bytes.ofInt32 length ++ rest) error := by
  have stopped : Fails (liftM (checkLength length max)) rest error := by
    rw [refused]
    exact fun _ _ => rfl
  exact (takes_int32 length).bind_fails (stopped.bind _)

/-- Fields that cannot be read are refused whatever the body is. -/
theorem parse_of_fails {front : Bytes} {max : Nat} {error : Error}
    (exact : front.length = headerLength) (failed : Fails (fields max) front error)
    (body : Bytes) : parse (front ++ body) max = .error error := by
  unfold parse
  dsimp only
  rw [List.take_left' exact, exact, if_neg (Nat.lt_irrefl _), failed.start]
  rfl

/-- Nothing but its length can keep a header from being read. -/
theorem parse_of_checkLength {header : Header} {max : Nat} {error : Error}
    (refused : checkLength header.length max = .error error) (body : Bytes) :
    parse (header.toBytes ++ body) max = .error error := by
  refine parse_of_fails header.length_toBytes ?_ body
  unfold toBytes
  rw [List.append_assoc, List.append_assoc]
  exact fails_fields_of_length refused _

/-- Each field of a header stands in its place. -/
theorem fields_of_toBytes {header : Header} {bytes rest : Bytes}
    (front : header.toBytes ++ rest = bytes) :
    bytes.int32At 4 = header.requestId ∧ bytes.int32At 8 = header.responseTo ∧
      bytes.int32At 12 = header.kind.code := by
  subst front
  unfold toBytes
  simp only [List.append_assoc]
  refine ⟨Bytes.int32At_append (Bytes.length_ofInt32 _), ?_, ?_⟩
  · rw [← List.append_assoc]
    exact Bytes.int32At_append (by simp [Bytes.length_ofInt32])
  · rw [← List.append_assoc, ← List.append_assoc]
    exact Bytes.int32At_append (by simp [Bytes.length_ofInt32])

end Header

namespace Message

/-- These bytes begin with this header, which declares their number, no greater than the
ceiling. -/
structure HasHeader (bytes : Bytes) (max : Nat) (header : Header) : Prop where
  parsed : Header.parse bytes max = .ok header
  front : header.toBytes ++ bytes.drop headerLength = bytes
  declared : header.length.toInt = bytes.length
  most : bytes.length ≤ max

theorem HasHeader.length_eq {bytes : Bytes} {max : Nat} {header : Header}
    (known : HasHeader bytes max header) :
    headerLength + (bytes.drop headerLength).length = bytes.length := by
  conv_rhs => rw [← known.front, List.length_append, Header.length_toBytes]

theorem exists_header_of_decode {bytes : Bytes} {max : Nat} {message : Message}
    (read : decode bytes max = .ok message) :
    ∃ header, HasHeader bytes max header ∧
      ∃ after, readBody header (Reader.start (bytes.drop headerLength)) = .ok (message, after) := by
  obtain ⟨header, parsed, rest⟩ := bind_eq_ok_iff.1 read
  obtain ⟨_, checked, rest⟩ := bind_eq_ok_iff.1 rest
  obtain ⟨⟨given, after⟩, run, same⟩ := bind_eq_ok_iff.1 rest
  cases same
  obtain ⟨front, bounded⟩ := Header.of_parse_eq_ok parsed
  have declared : header.length.toInt = bytes.length := by
    unfold checkDeclaredLength at checked
    split at checked
    next same => exact same
    next => cases checked
  have most := (Header.bounds_of_checkLength bounded).2
  rw [declared, Int.toNat_natCast] at most
  exact ⟨header, ⟨parsed, front, declared, most⟩, after, run⟩

/-- A written message begins with its own header. -/
theorem hasHeader_of_serialize {message : Message} {bytes : Bytes} {max : Nat}
    (written : message.serialize = .ok bytes) (enough : bytes.length ≤ max) :
    HasHeader bytes max (message.header (Bytes.toInt32 (littleEndian 4 bytes.length))) ∧
      message.body = .ok (bytes.drop headerLength) := by
  obtain ⟨body, contents, small, same⟩ := serialize_eq_ok_iff.1 written
  have size : headerLength + body.length = bytes.length := by
    rw [← same, List.length_append, Header.length_toBytes]
  rw [size] at same small
  have declared := toInt_toInt32_littleEndian bytes.length small
  have behind : bytes.drop headerLength = body := by
    rw [← same, List.drop_left' (Header.length_toBytes _)]
  generalize Bytes.toInt32 (littleEndian 4 bytes.length) = length at same declared
  have parsed : Header.parse ((message.header length).toBytes ++ body) max =
      .ok (message.header length) := by
    refine Header.parse_toBytes ?_ ?_ body
    · show (headerLength : Int) ≤ length.toInt
      omega
    · show length.toInt.toNat ≤ max
      omega
  rw [behind]
  exact ⟨⟨same ▸ parsed, behind ▸ same, declared, enough⟩, contents⟩

/-- A written message is read back, apart from what is lost on purpose. -/
theorem decode_eq_received {message : Message} {bytes : Bytes} {max : Nat}
    (readable : message.IsReadable) (written : message.serialize = .ok bytes)
    (enough : bytes.length ≤ max) : decode bytes max = .ok message.received := by
  obtain ⟨known, contents⟩ := hasHeader_of_serialize written enough
  have declared : (Bytes.toInt32 (littleEndian 4 bytes.length)).toInt =
      (headerLength + (bytes.drop headerLength).length : Nat) := by
    rw [known.length_eq]
    exact known.declared
  have given := ofBody_serialized readable contents declared
  rw [known.front] at given
  unfold decode
  rw [known.parsed]
  exact given

end Message

end DocumentDriver
