/-
This file shows that no bytes break the readers of whole messages. A length is taken for a size only
after it was compared with the ceiling and with the bytes there are. What a compressor is asked for
is checked before it is asked, and what it gives has just the size that was asked for, so the
restored message is no larger than a message may be.
-/

import DocumentDriver.Proofs.InPlace.Bodies
import DocumentDriver.Proofs.Message.Compression

namespace DocumentDriver

open Error

/-! ### Compressors -/

/-- The bytes are as many as were asked for, or it is said why there are none. -/
inductive Compressor.GivesExactly (demanded : Nat) : Written → Prop
  | given {restored : Bytes} (exact : restored.length = demanded) : GivesExactly demanded (.ok restored)
  | refused (reason : String) : GivesExactly demanded (.error (.compression reason))

/-- The compressor never gives more or fewer bytes than it is asked for. -/
def Compressor.IsExact (compressor : Compressor) : Prop :=
  ∀ bytes demanded, GivesExactly demanded (compressor.decompress bytes demanded)

theorem Compressor.isExact_noop : noop.IsExact := by
  intro bytes demanded
  show GivesExactly demanded (if bytes.length = demanded then _ else _)
  by_cases same : bytes.length = demanded
  · rw [if_pos same]
    exact .given same
  · rw [if_neg same]
    exact .refused _

theorem Compressor.isExact_zlib (level : Nat) : (zlib level).IsExact := by
  intro bytes demanded
  show GivesExactly demanded (inflate bytes demanded)
  unfold inflate
  obtain ⟨result, output⟩ := Inflate.run _ _
  dsimp -zeta only
  extract_lets failed length
  by_cases stopped : failed = true
  · rw [if_pos stopped]
    exact .refused _
  rw [if_neg stopped]
  by_cases same : length = demanded
  · rw [if_pos same]
    refine .given ?_
    have size : output.data.toList.length = output.size := rfl
    rw [List.length_take, size]
    omega
  · rw [if_neg same]
    exact .refused _

/-- Whichever number a wrapper names, the compressor that is found for it is exact. -/
def CompressorRegistry.IsExact (registry : CompressorRegistry) : Prop :=
  ∀ id compressor, registry.get? id = some compressor → compressor.IsExact

theorem CompressorRegistry.isExact_default : default.IsExact := by
  intro id compressor registered
  have known := List.mem_of_find?_eq_some registered
  obtain rfl | rfl := List.mem_pair.1 known
  · exact Compressor.isExact_noop
  · exact Compressor.isExact_zlib _

namespace InPlace

section Readers

variable [Machine]

/-! ### Headers -/

theorem mirrors_fields (max : Nat) : Mirrors IsUnreadable (fields max) (Header.fields max) :=
  mirrors_int32.bind fun length => (mirrors_attempt (Header.failsOnly_checkLength length max)).bind
    fun _ => mirrors_int32.bind fun _ => mirrors_int32.bind fun _ => mirrors_int32.bind fun code =>
      (mirrors_attempt (OpCode.failsOnly_ofCode code)).bind fun _ => mirrors_pure _

theorem completes_header (bytes : Bytes) (max : Nat) :
    Completes IsUnreadable (header bytes max) (Header.parse bytes max) := by
  unfold header Header.parse
  by_cases short : bytes.length < headerLength
  · have few : bytes.take headerLength = bytes := List.take_of_length_le (Nat.le_of_lt short)
    simp only [few, if_pos short]
    exact .refused (.protocol _)
  · have front : (bytes.take headerLength).length = headerLength :=
      List.length_take_of_le (Nat.not_lt.1 short)
    have agrees : Agrees IsUnreadable (bytes.take headerLength) _ _ :=
      mirrors_fields max (below_largest (by rw [front]; decide)) (Nat.zero_le _)
    simp only [front, if_neg short, if_neg (Nat.lt_irrefl _),
      slice_eq_ok (Nat.zero_le _) (Nat.not_lt.1 short)]
    exact agrees.completes

/-! ### Messages -/

theorem completes_message {bytes : Bytes} (small : bytes.length < Machine.largest) (max : Nat) :
    Completes IsUnreadable (message bytes max) (Message.decode bytes max) := by
  refine (completes_header bytes max).bind fun header parsed => ?_
  obtain ⟨front, checked⟩ := Header.of_parse_eq_ok parsed
  have least := (Header.bounds_of_checkLength checked).1
  have long : headerLength ≤ bytes.length := by
    rw [← front, List.length_append, Header.length_toBytes]
    exact Nat.le_add_right _ _
  rw [size_eq_ok (Int.le_trans (Int.natCast_nonneg _) least)]
  unfold Message.ofBody Message.checkDeclaredLength
  by_cases declared : header.length.toInt = bytes.length
  · have same : ¬header.length.toInt.toNat ≠ bytes.length := by omega
    rw [if_pos declared]
    simp only [ok_bind, if_neg same, slice_to_end long]
    have fewer : (bytes.drop headerLength).length < Machine.largest := by
      rw [List.length_drop]
      omega
    exact (agrees_body header fewer).completes
  · have other : header.length.toInt.toNat ≠ bytes.length := by omega
    rw [if_neg declared]
    simp only [ok_bind, if_pos other]
    exact .refused (.protocol _)

/-! ### Compressed messages -/

/-- What the ceiling leaves room for is restored without accidents. -/
theorem completes_expand {compressor : Compressor} (exact : compressor.IsExact) (bytes : Bytes)
    {demanded max : Nat} (room : demanded + headerLength ≤ max) (small : demanded < 2 ^ 31) :
    Completes IsUnreadable (expand compressor bytes demanded max)
      (compressor.decompress bytes demanded) := by
  unfold expand
  rw [sum_eq_ok (Nat.le_of_lt (below_largest (by omega))), difference_eq_ok (by omega)]
  simp only [ok_bind, if_neg (Nat.not_lt.2 (Nat.le_sub_of_add_le room))]
  refine completes_mapError ?_
  intro error failed
  have given := exact bytes demanded
  rw [failed] at given
  cases given with
  | refused reason => exact .compression reason

theorem completes_restore (wrapper : Compressed) {registry : CompressorRegistry}
    (exact : registry.IsExact) (max : Nat) :
    Completes IsUnreadable (restore wrapper registry max) (wrapper.restore registry max) := by
  unfold restore Compressed.restore
  by_cases nested : wrapper.inner = .compressed
  · rw [if_pos nested, if_pos nested]
    exact .refused (.protocol _)
  simp only [if_neg nested]
  refine (completes_mapError wrapper.failsOnly_restoredLength).bind fun length announced => ?_
  refine (completes_mapError (Header.failsOnly_checkLength length max)).bind fun _ checked => ?_
  obtain ⟨least, most⟩ := Header.bounds_of_checkLength checked
  have together := Compressed.restoredLength_eq_ok_iff.1 announced
  have high := length.toInt_lt
  cases registered : registry.get? wrapper.compressor with
  | none => exact .refused (.compression _)
  | some compressor =>
    have known := exact _ _ registered
    have positive : 0 ≤ wrapper.size.toInt ∧ 0 ≤ length.toInt := by omega
    simp only [size_eq_ok positive.1, size_eq_ok positive.2, ok_bind]
    refine (completes_expand known wrapper.bytes (by omega) (by omega)).bind fun restored given => ?_
    refine completes_message ?_ max
    have gives := known wrapper.bytes wrapper.size.toInt.toNat
    rw [given] at gives
    obtain ⟨count⟩ := gives
    rw [List.length_append, Header.length_toBytes, count]
    exact below_largest (by omega)

theorem completes_ofBytes {bytes : Bytes} (small : bytes.length < Machine.largest) (max : Nat)
    {registry : CompressorRegistry} (exact : registry.IsExact) :
    Completes IsUnreadable (ofBytes bytes max registry) (Message.ofBytes bytes max registry) := by
  refine (completes_message small max).bind fun message _ => ?_
  cases message with
  | compressed wrapper => exact completes_restore wrapper exact max
  | _ => exact .done _

end Readers

/-! ### All readers -/

/-- No bytes break the readers. On any machine, whatever the bytes and the ceiling are, reading them
in place ends without an accident: no place lies outside the bytes, no size is computed that is too
large or below zero, no compressor is asked for more than the ceiling leaves room for, and every loop
ends. What comes out is what the readers give, and the errors are those of documents or of messages.
No bytes that a machine holds are as many as its largest size. The compressors may be any that give
what they are asked for, such as those that are known from the start. -/
theorem readers_have_no_accidents [Machine] (bytes : Bytes) (held : bytes.length < Machine.largest)
    (max : Nat) :
    Completes IsCorruption (decode bytes) (Document.decode bytes) ∧
      Completes IsCorruption (decodeLeading bytes) (Document.decodeLeading bytes) ∧
      Completes IsUnreadable (message bytes max) (Message.decode bytes max) ∧
      CompressorRegistry.default.IsExact ∧ ∀ registry : CompressorRegistry, registry.IsExact →
        Completes IsUnreadable (ofBytes bytes max registry) (Message.ofBytes bytes max registry) :=
  ⟨completes_decode held, completes_decodeLeading held, completes_message held max,
    CompressorRegistry.isExact_default, fun _ exact => completes_ofBytes held max exact⟩

theorem readers_have_no_accidents_wrapperBytes :
    Message.wrapperBytes.length < Machine.wide.largest ∧
      @ofBytes Machine.wide Message.wrapperBytes 50 .default = .ok (.msg Message.readCommand) := by
  have held : Message.wrapperBytes.length < Machine.wide.largest := by decide
  obtain ⟨-, -, -, exact, completes⟩ := @readers_have_no_accidents Machine.wide _ held 50
  have read : Message.ofBytes Message.wrapperBytes 50 .default = .ok (.msg Message.readCommand) := rfl
  have completed := completes .default exact
  rw [read] at completed
  exact ⟨held, completed.eq_ok⟩

end InPlace

end DocumentDriver
