/-
This file proves that the fields of documents are written as they were read. Each value without
containers and flags has exactly one written form, and a frame holds its elements and nothing else:
the declared length, the last zero byte and the inner lengths leave no choice.
-/

import DocumentDriver.Proofs.Bytes.Soundness
import DocumentDriver.Proofs.Document.RoundTrip

namespace DocumentDriver

open Read

namespace Decode

/-- The kinds whose values hold no container and no flags. -/
def IsPlain : ElementType → Prop
  | .embeddedDocument | .array | .regularExpression | .javaScriptCodeWithScope => False
  | _ => True

variable {document : Read Document} {array : Read (List Value)}

theorem sound_objectId : Sound objectId fun id head => id.toBytes = head := by
  refine ((sound_vector 12).map ObjectId.mk).weaken ?_
  rintro id head ⟨bytes, rfl, rfl⟩
  rfl

theorem sound_boolean (key : String) :
    Sound (boolean key) fun truth head => [if truth then 1 else 0] = head := by
  have tested (byte : UInt8) : Sound (if byte = 0 then return false
      else if byte = 1 then return true else Read.corrupt (.invalidBoolean byte key))
      fun truth tail => (if truth then 1 else 0) = byte ∧ tail = [] := by
    by_cases zero : byte = 0
    · rw [if_pos zero]
      exact (sound_pure false).weaken fun _ _ ⟨same, empty⟩ => by simp [← same, zero, empty]
    · rw [if_neg zero]
      by_cases one : byte = 1
      · rw [if_pos one]
        exact (sound_pure true).weaken fun _ _ ⟨same, empty⟩ => by simp [← same, one, empty]
      · rw [if_neg one]
        exact sound_fail _ _
  refine (sound_byte.bind tested).weaken ?_
  rintro truth head ⟨byte, _, _, rfl, ⟨rfl, rfl⟩, rfl⟩
  rfl

theorem sound_binary : Sound binary fun data head => Encode.binary data = .ok head := by
  have payload (count : Nat) (subtype : BinarySubtype) (bytes : Bytes) :
      Sound (if subtype ≠ .old then return ⟨subtype, bytes⟩ else
          Read.inside bytes do
            let inner ← Read.length
            if inner + 4 ≠ count then Read.corrupt (.oldBinaryLength inner count) else
            return ⟨subtype, ← Read.remainder⟩)
        fun (data : Binary) tail => tail = [] ∧ data.subtype = subtype ∧
          if subtype ≠ .old then data.bytes = bytes
          else littleEndian 4 (count - 4) ++ data.bytes = bytes := by
    by_cases other : subtype ≠ .old
    · simp only [if_pos other]
      exact (sound_pure _).weaken fun _ _ ⟨same, empty⟩ => by simp [← same, empty]
    · simp only [if_neg other]
      refine ((sound_length.bind_toEnd fun inner => soundToEnd_unless
        (soundToEnd_remainder.map fun rest => Binary.mk subtype rest)).inside bytes).weaken ?_
      rintro _ tail ⟨⟨inner, _, rest, ⟨-, rfl⟩, ⟨exact, _, rfl, rfl⟩, rfl⟩, rfl⟩
      have inside : count - 4 = inner := by omega
      rw [inside]
      exact ⟨rfl, rfl, rfl⟩
  refine (sound_length.bind fun count => sound_byte.bind fun byte =>
    (sound_take count).bind fun bytes => payload count ⟨byte⟩ bytes).weaken ?_
  rintro data head ⟨count, _, _, ⟨small, rfl⟩, ⟨byte, _, _, rfl, ⟨bytes, _, _, ⟨rfl, exact⟩,
    ⟨rfl, kind, given⟩, rfl⟩, rfl⟩, rfl⟩
  unfold Encode.binary
  rw [kind]
  by_cases other : (⟨byte⟩ : BinarySubtype) ≠ .old
  · rw [if_pos other] at given
    rw [given, exact, Encode.length_eq_ok_iff.2 ⟨small, rfl⟩]
    show (if _ then _ else _ : Written) = _
    rw [if_neg other, List.append_nil]
    rfl
  · rw [if_neg other] at given
    have size : data.bytes.length + 4 = count := by
      rw [← exact, ← given, List.length_append, length_littleEndian, Nat.add_comm]
    have inner : data.bytes.length = count - 4 := by omega
    rw [Encode.length_eq_ok_iff.2 ⟨by omega, rfl⟩]
    show (if _ then (if _ then _ else _) else _ : Written) = _
    rw [if_pos (not_not.1 other), if_pos (by omega), size, inner, given, List.append_nil]
    rfl

/-- Content that is made from one field is written as that field was. -/
theorem sound_content {Field : Type} {field : Read Field} {form : Field → Bytes → Prop}
    {content : Field → Value} {kind : ElementType} (sound : Sound field form)
    (kinded : ∀ given, (content given).elementType = kind)
    (written : ∀ given head, form given head → Encode.value (content given) = .ok head) :
    Sound (field >>= fun given => pure (content given)) fun content head =>
      content.elementType = kind ∧ Encode.value content = .ok head := by
  refine (sound.map content).weaken ?_
  rintro _ head ⟨given, formed, rfl⟩
  exact ⟨kinded given, written given head formed⟩

/-- A value without containers and flags is written as it was read. -/
theorem sound_plain (key : String) (kind : ElementType) (plain : IsPlain kind) :
    Sound (value document array key kind) fun content head =>
      content.elementType = kind ∧ Encode.value content = .ok head := by
  cases kind with
  | embeddedDocument | array | regularExpression | javaScriptCodeWithScope => exact plain.elim
  | undefined | null | maxKey | minKey =>
    refine (sound_pure _).weaken ?_
    rintro content head ⟨rfl, rfl⟩
    exact ⟨rfl, by rw [Encode.value]⟩
  | double =>
    exact sound_content sound_uint64 (fun _ => rfl) fun _ _ form => by rw [Encode.value, form]
  | string | javaScriptCode | symbol =>
    exact sound_content sound_text (fun _ => rfl) fun _ _ form => by
      rw [Encode.value, Encode.text_eq_ok_iff.2 form]
  | binary =>
    exact sound_content sound_binary (fun _ => rfl) fun _ _ form => by rw [Encode.value, form]
  | objectId =>
    exact sound_content sound_objectId (fun _ => rfl) fun _ _ form => by rw [Encode.value, form]
  | boolean =>
    exact sound_content (sound_boolean key) (fun _ => rfl) fun _ _ form => by
      rw [Encode.value, form]
  | dateTime | int64 =>
    exact sound_content sound_int64 (fun _ => rfl) fun _ _ form => by rw [Encode.value, form]
  | int32 =>
    exact sound_content sound_int32 (fun _ => rfl) fun _ _ form => by rw [Encode.value, form]
  | decimal128 =>
    exact sound_content (sound_vector 16) (fun _ => rfl) fun _ _ form => by
      rw [Encode.value, form]
  | dbPointer =>
    refine (sound_text.bind fun space =>
      sound_objectId.map fun id => Value.dbPointer ⟨space, id⟩).weaken ?_
    rintro content head ⟨space, front, _, form, ⟨id, rfl, rfl⟩, rfl⟩
    refine ⟨rfl, ?_⟩
    rw [Encode.value, Encode.text_eq_ok_iff.2 form]
    rfl
  | timestamp =>
    refine (sound_uint32.bind fun increment =>
      sound_uint32.map fun time => Value.timestamp ⟨time, increment⟩).weaken ?_
    rintro content head ⟨increment, _, _, rfl, ⟨time, rfl, rfl⟩, rfl⟩
    exact ⟨rfl, by rw [Encode.value]⟩

/-- Nothing inside such a value is read by the readers of containers. -/
theorem value_of_isPlain {kind : ElementType} (plain : IsPlain kind) (key : String) :
    value document array key kind = value (Decode.document 0) (Decode.array 0) key kind := by
  cases kind with
  | embeddedDocument | array | regularExpression | javaScriptCodeWithScope => exact plain.elim
  | _ => rfl

/-! ### Frames and labels -/

/-- What is read as the elements of a container is in the frame that a writer would give it. -/
theorem sound_frame : Sound frame fun elements head => Encode.container elements = .ok head := by
  intro reader elements after whole
  obtain ⟨declared, between, peeked, run⟩ := exists_of_bind_eq_ok whole
  obtain ⟨rfl, front⟩ := of_peekInt32_eq_ok peeked
  by_cases tooSmall : declared.toInt < 5
  · rw [if_pos tooSmall] at run
    cases run
  rw [if_neg tooSmall] at run
  obtain ⟨reader, _, same, run⟩ := exists_of_bind_eq_ok run
  cases same
  have positive : ¬declared.toInt < 0 := by omega
  obtain ⟨small, number⟩ := littleEndian_of_nonneg positive
  have least : 5 ≤ declared.toInt.toNat := by omega
  generalize declared.toInt.toNat = size at *
  dsimp only at run
  split at run
  next => cases run
  obtain ⟨taken, _, ran, run⟩ := exists_of_bind_eq_ok run
  obtain ⟨exact, taking, rest⟩ := of_take_eq_ok ran
  rw [taking] at run
  split at run
  next => cases run
  next ended =>
    cases run
    have first : taken.take 4 = littleEndian 4 size := by
      rw [number, ← front, ← taking, List.take_take, Nat.min_eq_left (by omega)]
    have last : (taken.drop 4).getLast? = some 0 := by
      rw [List.getLast?_drop, if_neg (by omega)]
      exact not_not.1 ended
    have inner : (taken.drop 4).dropLast ++ [0] = taken.drop 4 :=
      List.dropLast_append_getLast? 0 last
    have length : (taken.drop 4).dropLast.length + 5 = size := by
      rw [List.length_dropLast, List.length_drop]
      omega
    refine ⟨taken, Encode.container_eq_ok_iff.2 ⟨by omega, ?_⟩, ?_⟩
    · rw [length, inner, ← first, List.take_append_drop]
    · rw [rest, ← taking, List.take_append_drop]

theorem sound_announced (byte : UInt8) :
    Sound (match ElementType.ofByte? byte with
      | none => Read.corrupt (.unknownElementType byte)
      | some type => return (type, ← Read.name))
      fun pair tail => pair.1.byte = byte ∧ 0 ∉ Utf8.encode pair.2 ∧
        Utf8.encode pair.2 ++ [0] = tail := by
  cases found : ElementType.ofByte? byte with
  | none => exact sound_fail _ _
  | some type =>
    refine (sound_name.map fun key => (type, key)).weaken ?_
    rintro _ tail ⟨key, form, rfl⟩
    exact ⟨ElementType.byte_of_ofByte? found, form⟩

theorem sound_label :
    Sound label fun pair head => 0 ∉ Utf8.encode pair.2 ∧
      [pair.1.byte] ++ (Utf8.encode pair.2 ++ [0]) = head := by
  refine (sound_byte.bind sound_announced).weaken ?_
  rintro pair head ⟨byte, _, _, rfl, ⟨rfl, clean, rfl⟩, rfl⟩
  exact ⟨clean, rfl⟩

end Decode

end DocumentDriver
