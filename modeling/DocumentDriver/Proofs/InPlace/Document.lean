/-
This file shows that no bytes break the readers of documents. A container is taken out only after its
declared length was compared with the bytes around it, and containers are followed only as deep as
is allowed, so everything in them lies inside them.
-/

import DocumentDriver.InPlace.Document
import DocumentDriver.Proofs.Document.Soundness
import DocumentDriver.Proofs.InPlace.Fields

namespace DocumentDriver

/-! ### Progress -/

namespace Read

variable {Result : Type}

theorem Sound.any {action : Read Result} {form : Result → Bytes → Prop} (sound : Sound action form) :
    Sound action fun _ _ => True :=
  sound.weaken fun _ _ _ => trivial

theorem sound_inside (bytes : Bytes) (inner : Read Result) :
    Sound (Read.inside bytes inner) fun _ head => head = [] := by
  intro reader result after run
  obtain ⟨rfl, -⟩ := of_inside_eq_ok run
  exact ⟨[], rfl, rfl⟩

end Read

namespace Decode

open Read

variable {document : Read Document} {array : Read (List Value)}

theorem sound_codeWithScope : Sound (codeWithScope document) fun _ _ => True :=
  (sound_length.bind fun total => sound_unless ((sound_take (total - 4)).bind fun contents =>
    sound_inside contents _)).any

/-- A value never gives bytes back. -/
theorem sound_value (documents : Sound document fun _ _ => True)
    (arrays : Sound array fun _ _ => True) (key : String) (kind : ElementType) :
    Sound (value document array key kind) fun _ _ => True := by
  by_cases plain : IsPlain kind
  · exact (sound_plain key kind plain).any
  · cases kind with
    | embeddedDocument => exact (documents.map Value.document).any
    | array => exact (arrays.map Value.array).any
    | regularExpression =>
      exact ((sound_name.bind fun pattern => sound_name.map (Regex.of pattern)).map Value.regex).any
    | javaScriptCodeWithScope => exact sound_codeWithScope
    | _ => exact absurd trivial plain

theorem sound_element (documents : Sound document fun _ _ => True)
    (arrays : Sound array fun _ _ => True) :
    Sound (element document array) fun _ head => head ≠ [] := by
  refine (sound_label.bind fun pair =>
    (sound_value documents arrays pair.2 pair.1).map fun content => (pair.2, content)).weaken ?_
  rintro _ _ ⟨_, _, tail, ⟨-, rfl⟩, -, rfl⟩
  exact List.cons_ne_nil _ _

theorem sound_entry {item : Read (String × Value)} (progress : Sound item fun _ head => head ≠ [])
    (before : Document) : Sound (entry item before) fun _ head => head ≠ [] := by
  refine (progress.bind fun pair => sound_unless (sound_pure ((pair.1, pair.2) :: before))).weaken ?_
  rintro _ _ ⟨_, head, _, nonempty, -, rfl⟩
  exact List.append_ne_nil_of_left_ne_nil nonempty _

theorem sound_document (room : Nat) : Sound (Decode.document room) fun _ head => head ≠ [] := by
  cases room with
  | zero => exact sound_fail _ _
  | succ room =>
    rw [Decode.document]
    refine (sound_frame.bind fun elements => sound_inside elements _).weaken ?_
    rintro _ _ ⟨_, head, _, contained, rfl, rfl⟩
    rw [List.append_nil]
    exact Encode.ne_nil_of_container contained

theorem sound_array (room : Nat) : Sound (Decode.array room) fun _ _ => True := by
  cases room with
  | zero => exact sound_fail _ _
  | succ room =>
    rw [Decode.array]
    exact (sound_frame.bind fun elements => sound_inside elements _).any

end Decode

namespace InPlace

variable [Machine]

section Readers

variable {allowed : Error → Prop} [AllowsCorruption allowed]

/-! ### Containers -/

theorem mirrors_frame {depth : Nat} (shallow : depth ≤ Decode.maxDepth) :
    Mirrors allowed (frame depth) Decode.frame := by
  unfold frame Decode.frame
  rw [if_neg (Nat.not_lt.2 shallow)]
  refine mirrors_peekInt32.bind fun declared => mirrors_unlessCorrupt fun large => ?_
  have least : 5 ≤ declared.toInt.toNat := by omega
  generalize declared.toInt.toNat = size at least
  intro whole place small inside
  have counted : ((whole.drop place).take size).length = min size (whole.length - place) := by
    rw [List.length_take, List.length_drop]
  show Agrees allowed whole (Scan.remaining ⟨whole, place⟩ >>= fun pair =>
      (if pair.1 < size then _ else _ : Scan Bytes) pair.2)
    ((if ((whole.drop place).take size).length < size then _ else _ : Read Bytes)
      ⟨place, whole.drop place⟩)
  rw [run_remaining inside, ok_bind, counted]
  by_cases short : whole.length - place < size
  · rw [if_pos short, Nat.min_eq_right (Nat.le_of_lt short), if_pos short]
    exact .refused (AllowsCorruption.corruptData _)
  · rw [if_neg short, Nat.min_eq_left (Nat.not_lt.1 short), if_neg (Nat.lt_irrefl _)]
    refine agrees_bind (mirrors_take size small inside) fun taken later inside ran => ?_
    obtain ⟨exact, rfl, -⟩ := Read.of_take_eq_ok ran
    refine (?_ : Mirrors allowed _ _) small inside
    generalize (whole.drop place).take size = bytes at exact
    obtain ⟨last, ended, found⟩ := index_last (by omega) exact
    rw [liftM_bind (difference_eq_ok (by omega)), liftM_bind found, ended]
    simp only [ne_eq, Option.some.injEq]
    refine mirrors_unlessCorrupt fun _ => ?_
    rw [liftM_eq_pure (slice_to_last (Nat.le_sub_one_of_lt least) exact)]
    exact mirrors_pure _

theorem frame_of_deep {depth : Nat} (deep : Decode.maxDepth < depth) :
    frame depth = Scan.corrupt .nestingTooDeep := by
  unfold frame
  rw [if_pos deep]

/-- What is inside a container is declared in 32 bits, so it is small. -/
theorem Mirrors.framed {Result : Type} {scan : Scan Result} {read : Read Result} {depth : Nat}
    (inner : Mirrors allowed scan read) (shallow : depth ≤ Decode.maxDepth) :
    Mirrors allowed (frame depth >>= fun elements => Scan.within elements scan)
      (Decode.frame >>= fun elements => Read.inside elements read) := by
  refine (mirrors_frame shallow).bind_sound Decode.sound_frame fun elements head contained => ?_
  obtain ⟨small, -⟩ := Encode.container_eq_ok_iff.1 contained
  exact inner.within (below_largest (by omega))

/-! ### Elements -/

theorem mirrors_label : Mirrors allowed label Decode.label := by
  refine mirrors_byte.bind fun byte => ?_
  cases ElementType.ofByte? byte with
  | none => exact mirrors_corrupt _
  | some type => exact mirrors_name.bind fun key => mirrors_pure (type, key)

theorem mirrors_binary : Mirrors allowed binary Decode.binary := by
  refine mirrors_length.bind_sound Read.sound_length fun length _ ⟨small, _⟩ =>
    mirrors_byte.bind fun byte => (mirrors_take length).bind_sound (Read.sound_take length) ?_
  rintro payload _ ⟨rfl, exact⟩
  by_cases old : (⟨byte⟩ : BinarySubtype) ≠ .old
  · simp only [if_pos old]
    exact mirrors_pure _
  · simp only [if_neg old]
    refine Mirrors.within (mirrors_length.bind_sound Read.sound_length fun inner _ ⟨fits, _⟩ => ?_)
      (below_largest (by omega))
    rw [liftM_bind (sum_eq_ok (Nat.le_of_lt (below_largest (by omega))))]
    exact mirrors_unlessCorrupt fun _ => mirrors_remainder.bind fun rest => mirrors_pure _

theorem mirrors_objectId : Mirrors allowed objectId Decode.objectId :=
  (mirrors_vector 12).map ObjectId.mk

theorem mirrors_boolean (key : String) : Mirrors allowed (boolean key) (Decode.boolean key) :=
  mirrors_byte.bind fun _ => mirrors_ite (fun _ => mirrors_pure false) fun _ =>
    mirrors_ite (fun _ => mirrors_pure true) fun _ => mirrors_corrupt _

theorem mirrors_regex : Mirrors allowed regex Decode.regex :=
  mirrors_name.bind fun pattern => mirrors_name.bind fun options =>
    mirrors_pure (Regex.of pattern options)

section Elements

variable {documents : Scan Document} {arrays : Scan (List Value)} {document : Read Document}
  {array : Read (List Value)}

theorem mirrors_codeWithScope (scopes : Mirrors allowed documents document) :
    Mirrors allowed (codeWithScope documents) (Decode.codeWithScope document) := by
  refine mirrors_length.bind_sound Read.sound_length fun total _ ⟨small, _⟩ =>
    mirrors_unlessCorrupt fun large => ?_
  rw [liftM_bind (difference_eq_ok (by omega))]
  refine (mirrors_take (total - 4)).bind_sound (Read.sound_take (total - 4)) ?_
  rintro contents _ ⟨rfl, exact⟩
  refine Mirrors.within (mirrors_text.bind fun text => scopes.bind fun scope =>
    mirrors_isEmpty.bind fun ended => ?_) (below_largest (by omega))
  cases ended with
  | true => exact mirrors_pure _
  | false => exact mirrors_corrupt _

theorem mirrors_value (inner : Mirrors allowed documents document) (items : Mirrors allowed arrays array)
    (key : String) (kind : ElementType) :
    Mirrors allowed (value documents arrays key kind) (Decode.value document array key kind) := by
  cases kind with
  | double => exact mirrors_uint64.bind fun _ => mirrors_pure _
  | string | javaScriptCode | symbol => exact mirrors_text.bind fun _ => mirrors_pure _
  | embeddedDocument => exact inner.bind fun _ => mirrors_pure _
  | array => exact items.bind fun _ => mirrors_pure _
  | binary => exact mirrors_binary.bind fun _ => mirrors_pure _
  | undefined | null | maxKey | minKey => exact mirrors_pure _
  | objectId => exact mirrors_objectId.bind fun _ => mirrors_pure _
  | boolean => exact (mirrors_boolean key).bind fun _ => mirrors_pure _
  | dateTime | int64 => exact mirrors_int64.bind fun _ => mirrors_pure _
  | regularExpression => exact mirrors_regex.bind fun _ => mirrors_pure _
  | dbPointer => exact mirrors_text.bind fun _ => mirrors_objectId.bind fun _ => mirrors_pure _
  | javaScriptCodeWithScope => exact mirrors_codeWithScope inner
  | int32 => exact mirrors_int32.bind fun _ => mirrors_pure _
  | timestamp => exact mirrors_uint32.bind fun _ => mirrors_uint32.bind fun _ => mirrors_pure _
  | decimal128 => exact (mirrors_vector 16).bind fun _ => mirrors_pure _

theorem mirrors_element (inner : Mirrors allowed documents document)
    (items : Mirrors allowed arrays array) :
    Mirrors allowed (element documents arrays) (Decode.element document array) :=
  mirrors_label.bind fun pair => (mirrors_value inner items pair.2 pair.1).bind fun content =>
    mirrors_pure (pair.2, content)

end Elements

theorem mirrors_entry {scan : Scan (String × Value)} {read : Read (String × Value)}
    (item : Mirrors allowed scan read) (before : Document) :
    Mirrors allowed (entry scan before) (Decode.entry read before) :=
  item.bind fun pair => mirrors_unlessCorrupt fun _ => mirrors_pure (pair :: before)

/-! ### Documents -/

theorem below_eq {Result : Type} {depth : Nat} (shallow : depth ≤ Decode.maxDepth)
    (inner : Nat → Scan Result) : below depth inner = inner (depth + 1) :=
  liftM_bind (sum_eq_ok (Nat.le_of_lt (below_largest
    (Nat.lt_of_le_of_lt (Nat.succ_le_succ shallow) (by decide))))) inner

/-- At every depth there is room for just the containers that a reader still follows. -/
theorem mirrors_containers (room depth : Nat) (counted : room + depth = Decode.maxDepth + 1) :
    Mirrors allowed (document room depth) (Decode.document room) ∧
      Mirrors allowed (array room depth) (Decode.array room) := by
  induction room generalizing depth with
  | zero =>
    have deep : Decode.maxDepth < depth := by omega
    rw [document, array, frame_of_deep deep]
    exact ⟨mirrors_corrupt _, mirrors_corrupt _⟩
  | succ room inductionHypothesis =>
    have shallow : depth ≤ Decode.maxDepth := by omega
    obtain ⟨inner, items⟩ := inductionHypothesis (depth + 1) (by omega)
    have each : Mirrors allowed (element (below depth (document room)) (below depth (array room)))
        (Decode.element (Decode.document room) (Decode.array room)) := by
      rw [below_eq shallow, below_eq shallow]
      exact mirrors_element inner items
    have progress := Decode.sound_element (Decode.sound_document room).any (Decode.sound_array room)
    rw [document, array, Decode.document, Decode.array]
    exact ⟨((mirrors_untilEmpty (mirrors_entry each) (Decode.sound_entry progress) []).bind
        fun reversed => mirrors_pure reversed.reverse).framed shallow,
      ((mirrors_listUntilEmpty each progress).bind fun labelled => mirrors_pure _).framed shallow⟩

theorem mirrors_outermost : Mirrors allowed outermost Read.document :=
  (mirrors_containers (Decode.maxDepth + 1) 0 rfl).1

end Readers

theorem agrees_outermost {bytes : Bytes} (small : bytes.length < Machine.largest) :
    Agrees Error.IsCorruption bytes (outermost ⟨bytes, 0⟩) (Read.document (Reader.start bytes)) :=
  mirrors_outermost small (Nat.zero_le _)

theorem completes_decodeLeading {bytes : Bytes} (small : bytes.length < Machine.largest) :
    Completes Error.IsCorruption (decodeLeading bytes) (Document.decodeLeading bytes) :=
  (agrees_outermost small).completes_bind fun document place _ => .done (document, place)

theorem completes_decode {bytes : Bytes} (small : bytes.length < Machine.largest) :
    Completes Error.IsCorruption (decode bytes) (Document.decode bytes) := by
  unfold decode decodeLeading
  rw [bind_assoc]
  refine (agrees_outermost small).completes_bind fun document place inside => ?_
  show Completes _ (if place ≠ bytes.length then _ else _)
    (if (bytes.drop place).isEmpty then _ else _)
  by_cases ended : place = bytes.length
  · rw [if_neg (not_not_intro ended), if_pos (by rw [ended, List.drop_length]; rfl)]
    exact .done document
  · have left : (bytes.drop place).isEmpty ≠ true := by
      rw [ne_eq, List.isEmpty_iff, List.drop_eq_nil_iff]
      omega
    rw [if_pos ended, if_neg left, difference_eq_ok inside, List.length_drop]
    exact .refused (.corruptData _)

end InPlace

end DocumentDriver
