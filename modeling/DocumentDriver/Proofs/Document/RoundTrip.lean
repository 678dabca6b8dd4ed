/-
This file proves that reading a written document gives the document back. Whether a container can be
read depends on the room that is left for containers inside it, so everything is proved by induction
on the room: with enough of it a value takes exactly its written form, and a value nested deeper
fails, because the entries in front of the first one that is too deep are still read.
-/

import DocumentDriver.Document.Decode
import DocumentDriver.Proofs.Bytes.Reading
import DocumentDriver.Proofs.Document.Keys
import DocumentDriver.Proofs.Document.Written

namespace DocumentDriver

open Read

namespace Decode

variable {Result : Type}

/-! ### Frames -/

theorem takes_frame {elements bytes : Bytes} (written : Encode.container elements = .ok bytes) :
    Takes frame bytes elements := by
  obtain ⟨small, same⟩ := Encode.container_eq_ok_iff.1 written
  have whole := Encode.length_of_container written
  have last : bytes.getLast? = some 0 := by
    rw [← same, ← List.append_assoc, List.getLast?_concat]
  have middle : (bytes.drop 4).dropLast = elements := by
    rw [← same, List.drop_left' (length_littleEndian _ _), List.dropLast_concat]
  have declared : (Bytes.toInt32 (littleEndian 4 (elements.length + 5))).toInt = bytes.length := by
    rw [toInt_toInt32_littleEndian _ small, whole]
  intro position rest
  have peeked : peekInt32 ⟨position, bytes ++ rest⟩ =
      .ok (Bytes.toInt32 (littleEndian 4 (elements.length + 5)), ⟨position, bytes ++ rest⟩) := by
    rw [← same, List.append_assoc]
    exact peekInt32_of_takes (takes_number 4 _ _ _ (length_littleEndian _ _) rfl) position _
  unfold frame
  rw [run_bind, peeked]
  generalize Bytes.toInt32 (littleEndian 4 (elements.length + 5)) = number at declared
  show (if number.toInt < 5 then _ else _ : Read Bytes) _ = _
  rw [if_neg (by omega), declared, Int.toNat_natCast]
  show (if ((bytes ++ rest).take bytes.length).length < bytes.length then _ else _ : Read Bytes)
    ⟨position, bytes ++ rest⟩ = _
  rw [List.take_left, if_neg (Nat.lt_irrefl _), run_bind, takes_take]
  show (if bytes.getLast? ≠ some 0 then _ else _ : Read Bytes) _ = _
  rw [if_neg (not_not_intro last), middle]
  rfl

/-- What is read from the elements of a container is read from the container. -/
theorem takes_framed {inner : Read Result} {elements bytes : Bytes} {result : Result}
    (written : Encode.container elements = .ok bytes) (exhausted : Exhausts inner elements result) :
    Takes (frame >>= fun elements => Read.inside elements inner) bytes result :=
  (takes_frame written).bind_last exhausted.inside

theorem fails_framed {inner : Read Result} {elements bytes : Bytes} {error : Error}
    (written : Encode.container elements = .ok bytes)
    (failed : inner (Reader.start elements) = .error error) :
    Fails (frame >>= fun elements => Read.inside elements inner) bytes error :=
  (takes_frame written).bind_fails_last (fails_inside failed)

/-! ### Elements -/

section Elements

variable {document : Read Document} {array : Read (List Value)}

/-- These readers of containers take the written form of a value. -/
def TakesValue (document : Read Document) (array : Read (List Value)) (content : Value) : Prop :=
  ∀ key bytes, Encode.value content = .ok bytes →
    Takes (value document array key content.elementType) bytes content

/-- These readers of containers fail on the written form of a value, which is too deep for them. -/
def FailsValue (document : Read Document) (array : Read (List Value)) (content : Value) : Prop :=
  ∀ key bytes, Encode.value content = .ok bytes →
    Fails (value document array key content.elementType) bytes Corruption.nestingTooDeep.toError

theorem takes_label (kind : ElementType) (key : String) (clean : 0 ∉ Utf8.encode key) :
    Takes label ([kind.byte] ++ (Utf8.encode key ++ [0])) (kind, key) := by
  refine (takes_byte kind.byte).bind ?_
  rw [ElementType.ofByte?_byte]
  exact (takes_name key clean).bind_pure _

theorem takes_element {key : String} {content : Value} {bytes : Bytes}
    (written : Encode.IsElement key content bytes) (taken : TakesValue document array content) :
    Takes (element document array) bytes (key, content) := by
  obtain ⟨clean, contents, inner, rfl⟩ := written
  rw [← List.append_assoc]
  exact (takes_label _ key clean).bind ((taken key contents inner).bind_pure _)

theorem fails_element {key : String} {content : Value} {bytes : Bytes}
    (written : Encode.IsElement key content bytes) (failed : FailsValue document array content) :
    Fails (element document array) bytes Corruption.nestingTooDeep.toError := by
  obtain ⟨clean, contents, inner, rfl⟩ := written
  rw [← List.append_assoc]
  exact (takes_label _ key clean).bind_fails ((failed key contents inner).bind _)

theorem takesEach_element {fields : List (String × Value)} {bytes : Bytes}
    (written : Encode.entries fields = .ok bytes)
    (taken : ∀ field ∈ fields, TakesValue document array field.2) :
    TakesEach (element document array) bytes fields := by
  induction fields generalizing bytes with
  | nil =>
    rw [Encode.entries] at written
    cases written
    exact .nil
  | cons first rest inductionHypothesis =>
    obtain ⟨head, tail, one, others, rfl⟩ := Encode.entries_cons_eq_ok_iff.1 written
    obtain ⟨takenFirst, takenRest⟩ := List.forall_mem_cons.1 taken
    exact .cons (takes_element one takenFirst) one.ne_nil (inductionHypothesis others takenRest)

/-- Some entry is the first that is too deep. Those in front of it are read, and it fails. -/
theorem takesEach_until_deep {room : Nat} {fields : List (String × Value)} {bytes : Bytes}
    (written : Encode.entries fields = .ok bytes) (deep : room < Value.depthEntries fields)
    (taken : ∀ field ∈ fields, field.2.depth ≤ room → TakesValue document array field.2)
    (failed : ∀ field ∈ fields, room < field.2.depth → FailsValue document array field.2) :
    ∃ before front head tail, before <+: fields ∧ front ++ (head ++ tail) = bytes ∧
      TakesEach (element document array) front before ∧ head ≠ [] ∧
      Fails (element document array) head Corruption.nestingTooDeep.toError := by
  induction fields generalizing bytes with
  | nil =>
    rw [Value.depthEntries] at deep
    exact absurd deep (Nat.not_lt_zero room)
  | cons first rest inductionHypothesis =>
    obtain ⟨key, content⟩ := first
    obtain ⟨head, tail, one, others, rfl⟩ := Encode.entries_cons_eq_ok_iff.1 written
    obtain ⟨takenFirst, takenRest⟩ := List.forall_mem_cons.1 taken
    obtain ⟨failedFirst, failedRest⟩ := List.forall_mem_cons.1 failed
    -- Entries are read in order, so what comes after the first failure does not matter.
    by_cases here : room < content.depth
    · exact ⟨[], [], head, tail, List.nil_prefix, rfl, .nil, one.ne_nil,
        fails_element one (failedFirst here)⟩
    · have later : room < Value.depthEntries rest := by
        rw [Value.depthEntries] at deep
        omega
      obtain ⟨before, front, middle, last, initial, rfl, each, some, fails⟩ :=
        inductionHypothesis others later takenRest failedRest
      refine ⟨(key, content) :: before, head ++ front, middle, last, ?_, ?_, ?_, some, fails⟩
      · exact List.prefix_cons_inj _ |>.2 initial
      · rw [List.append_assoc]
      · exact .cons (takes_element one (takenFirst (Nat.le_of_not_lt here))) one.ne_nil each

end Elements

/-! ### Entries of a document -/

theorem takes_entry {item : Read (String × Value)} {before : Document} {key : String}
    {content : Value} {bytes : Bytes} (taken : Takes item bytes (key, content))
    (fresh : before.contains key = false) :
    Takes (entry item before) bytes ((key, content) :: before) := by
  refine taken.bind_last ?_
  show Takes (if before.contains key = true then _ else _) [] _
  rw [fresh, if_neg Bool.false_ne_true]
  exact takes_pure _

/-- Entries with distinct keys are gathered last to first. -/
theorem steps_entry {item : Read (String × Value)} {bytes : Bytes} {fields : Document}
    (each : TakesEach item bytes fields) (before : Document)
    (distinct : (Document.keys (fields.reverse ++ before)).Nodup) :
    Steps (entry item) before bytes (fields.reverse ++ before) := by
  induction each generalizing before with
  | nil => exact .done before
  | @cons head tail first rest taken some others inductionHypothesis =>
    rw [List.reverse_cons, List.append_assoc] at distinct ⊢
    refine .more (takes_entry taken ?_) some (inductionHypothesis (first :: before) distinct)
    unfold Document.keys at distinct
    rw [List.map_append] at distinct
    exact Document.contains_eq_false (List.nodup_cons.1 (List.nodup_append.1 distinct).2.1).1

theorem steps_entries {item : Read (String × Value)} {bytes : Bytes} {fields : Document}
    (each : TakesEach item bytes fields) (distinct : fields.keys.Nodup) :
    Steps (entry item) [] bytes fields.reverse := by
  have reversed : (Document.keys (fields.reverse ++ [])).Nodup := by
    rw [List.append_nil, Document.keys, List.map_reverse]
    exact (List.reverse_perm fields.keys).nodup_iff.2 distinct
  have steps := steps_entry each [] reversed
  rwa [List.append_nil] at steps

/-! ### Values without containers -/

theorem takes_objectId (id : ObjectId) : Takes objectId id.toBytes id :=
  (takes_vector 12 id.bytes).map ObjectId.mk

theorem takes_boolean (key : String) (truth : Bool) :
    Takes (boolean key) [if truth then 1 else 0] truth := by
  cases truth with
  | false => exact fun _ _ => rfl
  | true => exact fun _ _ => rfl

theorem takes_regex (expression : Regex) (pattern : 0 ∉ Utf8.encode expression.pattern)
    (options : 0 ∉ Utf8.encode expression.options) :
    Takes regex (Utf8.encode expression.pattern ++ [0] ++
      (Utf8.encode expression.options ++ [0])) expression := by
  have read : Takes regex _ (Regex.of expression.pattern expression.options) :=
    (takes_name _ pattern).bind ((takes_name _ options).bind_pure _)
  rwa [Regex.of_parts] at read

/-- The two lengths of old binary data differ by the four bytes of the inner one. -/
theorem takes_binary {data : Binary} {bytes : Bytes} (written : Encode.binary data = .ok bytes) :
    Takes binary bytes data := by
  obtain ⟨subtype, payload⟩ := data
  unfold Encode.binary at written
  obtain ⟨inner, measured, written⟩ := bind_eq_ok_iff.1 written
  obtain ⟨small, rfl⟩ := Encode.length_eq_ok_iff.1 measured
  dsimp only at written small
  by_cases old : subtype = .old
  · rw [if_pos old] at written
    by_cases fits : payload.length + 4 < 2 ^ 31
    · rw [if_pos fits] at written
      cases written
      have size : (littleEndian 4 payload.length ++ payload).length = payload.length + 4 := by
        rw [List.length_append, length_littleEndian, Nat.add_comm]
      refine (takes_length _ fits).bind ((takes_byte subtype.byte).bind ?_)
      rw [← size]
      refine (takes_take _).bind_last ?_
      rw [if_neg (not_not_intro old), size]
      refine Exhausts.inside ((takes_length _ small).bind_exhausts ?_)
      rw [if_neg (not_not_intro rfl)]
      exact (exhausts_remainder payload).bind_pure _
    · rw [if_neg fits] at written
      cases written
  · rw [if_neg old] at written
    cases written
    refine (takes_length _ small).bind ((takes_byte subtype.byte).bind ?_)
    refine (takes_take payload).bind_last ?_
    rw [if_pos old]
    exact takes_pure _

/-! ### Code with scope -/

/-- What is inside code with scope, after its length. -/
def codeInside (document : Read Document) : Read Value := do
  let text ← Read.text
  let scope ← document
  if ← Read.atEnd then return .codeWithScope text scope
  else Read.corrupt .codeWithScopeLength

theorem codeWithScope_measured {document : Read Document} {contents bytes : Bytes}
    (written : Encode.measured contents = .ok bytes) (long : 10 ≤ contents.length)
    (position : Nat) (rest : Bytes) :
    codeWithScope document ⟨position, bytes ++ rest⟩ =
      Read.inside contents (codeInside document) ⟨position + bytes.length, rest⟩ := by
  obtain ⟨small, rfl⟩ := Encode.measured_eq_ok_iff.1 written
  unfold codeWithScope
  rw [run_bind, List.append_assoc, takes_length _ small]
  show (if contents.length + 4 < 14 then _ else _ : Read Value) _ = _
  rw [if_neg (by omega), Nat.add_sub_cancel, run_bind, takes_take]
  rw [List.length_append, ← Nat.add_assoc]
  rfl

theorem length_codeWithScope {text : String} {code elements whole : Bytes}
    (coded : Encode.text text = .ok code) (contained : Encode.container elements = .ok whole) :
    10 ≤ (code ++ whole).length := by
  obtain ⟨-, rfl⟩ := Encode.text_eq_ok_iff.1 coded
  rw [List.length_append, Encode.length_of_container contained, List.length_append,
    List.length_append, length_littleEndian, List.length_singleton]
  omega

theorem takes_codeWithScope {document : Read Document} {text : String} {scope : Document}
    {code whole bytes elements : Bytes} (coded : Encode.text text = .ok code)
    (contained : Encode.container elements = .ok whole)
    (written : Encode.measured (code ++ whole) = .ok bytes) (taken : Takes document whole scope) :
    Takes (codeWithScope document) bytes (.codeWithScope text scope) := by
  have long := length_codeWithScope coded contained
  obtain ⟨small, rfl⟩ := Encode.text_eq_ok_iff.1 coded
  have inside : Exhausts (codeInside document) _ (.codeWithScope text scope) :=
    (takes_text text small).bind_exhausts (taken.bind_exhausts_last fun _ => rfl)
  intro position rest
  rw [codeWithScope_measured written long]
  exact inside.inside _ _

theorem fails_codeWithScope {document : Read Document} {text : String} {error : Error}
    {code whole bytes elements : Bytes} (coded : Encode.text text = .ok code)
    (contained : Encode.container elements = .ok whole)
    (written : Encode.measured (code ++ whole) = .ok bytes) (failed : Fails document whole error) :
    Fails (codeWithScope document) bytes error := by
  have long := length_codeWithScope coded contained
  obtain ⟨small, rfl⟩ := Encode.text_eq_ok_iff.1 coded
  have inside : Fails (codeInside document) _ error :=
    (takes_text text small).bind_fails (failed.bind _)
  intro position rest
  rw [codeWithScope_measured written long]
  exact fails_inside inside.start _ _

/-! ### Containers -/

/-- With this room, documents and arrays are read unless containers are nested too deep in them. -/
structure TakesContainers (room : Nat) : Prop where
  document : ∀ (fields : Document) (elements bytes : Bytes), fields.KeysDistinct →
    fields.depth < room → Encode.entries fields = .ok elements →
    Encode.container elements = .ok bytes → Takes (document room) bytes fields
  array : ∀ (values : List Value) (elements bytes : Bytes), Value.ItemsKeysDistinct values →
    Value.depthItems values < room → Encode.items 0 values = .ok elements →
    Encode.container elements = .ok bytes → Takes (array room) bytes values

theorem takesValue {room : Nat} (containers : TakesContainers room) (content : Value)
    (distinct : content.KeysDistinct) (shallow : content.depth ≤ room) :
    TakesValue (document room) (array room) content := by
  intro key bytes written
  cases content with
  | double number =>
    rw [Encode.value] at written
    cases written
    exact (takes_uint64 number.bits).bind_pure _
  | string text | code text | symbol text =>
    rw [Encode.value] at written
    obtain ⟨small, rfl⟩ := Encode.text_eq_ok_iff.1 written
    exact (takes_text text small).bind_pure _
  | document fields =>
    rw [Encode.value] at written
    rw [Value.KeysDistinct] at distinct
    rw [Value.depth] at shallow
    obtain ⟨elements, inner, contained⟩ := bind_eq_ok_iff.1 written
    exact (containers.document fields elements bytes distinct shallow inner contained).bind_pure _
  | array values =>
    rw [Encode.value] at written
    rw [Value.KeysDistinct] at distinct
    rw [Value.depth] at shallow
    obtain ⟨elements, inner, contained⟩ := bind_eq_ok_iff.1 written
    exact (containers.array values elements bytes distinct shallow inner contained).bind_pure _
  | binary data =>
    rw [Encode.value] at written
    exact (takes_binary written).bind_pure _
  | undefined | null | maxKey | minKey =>
    rw [Encode.value] at written
    cases written
    exact takes_pure _
  | objectId id =>
    rw [Encode.value] at written
    cases written
    exact (takes_objectId id).bind_pure _
  | boolean truth =>
    rw [Encode.value] at written
    cases written
    exact (takes_boolean key truth).bind_pure _
  | dateTime number | int64 number =>
    rw [Encode.value] at written
    cases written
    exact (takes_int64 number).bind_pure _
  | regex expression =>
    rw [Encode.value] at written
    obtain ⟨front, pattern, written⟩ := bind_eq_ok_iff.1 written
    obtain ⟨back, options, same⟩ := bind_eq_ok_iff.1 written
    obtain ⟨cleanPattern, rfl⟩ := Encode.regexPart_eq_ok_iff.1 pattern
    obtain ⟨cleanOptions, rfl⟩ := Encode.regexPart_eq_ok_iff.1 options
    cases same
    exact (takes_regex expression cleanPattern cleanOptions).bind_pure _
  | dbPointer pointer =>
    rw [Encode.value] at written
    obtain ⟨front, spaced, same⟩ := bind_eq_ok_iff.1 written
    obtain ⟨small, rfl⟩ := Encode.text_eq_ok_iff.1 spaced
    cases same
    exact (takes_text pointer.space small).bind ((takes_objectId pointer.id).bind_pure _)
  | codeWithScope text scope =>
    rw [Encode.value] at written
    rw [Value.KeysDistinct] at distinct
    rw [Value.depth] at shallow
    obtain ⟨code, coded, written⟩ := bind_eq_ok_iff.1 written
    obtain ⟨elements, inner, written⟩ := bind_eq_ok_iff.1 written
    obtain ⟨whole, contained, measured⟩ := bind_eq_ok_iff.1 written
    exact takes_codeWithScope coded contained measured
      (containers.document scope elements whole distinct shallow inner contained)
  | int32 number =>
    rw [Encode.value] at written
    cases written
    exact (takes_int32 number).bind_pure _
  | timestamp moment =>
    rw [Encode.value] at written
    cases written
    exact (takes_uint32 moment.increment).bind ((takes_uint32 moment.time).bind_pure _)
  | decimal128 number =>
    rw [Encode.value] at written
    cases written
    exact (takes_vector 16 number.bytes).bind_pure _

theorem takesContainers (room : Nat) : TakesContainers room := by
  induction room with
  | zero =>
    exact ⟨fun _ _ _ _ shallow => absurd shallow (Nat.not_lt_zero _),
      fun _ _ _ _ shallow => absurd shallow (Nat.not_lt_zero _)⟩
  | succ room inductionHypothesis =>
    -- Both kinds of containers hold entries, and the values in them have one room less.
    have each {fields : Document} {elements : Bytes}
        (distinct : Value.EntriesKeysDistinct fields)
        (shallow : Value.depthEntries fields ≤ room)
        (written : Encode.entries fields = .ok elements) :
        TakesEach (element (document room) (array room)) elements fields := by
      refine takesEach_element written fun field member => ?_
      exact takesValue inductionHypothesis field.2
        (Value.entriesKeysDistinct_iff.1 distinct field member)
        (Value.depthEntries_le_iff.1 shallow field member)
    constructor
    · intro fields elements bytes distinct shallow written contained
      rw [document]
      refine takes_framed contained ?_
      have steps := steps_entries (each distinct.2 (Nat.le_of_lt_succ shallow) written) distinct.1
      have gathered := steps.exhausts.bind_pure List.reverse
      rwa [List.reverse_reverse] at gathered
    · intro values elements bytes distinct shallow written contained
      rw [array]
      refine takes_framed contained ?_
      rw [Encode.items_eq_entries] at written
      rw [← Encode.depthEntries_labelled 0] at shallow
      have listed := (each ((Encode.entriesKeysDistinct_labelled 0 values).2 distinct)
        (Nat.le_of_lt_succ shallow) written).exhausts.bind_pure (·.map (·.2))
      rwa [Encode.map_labelled] at listed

/-- Without enough room, documents and arrays with containers nested in them fail. -/
structure FailsContainers (room : Nat) : Prop where
  document : ∀ (fields : Document) (elements bytes : Bytes), fields.KeysDistinct →
    room ≤ fields.depth → Encode.entries fields = .ok elements →
    Encode.container elements = .ok bytes →
    Fails (document room) bytes Corruption.nestingTooDeep.toError
  array : ∀ (values : List Value) (elements bytes : Bytes), Value.ItemsKeysDistinct values →
    room ≤ Value.depthItems values → Encode.items 0 values = .ok elements →
    Encode.container elements = .ok bytes →
    Fails (array room) bytes Corruption.nestingTooDeep.toError

theorem failsValue {room : Nat} (containers : FailsContainers room) (content : Value)
    (distinct : content.KeysDistinct) (deep : room < content.depth) :
    FailsValue (document room) (array room) content := by
  intro key bytes written
  cases content with
  | document fields =>
    rw [Encode.value] at written
    rw [Value.KeysDistinct] at distinct
    rw [Value.depth] at deep
    obtain ⟨elements, inner, contained⟩ := bind_eq_ok_iff.1 written
    exact (containers.document fields elements bytes distinct (Nat.le_of_lt_succ deep) inner
      contained).bind _
  | array values =>
    rw [Encode.value] at written
    rw [Value.KeysDistinct] at distinct
    rw [Value.depth] at deep
    obtain ⟨elements, inner, contained⟩ := bind_eq_ok_iff.1 written
    exact (containers.array values elements bytes distinct (Nat.le_of_lt_succ deep) inner
      contained).bind _
  | codeWithScope text scope =>
    rw [Encode.value] at written
    rw [Value.KeysDistinct] at distinct
    rw [Value.depth] at deep
    obtain ⟨code, coded, written⟩ := bind_eq_ok_iff.1 written
    obtain ⟨elements, inner, written⟩ := bind_eq_ok_iff.1 written
    obtain ⟨whole, contained, measured⟩ := bind_eq_ok_iff.1 written
    exact fails_codeWithScope coded contained measured
      (containers.document scope elements whole distinct (Nat.le_of_lt_succ deep) inner contained)
  | _ =>
    exact absurd deep (by simp [Value.depth])

theorem failsContainers (room : Nat) : FailsContainers room := by
  induction room with
  | zero =>
    constructor
    · intro _ _ _ _ _ _ _
      rw [document]
      exact fun _ _ => rfl
    · intro _ _ _ _ _ _ _
      rw [array]
      exact fun _ _ => rfl
  | succ room inductionHypothesis =>
    have until_deep {fields : Document} {elements : Bytes}
        (distinct : Value.EntriesKeysDistinct fields) (deep : room < Value.depthEntries fields)
        (written : Encode.entries fields = .ok elements) :=
      takesEach_until_deep written deep
        (fun field member => takesValue (takesContainers room) field.2
          (Value.entriesKeysDistinct_iff.1 distinct field member))
        (fun field member => failsValue inductionHypothesis field.2
          (Value.entriesKeysDistinct_iff.1 distinct field member))
    constructor
    · intro fields elements bytes distinct deep written contained
      obtain ⟨before, front, head, tail, initial, same, each, some, failed⟩ :=
        until_deep distinct.2 deep written
      rw [document]
      refine fails_framed contained ?_
      have steps := steps_entries each ((initial.sublist.map _).nodup distinct.1)
      rw [← same, run_bind]
      unfold Reader.start
      rw [steps.fails (failed.bind _) some tail 0]
      rfl
    · intro values elements bytes distinct deep written contained
      rw [Encode.items_eq_entries] at written
      rw [← Encode.depthEntries_labelled 0] at deep
      obtain ⟨before, front, head, tail, initial, same, each, some, failed⟩ :=
        until_deep ((Encode.entriesKeysDistinct_labelled 0 values).2 distinct) deep written
      rw [array]
      refine fails_framed contained ?_
      rw [← same, run_bind, each.fails failed some tail]
      rfl

end Decode

namespace Document

/-! ### Whole documents -/

theorem takes_document {document : Document} {bytes : Bytes} (distinct : document.KeysDistinct)
    (shallow : document.depth ≤ 200)
    (written : Encode.entries document >>= Encode.container = .ok bytes) :
    Takes Read.document bytes document := by
  obtain ⟨elements, inner, contained⟩ := bind_eq_ok_iff.1 written
  exact (Decode.takesContainers 201).document document elements bytes distinct
    (Nat.lt_succ_of_le shallow) inner contained

theorem fails_document {document : Document} {bytes : Bytes} (distinct : document.KeysDistinct)
    (deep : 200 < document.depth)
    (written : Encode.entries document >>= Encode.container = .ok bytes) :
    Fails Read.document bytes Corruption.nestingTooDeep.toError := by
  obtain ⟨elements, inner, contained⟩ := bind_eq_ok_iff.1 written
  exact (Decode.failsContainers 201).document document elements bytes distinct deep inner contained

/-- A written document declares its own length, and reading it gives the document back unless
more than two hundred containers are nested in it, in which case it is refused. That no key occurs
twice is true of every document that is built entry by entry. -/
theorem decode_written (document : Document) (distinct : document.KeysDistinct) (bytes : Bytes)
    (written : document.encode = .ok bytes) :
    (Bytes.toInt32 (bytes.take 4)).toInt = bytes.length ∧
      (document.depth ≤ 200 → decode bytes = .ok document) ∧
      (200 < document.depth → ∃ reason, decode bytes = .error (.corruptData reason)) := by
  have plain : Encode.entries document >>= Encode.container = .ok bytes :=
    container_of_encodeWith written
  refine ⟨?_, fun shallow => ?_, fun deep => ?_⟩
  · obtain ⟨elements, -, contained⟩ := bind_eq_ok_iff.1 plain
    obtain ⟨small, front⟩ := Encode.declared_of_container contained
    rw [front, toInt_toInt32_littleEndian _ small]
  · unfold decode Reader.start
    rw [(takes_document distinct shallow plain).exhausts]
    rfl
  · refine ⟨Corruption.nestingTooDeep.message, ?_⟩
    unfold decode
    rw [(fails_document distinct deep plain).start]
    rfl

/-- A document with an array, a document and a scope inside each other. -/
def sample : Document :=
  [("list", .array [.int32 7, .document [("code", .codeWithScope "f" [("on", .boolean true)])]]),
   ("half", .double ⟨0x3FE0000000000000⟩)]

theorem keysDistinct_sample : sample.KeysDistinct := by
  simp [sample, KeysDistinct, keys, Value.EntriesKeysDistinct, Value.ItemsKeysDistinct,
    Value.KeysDistinct]

/-- Documents inside each other, this many below the outermost one. -/
def nested : Nat → Document
  | 0 => []
  | count + 1 => [("inner", .document (nested count))]

theorem keysDistinct_nested (count : Nat) : (nested count).KeysDistinct := by
  induction count with
  | zero => exact ⟨List.nodup_nil, trivial⟩
  | succ count inductionHypothesis =>
    exact ⟨List.pairwise_singleton _ _, inductionHypothesis, trivial⟩

theorem depth_nested (count : Nat) : (nested count).depth = count := by
  induction count with
  | zero => rfl
  | succ count inductionHypothesis =>
    have inner : Value.depthEntries (nested count) = count := inductionHypothesis
    show max (Value.depthEntries (nested count) + 1) 0 = count + 1
    rw [inner, Nat.max_zero]

/-- Each level takes twelve bytes: a type byte, a key of six, and a frame of five. -/
theorem entries_nested (count : Nat) (small : count < 2 ^ 20) :
    ∃ elements, Encode.entries (nested count) = .ok elements ∧ elements.length = 12 * count := by
  induction count with
  | zero => exact ⟨[], rfl, rfl⟩
  | succ count inductionHypothesis =>
    obtain ⟨elements, written, size⟩ := inductionHypothesis (Nat.lt_of_succ_lt small)
    obtain ⟨whole, contained⟩ : ∃ whole, Encode.container elements = .ok whole :=
      ⟨_, Encode.container_eq_ok_iff.2 ⟨by omega, rfl⟩⟩
    have inner : Encode.value (.document (nested count)) = .ok whole := by
      rw [Encode.value]
      exact bind_eq_ok_iff.2 ⟨elements, written, contained⟩
    have clean : 0 ∉ Utf8.encode "inner" := by decide +kernel
    refine ⟨_, Encode.entries_cons_eq_ok_iff.2 ⟨_, [], ⟨clean, _, inner, rfl⟩, rfl, rfl⟩, ?_⟩
    have key : (Utf8.encode "inner").length = 5 := by decide +kernel
    simp only [List.length_append, List.length_cons, List.length_nil, key,
      Encode.length_of_container contained]
    omega

theorem decode_written_sample :
    (∃ bytes, sample.encode = .ok bytes ∧ decode bytes = .ok sample) ∧
      ∃ bytes reason, (nested 201).encode = .ok bytes ∧
        decode bytes = .error (.corruptData reason) := by
  constructor
  · obtain ⟨bytes, written⟩ : ∃ bytes, sample.encode = .ok bytes := ⟨_, rfl⟩
    have shallow : sample.depth ≤ 200 := by
      simp [sample, depth, Value.depthEntries, Value.depthItems, Value.depth]
    exact ⟨bytes, written, (decode_written sample keysDistinct_sample bytes written).2.1 shallow⟩
  · obtain ⟨elements, inner, size⟩ := entries_nested 201 (by decide)
    obtain ⟨whole, contained⟩ : ∃ whole, Encode.container elements = .ok whole :=
      ⟨_, Encode.container_eq_ok_iff.2 ⟨by omega, rfl⟩⟩
    have written : (nested 201).encode = .ok whole := by
      rw [encode_eq]
      exact bind_eq_ok_iff.2 ⟨elements, inner, contained⟩
    have deep : 200 < (nested 201).depth := by
      rw [depth_nested]
      decide
    obtain ⟨reason, refused⟩ :=
      (decode_written _ (keysDistinct_nested 201) _ written).2.2 deep
    exact ⟨_, reason, written, refused⟩

end Document

end DocumentDriver
