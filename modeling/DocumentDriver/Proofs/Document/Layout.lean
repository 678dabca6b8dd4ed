/-
This file describes documents as they stand in their bytes. A layout keeps the two things that a
reader passes over, the keys of the elements of an array and the order in which the flags of a
regular expression came, beside the values. Layouts are read and written like documents, and a
document is what is left of its layout: wherever the reader of documents succeeds, so does the
reader of layouts, and it takes the same bytes.
-/

import DocumentDriver.Proofs.Bytes.Following
import DocumentDriver.Proofs.Document.Soundness

namespace DocumentDriver

open Read

/-- A value as it stands in the bytes. -/
inductive Layout where
  /-- A value that holds no container and no flags. -/
  | plain (content : Value)
  | document (fields : List (String × Layout))
  /-- The elements of an array with the keys that they were given. -/
  | array (elements : List (String × Layout))
  /-- A regular expression with its flags in the order in which they came. -/
  | regex (pattern options : String)
  | codeWithScope (text : String) (scope : List (String × Layout))

/-- The elements of a container as they stand in the bytes. -/
abbrev Elements := List (String × Layout)

namespace Layout

mutual

/-- The value that a reader makes of a layout. -/
def value : Layout → Value
  | plain content => content
  | document fields => .document (entries fields)
  | array elements => .array ((entries elements).map (·.2))
  | regex pattern options => .regex (Regex.of pattern options)
  | codeWithScope text scope => .codeWithScope text (entries scope)

/-- The document that a reader makes of the elements of a container. -/
def entries : Elements → Document
  | [] => []
  | (key, first) :: rest => (key, value first) :: entries rest

end

mutual

/-- The bytes of a layout, its type byte and key apart. -/
def written : Layout → Written
  | plain content => Encode.value content
  | document elements | array elements => do Encode.container (← writtenElements elements)
  | regex pattern options => do
    let front ← Encode.regexPart "pattern" pattern
    return front ++ (← Encode.regexPart "options" options)
  | codeWithScope text scope => do
    let code ← Encode.text text
    Encode.measured (code ++ (← Encode.container (← writtenElements scope)))

/-- The bytes of the elements of a container. -/
def writtenElements : Elements → Written
  | [] => .ok []
  | (key, first) :: rest => do
    let label ← Encode.name key
    let contents ← written first
    return first.value.elementType.byte :: (label ++ (contents ++ (← writtenElements rest)))

end

mutual

/-- Elements of arrays have their places in decimal as keys, and flags stand in their written
order. -/
def IsCanonical : Layout → Prop
  | plain _ => True
  | document fields => AllCanonical fields
  | array elements =>
    (∀ index (inside : index < elements.length), elements[index].1 = toString index) ∧
      AllCanonical elements
  | regex _ options => RegexFlags.normalizeText options = options
  | codeWithScope _ scope => AllCanonical scope

/-- All elements of a container are canonical. -/
def AllCanonical : Elements → Prop
  | [] => True
  | (_, first) :: rest => IsCanonical first ∧ AllCanonical rest

end

/-! ### Reading layouts -/

/-- Code with scope, as it stands in the bytes. -/
def readCodeWithScope (elements : Read Elements) : Read Layout := do
  let total ← Read.length
  if total < 14 then Read.corrupt (.codeWithScopeTooSmall total) else
  let contents ← Read.take (total - 4)
  Read.inside contents do
    let text ← Read.text
    let scope ← elements
    if ← Read.atEnd then return .codeWithScope text scope
    else Read.corrupt .codeWithScopeLength

/-- One value of the given kind, as it stands in the bytes. -/
def read (elements : Read Elements) (key : String) : ElementType → Read Layout
  | .embeddedDocument => return .document (← elements)
  | .array => return .array (← elements)
  | .regularExpression => do
    let pattern ← Read.name
    return .regex pattern (← Read.name)
  | .javaScriptCodeWithScope => readCodeWithScope elements
  | kind => return .plain (← Decode.value (Decode.document 0) (Decode.array 0) key kind)

/-- One element: a type byte, a key and a value. -/
def readElement (elements : Read Elements) : Read (String × Layout) := do
  let (type, key) ← Decode.label
  return (key, ← read elements key type)

/-- The elements of a container with at most `room` containers nested in it, itself included. -/
def readElements : Nat → Read Elements
  | 0 => Read.corrupt .nestingTooDeep
  | room + 1 => do
    let bytes ← Decode.frame
    Read.inside bytes (Read.listUntilEnd (readElement (readElements room)))

end Layout

namespace Document

/-- The layout of the document that the bytes hold. -/
def layout (bytes : Bytes) : Except Error Elements := do
  let (elements, _) ← Layout.readElements (Decode.maxDepth + 1) (Reader.start bytes)
  return elements

/-- In these bytes the elements of every array have their places in decimal as keys, and the flags
of every regular expression stand in their written order. -/
def IsCanonicalForm (bytes : Bytes) : Prop :=
  ∃ elements, layout bytes = .ok elements ∧ Layout.AllCanonical elements

end Document

namespace Layout

/-! ### Layouts are written as they were read -/

/-- One element of a container has this form. -/
def IsElement (element : String × Layout) (bytes : Bytes) : Prop :=
  0 ∉ Utf8.encode element.1 ∧ ∃ contents, element.2.written = .ok contents ∧
    [element.2.value.elementType.byte] ++ (Utf8.encode element.1 ++ [0]) ++ contents = bytes

/-- Elements that each have a form of their own are written as these forms in order. -/
theorem writtenElements_of_forall {elements : Elements} {parts : List Bytes}
    (each : List.Forall₂ IsElement elements parts) :
    writtenElements elements = .ok parts.flatten := by
  induction each with
  | nil => rw [writtenElements, List.flatten_nil]
  | @cons first head rest tail element others inductionHypothesis =>
    obtain ⟨key, content⟩ := first
    obtain ⟨clean, contents, inner, rfl⟩ := element
    rw [writtenElements, Encode.name_eq_ok_iff.2 ⟨clean, rfl⟩, inner, inductionHypothesis,
      List.flatten_cons, List.append_assoc, List.append_assoc]
    rfl

section Reading

variable {elements : Read Elements}

theorem sound_readCodeWithScope
    (sound : Sound elements fun scope head => writtenElements scope >>= Encode.container = .ok head) :
    Sound (readCodeWithScope elements) fun layout head =>
      layout.value.elementType = .javaScriptCodeWithScope ∧ layout.written = .ok head := by
  refine (sound_length.bind fun total => sound_unless ((sound_take (total - 4)).bind fun contents =>
    (sound_text.bind_toEnd fun text => sound.bind_toEnd fun scope =>
      soundToEnd_atEnd (codeWithScope text scope) _).inside contents)).weaken ?_
  rintro layout head ⟨total, _, _, ⟨small, rfl⟩, ⟨long, contents, _, _, ⟨rfl, exact⟩,
    ⟨⟨text, code, _, coded, ⟨scope, whole, _, contained, ⟨rfl, rfl⟩, rfl⟩, rfl⟩, rfl⟩, rfl⟩, rfl⟩
  obtain ⟨inner, listed, framed⟩ := bind_eq_ok_iff.1 contained
  have size : (code ++ whole).length + 4 = total := by
    rw [List.append_nil] at exact
    omega
  refine ⟨rfl, ?_⟩
  rw [written, Encode.text_eq_ok_iff.2 coded, listed]
  show Encode.container inner >>= (fun whole => Encode.measured (code ++ whole)) = _
  rw [framed]
  refine Encode.measured_eq_ok_iff.2 ⟨by omega, ?_⟩
  rw [size, List.append_nil, List.append_nil]

/-- A value without containers and flags is read as a whole. -/
theorem read_of_isPlain {kind : ElementType} (simple : Decode.IsPlain kind) (key : String) :
    read elements key kind =
      (do return .plain (← Decode.value (Decode.document 0) (Decode.array 0) key kind)) := by
  cases kind with
  | embeddedDocument | array | regularExpression | javaScriptCodeWithScope => exact simple.elim
  | _ => rfl

theorem sound_read (key : String) (kind : ElementType)
    (sound : Sound elements fun inner head => writtenElements inner >>= Encode.container = .ok head) :
    Sound (read elements key kind) fun layout head =>
      layout.value.elementType = kind ∧ layout.written = .ok head := by
  by_cases simple : Decode.IsPlain kind
  · rw [read_of_isPlain simple]
    refine ((Decode.sound_plain key kind simple).map plain).weaken ?_
    rintro _ head ⟨content, ⟨kinded, form⟩, rfl⟩
    exact ⟨by rw [value, kinded], by rw [written, form]⟩
  cases kind with
  | embeddedDocument =>
    refine (sound.map document).weaken ?_
    rintro _ head ⟨inner, form, rfl⟩
    exact ⟨rfl, by rw [written, form]⟩
  | array =>
    refine (sound.map array).weaken ?_
    rintro _ head ⟨inner, form, rfl⟩
    exact ⟨rfl, by rw [written, form]⟩
  | regularExpression =>
    refine (sound_name.bind fun pattern => sound_name.map fun options =>
      regex pattern options).weaken ?_
    rintro _ _ ⟨pattern, front, back, first, ⟨options, second, rfl⟩, rfl⟩
    refine ⟨rfl, ?_⟩
    rw [written, Encode.regexPart_eq_ok_iff.2 first, Encode.regexPart_eq_ok_iff.2 second]
    rfl
  | javaScriptCodeWithScope => exact sound_readCodeWithScope sound
  | _ => exact absurd trivial simple

theorem sound_readElement
    (sound : Sound elements fun inner head => writtenElements inner >>= Encode.container = .ok head) :
    Sound (readElement elements) IsElement := by
  refine (Decode.sound_label.bind fun pair =>
    (sound_read pair.2 pair.1 sound).map fun layout => (pair.2, layout)).weaken ?_
  rintro _ head ⟨⟨kind, key⟩, _, contents, ⟨clean, rfl⟩, ⟨layout, ⟨rfl, form⟩, rfl⟩, rfl⟩
  exact ⟨clean, contents, form, rfl⟩

/-- The elements of a container are written as they were read. -/
theorem sound_readElements (room : Nat) :
    Sound (readElements room) fun elements head =>
      writtenElements elements >>= Encode.container = .ok head := by
  induction room with
  | zero =>
    rw [readElements]
    exact sound_fail _ _
  | succ room inductionHypothesis =>
    have nonempty (element : String × Layout) (head : Bytes) (form : IsElement element head) :
        head ≠ [] := by
      obtain ⟨-, contents, -, rfl⟩ := form
      exact List.cons_ne_nil _ _
    rw [readElements]
    refine (Decode.sound_frame.bind fun bytes => (soundToEnd_listUntilEnd
      (sound_readElement inductionHypothesis) nonempty).inside bytes).weaken ?_
    rintro elements _ ⟨bytes, head, _, framed, ⟨⟨parts, each, rfl⟩, rfl⟩, rfl⟩
    rw [writtenElements_of_forall each, List.append_nil]
    exact framed

end Reading

/-! ### A document is what is left of its layout -/

theorem entries_eq_map (elements : Elements) :
    entries elements = elements.map fun element => (element.1, element.2.value) := by
  induction elements with
  | nil => rw [entries, List.map_nil]
  | cons first rest inductionHypothesis => rw [entries, inductionHypothesis, List.map_cons]

/-- What a reader gives for the elements of a container, with at most `room` containers nested in
each. -/
structure Gathers (room : Nat) (fields : Document) (elements : Elements) : Prop where
  same : entries elements = fields
  distinct : Value.EntriesKeysDistinct fields
  shallow : Value.depthEntries fields ≤ room

theorem gathers_nil (room : Nat) : Gathers room [] [] :=
  ⟨by rw [entries], trivial, Nat.zero_le room⟩

theorem Gathers.cons {room : Nat} {fields : Document} {elements : Elements} {key : String}
    {layout : Layout} (others : Gathers room fields elements)
    (distinct : layout.value.KeysDistinct) (shallow : layout.value.depth ≤ room) :
    Gathers room ((key, layout.value) :: fields) ((key, layout) :: elements) where
  same := by rw [entries, others.same]
  distinct := ⟨distinct, others.distinct⟩
  shallow := Nat.max_le.2 ⟨shallow, others.shallow⟩

theorem Gathers.reverse {room : Nat} {fields : Document} {elements : Elements}
    (gathers : Gathers room fields elements) :
    Gathers room fields.reverse elements.reverse where
  same := by rw [entries_eq_map, List.map_reverse, ← entries_eq_map, gathers.same]
  distinct := Value.entriesKeysDistinct_iff.2 fun field member =>
    Value.entriesKeysDistinct_iff.1 gathers.distinct field (List.mem_reverse.1 member)
  shallow := Value.depthEntries_le_iff.2 fun field member =>
    Value.depthEntries_le_iff.1 gathers.shallow field (List.mem_reverse.1 member)

/-- With this room, the readers of documents and arrays see what the reader of layouts sees. -/
structure FollowsContainers (room : Nat) : Prop where
  document : Follows (Decode.document room) (readElements room) fun fields elements =>
    entries elements = fields ∧ fields.KeysDistinct ∧ fields.depth < room
  array : Follows (Decode.array room) (readElements room) fun values elements =>
    (entries elements).map (·.2) = values ∧ Value.ItemsKeysDistinct values ∧
      Value.depthItems values < room

theorem follows_value {room : Nat} (containers : FollowsContainers room) (key : String)
    (kind : ElementType) :
    Follows (Decode.value (Decode.document room) (Decode.array room) key kind)
      (read (readElements room) key kind) fun content layout =>
      layout.value = content ∧ content.KeysDistinct ∧ content.depth ≤ room := by
  by_cases simple : Decode.IsPlain kind
  · rw [read_of_isPlain simple, Decode.value_of_isPlain simple]
    intro reader content after run
    obtain ⟨-, ⟨kinded, -⟩, -⟩ := Decode.sound_plain key kind simple run
    refine ⟨plain content, ?_, rfl, ?_⟩
    · rw [run_bind, run]
      rfl
    · subst kinded
      cases content <;> first | exact simple.elim | exact ⟨trivial, Nat.zero_le _⟩
  cases kind with
  | embeddedDocument =>
    refine containers.document.bind fun fields elements ⟨same, distinct, shallow⟩ => follows_pure ?_
    exact ⟨by rw [value, same], distinct, shallow⟩
  | array =>
    refine containers.array.bind fun values elements ⟨same, distinct, shallow⟩ => follows_pure ?_
    exact ⟨by rw [value, same], distinct, shallow⟩
  | regularExpression =>
    simp only [Decode.value, Decode.regex, read, bind_assoc, pure_bind]
    exact follows_after fun pattern => follows_after fun options =>
      follows_pure ⟨rfl, trivial, Nat.zero_le _⟩
  | javaScriptCodeWithScope =>
    refine follows_after fun total => follows_unless fun long => ?_
    rw [if_neg long]
    refine follows_after fun contents => Follows.inside (follows_after fun text => ?_) contents
    refine containers.document.bind fun scope elements ⟨same, distinct, shallow⟩ => ?_
    refine follows_after fun ended => ?_
    cases ended with
    | true => exact follows_pure ⟨by rw [value, same], distinct, shallow⟩
    | false => exact follows_fail _ _
  | _ => exact absurd trivial simple

theorem follows_element {room : Nat} (containers : FollowsContainers room) :
    Follows (Decode.element (Decode.document room) (Decode.array room))
      (readElement (readElements room)) fun field element =>
      (element.1, element.2.value) = field ∧ field.2.KeysDistinct ∧ field.2.depth ≤ room := by
  refine follows_after fun pair => (follows_value containers pair.2 pair.1).bind ?_
  exact fun content layout ⟨same, related⟩ => follows_pure ⟨by rw [same], related⟩

/-- The items of an array are gathered whatever their keys are. -/
theorem follows_item {room : Nat} (containers : FollowsContainers room) (before : Document)
    (elements : Elements) (gathers : Gathers room before elements) :
    Follows (do return (← Decode.element (Decode.document room) (Decode.array room)) :: before)
      (do return (← readElement (readElements room)) :: elements) (Gathers room) := by
  refine (follows_element containers).bind fun field found ⟨same, distinct, shallow⟩ => ?_
  subst same
  exact follows_pure (gathers.cons distinct shallow)

/-- The entries of a document are gathered as long as their keys are new. -/
theorem follows_entry {room : Nat} (containers : FollowsContainers room) (before : Document)
    (elements : Elements) (gathered : Gathers room before elements ∧ before.keys.Nodup) :
    Follows (Decode.entry (Decode.element (Decode.document room) (Decode.array room)) before)
      (do return (← readElement (readElements room)) :: elements)
      fun fields elements => Gathers room fields elements ∧ fields.keys.Nodup := by
  refine (follows_element containers).bind fun field found ⟨same, distinct, shallow⟩ => ?_
  subst same
  exact follows_unless fun fresh => follows_pure ⟨gathered.1.cons distinct shallow,
    List.nodup_cons.2 ⟨Document.not_mem_keys fresh, gathered.2⟩⟩

theorem followsContainers (room : Nat) : FollowsContainers room := by
  -- On the room that is left, since a container is read with one less than what is around it.
  induction room with
  | zero =>
    constructor
    · rw [Decode.document]
      exact follows_fail _ _
    · rw [Decode.array]
      exact follows_fail _ _
  | succ room inductionHypothesis =>
    constructor
    · rw [Decode.document, readElements]
      refine follows_after fun bytes => Follows.inside ?_ bytes
      refine (follows_untilEnd (follows_entry inductionHypothesis) [] []
        ⟨gathers_nil room, List.nodup_nil⟩).bind ?_
      rintro fields elements ⟨gathers, distinct⟩
      have gathered := gathers.reverse
      refine follows_pure ⟨gathered.same, ⟨?_, gathered.distinct⟩,
        Nat.lt_succ_of_le gathered.shallow⟩
      rw [Document.keys, List.map_reverse]
      exact (List.reverse_perm fields.keys).nodup_iff.2 distinct
    · rw [Decode.array, readElements]
      refine follows_after fun bytes => Follows.inside ?_ bytes
      unfold listUntilEnd
      rw [bind_assoc]
      refine (follows_untilEnd (follows_item inductionHypothesis) [] []
        (gathers_nil room)).bind fun fields elements gathers => ?_
      have gathered := gathers.reverse
      refine follows_pure ⟨by rw [gathered.same], ?_, ?_⟩
      · exact (Encode.itemsKeysDistinct_map_snd _).2 gathered.distinct
      · rw [Encode.depthItems_map_snd]
        exact Nat.lt_succ_of_le gathered.shallow

end Layout

end DocumentDriver
