/-
This file says which bytes a writer gives when it gives any: the condition under which each field
has a written form, and that form. The items of an array are written as entries whose keys are
places in decimal, so arrays share all facts about entries. Options of the caller change the order
of the outermost document and refuse some documents, but never the form of an entry.
-/

import DocumentDriver.Document.Encode
import DocumentDriver.Document.Size

namespace DocumentDriver

/-- A step and what follows it give a result exactly when each of them gives one. -/
theorem bind_eq_ok_iff {Problem Middle Result : Type} {first : Except Problem Middle}
    {next : Middle → Except Problem Result} {result : Result} :
    first >>= next = .ok result ↔ ∃ middle, first = .ok middle ∧ next middle = .ok result := by
  cases first with
  | error problem => exact ⟨nofun, fun ⟨_, same, _⟩ => nomatch same⟩
  | ok middle => exact ⟨fun same => ⟨middle, rfl, same⟩, fun ⟨_, rfl, same⟩ => same⟩

/-- A step fails with errors of one sort only. -/
def FailsOnly {Result : Type} (allowed : Error → Prop) (step : Except Error Result) : Prop :=
  ∀ error, step = .error error → allowed error

theorem failsOnly_of_ok {Result : Type} {allowed : Error → Prop} {step : Except Error Result}
    {result : Result} (succeeded : step = .ok result) : FailsOnly allowed step := by
  subst succeeded
  exact nofun

theorem FailsOnly.bind {Result Next : Type} {allowed : Error → Prop} {first : Except Error Result}
    {next : Result → Except Error Next} (front : FailsOnly allowed first)
    (back : ∀ result, FailsOnly allowed (next result)) : FailsOnly allowed (first >>= next) := by
  cases first with
  | error problem => exact fun error same => front error (by cases same; rfl)
  | ok result => exact back result

namespace Encode

/-! ### Fields -/

theorem length_eq_ok_iff {count : Nat} {bytes : Bytes} :
    length count = .ok bytes ↔ count < 2 ^ 31 ∧ littleEndian 4 count = bytes := by
  unfold length refuse
  by_cases small : count < 2 ^ 31
  · rw [if_pos small, Except.ok.injEq, and_iff_right small]
  · rw [if_neg small]
    exact ⟨nofun, fun ⟨fits, _⟩ => absurd fits small⟩

/-- A text with a zero byte behind it can be written unless it holds one. -/
theorem terminated_eq_ok_iff {cause : Unwritable} {content bytes : Bytes} :
    (if 0 ∈ content then refuse cause else .ok (content ++ [0])) = .ok bytes ↔
      0 ∉ content ∧ content ++ [0] = bytes := by
  unfold refuse
  by_cases zero : 0 ∈ content
  · rw [if_pos zero]
    exact ⟨nofun, fun ⟨clean, _⟩ => absurd zero clean⟩
  · rw [if_neg zero, Except.ok.injEq, and_iff_right zero]

theorem name_eq_ok_iff {text : String} {bytes : Bytes} :
    name text = .ok bytes ↔ 0 ∉ Utf8.encode text ∧ Utf8.encode text ++ [0] = bytes :=
  terminated_eq_ok_iff

theorem regexPart_eq_ok_iff {part text : String} {bytes : Bytes} :
    regexPart part text = .ok bytes ↔ 0 ∉ Utf8.encode text ∧ Utf8.encode text ++ [0] = bytes :=
  terminated_eq_ok_iff

theorem prefixed_eq_ok_iff {count : Nat} {contents bytes : Bytes} :
    (do return (← length count) ++ contents : Written) = .ok bytes ↔
      count < 2 ^ 31 ∧ littleEndian 4 count ++ contents = bytes := by
  rw [bind_eq_ok_iff]
  constructor
  · rintro ⟨front, written, same⟩
    obtain ⟨small, rfl⟩ := length_eq_ok_iff.1 written
    exact ⟨small, Except.ok.inj same⟩
  · rintro ⟨small, rfl⟩
    exact ⟨_, length_eq_ok_iff.2 ⟨small, rfl⟩, rfl⟩

theorem text_eq_ok_iff {content : String} {bytes : Bytes} :
    text content = .ok bytes ↔ (Utf8.encode content).length + 1 < 2 ^ 31 ∧
      littleEndian 4 ((Utf8.encode content).length + 1) ++ (Utf8.encode content ++ [0]) =
        bytes :=
  prefixed_eq_ok_iff

theorem measured_eq_ok_iff {contents bytes : Bytes} :
    measured contents = .ok bytes ↔ contents.length + 4 < 2 ^ 31 ∧
      littleEndian 4 (contents.length + 4) ++ contents = bytes :=
  prefixed_eq_ok_iff

/-- A container is its length, its elements and a zero byte. -/
theorem container_eq_ok_iff {elements bytes : Bytes} :
    container elements = .ok bytes ↔ elements.length + 5 < 2 ^ 31 ∧
      littleEndian 4 (elements.length + 5) ++ (elements ++ [0]) = bytes := by
  unfold container
  rw [measured_eq_ok_iff, List.length_append, List.length_singleton]

theorem length_of_container {elements bytes : Bytes} (written : container elements = .ok bytes) :
    bytes.length = elements.length + 5 := by
  obtain ⟨-, rfl⟩ := container_eq_ok_iff.1 written
  rw [List.length_append, List.length_append, length_littleEndian, List.length_singleton]
  omega

theorem ne_nil_of_container {elements bytes : Bytes} (written : container elements = .ok bytes) :
    bytes ≠ [] := by
  intro empty
  have size := length_of_container written
  rw [empty, List.length_nil] at size
  exact absurd size (Nat.succ_ne_zero _).symm

/-- The length in front of measured contents is that of their whole written form. -/
theorem declared_of_measured {contents bytes : Bytes} (written : measured contents = .ok bytes) :
    bytes.length < 2 ^ 31 ∧ bytes.take 4 = littleEndian 4 bytes.length := by
  obtain ⟨small, rfl⟩ := measured_eq_ok_iff.1 written
  rw [List.length_append, length_littleEndian, Nat.add_comm 4]
  exact ⟨small, List.take_left' (length_littleEndian _ _)⟩

theorem declared_of_container {elements bytes : Bytes} (written : container elements = .ok bytes) :
    bytes.length < 2 ^ 31 ∧ bytes.take 4 = littleEndian 4 bytes.length :=
  declared_of_measured written

/-! ### Entries -/

/-- The written form of one entry: a type byte, a key and a value. -/
def IsElement (key : String) (content : Value) (bytes : Bytes) : Prop :=
  0 ∉ Utf8.encode key ∧ ∃ contents, value content = .ok contents ∧
    [content.elementType.byte] ++ (Utf8.encode key ++ [0] ++ contents) = bytes

theorem IsElement.ne_nil {key : String} {content : Value} {bytes : Bytes}
    (element : IsElement key content bytes) : bytes ≠ [] := by
  obtain ⟨-, contents, -, rfl⟩ := element
  exact List.cons_ne_nil _ _

/-- One entry and what follows it, as every writer of entries puts them together. -/
theorem entry_eq_ok_iff {key : String} {content : Value} {rest : Written} {bytes : Bytes} :
    (do
      let label ← name key
      let contents ← value content
      return content.elementType.byte :: (label ++ (contents ++ (← rest))) : Written) =
        .ok bytes ↔
      ∃ head tail, IsElement key content head ∧ rest = .ok tail ∧ head ++ tail = bytes := by
  simp only [bind_eq_ok_iff]
  constructor
  · rintro ⟨label, named, contents, written, tail, others, same⟩
    obtain ⟨clean, rfl⟩ := name_eq_ok_iff.1 named
    refine ⟨_, tail, ⟨clean, contents, written, rfl⟩, others, ?_⟩
    rw [← Except.ok.inj same]
    simp
  · rintro ⟨head, tail, ⟨clean, contents, written, rfl⟩, others, rfl⟩
    refine ⟨_, name_eq_ok_iff.2 ⟨clean, rfl⟩, contents, written, tail, others, ?_⟩
    simp [Pure.pure, Except.pure]

theorem entries_cons_eq_ok_iff {key : String} {content : Value} {rest : List (String × Value)}
    {bytes : Bytes} :
    entries ((key, content) :: rest) = .ok bytes ↔
      ∃ head tail, IsElement key content head ∧ entries rest = .ok tail ∧ head ++ tail = bytes := by
  rw [entries]
  exact entry_eq_ok_iff

/-- Checking keys only refuses documents. -/
theorem entries_of_checkedEntries {fields : List (String × Value)} {bytes : Bytes}
    (written : checkedEntries fields = .ok bytes) : entries fields = .ok bytes := by
  induction fields generalizing bytes with
  | nil => simpa [checkedEntries, entries] using written
  | cons first rest inductionHypothesis =>
    obtain ⟨key, content⟩ := first
    obtain ⟨-, -, written⟩ := bind_eq_ok_iff.1 written
    obtain ⟨head, tail, element, others, same⟩ := entry_eq_ok_iff.1 written
    exact entries_cons_eq_ok_iff.2 ⟨head, tail, element, inductionHypothesis others, same⟩

/-! ### Arrays as entries -/

/-- The items of an array with their keys, the places from `index` on. -/
def labelled : Nat → List Value → List (String × Value)
  | _, [] => []
  | index, first :: rest => (toString index, first) :: labelled (index + 1) rest

theorem map_labelled (index : Nat) (values : List Value) :
    (labelled index values).map (·.2) = values := by
  induction values generalizing index with
  | nil => rfl
  | cons first rest inductionHypothesis =>
    rw [labelled, List.map_cons, inductionHypothesis]

theorem items_eq_entries (index : Nat) (values : List Value) :
    items index values = entries (labelled index values) := by
  induction values generalizing index with
  | nil => rw [labelled, items, entries]
  | cons first rest inductionHypothesis =>
    rw [labelled, items, entries, inductionHypothesis]

/-- Only the values of entries matter for how deep they are nested. -/
theorem depthItems_map_snd (fields : Document) :
    Value.depthItems (fields.map (·.2)) = Value.depthEntries fields := by
  induction fields with
  | nil => rw [List.map_nil, Value.depthEntries, Value.depthItems]
  | cons first rest inductionHypothesis =>
    rw [List.map_cons, Value.depthEntries, Value.depthItems, inductionHypothesis]

theorem itemsKeysDistinct_map_snd (fields : Document) :
    Value.ItemsKeysDistinct (fields.map (·.2)) ↔ Value.EntriesKeysDistinct fields := by
  induction fields with
  | nil => rw [List.map_nil, Value.EntriesKeysDistinct, Value.ItemsKeysDistinct]
  | cons first rest inductionHypothesis =>
    rw [List.map_cons, Value.EntriesKeysDistinct, Value.ItemsKeysDistinct, inductionHypothesis]

theorem depthEntries_labelled (index : Nat) (values : List Value) :
    Value.depthEntries (labelled index values) = Value.depthItems values := by
  rw [← depthItems_map_snd, map_labelled]

theorem entriesKeysDistinct_labelled (index : Nat) (values : List Value) :
    Value.EntriesKeysDistinct (labelled index values) ↔ Value.ItemsKeysDistinct values := by
  rw [← itemsKeysDistinct_map_snd, map_labelled]

end Encode

namespace Document

/-! ### Options -/

/-- A document in the order in which the options have it written. -/
def ordered (options : EncodeOptions) (document : Document) : Document :=
  if options.moveId then document.idFirst else document

theorem pure_of_capped {written : Written} {max : Nat} {bytes : Bytes}
    (capped : (do
      let bytes ← written
      if max < bytes.length then .error (.documentTooLarge bytes.length max)
      else return bytes : Written) = .ok bytes) : written >>= pure = .ok bytes := by
  obtain ⟨whole, given, last⟩ := bind_eq_ok_iff.1 capped
  split at last
  · cases last
  · exact bind_eq_ok_iff.2 ⟨whole, given, last⟩

/-- A ceiling only refuses documents. -/
theorem encodeWith_uncapped {options : EncodeOptions} {document : Document} {bytes : Bytes}
    (written : document.encodeWith options = .ok bytes) :
    document.encodeWith { options with maxSize := none } = .ok bytes := by
  obtain ⟨validateKeys, moveId, ceiling⟩ := options
  cases ceiling with
  | none => exact written
  | some max =>
    unfold encodeWith at written ⊢
    dsimp only at written ⊢
    by_cases validated : validateKeys = true
    · rw [if_pos validated] at written ⊢
      obtain ⟨elements, given, rest⟩ := bind_eq_ok_iff.1 written
      exact bind_eq_ok_iff.2 ⟨elements, given, pure_of_capped rest⟩
    · rw [if_neg validated] at written ⊢
      obtain ⟨elements, given, rest⟩ := bind_eq_ok_iff.1 written
      exact bind_eq_ok_iff.2 ⟨elements, given, pure_of_capped rest⟩

/-- Whatever the options ask, the form is that of the entries in order. -/
theorem container_of_encodeWith {options : EncodeOptions} {document : Document} {bytes : Bytes}
    (written : document.encodeWith options = .ok bytes) :
    Encode.entries (document.ordered options) >>= Encode.container = .ok bytes := by
  have uncapped := encodeWith_uncapped written
  unfold encodeWith at uncapped
  dsimp only at uncapped
  split at uncapped
  · obtain ⟨elements, given, rest⟩ := bind_eq_ok_iff.1 uncapped
    rw [bind_pure] at rest
    exact bind_eq_ok_iff.2 ⟨elements, Encode.entries_of_checkedEntries given, rest⟩
  · obtain ⟨elements, given, rest⟩ := bind_eq_ok_iff.1 uncapped
    rw [bind_pure] at rest
    exact bind_eq_ok_iff.2 ⟨elements, given, rest⟩

theorem encode_eq (document : Document) :
    document.encode = Encode.entries document >>= Encode.container := by
  unfold encode encodeWith
  dsimp only
  rw [if_neg Bool.false_ne_true, if_neg Bool.false_ne_true]
  simp only [bind_pure]

end Document

end DocumentDriver
