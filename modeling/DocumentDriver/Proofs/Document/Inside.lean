/-
This file says which values are inside a value and where. The place of a value is the number of bytes
in front of it in the written form of the one around it, counted from the sizes of what comes before,
without writing anything. So a statement about all values inside, such as that none has a certain fault,
and a statement about their bytes speak of the same values.
-/

import DocumentDriver.Document.Size

namespace DocumentDriver

namespace Value

/-- A value holds another one at a place: itself at its beginning, what the values of its entries and
items hold behind the length, the entries before, the type byte and the key, and what a scope holds
behind the length and the code. -/
inductive Holds : Value → Nat → Value → Prop
  | itself (content : Value) : Holds content 0 content
  | entry {before after : List (String × Value)} {key : String} {content inner : Value}
      {place : Nat} (holds : Holds content place inner) :
      Holds (document (before ++ (key, content) :: after))
        (4 + sizeEntries before + (1 + (key.utf8ByteSize + 1)) + place) inner
  | item {before after : List Value} {content inner : Value} {place : Nat}
      (holds : Holds content place inner) :
      Holds (array (before ++ content :: after))
        (4 + sizeItems 0 before + (1 + ((toString before.length).utf8ByteSize + 1)) + place) inner
  | scope {text : String} {fields : List (String × Value)} {inner : Value} {place : Nat}
      (holds : Holds (document fields) place inner) :
      Holds (codeWithScope text fields) (4 + (4 + text.utf8ByteSize + 1) + place) inner

/-- A value is a document, an array, or code with a scope. -/
def IsContainer : Value → Prop
  | document _ | array _ | codeWithScope .. => True
  | _ => False

/-- Some value inside a value, at any depth, has a property. -/
def Has (property : Value → Prop) (outer : Value) : Prop :=
  ∃ place inner, Holds outer place inner ∧ property inner

variable {property : Value → Prop}

theorem has_iff_of_not_isContainer {outer : Value} (leaf : ¬outer.IsContainer) :
    Has property outer ↔ property outer := by
  constructor
  · rintro ⟨place, inner, holds, has⟩
    cases holds with
    | itself => exact has
    | entry | item | scope => exact absurd trivial leaf
  · exact fun has => ⟨0, outer, .itself outer, has⟩

theorem has_document_iff {fields : List (String × Value)} :
    Has property (document fields) ↔
      property (document fields) ∨ ∃ field ∈ fields, Has property field.2 := by
  constructor
  · rintro ⟨place, inner, holds, has⟩
    cases holds with
    | itself => exact .inl has
    | entry holds =>
      exact .inr ⟨_, List.mem_append_right _ List.mem_cons_self, _, inner, holds, has⟩
  · rintro (has | ⟨⟨key, content⟩, member, place, inner, holds, has⟩)
    · exact ⟨0, _, .itself _, has⟩
    · obtain ⟨before, after, rfl⟩ := List.append_of_mem member
      exact ⟨_, inner, .entry holds, has⟩

theorem has_array_iff {values : List Value} :
    Has property (array values) ↔
      property (array values) ∨ ∃ content ∈ values, Has property content := by
  constructor
  · rintro ⟨place, inner, holds, has⟩
    cases holds with
    | itself => exact .inl has
    | item holds =>
      exact .inr ⟨_, List.mem_append_right _ List.mem_cons_self, _, inner, holds, has⟩
  · rintro (has | ⟨content, member, place, inner, holds, has⟩)
    · exact ⟨0, _, .itself _, has⟩
    · obtain ⟨before, after, rfl⟩ := List.append_of_mem member
      exact ⟨_, inner, .item holds, has⟩

theorem has_codeWithScope_iff {text : String} {fields : List (String × Value)} :
    Has property (codeWithScope text fields) ↔
      property (codeWithScope text fields) ∨ Has property (document fields) := by
  constructor
  · rintro ⟨place, inner, holds, has⟩
    cases holds with
    | itself => exact .inl has
    | scope holds => exact .inr ⟨_, inner, holds, has⟩
  · rintro (has | ⟨place, inner, holds, has⟩)
    · exact ⟨0, _, .itself _, has⟩
    · exact ⟨_, inner, .scope holds, has⟩

/-! ### Faults -/

/-- A value is a document of which a key holds a zero byte. -/
def IsMiskeyed : Value → Prop
  | document fields => ∃ field ∈ fields, 0 ∈ Utf8.encode field.1
  | _ => False

/-- A value is a regular expression of which a part holds a zero byte. -/
def IsBrokenRegex : Value → Prop
  | regex expression =>
    0 ∈ Utf8.encode expression.pattern ∨ 0 ∈ Utf8.encode expression.options
  | _ => False

theorem has_isMiskeyed_document_iff {fields : List (String × Value)} :
    Has IsMiskeyed (document fields) ↔
      ∃ field ∈ fields, 0 ∈ Utf8.encode field.1 ∨ Has IsMiskeyed field.2 := by
  rw [has_document_iff, IsMiskeyed]
  simp only [and_or_left, exists_or]

theorem has_isBrokenRegex_document_iff {fields : List (String × Value)} :
    Has IsBrokenRegex (document fields) ↔ ∃ field ∈ fields, Has IsBrokenRegex field.2 :=
  has_document_iff.trans (or_iff_right id)

end Value

/-! ### Parts of byte strings -/

/-- A byte string is a part of another one, with so many bytes before it. -/
def IsPart (place : Nat) (part bytes : Bytes) : Prop :=
  ∃ before after, bytes = before ++ part ++ after ∧ before.length = place

theorem isPart_self (bytes : Bytes) : IsPart 0 bytes bytes := ⟨[], [], by simp, rfl⟩

/-- A part of a part is a part. -/
theorem IsPart.trans {outerPlace place : Nat} {part middle bytes : Bytes}
    (outer : IsPart outerPlace middle bytes) (inner : IsPart place part middle) :
    IsPart (outerPlace + place) part bytes := by
  obtain ⟨front, back, rfl, rfl⟩ := outer
  obtain ⟨before, after, rfl, rfl⟩ := inner
  exact ⟨front ++ before, after ++ back, by simp, by simp⟩

end DocumentDriver
