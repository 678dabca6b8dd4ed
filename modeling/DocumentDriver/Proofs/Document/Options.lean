/-
This file says what the options of a writer can do to a document that has a written form: nothing,
if `_id` is where they want it, except to refuse the document for a key or for its size. So a step
of a writer gives the one form that it may give, unless it is refused.
-/

import DocumentDriver.Proofs.Document.Keys
import DocumentDriver.Message.Fields
import DocumentDriver.Proofs.Document.Written
import Mathlib.Data.List.Forall2

namespace DocumentDriver

namespace Encode

/-- The step gives these bytes. If it may be refused, it may also fail. -/
def GivesUnless (refused : Prop) (step : Written) (bytes : Bytes) : Prop :=
  step = .ok bytes ∨ refused ∧ ∃ error, step = .error error

variable {refused : Prop}

theorem GivesUnless.bind {first : Written} {next : Bytes → Written} {head bytes : Bytes}
    (front : GivesUnless refused first head) (back : GivesUnless refused (next head) bytes) :
    GivesUnless refused (first >>= next) bytes := by
  rcases front with rfl | ⟨may, error, rfl⟩
  · exact back
  · exact .inr ⟨may, error, rfl⟩

theorem GivesUnless.mono {other : Prop} {step : Written} {bytes : Bytes}
    (gives : GivesUnless refused step bytes) (weaker : refused → other) :
    GivesUnless other step bytes :=
  gives.imp_right (And.imp_left weaker)

theorem GivesUnless.eq_ok {step : Written} {bytes : Bytes}
    (gives : GivesUnless refused step bytes) (accepted : ¬refused) : step = .ok bytes :=
  gives.resolve_right fun failed => accepted failed.1

/-! ### Keys -/

/-- A key that a check refuses. -/
def IsReservedKey (key : String) : Prop := key.toList.head? = some '$' ∨ '.' ∈ key.toList

theorem checkKey_eq_ok {key : String} (free : ¬IsReservedKey key) : checkKey key = .ok () := by
  obtain ⟨dollar, dot⟩ := not_or.1 free
  unfold checkKey
  rw [if_neg dollar, if_neg dot]

theorem checkedEntries_eq_entries {fields : Document}
    (free : ∀ key ∈ fields.keys, ¬IsReservedKey key) : checkedEntries fields = entries fields := by
  induction fields with
  | nil => rw [checkedEntries, entries]
  | cons first rest inductionHypothesis =>
    obtain ⟨here, others⟩ := List.forall_mem_cons.1 free
    rw [checkedEntries, entries, checkKey_eq_ok here, inductionHypothesis others]
    rfl

end Encode

namespace Document

open Encode

/-- A document whose `_id` stands first already stays in order. -/
theorem idFirst_of_first {document : Document} (distinct : document.keys.Nodup)
    (first : "_id" ∈ document.keys → document.keys.head? = some "_id") :
    document.idFirst = document := by
  unfold idFirst
  cases found : document.get? "_id" with
  | none => rfl
  | some content =>
    have here := first (List.mem_map_of_mem (mem_of_get? found))
    cases document with
    | nil => cases here
    | cons field rest =>
      obtain ⟨key, value⟩ := field
      obtain rfl : key = "_id" := Option.some.inj here
      obtain ⟨absent, -⟩ := List.nodup_cons.1 distinct
      have same : value = content := by
        simpa [get?] using found
      have kept : ∀ field ∈ rest, (field.1 != "_id") = true := fun field member =>
        bne_iff_ne.2 fun named => absent (List.mem_map.2 ⟨field, member, named⟩)
      show ("_id", content) :: List.filter _ (("_id", value) :: rest) = _
      rw [List.filter_cons_of_neg (by simp), List.filter_eq_self.2 kept, same]

/-- Why a document that has a written form may be refused: one of its own keys is reserved, or the
form is too long. -/
def IsRefused (options : EncodeOptions) (document : Document) : Prop :=
  (options.validateKeys = true ∧ ∃ key ∈ document.keys, IsReservedKey key) ∨
    ∃ max bytes, options.maxSize = some max ∧ document.encode = .ok bytes ∧ max < bytes.length

/-- Where keys are not checked, a document is accepted if it is short enough. -/
theorem not_isRefused_of_fits {limit : Nat} {document : Document} {bytes : Bytes}
    (written : document.encode = .ok bytes) (fits : bytes.length ≤ limit) :
    ¬document.IsRefused { maxSize := some limit } := by
  rintro (⟨checked, -⟩ | ⟨max, other, same, again, long⟩)
  · cases checked
  · cases written.symm.trans again
    exact absurd fits (Nat.not_le.2 (Option.some.inj same ▸ long))

/-- The elements of a document, with its keys checked if the options ask for it. -/
def elementsWith (options : EncodeOptions) (document : Document) : Written :=
  if options.validateKeys then checkedEntries document else entries document

/-- The bytes as they are, unless they exceed the ceiling. -/
def capped (ceiling : Option Nat) (bytes : Bytes) : Written :=
  match ceiling with
  | none => .ok bytes
  | some max => if max < bytes.length then .error (.documentTooLarge bytes.length max) else .ok bytes

/-- Writing with options is writing the elements, framing them and looking at the size. -/
theorem encodeWith_eq (options : EncodeOptions) (document : Document) :
    document.encodeWith options = (do
      let elements ← elementsWith options (document.ordered options)
      let bytes ← container elements
      capped options.maxSize bytes) := by
  unfold encodeWith elementsWith
  by_cases checked : options.validateKeys = true
  · rw [if_pos checked, if_pos checked]
    rfl
  · rw [if_neg checked, if_neg checked]
    rfl

theorem encodeWith_eq_ok {options : EncodeOptions} {document : Document} {bytes : Bytes}
    (inPlace : document.ordered options = document) (written : document.encode = .ok bytes)
    (accepted : ¬document.IsRefused options) : document.encodeWith options = .ok bytes := by
  obtain ⟨free, small⟩ := not_or.1 accepted
  obtain ⟨elements, inner, contained⟩ := bind_eq_ok_iff.1 ((encode_eq document).symm.trans written)
  have listed : elementsWith options document = .ok elements := by
    unfold elementsWith
    by_cases checked : options.validateKeys = true
    · rw [if_pos checked, checkedEntries_eq_entries, inner]
      exact fun key member reserved => free ⟨checked, key, member, reserved⟩
    · rw [if_neg checked, inner]
  have fits : capped options.maxSize bytes = .ok bytes := by
    unfold capped
    cases ceiling : options.maxSize with
    | none => rfl
    | some max => exact if_neg fun long => small ⟨max, bytes, ceiling, written, long⟩
  rw [encodeWith_eq, inPlace]
  exact bind_eq_ok_iff.2 ⟨elements, listed, bind_eq_ok_iff.2 ⟨bytes, contained, fits⟩⟩

/-- Options refuse a document or write it as it is written without them. -/
theorem givesUnless_encodeWith {options : EncodeOptions} {document : Document} {bytes : Bytes}
    (inPlace : document.ordered options = document) (written : document.encode = .ok bytes) :
    GivesUnless (document.IsRefused options) (document.encodeWith options) bytes := by
  by_cases refused : document.IsRefused options
  · cases outcome : document.encodeWith options with
    | error error => exact .inr ⟨refused, error, rfl⟩
    | ok other =>
      have plain := container_of_encodeWith outcome
      rw [inPlace, ← encode_eq, written] at plain
      exact .inl plain.symm
  · exact .inl (encodeWith_eq_ok inPlace written refused)

theorem givesUnless_documents {options : EncodeOptions} {documents : List Document}
    {parts : List Bytes}
    (inPlace : ∀ document ∈ documents, document.ordered options = document)
    (each : List.Forall₂ (fun document part => document.encode = .ok part) documents parts) :
    GivesUnless (∃ document ∈ documents, document.IsRefused options)
      (Encode.documents options documents) parts.flatten := by
  induction each with
  | nil => exact .inl rfl
  | @cons first part rest others written later inductionHypothesis =>
    obtain ⟨here, behind⟩ := List.forall_mem_cons.1 inPlace
    refine ((givesUnless_encodeWith here written).mono ?_).bind
      (((inductionHypothesis behind).mono ?_).bind (.inl rfl))
    · exact fun refused => ⟨first, List.mem_cons_self, refused⟩
    · exact fun ⟨document, member, refused⟩ => ⟨document, List.mem_cons_of_mem _ member, refused⟩

/-- Without options no document is refused. -/
theorem documents_eq_ok {documents : List Document} {parts : List Bytes}
    (each : List.Forall₂ (fun document part => document.encode = .ok part) documents parts) :
    Encode.documents {} documents = .ok parts.flatten := by
  refine (givesUnless_documents (fun _ _ => rfl) each).eq_ok ?_
  rintro ⟨document, -, ⟨checked, -⟩ | ⟨max, -, limit, -⟩⟩
  · cases checked
  · cases limit

end Document

end DocumentDriver
