/-
This file proves that documents keep their keys distinct. Setting a key, removing one and moving
`_id` to the front all keep every key of the document and of everything inside it distinct, so this
holds of every document that is built entry by entry.
-/

import DocumentDriver.Document.Encode
import DocumentDriver.Document.Size

namespace DocumentDriver

namespace Value

/-! ### All entries -/

theorem entriesKeysDistinct_iff {fields : Document} :
    EntriesKeysDistinct fields ↔ ∀ field ∈ fields, field.2.KeysDistinct := by
  induction fields with
  | nil => simp [EntriesKeysDistinct]
  | cons first rest inductionHypothesis =>
    rw [EntriesKeysDistinct, inductionHypothesis, List.forall_mem_cons]

theorem depthEntries_le_iff {fields : Document} {bound : Nat} :
    depthEntries fields ≤ bound ↔ ∀ field ∈ fields, field.2.depth ≤ bound := by
  induction fields with
  | nil => simp [depthEntries]
  | cons first rest inductionHypothesis =>
    rw [depthEntries, Nat.max_le, inductionHypothesis, List.forall_mem_cons]

theorem depth_le_of_mem {fields : Document} {field : String × Value} (member : field ∈ fields) :
    field.2.depth ≤ depthEntries fields :=
  depthEntries_le_iff.1 (Nat.le_refl _) field member

end Value

namespace Document

/-! ### Looking up -/

theorem contains_eq_false {document : Document} {key : String} (absent : key ∉ document.keys) :
    document.contains key = false := by
  refine List.any_eq_false.2 fun field member same => absent ?_
  rw [← eq_of_beq same]
  exact List.mem_map_of_mem member

theorem not_mem_keys {document : Document} {key : String} (absent : ¬document.contains key = true) :
    key ∉ document.keys := by
  intro member
  obtain ⟨field, found, rfl⟩ := List.mem_map.1 member
  exact absent (List.any_eq_true.2 ⟨field, found, beq_self_eq_true field.1⟩)

theorem mem_of_get? {document : Document} {key : String} {content : Value}
    (found : document.get? key = some content) : (key, content) ∈ document := by
  obtain ⟨field, first, rfl⟩ := Option.map_eq_some_iff.1 found
  have same := List.find?_some first
  rw [← eq_of_beq same]
  exact List.mem_of_find?_eq_some first

/-! ### Building -/

theorem mem_insert {document : Document} {key : String} {content : Value}
    {field : String × Value} (member : field ∈ document.insert key content) :
    field = (key, content) ∨ field ∈ document := by
  induction document with
  | nil => exact .inl (List.mem_singleton.1 member)
  | cons first rest inductionHypothesis =>
    obtain ⟨other, old⟩ := first
    rw [insert] at member
    by_cases same : (other == key) = true
    · rw [if_pos same, eq_of_beq same] at member
      exact (List.mem_cons.1 member).imp_right (List.mem_cons_of_mem _)
    · rw [if_neg same] at member
      rcases List.mem_cons.1 member with rfl | later
      · exact .inr List.mem_cons_self
      · exact (inductionHypothesis later).imp_right (List.mem_cons_of_mem _)

theorem nodup_keys_insert {document : Document} (key : String) (content : Value)
    (distinct : document.keys.Nodup) : (document.insert key content).keys.Nodup := by
  induction document with
  | nil => exact List.pairwise_singleton _ key
  | cons first rest inductionHypothesis =>
    obtain ⟨other, old⟩ := first
    rw [insert]
    by_cases same : (other == key) = true
    · rw [if_pos same]
      exact distinct
    · rw [if_neg same]
      obtain ⟨absent, others⟩ := List.nodup_cons.1 distinct
      refine List.nodup_cons.2 ⟨fun member => ?_, inductionHypothesis others⟩
      obtain ⟨field, found, named⟩ := List.mem_map.1 member
      rcases mem_insert found with rfl | old
      · exact same (beq_iff_eq.2 named.symm)
      · exact absent (List.mem_map.2 ⟨field, old, named⟩)

theorem keysDistinct_insert {document : Document} {content : Value} (key : String)
    (distinct : document.KeysDistinct) (inner : content.KeysDistinct) :
    (document.insert key content).KeysDistinct := by
  refine ⟨nodup_keys_insert key content distinct.1, Value.entriesKeysDistinct_iff.2 ?_⟩
  intro field member
  rcases mem_insert member with rfl | old
  · exact inner
  · exact Value.entriesKeysDistinct_iff.1 distinct.2 field old

/-- A document that is built entry by entry never holds a key twice. -/
theorem keysDistinct_ofEntries {fields : List (String × Value)}
    (inner : ∀ field ∈ fields, field.2.KeysDistinct) : (ofEntries fields).KeysDistinct := by
  have grown (document : Document) (distinct : document.KeysDistinct) :
      (fields.foldl (fun document field => document.insert field.1 field.2)
        document).KeysDistinct := by
    induction fields generalizing document with
    | nil => exact distinct
    | cons first rest inductionHypothesis =>
      obtain ⟨here, later⟩ := List.forall_mem_cons.1 inner
      exact inductionHypothesis later _ (keysDistinct_insert first.1 distinct here)
  exact grown [] ⟨List.nodup_nil, trivial⟩

theorem keysDistinct_erase {document : Document} (key : String)
    (distinct : document.KeysDistinct) : (document.erase key).KeysDistinct := by
  refine ⟨(List.filter_sublist.map _).nodup distinct.1, Value.entriesKeysDistinct_iff.2 ?_⟩
  exact fun field member =>
    Value.entriesKeysDistinct_iff.1 distinct.2 field (List.mem_filter.1 member).1

theorem not_mem_keys_erase (document : Document) (key : String) :
    key ∉ (document.erase key).keys := by
  intro member
  obtain ⟨field, found, named⟩ := List.mem_map.1 member
  have other : field.1 ≠ key := bne_iff_ne.1 (List.mem_filter.1 found).2
  exact other named

/-! ### The place of `_id` -/

/-- Moving `_id` moves entries only. -/
theorem mem_of_mem_idFirst {document : Document} {field : String × Value}
    (member : field ∈ document.idFirst) : field ∈ document := by
  unfold idFirst at member
  split at member
  · exact member
  next id found =>
    rcases List.mem_cons.1 member with rfl | other
    · exact mem_of_get? found
    · exact (List.mem_filter.1 other).1

theorem keysDistinct_idFirst {document : Document} (distinct : document.KeysDistinct) :
    document.idFirst.KeysDistinct := by
  have inner : Value.EntriesKeysDistinct document.idFirst :=
    Value.entriesKeysDistinct_iff.2 fun field member =>
      Value.entriesKeysDistinct_iff.1 distinct.2 field (mem_of_mem_idFirst member)
  refine ⟨?_, inner⟩
  unfold idFirst
  split
  · exact distinct.1
  · exact List.nodup_cons.2
      ⟨not_mem_keys_erase document "_id", (keysDistinct_erase "_id" distinct).1⟩

theorem depth_idFirst_le (document : Document) : document.idFirst.depth ≤ document.depth :=
  Value.depthEntries_le_iff.2 fun _ member => Value.depth_le_of_mem (mem_of_mem_idFirst member)

end Document

end DocumentDriver
