/-
This file says exactly what the options of a writer do. They put the `_id` of the outermost document
first, and they refuse: a reserved key of the outermost document where its turn comes, and a size
above the ceiling once everything is written. Nothing else changes, so what is written is the plain
form of the document in its new order, and a document inside it is written as it would be alone.
-/

import DocumentDriver.Proofs.Document.Encodable
import DocumentDriver.Proofs.Document.Options

namespace DocumentDriver

namespace Encode

/-! ### Checked keys -/

theorem checkKey_error {key : String} (reserved : IsReservedKey key) :
    ∃ reason, checkKey key = .error (.invalidKey reason) := by
  unfold checkKey
  by_cases dollar : key.toList.head? = some '$'
  · rw [if_pos dollar]
    exact ⟨_, rfl⟩
  · rw [if_neg dollar, if_pos (reserved.resolve_left dollar)]
    exact ⟨_, rfl⟩

/-- Entries whose keys are checked are written as without the check, unless a reserved key among
them has its turn before anything else goes wrong. -/
theorem checkedEntries_cases (fields : Document) :
    checkedEntries fields = entries fields ∨
      ∃ key ∈ fields.keys, IsReservedKey key ∧ ∃ error, checkKey key = .error error ∧
        checkedEntries fields = .error error := by
  induction fields with
  | nil => exact .inl (by rw [checkedEntries, entries])
  | cons first rest inductionHypothesis =>
    obtain ⟨key, content⟩ := first
    by_cases reserved : IsReservedKey key
    · obtain ⟨reason, refused⟩ := checkKey_error reserved
      refine .inr ⟨key, List.mem_cons_self, reserved, _, refused, ?_⟩
      rw [checkedEntries, refused]
      rfl
    · rw [checkedEntries, entries, checkKey_eq_ok reserved]
      rcases inductionHypothesis with same | ⟨later, member, found, error, refused, failed⟩
      · rw [same]
        exact .inl rfl
      · rw [failed]
        -- What goes wrong with this entry goes wrong with and without the check.
        cases named : name key with
        | error problem => exact .inl rfl
        | ok label =>
          cases written : value content with
          | error problem => exact .inl rfl
          | ok contents =>
            exact .inr ⟨later, List.mem_cons_of_mem _ member, found, error, refused, rfl⟩

theorem not_reserved_of_checkedEntries {fields : Document} {bytes : Bytes}
    (written : checkedEntries fields = .ok bytes) : ∀ key ∈ fields.keys, ¬IsReservedKey key := by
  induction fields generalizing bytes with
  | nil => exact nofun
  | cons first rest inductionHypothesis =>
    obtain ⟨key, content⟩ := first
    obtain ⟨_, checked, written⟩ := bind_eq_ok_iff.1 written
    obtain ⟨_, tail, -, others, -⟩ := entry_eq_ok_iff.1 written
    refine List.forall_mem_cons.2 ⟨fun reserved => ?_, inductionHypothesis others⟩
    obtain ⟨reason, refused⟩ := checkKey_error reserved
    cases refused.symm.trans checked

theorem checkedEntries_eq_ok_iff {fields : Document} {bytes : Bytes} :
    checkedEntries fields = .ok bytes ↔
      entries fields = .ok bytes ∧ ∀ key ∈ fields.keys, ¬IsReservedKey key := by
  constructor
  · exact fun written =>
      ⟨entries_of_checkedEntries written, not_reserved_of_checkedEntries written⟩
  · rintro ⟨written, free⟩
    rw [checkedEntries_eq_entries free, written]

end Encode

namespace Document

open Encode

/-! ### The order of the entries -/

/-- The order in which the options have the entries of a document written: its `_id`, if it is to be
moved and there is one, in front of all others, which keep their order. -/
inductive IsOrdering (options : EncodeOptions) : Document → Document → Prop
  | unmoved {document : Document} (stays : options.moveId = false) :
    IsOrdering options document document
  | without {document : Document} (absent : "_id" ∉ document.keys) :
    IsOrdering options document document
  | moved {front back : Document} {id : Value} (moves : options.moveId = true) :
    IsOrdering options (front ++ ("_id", id) :: back) (("_id", id) :: (front ++ back))

theorem get?_of_absent {document : Document} {key : String} (absent : key ∉ document.keys) :
    document.get? key = none := by
  cases found : document.get? key with
  | none => rfl
  | some content => exact absurd (List.mem_map_of_mem (mem_of_get? found)) absent

theorem erase_of_absent {document : Document} {key : String} (absent : key ∉ document.keys) :
    document.erase key = document := by
  refine List.filter_eq_self.2 fun field member => bne_iff_ne.2 fun same => absent ?_
  rw [← same]
  exact List.mem_map_of_mem member

/-- Where keys are distinct, moving `_id` takes it out of its one place. -/
theorem idFirst_append {front back : Document} {id : Value}
    (distinct : Document.keys (front ++ ("_id", id) :: back) |>.Nodup) :
    Document.idFirst (front ++ ("_id", id) :: back) = ("_id", id) :: (front ++ back) := by
  unfold keys at distinct
  rw [List.map_append, List.map_cons] at distinct
  obtain ⟨-, inBack, apart⟩ := List.nodup_append.1 distinct
  have before : "_id" ∉ keys front := fun member => apart _ member _ List.mem_cons_self rfl
  have behind : "_id" ∉ keys back := (List.nodup_cons.1 inBack).1
  have first : front.find? (·.1 == "_id") = none := by
    have none := get?_of_absent before
    unfold get? at none
    exact Option.map_eq_none_iff.1 none
  have found : Document.get? (front ++ ("_id", id) :: back) "_id" = some id := by
    unfold get?
    rw [List.find?_append, first]
    rfl
  have others : Document.erase (front ++ ("_id", id) :: back) "_id" = front ++ back := by
    have one := erase_of_absent before
    have two := erase_of_absent behind
    unfold erase at one two ⊢
    rw [List.filter_append, List.filter_cons_of_neg (by simp), one, two]
  unfold idFirst
  rw [found]
  exact congrArg (("_id", id) :: ·) others

/-- A document has exactly one such order, the one in which it is written. -/
theorem isOrdering_iff {options : EncodeOptions} {document other : Document}
    (distinct : document.keys.Nodup) :
    IsOrdering options document other ↔ other = document.ordered options := by
  constructor
  · intro ordering
    cases ordering with
    | unmoved stays =>
      unfold ordered
      rw [stays, if_neg Bool.false_ne_true]
    | without absent =>
      unfold ordered idFirst
      rw [get?_of_absent absent, ite_self]
    | moved moves =>
      unfold ordered
      rw [if_pos moves, idFirst_append distinct]
  · rintro rfl
    cases moves : options.moveId with
    | false =>
      unfold ordered
      rw [moves, if_neg Bool.false_ne_true]
      exact .unmoved moves
    | true =>
      unfold ordered
      rw [if_pos moves]
      by_cases present : "_id" ∈ document.keys
      · obtain ⟨⟨key, id⟩, member, rfl⟩ := List.mem_map.1 present
        obtain ⟨front, back, rfl⟩ := List.append_of_mem member
        rw [idFirst_append distinct]
        exact .moved moves
      · unfold idFirst
        rw [get?_of_absent present]
        exact .without present

/-- The order changes no key. -/
theorem mem_keys_ordered_iff {options : EncodeOptions} {document : Document}
    (distinct : document.keys.Nodup) {key : String} :
    key ∈ (document.ordered options).keys ↔ key ∈ document.keys := by
  have ordering : IsOrdering options document (document.ordered options) :=
    (isOrdering_iff distinct).2 rfl
  generalize document.ordered options = other at ordering
  cases ordering with
  | unmoved | without => exact Iff.rfl
  | moved =>
    simp only [keys, List.map_append, List.map_cons, List.mem_append, List.mem_cons]
    exact or_left_comm

/-! ### Refusals -/

/-- Where the options ask for it, no key of the document itself is reserved. -/
def KeysAllowed (options : EncodeOptions) (document : Document) : Prop :=
  options.validateKeys = true → ∀ key ∈ document.keys, ¬IsReservedKey key

theorem keysAllowed_ordered_iff {options : EncodeOptions} {document : Document}
    (distinct : document.keys.Nodup) :
    (document.ordered options).KeysAllowed options ↔ document.KeysAllowed options := by
  unfold KeysAllowed
  simp only [mem_keys_ordered_iff distinct]

theorem elementsWith_eq_ok_iff {options : EncodeOptions} {document : Document} {bytes : Bytes} :
    elementsWith options document = .ok bytes ↔
      entries document = .ok bytes ∧ document.KeysAllowed options := by
  unfold elementsWith KeysAllowed
  cases checked : options.validateKeys with
  | false => simp
  | true => simpa using checkedEntries_eq_ok_iff

theorem capped_eq_ok_iff {ceiling : Option Nat} {whole bytes : Bytes} :
    capped ceiling whole = .ok bytes ↔
      whole = bytes ∧ ∀ max, ceiling = some max → bytes.length ≤ max := by
  cases ceiling with
  | none => simp [capped]
  | some max =>
    unfold capped
    dsimp only
    by_cases long : max < whole.length
    · rw [if_pos long]
      refine ⟨nofun, ?_⟩
      rintro ⟨rfl, fits⟩
      exact absurd long (Nat.not_lt.2 (fits max rfl))
    · rw [if_neg long, Except.ok.injEq]
      refine (and_iff_left_of_imp ?_).symm
      rintro rfl other same
      exact Option.some.inj same ▸ Nat.not_lt.1 long

theorem capped_eq_error_iff {ceiling : Option Nat} {whole : Bytes} {error : Error} :
    capped ceiling whole = .error error ↔
      ∃ max, ceiling = some max ∧ max < whole.length ∧ error = .documentTooLarge whole.length max := by
  cases ceiling with
  | none => simp [capped]
  | some max =>
    unfold capped
    dsimp only
    by_cases long : max < whole.length
    · rw [if_pos long, Except.error.injEq]
      constructor
      · rintro rfl
        exact ⟨max, rfl, long, rfl⟩
      · rintro ⟨_, ⟨⟩, -, rfl⟩
        rfl
    · rw [if_neg long]
      refine ⟨nofun, ?_⟩
      rintro ⟨_, ⟨⟩, exceeds, -⟩
      exact absurd exceeds long

/-- What stands before the size is looked at is the plain form, if the keys allow it. -/
theorem framed_eq_ok_iff {options : EncodeOptions} {document : Document} {bytes : Bytes} :
    elementsWith options document >>= container = .ok bytes ↔
      document.encode = .ok bytes ∧ document.KeysAllowed options := by
  rw [encode_eq, bind_eq_ok_iff, bind_eq_ok_iff, ← exists_and_right]
  refine exists_congr fun elements => ?_
  rw [elementsWith_eq_ok_iff, and_right_comm]

/-- A document is refused for its keys and contents before its size is known. -/
theorem framed_error {options : EncodeOptions} {document : Document} {error : Error}
    (failed : elementsWith options document >>= container = .error error) :
    document.encode = .error error ∨ options.validateKeys = true ∧
      ∃ key ∈ document.keys, IsReservedKey key ∧ checkKey key = .error error := by
  rw [encode_eq]
  unfold elementsWith at failed
  cases checked : options.validateKeys with
  | false =>
    rw [checked, if_neg Bool.false_ne_true] at failed
    exact .inl failed
  | true =>
    rw [if_pos checked] at failed
    rcases checkedEntries_cases document with same | ⟨key, member, reserved, found, refused, stopped⟩
    · rw [same] at failed
      exact .inl failed
    · rw [stopped] at failed
      cases failed
      exact .inr ⟨rfl, key, member, reserved, refused⟩

theorem encodeWith_eq_framed (options : EncodeOptions) (document : Document) :
    document.encodeWith options =
      (elementsWith options (document.ordered options) >>= container) >>=
        capped options.maxSize := by
  rw [encodeWith_eq, bind_assoc]

/-- Every refusal has one of three causes, and the size is only looked at when there is no other. -/
theorem encodeWith_eq_error {options : EncodeOptions} {document : Document} {error : Error}
    (failed : document.encodeWith options = .error error) :
    (document.ordered options).encode = .error error ∨
      (options.validateKeys = true ∧ ∃ key ∈ (document.ordered options).keys,
        IsReservedKey key ∧ checkKey key = .error error) ∨
      ∃ bytes, (elementsWith options (document.ordered options) >>= container) = .ok bytes ∧
        capped options.maxSize bytes = .error error := by
  rw [encodeWith_eq_framed] at failed
  cases framed : elementsWith options (document.ordered options) >>= container with
  | error problem =>
    rw [framed] at failed
    cases failed
    exact (framed_error framed).imp_right .inl
  | ok bytes =>
    rw [framed] at failed
    exact .inr (.inr ⟨bytes, rfl, failed⟩)

/-- Neither what a document holds nor a reserved key is reported as a matter of size. -/
theorem encodeWith_eq_tooLarge_iff {options : EncodeOptions} {document : Document} {size max : Nat} :
    document.encodeWith options = .error (.documentTooLarge size max) ↔
      ∃ bytes, (document.ordered options).encode = .ok bytes ∧
        (document.ordered options).KeysAllowed options ∧ options.maxSize = some max ∧
        max < bytes.length ∧ size = bytes.length := by
  constructor
  · intro failed
    rcases encodeWith_eq_error failed with plain | ⟨-, key, -, reserved, refused⟩ |
      ⟨bytes, framed, exceeds⟩
    · cases (settles_encode _).refused _ plain
    · obtain ⟨reason, same⟩ := checkKey_error reserved
      cases same.symm.trans refused
    · obtain ⟨written, allowed⟩ := framed_eq_ok_iff.1 framed
      obtain ⟨_, ceiling, long, same⟩ := capped_eq_error_iff.1 exceeds
      cases same
      exact ⟨bytes, written, allowed, ceiling, long, rfl⟩
  · rintro ⟨bytes, written, allowed, ceiling, long, rfl⟩
    rw [encodeWith_eq_framed, framed_eq_ok_iff.2 ⟨written, allowed⟩]
    exact capped_eq_error_iff.2 ⟨max, ceiling, long, rfl⟩

/-! ### What options do -/

/-- Options only reorder and restrict. A document is written exactly if it can be written plainly
with its `_id` where the options want it, its own keys are not reserved where they are checked, and
the bytes do not exceed the ceiling, and then it is written as these bytes. It counts as too large only
if nothing else is wrong, with the size that it has. Any other refusal is that of the plain form, or
is for a key of the document itself: documents inside it are written as they would be alone, with
their keys in their own order and unchecked. -/
theorem options_reorder_and_restrict (document : Document) (distinct : document.keys.Nodup)
    (options : EncodeOptions) :
    ∃ ordered, (∀ other, IsOrdering options document other ↔ other = ordered) ∧
      (∀ bytes, document.encodeWith options = .ok bytes ↔
        ordered.encode = .ok bytes ∧ document.KeysAllowed options ∧
          ∀ max, options.maxSize = some max → bytes.length ≤ max) ∧
      (∀ size max, document.encodeWith options = .error (.documentTooLarge size max) ↔
        ∃ bytes, ordered.encode = .ok bytes ∧ document.KeysAllowed options ∧
          options.maxSize = some max ∧ max < bytes.length ∧ size = bytes.length) ∧
      (∀ error, document.encodeWith options = .error error →
        ordered.encode = .error error ∨
        (options.validateKeys = true ∧ ∃ key ∈ document.keys, IsReservedKey key ∧
          checkKey key = .error error) ∨
        ∃ size max, error = .documentTooLarge size max) ∧
      ∀ bytes, document.encodeWith options = .ok bytes → ∀ (place : Nat) (fields : Document),
        Value.Holds (.document ordered) place (.document fields) →
          ∃ part, IsPart place part bytes ∧ fields.encode = .ok part := by
  have succeeds (bytes : Bytes) : document.encodeWith options = .ok bytes ↔
      (document.ordered options).encode = .ok bytes ∧ document.KeysAllowed options ∧
        ∀ max, options.maxSize = some max → bytes.length ≤ max := by
    rw [encodeWith_eq_framed, bind_eq_ok_iff, ← keysAllowed_ordered_iff distinct, ← and_assoc]
    simp only [framed_eq_ok_iff, capped_eq_ok_iff]
    constructor
    · rintro ⟨_, known, rfl, fits⟩
      exact ⟨known, fits⟩
    · exact fun ⟨known, fits⟩ => ⟨bytes, known, rfl, fits⟩
  refine ⟨document.ordered options, fun other => isOrdering_iff distinct, succeeds,
    fun size max => ?_, fun error failed => ?_, fun bytes written place fields holds => ?_⟩
  · rw [← keysAllowed_ordered_iff distinct]
    exact encodeWith_eq_tooLarge_iff
  · refine (encodeWith_eq_error failed).imp_right (Or.imp ?_ ?_)
    · rintro ⟨checked, key, member, refusal⟩
      exact ⟨checked, key, (mem_keys_ordered_iff distinct).1 member, refusal⟩
    · rintro ⟨bytes, -, exceeds⟩
      obtain ⟨max, -, -, same⟩ := capped_eq_error_iff.1 exceeds
      exact ⟨_, max, same⟩
  · have plain (fields : Document) : Encode.value (.document fields) = fields.encode := by
      rw [Encode.value, encode_eq]
    obtain ⟨part, given, inside⟩ :=
      isPart_of_holds holds ((plain _).trans ((succeeds bytes).1 written).1)
    exact ⟨part, inside, (plain fields).symm.trans given⟩

/-- A document whose `_id` comes last, behind a document with reserved keys. -/
def update : Document :=
  [("change", .document [("$set", .document [("a.b", .int32 1)]), ("_id", .null)]),
   ("_id", .int32 7)]

/-- The same document with its `_id` in front. -/
def updateMoved : Document :=
  [("_id", .int32 7),
   ("change", .document [("$set", .document [("a.b", .int32 1)]), ("_id", .null)])]

theorem options_reorder_and_restrict_update :
    update.keys.Nodup ∧ IsOrdering .user update updateMoved ∧
      ∃ bytes, update.encodeWith .user = .ok bytes ∧ updateMoved.encode = .ok bytes := by
  have distinct : update.keys.Nodup := by decide
  obtain ⟨bytes, written⟩ : ∃ bytes, update.encodeWith .user = .ok bytes := ⟨_, rfl⟩
  obtain ⟨ordered, unique, succeeds, -⟩ := options_reorder_and_restrict update distinct .user
  have moved : IsOrdering .user update updateMoved := @IsOrdering.moved .user [_] [] _ rfl
  obtain rfl := (unique _).1 moved
  exact ⟨distinct, moved, bytes, written, ((succeeds bytes).1 written).1⟩

end Document

end DocumentDriver
