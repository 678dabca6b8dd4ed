/-
This file proves when a computation goes on that may come to an accident. A sum or a difference does
exactly if 64 bits hold it, what an answer is turned into exactly if there is an answer, and a choice
among the members of a list exactly if the test of each of them does, of those that pass as well as of
those that do not.
-/

import DocumentDriver.Number.Checked
import DocumentDriver.Proofs.Document.Written

namespace DocumentDriver

/-! ### Checked numbers -/

namespace Checked

/-- A number fits 64 bits with a sign. -/
def Fits (number : Int) : Prop := -2 ^ 63 ≤ number ∧ number < 2 ^ 63

/-- A checked number is the number itself. -/
theorem ofInt_eq_ok_iff {number : Int} {result : Int64} :
    ofInt number = .ok result ↔ result.toInt = number := by
  have low := Int64.le_toInt result
  have high := Int64.toInt_lt result
  unfold ofInt
  split
  · exact ⟨nofun, fun same => by omega⟩
  · split
    · exact ⟨nofun, fun same => by omega⟩
    · next notLow notHigh =>
      constructor
      · intro same
        rw [← Except.ok.inj same]
        exact Int64.toInt_ofInt_of_le (Int.not_lt.1 notLow) (Int.not_le.1 notHigh)
      · rintro rfl
        rw [Int64.ofInt_toInt]

theorem fits_toInt (number : Int64) : Fits number.toInt :=
  ⟨Int64.le_toInt number, Int64.toInt_lt number⟩

theorem exists_toInt_eq_iff {number : Int} : (∃ result : Int64, result.toInt = number) ↔ Fits number := by
  constructor
  · rintro ⟨result, rfl⟩
    exact fits_toInt result
  · rintro ⟨low, high⟩
    exact ⟨.ofInt number, Int64.toInt_ofInt_of_le low high⟩

end Checked

/-! ### Answers that are given another shape -/

section Shape

variable {Answer Result : Type} {first : Except Accident Answer} {shape : Answer → Result}

theorem shaped_eq_ok_iff {result : Result} :
    (do return shape (← first)) = Except.ok result ↔
      ∃ answer, first = .ok answer ∧ shape answer = result :=
  bind_eq_ok_iff.trans <| exists_congr fun _ => and_congr_right fun _ =>
    ⟨Except.ok.inj, congrArg _⟩

theorem exists_shaped_iff :
    (∃ result, (do return shape (← first)) = Except.ok result) ↔ ∃ answer, first = .ok answer := by
  simp only [shaped_eq_ok_iff]
  rw [exists_comm]
  simp only [exists_and_left, exists_eq', and_true]

end Shape

/-! ### Choices among the members of a list -/

variable {Item : Type} {test : Item → Except Accident Bool} {items kept : List Item} {item : Item}

/-- An item passes a test if the test says so. -/
def passes (test : Item → Except Accident Bool) (item : Item) : Bool :=
  match test item with
  | .ok answer => answer
  | .error _ => false

theorem passes_iff : passes test item = true ↔ test item = .ok true := by
  unfold passes
  cases test item with
  | error cause => exact ⟨nofun, nofun⟩
  | ok answer => exact ⟨congrArg _, Except.ok.inj⟩

theorem filterAuxM_eq_ok_iff (items before : List Item) :
    items.filterAuxM test before = .ok kept ↔
      (∀ item ∈ items, ∃ answer, test item = .ok answer) ∧
        (items.filter (passes test)).reverse ++ before = kept := by
  induction items generalizing before with
  | nil =>
    rw [List.filterAuxM]
    simp [pure, Except.pure]
  | cons first rest inductionHypothesis =>
    rw [List.filterAuxM, List.forall_mem_cons, List.filter_cons, bind_eq_ok_iff]
    constructor
    · rintro ⟨answer, answered, others⟩
      obtain ⟨each, same⟩ := (inductionHypothesis _).1 others
      refine ⟨⟨⟨answer, answered⟩, each⟩, ?_⟩
      rw [← same, passes, answered]
      cases answer <;> simp
    · rintro ⟨⟨⟨answer, answered⟩, each⟩, same⟩
      refine ⟨answer, answered, (inductionHypothesis _).2 ⟨each, ?_⟩⟩
      rw [← same, passes, answered]
      cases answer <;> simp

/-- A choice is made exactly if the test of each member gives an answer. -/
theorem filterM_eq_ok_iff :
    items.filterM test = .ok kept ↔
      (∀ item ∈ items, ∃ answer, test item = .ok answer) ∧ items.filter (passes test) = kept := by
  unfold List.filterM
  rw [bind_eq_ok_iff]
  constructor
  · rintro ⟨reversed, chosen, same⟩
    obtain ⟨each, rfl⟩ := (filterAuxM_eq_ok_iff items []).1 chosen
    refine ⟨each, ?_⟩
    rw [← Except.ok.inj same, List.append_nil, List.reverse_reverse]
  · rintro ⟨each, rfl⟩
    refine ⟨_, (filterAuxM_eq_ok_iff items []).2 ⟨each, rfl⟩, ?_⟩
    rw [List.append_nil, List.reverse_reverse]
    rfl

theorem exists_filterM_eq_ok_iff :
    (∃ kept, items.filterM test = .ok kept) ↔
      ∀ item ∈ items, ∃ answer, test item = .ok answer := by
  simp only [filterM_eq_ok_iff, exists_and_left, exists_eq', and_true]

theorem mem_of_filterM (chosen : items.filterM test = .ok kept) :
    item ∈ kept ↔ item ∈ items ∧ test item = .ok true := by
  obtain ⟨-, rfl⟩ := filterM_eq_ok_iff.1 chosen
  rw [List.mem_filter, passes_iff]

end DocumentDriver
