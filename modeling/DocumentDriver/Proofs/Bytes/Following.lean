/-
This file compares readers. A fine reader follows a coarse one if it succeeds wherever the coarse
one does, takes the same bytes, and gives something related. Readers that are put together in the
same way from readers that follow each other follow each other too, repetitions included.
-/

import DocumentDriver.Proofs.Bytes.Soundness

namespace DocumentDriver

namespace Read

variable {Coarse Fine CoarseNext FineNext Shared : Type}

/-- Wherever the coarse action succeeds, the fine one takes the same bytes, and what it gives is
related to what the coarse one gave. -/
def Follows (coarse : Read Coarse) (fine : Read Fine) (related : Coarse → Fine → Prop) : Prop :=
  ∀ ⦃reader result after⦄, coarse reader = .ok (result, after) →
    ∃ detailed, fine reader = .ok (detailed, after) ∧ related result detailed

theorem Follows.bind {coarse : Read Coarse} {fine : Read Fine} {related : Coarse → Fine → Prop}
    {coarseNext : Coarse → Read CoarseNext} {fineNext : Fine → Read FineNext}
    {relatedNext : CoarseNext → FineNext → Prop} (first : Follows coarse fine related)
    (next : ∀ result detailed, related result detailed →
      Follows (coarseNext result) (fineNext detailed) relatedNext) :
    Follows (coarse >>= coarseNext) (fine >>= fineNext) relatedNext := by
  intro reader result after run
  obtain ⟨middle, between, ran, followed⟩ := exists_of_bind_eq_ok run
  obtain ⟨detailed, fineRan, same⟩ := first ran
  obtain ⟨last, fineFollowed, sameLast⟩ := next middle detailed same followed
  refine ⟨last, ?_, sameLast⟩
  rw [run_bind, fineRan]
  exact fineFollowed

/-- Both read the same field first. -/
theorem follows_after {first : Read Shared} {coarseNext : Shared → Read CoarseNext}
    {fineNext : Shared → Read FineNext} {related : CoarseNext → FineNext → Prop}
    (next : ∀ middle, Follows (coarseNext middle) (fineNext middle) related) :
    Follows (first >>= coarseNext) (first >>= fineNext) related := by
  have same : Follows first first Eq := fun _ result _ run => ⟨result, run, rfl⟩
  exact same.bind fun middle _ equal => equal ▸ next middle

theorem follows_pure {related : Coarse → Fine → Prop} {result : Coarse} {detailed : Fine}
    (same : related result detailed) : Follows (pure result) (pure detailed) related := by
  intro reader given after run
  cases run
  exact ⟨detailed, rfl, same⟩

/-- An action that fails is followed by every other. -/
theorem follows_fail {related : Coarse → Fine → Prop} (error : Error) (fine : Read Fine) :
    Follows (fail error) fine related := by
  intro reader result after run
  cases run

/-- A check may only make the coarse action fail where the fine one does not. -/
theorem follows_unless {condition : Prop} [Decidable condition] {error : Error}
    {coarse : Read Coarse} {fine : Read Fine} {related : Coarse → Fine → Prop}
    (rest : ¬condition → Follows coarse fine related) :
    Follows (if condition then fail error else coarse) fine related := by
  by_cases failed : condition
  · rw [if_pos failed]
    exact follows_fail error fine
  · rw [if_neg failed]
    exact rest failed

theorem Follows.inside {coarse : Read Coarse} {fine : Read Fine}
    {related : Coarse → Fine → Prop} (inner : Follows coarse fine related) (bytes : Bytes) :
    Follows (Read.inside bytes coarse) (Read.inside bytes fine) related := by
  intro reader result after run
  obtain ⟨rfl, last, ran⟩ := of_inside_eq_ok run
  obtain ⟨detailed, fineRan, same⟩ := inner ran
  refine ⟨detailed, ?_, same⟩
  unfold Read.inside
  rw [fineRan]

/-- Repetitions whose steps follow each other stop together. -/
theorem follows_repeatUpTo {coarse : Coarse → Read Coarse} {fine : Fine → Read Fine}
    {related : Coarse → Fine → Prop}
    (step : ∀ before detailed, related before detailed →
      Follows (coarse before) (fine detailed) related)
    (count : Nat) (before : Coarse) (detailed : Fine) (same : related before detailed) :
    Follows (repeatUpTo coarse count before) (repeatUpTo fine count detailed) related := by
  induction count generalizing before detailed with
  | zero => exact follows_pure same
  | succ count inductionHypothesis =>
    refine follows_after fun ended => ?_
    cases ended with
    | true => exact follows_pure same
    | false =>
      exact (step before detailed same).bind fun middle between => inductionHypothesis middle between

theorem follows_untilEnd {coarse : Coarse → Read Coarse} {fine : Fine → Read Fine}
    {related : Coarse → Fine → Prop}
    (step : ∀ before detailed, related before detailed →
      Follows (coarse before) (fine detailed) related)
    (before : Coarse) (detailed : Fine) (same : related before detailed) :
    Follows (untilEnd coarse before) (untilEnd fine detailed) related :=
  fun reader => @follows_repeatUpTo _ _ _ _ _ step reader.rest.length before detailed same reader

end Read

end DocumentDriver
