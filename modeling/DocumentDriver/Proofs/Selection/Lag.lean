/-
This file compares the estimate of a lag, which is made in 64 bits, with the same sum over the integers.
Every step of the estimate may leave the 64 bits, because a server may report any date and a client may
choose any time between two checks. The step then comes to an accident, and so does every read that asks
for the lag. No step does unless dates or times are millions of years apart, and as long as none does the
estimate is the lag.
-/

import DocumentDriver.Proofs.Accident
import DocumentDriver.Proofs.Topology.Primary
import DocumentDriver.Selection.Staleness

namespace DocumentDriver

namespace Staleness

open Checked

variable {topology : Topology} {secondary : ServerDescription} {evidence : Evidence}

/-! ### Milliseconds of 64 bits -/

theorem toInt_milliseconds (duration : Duration) :
    (milliseconds duration).toInt = min (duration.milliseconds : Int) (2 ^ 63 - 1) := by
  unfold milliseconds
  split
  · next small =>
    rw [Int64.toInt_ofNat_of_lt small]
    omega
  · next large =>
    rw [Int64.toInt_maxValue]
    omega

theorem toInt_neg_milliseconds (duration : Duration) :
    (-milliseconds duration).toInt = -min (duration.milliseconds : Int) (2 ^ 63 - 1) := by
  rw [Int64.toInt_neg, toInt_milliseconds]
  exact Int.bmod_eq_of_le (by omega) (by omega)

/-- Two moments are no farther apart than the later one is from the start of the clock. -/
theorem toInt_gap_le {later earlier : Duration} {bound : Nat} (laterLe : later.milliseconds ≤ bound)
    (earlierLe : earlier.milliseconds ≤ bound) :
    -bound ≤ (gap later earlier).toInt ∧ (gap later earlier).toInt ≤ bound := by
  have shorter (first second : Duration) :
      Duration.milliseconds ⟨first.nanoseconds - second.nanoseconds⟩ ≤ first.milliseconds :=
    Nat.div_le_div_right (Nat.sub_le _ _)
  have ahead := Nat.le_trans (shorter later earlier) laterLe
  have behind := Nat.le_trans (shorter earlier later) earlierLe
  unfold gap
  split
  · rw [toInt_milliseconds]
    omega
  · rw [toInt_neg_milliseconds]
    omega

/-! ### What an estimate is made of -/

theorem foldl_latest (dates : List Int64) (start : Int64) :
    (dates.foldl (fun best date => if best < date then date else best) start = start ∨
      dates.foldl (fun best date => if best < date then date else best) start ∈ dates) ∧
      ∀ date ∈ start :: dates, date.toInt ≤
        (dates.foldl (fun best date => if best < date then date else best) start).toInt := by
  induction dates generalizing start with
  | nil => simp
  | cons first rest inductionHypothesis =>
    rw [List.foldl_cons]
    by_cases earlier : start < first
    · rw [if_pos earlier]
      obtain ⟨attained, greatest⟩ := inductionHypothesis first
      refine ⟨.inr ?_, List.forall_mem_cons.2 ⟨?_, greatest⟩⟩
      · exact List.mem_cons.2 attained
      · exact Int.le_trans (Int.le_of_lt (Int64.lt_iff_toInt_lt.1 earlier))
          (greatest first List.mem_cons_self)
    · rw [if_neg earlier]
      obtain ⟨attained, greatest⟩ := inductionHypothesis start
      obtain ⟨own, others⟩ := List.forall_mem_cons.1 greatest
      refine ⟨attained.imp_right (List.mem_cons_of_mem _), ?_⟩
      refine List.forall_mem_cons.2 ⟨own, List.forall_mem_cons.2 ⟨?_, others⟩⟩
      exact Int.le_trans (Int.not_lt.1 fun less => earlier (Int64.lt_iff_toInt_lt.2 less)) own

/-- The latest of some dates is one of them, and none is later. -/
theorem latest_isGreatest {dates : List Int64} {date : Int64} (found : latest dates = some date) :
    date ∈ dates ∧ ∀ other ∈ dates, other.toInt ≤ date.toInt := by
  cases dates with
  | nil => cases found
  | cons first rest =>
    cases found
    obtain ⟨attained, greatest⟩ := foldl_latest rest first
    exact ⟨List.mem_cons.2 attained, greatest⟩

theorem latest_eq_none_iff {dates : List Int64} : latest dates = none ↔ dates = [] := by
  cases dates <;> simp [latest]

theorem mem_secondaryWrites_iff {date : Int64} :
    date ∈ secondaryWrites topology ↔ ∃ server ∈ topology.descriptions,
      server.type = .rsSecondary ∧ server.lastWriteDate = some date := by
  unfold secondaryWrites
  simp only [List.mem_filterMap, List.mem_filter, beq_iff_eq, and_assoc]

/-- Where there is a primary, its last write counts, and else the latest one of a secondary. -/
theorem evidence?_eq_some_iff :
    evidence? topology secondary = some evidence ↔
      ∃ write, secondary.lastWriteDate = some write ∧
        ((∃ primary primaryWrite, topology.primary? = some primary ∧
            primary.lastWriteDate = some primaryWrite ∧
            evidence =
              .primary (gap secondary.updatedAt primary.updatedAt) write primaryWrite) ∨
          topology.primary? = none ∧ ∃ freshestWrite,
            latest (secondaryWrites topology) = some freshestWrite ∧
            evidence = .freshest write freshestWrite) := by
  unfold evidence?
  cases secondary.lastWriteDate with
  | none => simp
  | some write =>
    cases topology.primary? with
    | none => cases latest (secondaryWrites topology) <;> simp [eq_comm]
    | some primary => cases written : primary.lastWriteDate <;> simp [written, eq_comm]

/-! ### The steps of an estimate -/

namespace Evidence

/-- The results of the additions and subtractions of an estimate, over the integers. -/
def results (heartbeat : Int) : Evidence → List Int
  | primary updateGap write primaryWrite =>
    [write.toInt - primaryWrite.toInt, updateGap.toInt - (write.toInt - primaryWrite.toInt),
      updateGap.toInt - (write.toInt - primaryWrite.toInt) + heartbeat]
  | freshest write freshestWrite =>
    [freshestWrite.toInt - write.toInt, freshestWrite.toInt - write.toInt + heartbeat]

/-- No addition or subtraction of the estimate leaves the 64 bits. -/
def StaysInRange (topology : Topology) (evidence : Evidence) : Prop :=
  ∀ result ∈ evidence.results (milliseconds topology.heartbeatFrequency).toInt, Fits result

/-- The lag in milliseconds over the integers. -/
def trueLag (topology : Topology) (evidence : Evidence) : Int :=
  evidence.exactLag (milliseconds topology.heartbeatFrequency).toInt

section InRange

variable {updateGap write primaryWrite freshestWrite : Int64}

theorem staysInRange_primary_iff :
    (primary updateGap write primaryWrite).StaysInRange topology ↔
      Fits (write.toInt - primaryWrite.toInt) ∧
        Fits (updateGap.toInt - (write.toInt - primaryWrite.toInt)) ∧
        Fits (updateGap.toInt - (write.toInt - primaryWrite.toInt) +
          (milliseconds topology.heartbeatFrequency).toInt) := by
  simp [StaysInRange, results]

theorem staysInRange_freshest_iff :
    (freshest write freshestWrite).StaysInRange topology ↔
      Fits (freshestWrite.toInt - write.toInt) ∧
        Fits (freshestWrite.toInt - write.toInt +
          (milliseconds topology.heartbeatFrequency).toInt) := by
  simp [StaysInRange, results]

end InRange

/-- The estimate is made exactly if no step leaves the 64 bits, and it is then the lag. -/
theorem lag_eq_ok_iff {heartbeat lag : Int64} :
    evidence.lag heartbeat = .ok lag ↔
      (∀ result ∈ evidence.results heartbeat.toInt, Fits result) ∧
        lag.toInt = evidence.exactLag heartbeat.toInt := by
  cases evidence with
  | primary updateGap write primaryWrite =>
    simp only [Evidence.lag, results, exactLag, difference, sum, bind_eq_ok_iff, ofInt_eq_ok_iff,
      List.forall_mem_cons, List.not_mem_nil, false_implies, implies_true, and_true]
    constructor
    · rintro ⟨ahead, aheadIs, behind, behindIs, lagIs⟩
      rw [← aheadIs, ← behindIs, ← lagIs]
      exact ⟨⟨fits_toInt ahead, fits_toInt behind, fits_toInt lag⟩, rfl⟩
    · rintro ⟨⟨aheadFits, behindFits, -⟩, lagIs⟩
      obtain ⟨ahead, aheadIs⟩ := exists_toInt_eq_iff.2 aheadFits
      obtain ⟨behind, behindIs⟩ := exists_toInt_eq_iff.2 behindFits
      exact ⟨ahead, aheadIs, behind, by rw [behindIs, aheadIs], by rw [lagIs, behindIs]⟩
  | freshest write freshestWrite =>
    simp only [Evidence.lag, results, exactLag, difference, sum, bind_eq_ok_iff, ofInt_eq_ok_iff,
      List.forall_mem_cons, List.not_mem_nil, false_implies, implies_true, and_true]
    constructor
    · rintro ⟨behind, behindIs, lagIs⟩
      rw [← behindIs, ← lagIs]
      exact ⟨⟨fits_toInt behind, fits_toInt lag⟩, rfl⟩
    · rintro ⟨⟨behindFits, -⟩, lagIs⟩
      obtain ⟨behind, behindIs⟩ := exists_toInt_eq_iff.2 behindFits
      exact ⟨behind, behindIs, by rw [lagIs, behindIs]⟩

/-- The lag is the last result. -/
theorem exactLag_mem_results (heartbeat : Int) (evidence : Evidence) :
    evidence.exactLag heartbeat ∈ evidence.results heartbeat := by
  cases evidence <;> simp [exactLag, results]

end Evidence

/-- Of a secondary of which nothing is known there is no estimate. -/
theorem of?_of_unknown (unknown : evidence? topology secondary = none) :
    of? topology secondary = .ok none := by
  unfold of?
  rw [unknown]

theorem of?_eq_ok_iff (known : evidence? topology secondary = some evidence)
    {estimate : Option Duration} :
    of? topology secondary = .ok estimate ↔
      evidence.StaysInRange topology ∧
        some (.ofMilliseconds (evidence.trueLag topology).toNat) = estimate := by
  unfold of?
  rw [known]
  dsimp only
  rw [bind_eq_ok_iff]
  simp only [Evidence.lag_eq_ok_iff]
  constructor
  · rintro ⟨lag, ⟨inRange, lagIs⟩, same⟩
    rw [lagIs] at same
    exact ⟨inRange, Except.ok.inj same⟩
  · rintro ⟨inRange, rfl⟩
    obtain ⟨lag, lagIs⟩ :=
      exists_toInt_eq_iff.2 (inRange _ (Evidence.exactLag_mem_results _ evidence))
    refine ⟨lag, ⟨inRange, lagIs⟩, ?_⟩
    rw [lagIs]
    rfl

/-- There is an accident exactly if a step leaves the 64 bits. -/
theorem exists_of?_eq_ok_iff :
    (∃ estimate, of? topology secondary = .ok estimate) ↔
      ∀ evidence, evidence? topology secondary = some evidence →
        evidence.StaysInRange topology := by
  cases known : evidence? topology secondary with
  | none => simp [of?_of_unknown known]
  | some evidence =>
    simp only [of?_eq_ok_iff known, exists_and_left, exists_eq', and_true, Option.some_inj,
      forall_eq']

/-- Whether a secondary lags too much is told from its estimate, even if the read does not bound the
lag. -/
theorem isWithin_eq_ok_iff {preference : ReadPreference} {answer : Bool} :
    isWithin topology preference secondary = .ok answer ↔
      ∃ estimate, of? topology secondary = .ok estimate ∧
        isAllowed preference.maxStaleness estimate = answer :=
  shaped_eq_ok_iff

theorem isWithin_of_error {cause : Accident} (failed : of? topology secondary = .error cause)
    (preference : ReadPreference) : isWithin topology preference secondary = .error cause := by
  unfold isWithin
  rw [failed]
  rfl

/-! ### Dates and times that keep the estimate in range -/

/-- No date, no moment and no time between two checks is more than 73 million years from its zero. -/
structure IsModerate (topology : Topology) : Prop where
  dates : ∀ server ∈ topology.descriptions, ∀ date, server.lastWriteDate = some date →
    -2 ^ 61 ≤ date.toInt ∧ date.toInt ≤ 2 ^ 61
  moments : ∀ server ∈ topology.descriptions, server.updatedAt.milliseconds ≤ 2 ^ 61
  heartbeat : topology.heartbeatFrequency.milliseconds < 2 ^ 61

theorem staysInRange_of_isModerate (moderate : IsModerate topology)
    (tracked : secondary ∈ topology.descriptions)
    (known : evidence? topology secondary = some evidence) : evidence.StaysInRange topology := by
  have quick := moderate.heartbeat
  have heartbeat := toInt_milliseconds topology.heartbeatFrequency
  obtain ⟨write, told, ⟨primary, primaryWrite, leads, primaryTold, rfl⟩ | ⟨-, latestWrite, found, rfl⟩⟩ :=
    evidence?_eq_some_iff.1 known
  · have leader : primary ∈ topology.descriptions := List.mem_of_find?_eq_some leads
    have own := moderate.dates secondary tracked write told
    have leading := moderate.dates primary leader primaryWrite primaryTold
    have apart := toInt_gap_le (moderate.moments secondary tracked) (moderate.moments primary leader)
    rw [Evidence.staysInRange_primary_iff]
    unfold Fits
    omega
  · obtain ⟨server, member, -, serverTold⟩ :=
      mem_secondaryWrites_iff.1 (latest_isGreatest found).1
    have own := moderate.dates secondary tracked write told
    have freshest := moderate.dates server member latestWrite serverTold
    rw [Evidence.staysInRange_freshest_iff]
    unfold Fits
    omega

/-- When the lag of a secondary can be estimated. It can exactly if no step leaves the 64 bits, and the
estimate is then the lag over the integers, or none if that is negative. If a step leaves them, the
estimate comes to an accident, and to the same one comes every read that asks whether the secondary lags
too much, be it with a bound on the lag or without one. No step does unless a date, a moment or the time
between two checks is millions of years from its zero. -/
theorem estimate_is_lag_in_range (topology : Topology) (secondary : ServerDescription)
    (evidence : Evidence) (known : evidence? topology secondary = some evidence) :
    (evidence.StaysInRange topology ↔
      of? topology secondary =
        .ok (some (.ofMilliseconds (evidence.trueLag topology).toNat))) ∧
      (¬ evidence.StaysInRange topology ↔
        ∃ cause, of? topology secondary = .error cause ∧
          ∀ preference, isWithin topology preference secondary = .error cause) ∧
      (IsModerate topology → secondary ∈ topology.descriptions →
        evidence.StaysInRange topology) := by
  have exact : evidence.StaysInRange topology ↔ of? topology secondary =
      .ok (some (.ofMilliseconds (evidence.trueLag topology).toNat)) :=
    ((of?_eq_ok_iff known).trans (and_iff_left rfl)).symm
  refine ⟨exact, ?_, fun moderate tracked => staysInRange_of_isModerate moderate tracked known⟩
  constructor
  · intro leaves
    cases estimated : of? topology secondary with
    | ok estimate => exact absurd ((of?_eq_ok_iff known).1 estimated).1 leaves
    | error cause => exact ⟨cause, rfl, isWithin_of_error estimated⟩
  · rintro ⟨cause, failed, -⟩ inRange
    rw [exact.1 inRange] at failed
    cases failed

/-- The answer of either server of the pair as a secondary that wrote last at some moment. -/
def pairWritten (host : String) (date : Int64) : ServerDescription :=
  .ofReply ⟨host, 27017⟩
    [("ok", .int32 1), ("secondary", .boolean true), ("setName", .string "pair"),
      ("maxWireVersion", .int32 17), ("lastWrite", .document [("lastWriteDate", .dateTime date)]),
      ("hosts", .array [.string "left", .string "right"])] none .zero

/-- The picture once both servers of the pair have told when they wrote last. -/
def pairWrites (left right : Int64) : Topology :=
  (Topology.initial Topology.pairOptions).applyAll
    [pairWritten "left" left, pairWritten "right" right]

theorem reachable_pairWrites (left right : Int64) :
    Topology.Reachable Topology.pairOptions (pairWrites left right) := by
  refine Topology.reachable_applyAll _ _ (.start _ rfl) _ fun description member => ?_
  simp only [List.mem_cons, List.not_mem_nil, or_false] at member
  rcases member with rfl | rfl <;> exact .replied _ _ _ _

/-- A secondary that wrote a minute before the other one, with ten seconds between two checks. -/
theorem estimate_is_lag_in_range_pair :
    evidence? (pairWrites 60000 0) (pairWritten "right" 0) = some (.freshest 0 60000) ∧
      of? (pairWrites 60000 0) (pairWritten "right" 0) = .ok (some (.ofSeconds 70)) := by
  have known : evidence? (pairWrites 60000 0) (pairWritten "right" 0) =
      some (.freshest 0 60000) := by decide +kernel
  obtain ⟨exact, -, -⟩ := estimate_is_lag_in_range _ _ _ known
  refine ⟨known, (exact.1 ?_).trans rfl⟩
  unfold Evidence.StaysInRange Fits
  decide +kernel

/-- A step can leave the range. The one secondary reports the last date there is, and the other one a
date just before 1970. The lag of the latter does not fit, so its estimate comes to an accident, and
with it every question whether the server lags too much. -/
theorem estimate_leaves_range :
    Topology.Reachable Topology.pairOptions (pairWrites Int64.maxValue (-1)) ∧
      evidence? (pairWrites Int64.maxValue (-1)) (pairWritten "right" (-1)) =
        some (.freshest (-1) Int64.maxValue) ∧
      ¬ (Evidence.freshest (-1) Int64.maxValue).StaysInRange (pairWrites Int64.maxValue (-1)) ∧
      (Evidence.freshest (-1) Int64.maxValue).trueLag (pairWrites Int64.maxValue (-1)) =
        2 ^ 63 + 10000 ∧
      of? (pairWrites Int64.maxValue (-1)) (pairWritten "right" (-1)) = .error .overflow ∧
      ∀ preference, isWithin (pairWrites Int64.maxValue (-1)) preference
        (pairWritten "right" (-1)) = .error .overflow := by
  have failed : of? (pairWrites Int64.maxValue (-1)) (pairWritten "right" (-1)) =
      .error .overflow := rfl
  refine ⟨reachable_pairWrites _ _, by decide +kernel, ?_, by decide +kernel, failed,
    isWithin_of_error failed⟩
  unfold Evidence.StaysInRange Fits
  decide +kernel

end Staleness

end DocumentDriver
