/-
This file proves that a bound on the lag never leaves a replica set without a server to read from while
it has no primary. The lag is then measured against the freshest secondary, which is taken to lag one
period between two checks, and no bound that makes sense is shorter than that. So the freshest one
stays, and whoever wrote no earlier than a secondary that stays does too. The last writes are close enough
together for no estimate to come to an accident.
-/

import DocumentDriver.Proofs.Selection.Lag
import DocumentDriver.Proofs.Selection.Routing

namespace DocumentDriver

open Checked Staleness

namespace Selection

variable {topology : Topology} {preference : ReadPreference} {server other : ServerDescription}
  {servers : List ServerDescription}

/-- A read that may go to any secondary of a replica set without a primary, as long as it does not lag
too much. The last writes are close enough together, and the checks of a server too, for the lag to be
told. -/
structure ReadsWithoutPrimary (topology : Topology) (preference : ReadPreference) : Prop where
  set : topology.type.isReplicaSet = true
  leaderless : topology.primary? = none
  mode : preference.mode ≠ .primary
  untagged : preference.tagSets = []
  valid : preference.validate topology.heartbeatFrequency = .ok ()
  close : ∀ first ∈ topology.descriptions, ∀ second ∈ topology.descriptions,
    first.type = .rsSecondary → second.type = .rsSecondary →
    ∀ date earlier, first.lastWriteDate = some date → second.lastWriteDate = some earlier →
      date.toInt - earlier.toInt < 2 ^ 62
  heartbeat : topology.heartbeatFrequency.milliseconds < 2 ^ 62

/-! ### The servers of such a read -/

/-- No bound that makes sense is shorter than the time between two checks. -/
theorem heartbeat_le_of_validate {heartbeat bound : Duration}
    (valid : preference.validate heartbeat = .ok ()) (bounded : preference.maxStaleness = some bound) :
    heartbeat ≤ bound := by
  have long : ¬ bound < ReadPreference.staleFloor heartbeat := by
    intro short
    unfold ReadPreference.validate ReadPreference.check at valid
    rw [bounded] at valid
    dsimp only at valid
    rw [if_pos short] at valid
    split at valid <;> cases valid
  have floor : heartbeat ≤ ReadPreference.staleFloor heartbeat :=
    Nat.le_trans (Nat.le_add_right _ _) (Nat.le_max_right _ _)
  exact Nat.le_trans floor (Nat.not_lt.1 long)

/-- Without a primary and without tags, every mode but that of the primary reads from the secondaries
that do not lag too much. -/
theorem mem_suitable_iff_isFresh (reads : ReadsWithoutPrimary topology preference)
    (found : suitable topology (.read preference) = .ok servers) :
    server ∈ servers ↔ IsFresh topology preference server := by
  have nobody (other : ServerDescription) : ¬ IsPrimary topology other := by
    rintro ⟨member, leads⟩
    have passed := List.find?_eq_none.1 reads.leaderless other member
    rw [leads] at passed
    exact passed rfl
  have untagged (candidate : ServerDescription → Prop) :
      IsTagged preference.tagSets candidate server ↔ candidate server := by
    rw [reads.untagged]
    exact and_iff_left (.inl rfl)
  have mode := reads.mode
  rw [suitable_read reads.set] at found
  rw [mem_readable_iff found, Routes, reads.leaderless]
  simp only [IsEligible, untagged, nobody, reduceCtorEq, false_or, not_false_eq_true, implies_true,
    true_and, and_false, or_false]
  cases kind : preference.mode with
  | primary => exact absurd kind mode
  | primaryPreferred | secondary | secondaryPreferred | nearest => exact Iff.rfl

/-! ### The lag behind the freshest secondary -/

theorem ofMilliseconds_le_iff {count : Nat} {duration : Duration} :
    Duration.ofMilliseconds count ≤ duration ↔ 1000000 * count ≤ duration.nanoseconds := Iff.rfl

/-- There is a freshest secondary as soon as one tells when it wrote last. -/
theorem exists_latest {date : Int64} (tracked : server ∈ topology.descriptions)
    (type : server.type = .rsSecondary) (told : server.lastWriteDate = some date) :
    ∃ freshest ∈ topology.descriptions, freshest.type = .rsSecondary ∧ ∃ latestWrite,
      freshest.lastWriteDate = some latestWrite ∧
        latest (secondaryWrites topology) = some latestWrite := by
  have listed : date ∈ secondaryWrites topology :=
    mem_secondaryWrites_iff.2 ⟨server, tracked, type, told⟩
  cases found : latest (secondaryWrites topology) with
  | none =>
    rw [latest_eq_none_iff.1 found] at listed
    cases listed
  | some latestWrite =>
    obtain ⟨freshest, member, freshestType, freshestTold⟩ :=
      mem_secondaryWrites_iff.1 (latest_isGreatest found).1
    exact ⟨freshest, member, freshestType, latestWrite, freshestTold, rfl⟩

/-- Without a primary, what is known of a secondary is its last write and the latest one. -/
theorem evidence?_of_latest (reads : ReadsWithoutPrimary topology preference)
    {date latestWrite : Int64} (told : server.lastWriteDate = some date)
    (found : latest (secondaryWrites topology) = some latestWrite) :
    evidence? topology server = some (.freshest date latestWrite) :=
  evidence?_eq_some_iff.2 ⟨date, told, .inr ⟨reads.leaderless, latestWrite, found, rfl⟩⟩

/-- The latest write is not earlier than any other one, and not much later. -/
theorem latest_close (reads : ReadsWithoutPrimary topology preference) {date latestWrite : Int64}
    (tracked : server ∈ topology.descriptions) (type : server.type = .rsSecondary)
    (told : server.lastWriteDate = some date)
    (found : latest (secondaryWrites topology) = some latestWrite) :
    date.toInt ≤ latestWrite.toInt ∧ latestWrite.toInt - date.toInt < 2 ^ 62 := by
  obtain ⟨attained, greatest⟩ := latest_isGreatest found
  obtain ⟨freshest, member, freshestType, freshestTold⟩ := mem_secondaryWrites_iff.1 attained
  exact ⟨greatest date (mem_secondaryWrites_iff.2 ⟨server, tracked, type, told⟩),
    reads.close freshest member server tracked freshestType type latestWrite date freshestTold told⟩

/-- The time between two checks is told in whole milliseconds. -/
theorem toInt_heartbeat (reads : ReadsWithoutPrimary topology preference) :
    (milliseconds topology.heartbeatFrequency).toInt = topology.heartbeatFrequency.milliseconds := by
  have quick := reads.heartbeat
  rw [toInt_milliseconds]
  omega

/-- No estimate comes to an accident. -/
theorem lagsStayInRange_of_readsWithoutPrimary (reads : ReadsWithoutPrimary topology preference) :
    LagsStayInRange topology := by
  intro server tracked type evidence known
  obtain ⟨date, told, ⟨primary, -, leads, -⟩ | ⟨-, latestWrite, found, rfl⟩⟩ :=
    evidence?_eq_some_iff.1 known
  · rw [reads.leaderless] at leads
    cases leads
  · obtain ⟨later, close⟩ := latest_close reads tracked type told found
    have quick := reads.heartbeat
    rw [Evidence.staysInRange_freshest_iff, toInt_heartbeat reads]
    unfold Fits
    omega

/-- Without a primary the lag of a secondary is what its last write is behind the latest one, and the
time between two checks. -/
theorem lag_eq_of_readsWithoutPrimary (reads : ReadsWithoutPrimary topology preference)
    {date latestWrite : Int64} (tracked : server ∈ topology.descriptions)
    (type : server.type = .rsSecondary) (told : server.lastWriteDate = some date)
    (found : latest (secondaryWrites topology) = some latestWrite) :
    of? topology server = .ok (some (.ofMilliseconds
      (latestWrite.toInt - date.toInt + topology.heartbeatFrequency.milliseconds).toNat)) := by
  have known := evidence?_of_latest reads told found
  have inRange := lagsStayInRange_of_readsWithoutPrimary reads server tracked type _ known
  refine (of?_eq_ok_iff known).2 ⟨inRange, ?_⟩
  rw [Evidence.trueLag, Evidence.exactLag, toInt_heartbeat reads]

/-- A secondary that has not told when it wrote last is given the benefit of the doubt. -/
theorem isFresh_of_untold (tracked : server ∈ topology.descriptions)
    (type : server.type = .rsSecondary) (untold : server.lastWriteDate = none) :
    IsFresh topology preference server := by
  refine ⟨tracked, type, fun bound lag _ known => ?_⟩
  have unknown : evidence? topology server = none := by
    unfold evidence?
    rw [untold]
    rfl
  rw [of?_of_unknown unknown] at known
  cases known

/-- The freshest secondary lags no more than the time between two checks. -/
theorem isFresh_of_latest (reads : ReadsWithoutPrimary topology preference) {date : Int64}
    (tracked : server ∈ topology.descriptions) (type : server.type = .rsSecondary)
    (told : server.lastWriteDate = some date)
    (found : latest (secondaryWrites topology) = some date) :
    IsFresh topology preference server := by
  refine ⟨tracked, type, fun bound lag bounded known => ?_⟩
  rw [lag_eq_of_readsWithoutPrimary reads tracked type told found, Except.ok.injEq,
    Option.some_inj] at known
  have whole : 1000000 * topology.heartbeatFrequency.milliseconds ≤
      topology.heartbeatFrequency.nanoseconds := Nat.mul_div_le _ _
  have short : lag ≤ topology.heartbeatFrequency := by
    rw [← known, ofMilliseconds_le_iff]
    omega
  exact Nat.le_trans short (heartbeat_le_of_validate reads.valid bounded)

/-- Whoever wrote no earlier lags no more. -/
theorem isFresh_mono (reads : ReadsWithoutPrimary topology preference) {date later : Int64}
    (fresh : IsFresh topology preference server) (told : server.lastWriteDate = some date)
    (tracked : other ∈ topology.descriptions) (type : other.type = .rsSecondary)
    (otherTold : other.lastWriteDate = some later) (noEarlier : date ≤ later) :
    IsFresh topology preference other := by
  obtain ⟨member, secondary, within⟩ := fresh
  obtain ⟨-, -, -, latestWrite, -, found⟩ := exists_latest member secondary told
  refine ⟨tracked, type, fun bound lag bounded known => ?_⟩
  have kept := within bound _ bounded
    (lag_eq_of_readsWithoutPrimary reads member secondary told found)
  rw [lag_eq_of_readsWithoutPrimary reads tracked type otherTold found, Except.ok.injEq,
    Option.some_inj] at known
  have order := Int64.le_iff_toInt_le.1 noEarlier
  rw [ofMilliseconds_le_iff] at kept
  rw [← known, ofMilliseconds_le_iff]
  omega

/-- While a replica set has no primary, a bound on the lag leaves a secondary to read from if there is
one at all: the servers that suit such a read can be computed, and there are some. Among them is every
secondary that has not told when it wrote last, and every one than which no other is known to have written
later. With a secondary all those are among them that wrote no earlier. -/
theorem freshest_stay_readable (topology : Topology) (preference : ReadPreference)
    (reads : ReadsWithoutPrimary topology preference)
    (populated : ∃ server ∈ topology.descriptions, server.type = .rsSecondary) :
    ∃ servers, suitable topology (.read preference) = .ok servers ∧ servers ≠ [] ∧
      (∀ server ∈ topology.descriptions, server.type = .rsSecondary →
        server.lastWriteDate = none → server ∈ servers) ∧
      (∀ server ∈ topology.descriptions, server.type = .rsSecondary →
        ∀ date, server.lastWriteDate = some date →
        (∀ other ∈ topology.descriptions, other.type = .rsSecondary →
          ∀ later, other.lastWriteDate = some later → later ≤ date) →
        server ∈ servers) ∧
      ∀ kept ∈ servers, ∀ date, kept.lastWriteDate = some date →
        ∀ other ∈ topology.descriptions, other.type = .rsSecondary →
        ∀ later, other.lastWriteDate = some later → date ≤ later → other ∈ servers := by
  obtain ⟨servers, computed⟩ : ∃ servers, suitable topology (.read preference) = .ok servers :=
    exists_suitable_iff.2 fun _ _ _ _ => lagsStayInRange_of_readsWithoutPrimary reads
  have members (server : ServerDescription) :
      server ∈ servers ↔ IsFresh topology preference server :=
    mem_suitable_iff_isFresh reads computed
  refine ⟨servers, computed, ?_, fun server tracked type untold => ?_,
    fun server tracked type date told last => ?_, ?_⟩
  · obtain ⟨server, tracked, type⟩ := populated
    obtain ⟨fresh, isFresh⟩ : ∃ fresh, IsFresh topology preference fresh := by
      cases told : server.lastWriteDate with
      | none => exact ⟨server, isFresh_of_untold tracked type told⟩
      | some date =>
        obtain ⟨freshest, member, freshestType, latestWrite, freshestTold, found⟩ :=
          exists_latest tracked type told
        exact ⟨freshest, isFresh_of_latest reads member freshestType freshestTold found⟩
    exact List.ne_nil_of_mem ((members fresh).2 isFresh)
  · exact (members server).2 (isFresh_of_untold tracked type untold)
  · obtain ⟨freshest, member, freshestType, latestWrite, freshestTold, found⟩ :=
      exists_latest tracked type told
    have noLater := Int64.le_iff_toInt_le.1 (last freshest member freshestType latestWrite freshestTold)
    obtain ⟨noEarlier, -⟩ := latest_close reads tracked type told found
    have same : latestWrite = date := Int64.toInt_inj.1 (Int.le_antisymm noLater noEarlier)
    exact (members server).2 (isFresh_of_latest reads tracked type told (same ▸ found))
  · intro kept isKept date told other tracked type later otherTold noEarlier
    exact (members other).2
      (isFresh_mono reads ((members kept).1 isKept) told tracked type otherTold noEarlier)

/-- A read of secondaries that lag at most two minutes. -/
def recent : ReadPreference := { mode := .secondary, maxStaleness := some (.ofSeconds 120) }

/-- One server of the pair wrote ten minutes before the other one. Only the latter can be read from. -/
theorem freshest_stay_readable_pair :
    ReadsWithoutPrimary (pairWrites 600000 0) recent ∧
      ∃ servers, suitable (pairWrites 600000 0) (.read recent) = .ok servers ∧ servers ≠ [] ∧
        pairWritten "left" 600000 ∈ servers ∧ pairWritten "right" 0 ∉ servers := by
  have tracked : (pairWrites 600000 0).descriptions =
      [pairWritten "left" 600000, pairWritten "right" 0] := rfl
  have dates (server : ServerDescription) (member : server ∈ (pairWrites 600000 0).descriptions)
      (date : Int64) (told : server.lastWriteDate = some date) : date = 600000 ∨ date = 0 := by
    rw [tracked] at member
    simp only [List.mem_cons, List.not_mem_nil, or_false] at member
    rcases member with rfl | rfl
    · exact .inl (Option.some.inj told).symm
    · exact .inr (Option.some.inj told).symm
  have reads : ReadsWithoutPrimary (pairWrites 600000 0) recent := by
    refine ⟨by decide +kernel, rfl, by decide, rfl, rfl, ?_, by decide +kernel⟩
    intro first isFirst second isSecond _ _ date earlier told earlierTold
    rcases dates first isFirst date told with rfl | rfl <;>
      rcases dates second isSecond earlier earlierTold with rfl | rfl <;> decide +kernel
  have left : pairWritten "left" 600000 ∈ (pairWrites 600000 0).descriptions :=
    tracked ▸ List.mem_cons_self
  have secondary : (pairWritten "left" 600000).type = .rsSecondary := by decide +kernel
  obtain ⟨servers, computed, readable, -, freshest, -⟩ :=
    freshest_stay_readable _ _ reads ⟨_, left, secondary⟩
  refine ⟨reads, servers, computed, readable,
    freshest _ left secondary 600000 rfl fun other member _ later told => ?_, fun member => ?_⟩
  · rcases dates other member later told with rfl | rfl <;> decide +kernel
  · obtain ⟨-, -, within⟩ := (mem_suitable_iff_isFresh reads computed).1 member
    have lag : of? (pairWrites 600000 0) (pairWritten "right" 0) = .ok (some (.ofSeconds 610)) := rfl
    exact absurd (within (.ofSeconds 120) _ rfl lag) (by decide)

end Selection

end DocumentDriver
