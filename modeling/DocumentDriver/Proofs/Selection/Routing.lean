/-
This file proves where the operations on a replica set go. The mode of a read decides between the
primary and the secondaries, a bound on the lag narrows the secondaries down, and of the sets of tags
the first one counts that some server has which is left. Writes go to the primary. So a deployment can
be written to exactly if it has a primary, a router, or is a single server that has answered. A read
that looks at the secondaries comes to an accident if the lag of any of them leaves the 64 bits.
-/

import DocumentDriver.Proofs.Selection.Available
import DocumentDriver.Proofs.Selection.Lag

namespace DocumentDriver

namespace Selection

variable {topology : Topology} {preference : ReadPreference} {criteria : SelectionCriteria}
  {server : ServerDescription} {servers : List ServerDescription}

/-! ### The servers that count -/

/-- A server is a primary. -/
def IsPrimary (topology : Topology) (server : ServerDescription) : Prop :=
  server ∈ topology.descriptions ∧ server.type = .rsPrimary

/-- A server is a secondary that does not lag behind more than a read allows, as far as can be told. -/
def IsFresh (topology : Topology) (preference : ReadPreference) (server : ServerDescription) :
    Prop :=
  server ∈ topology.descriptions ∧ server.type = .rsSecondary ∧
    ∀ bound lag, preference.maxStaleness = some bound →
      Staleness.of? topology server = .ok (some lag) → lag ≤ bound

/-- One of some candidates has the tags that count. Without any set of tags all candidates count, and
else those with the first set that some candidate has. -/
def IsTagged (tagSets : List TagSet) (candidate : ServerDescription → Prop)
    (server : ServerDescription) : Prop :=
  candidate server ∧ (tagSets = [] ∨ ∃ before set after, tagSets = before ++ set :: after ∧
    server.matchesTags set = true ∧
    ∀ earlier ∈ before, ∀ other, candidate other → other.matchesTags earlier = false)

/-- A server is a secondary that a read may go to. -/
def IsEligible (topology : Topology) (preference : ReadPreference) : ServerDescription → Prop :=
  IsTagged preference.tagSets (IsFresh topology preference)

/-- The servers that a read from a replica set goes to, by its mode, if some servers lead the set. -/
def Routes (topology : Topology) (preference : ReadPreference) (leads : ServerDescription → Prop)
    (server : ServerDescription) : Prop :=
  match preference.mode with
  | .primary => leads server
  | .primaryPreferred =>
    leads server ∨ (∀ other, ¬ leads other) ∧ IsEligible topology preference server
  | .secondary => IsEligible topology preference server
  | .secondaryPreferred =>
    IsEligible topology preference server ∨
      (∀ other, ¬ IsEligible topology preference other) ∧ leads server
  | .nearest =>
    IsTagged preference.tagSets
      (fun other => IsPrimary topology other ∨ IsFresh topology preference other) server

/-- A read from a replica set asks how far the secondaries lag, whether it bounds the lag or not. -/
def AsksForLags (topology : Topology) (preference : ReadPreference) : Prop :=
  match preference.mode with
  | .primary => False
  | .primaryPreferred => topology.primary? = none
  | .secondary | .secondaryPreferred | .nearest => True

/-- The lag of no secondary leaves the 64 bits while it is estimated. -/
def LagsStayInRange (topology : Topology) : Prop :=
  ∀ server ∈ topology.descriptions, server.type = .rsSecondary → ∀ evidence,
    Staleness.evidence? topology server = some evidence → evidence.StaysInRange topology

/-- No lag that an operation asks for leaves the 64 bits. -/
def StaysInRange (topology : Topology) (criteria : SelectionCriteria) : Prop :=
  topology.type.isReplicaSet = true → ∀ preference, criteria = .read preference →
    AsksForLags topology preference → LagsStayInRange topology

/-! ### Tags -/

/-- The servers with the first set of tags that some server has. -/
def firstMatched (tagSets : List TagSet) (servers : List ServerDescription) :
    List ServerDescription :=
  ((tagSets.map fun set => servers.filter (·.matchesTags set)).find? (!·.isEmpty)).getD []

theorem filterByTags_eq (tagSets : List TagSet) (servers : List ServerDescription) :
    filterByTags tagSets servers =
      if tagSets.isEmpty then servers else firstMatched tagSets servers := rfl

/-- A set of tags that no server has is passed over, and any other one counts. -/
theorem firstMatched_cons (set : TagSet) (rest : List TagSet) (servers : List ServerDescription) :
    firstMatched (set :: rest) servers =
      if servers.filter (·.matchesTags set) = [] then firstMatched rest servers
      else servers.filter (·.matchesTags set) := by
  unfold firstMatched
  rw [List.map_cons, List.find?_cons]
  cases servers.filter (·.matchesTags set) with
  | nil => rfl
  | cons => rfl

theorem mem_firstMatched_iff (tagSets : List TagSet) (servers : List ServerDescription) :
    server ∈ firstMatched tagSets servers ↔
      server ∈ servers ∧ ∃ before set after, tagSets = before ++ set :: after ∧
        server.matchesTags set = true ∧
        ∀ earlier ∈ before, ∀ other ∈ servers, other.matchesTags earlier = false := by
  induction tagSets with
  | nil => simp [firstMatched]
  | cons first rest inductionHypothesis =>
    rw [firstMatched_cons]
    by_cases none : servers.filter (·.matchesTags first) = []
    · rw [if_pos none, inductionHypothesis]
      have unmatched : ∀ other ∈ servers, other.matchesTags first = false := fun other member =>
        Bool.eq_false_iff.2 (List.filter_eq_nil_iff.1 none other member)
      refine and_congr_right fun member => ⟨?_, ?_⟩
      · rintro ⟨before, set, after, rfl, matched, passed⟩
        exact ⟨first :: before, set, after, rfl, matched, List.forall_mem_cons.2
          ⟨unmatched, passed⟩⟩
      · rintro ⟨before, set, after, same, matched, passed⟩
        cases before with
        | nil =>
          cases same
          rw [unmatched server member] at matched
          cases matched
        | cons earliest before =>
          cases same
          exact ⟨before, set, after, rfl, matched, (List.forall_mem_cons.1 passed).2⟩
    · rw [if_neg none, List.mem_filter]
      refine and_congr_right fun member => ⟨fun matched => ?_, ?_⟩
      · exact ⟨[], first, rest, rfl, matched, fun _ absent => by cases absent⟩
      · rintro ⟨before, set, after, same, matched, passed⟩
        cases before with
        | nil =>
          cases same
          exact matched
        | cons earliest before =>
          cases same
          refine absurd (List.filter_eq_nil_iff.2 fun other inServers => ?_) none
          exact Bool.eq_false_iff.1 (passed _ List.mem_cons_self other inServers)

theorem mem_filterByTags_iff (tagSets : List TagSet) (servers : List ServerDescription) :
    server ∈ filterByTags tagSets servers ↔ IsTagged tagSets (· ∈ servers) server := by
  rw [filterByTags_eq, IsTagged]
  cases tagSets with
  | nil => simp
  | cons first rest =>
    rw [if_neg (by simp), mem_firstMatched_iff]
    simp only [List.cons_ne_nil, false_or]

theorem isTagged_congr {tagSets : List TagSet} {first second : ServerDescription → Prop}
    (same : ∀ other, first other ↔ second other) :
    IsTagged tagSets first server ↔ IsTagged tagSets second server := by
  simp only [IsTagged, same]

/-! ### The members that do not lag too much -/

theorem isAllowed_iff {bound lag : Option Duration} :
    Staleness.isAllowed bound lag = true ↔
      ∀ most estimate, bound = some most → lag = some estimate → estimate ≤ most := by
  unfold Staleness.isAllowed
  cases bound with
  | none => simp
  | some most => cases lag <;> simp

theorem exists_isWithin_iff :
    (∃ answer, Staleness.isWithin topology preference server = .ok answer) ↔
      ∀ evidence, Staleness.evidence? topology server = some evidence →
        evidence.StaysInRange topology :=
  exists_shaped_iff.trans Staleness.exists_of?_eq_ok_iff

theorem isWithin_iff (told : ∃ answer, Staleness.isWithin topology preference server = .ok answer) :
    Staleness.isWithin topology preference server = .ok true ↔
      ∀ bound lag, preference.maxStaleness = some bound →
        Staleness.of? topology server = .ok (some lag) → lag ≤ bound := by
  obtain ⟨answer, answered⟩ := told
  obtain ⟨estimate, estimated, -⟩ := Staleness.isWithin_eq_ok_iff.1 answered
  simp only [Staleness.isWithin_eq_ok_iff, estimated, Except.ok.injEq, exists_eq_left',
    isAllowed_iff]

theorem exists_isFreshMember_iff :
    (∃ answer, isFreshMember topology preference server = .ok answer) ↔
      (server.type = .rsSecondary → ∀ evidence,
        Staleness.evidence? topology server = some evidence → evidence.StaysInRange topology) := by
  have known := @exists_isWithin_iff topology preference server
  unfold isFreshMember
  cases type : server.type with
  | rsSecondary => simpa using known
  | _ => simp

theorem isFreshMember_iff
    (told : ∃ answer, isFreshMember topology preference server = .ok answer) :
    isFreshMember topology preference server = .ok true ↔
      server.type = .rsPrimary ∨ server.type = .rsSecondary ∧
        ∀ bound lag, preference.maxStaleness = some bound →
          Staleness.of? topology server = .ok (some lag) → lag ≤ bound := by
  unfold isFreshMember at told ⊢
  cases type : server.type with
  | rsSecondary =>
    rw [type] at told
    have known : ∃ answer, Staleness.isWithin topology preference server = .ok answer := told
    simpa using isWithin_iff known
  | _ => simp

/-! ### The members of a replica set -/

theorem mem_primaries_iff :
    server ∈ primaries topology ↔ topology.primary? = some server := Option.mem_toList

theorem exists_eligibleSecondaries_iff :
    (∃ servers, eligibleSecondaries topology preference = .ok servers) ↔
      LagsStayInRange topology := by
  refine exists_shaped_iff.trans (exists_filterM_eq_ok_iff.trans ?_)
  simp only [LagsStayInRange, List.mem_filter, beq_iff_eq, and_imp, exists_isWithin_iff]

theorem mem_eligibleSecondaries_iff (found : eligibleSecondaries topology preference = .ok servers) :
    server ∈ servers ↔ IsEligible topology preference server := by
  obtain ⟨fresh, chosen, rfl⟩ := shaped_eq_ok_iff.1 found
  have told := (filterM_eq_ok_iff.1 chosen).1
  rw [mem_filterByTags_iff]
  refine isTagged_congr fun other => ?_
  rw [mem_of_filterM chosen, IsFresh, ← and_assoc]
  constructor
  · rintro ⟨member, within⟩
    have isSecondary := List.mem_filter.1 member
    exact ⟨⟨isSecondary.1, beq_iff_eq.1 isSecondary.2⟩, (isWithin_iff (told other member)).1 within⟩
  · rintro ⟨⟨tracked, secondary⟩, within⟩
    have member : other ∈ topology.descriptions.filter (·.type == .rsSecondary) :=
      List.mem_filter.2 ⟨tracked, beq_iff_eq.2 secondary⟩
    exact ⟨member, (isWithin_iff (told other member)).2 within⟩

theorem exists_eligibleMembers_iff :
    (∃ servers, eligibleMembers topology preference = .ok servers) ↔ LagsStayInRange topology := by
  refine exists_shaped_iff.trans (exists_filterM_eq_ok_iff.trans ?_)
  simp only [LagsStayInRange, exists_isFreshMember_iff]

theorem mem_eligibleMembers_iff (found : eligibleMembers topology preference = .ok servers) :
    server ∈ servers ↔
      IsTagged preference.tagSets
        (fun other => IsPrimary topology other ∨ IsFresh topology preference other) server := by
  obtain ⟨fresh, chosen, rfl⟩ := shaped_eq_ok_iff.1 found
  have told := (filterM_eq_ok_iff.1 chosen).1
  rw [mem_filterByTags_iff]
  refine isTagged_congr fun other => ?_
  rw [mem_of_filterM chosen, IsPrimary, IsFresh, ← and_or_left]
  exact and_congr_right fun tracked => isFreshMember_iff (told other tracked)

theorem mem_orElse_iff (first second : List ServerDescription) :
    server ∈ orElse first second ↔
      server ∈ first ∨ (∀ other, other ∉ first) ∧ server ∈ second := by
  unfold orElse
  cases first with
  | nil => simp
  | cons head rest =>
    have some : ¬ ∀ other, other ∉ head :: rest := fun none => none head List.mem_cons_self
    simp only [List.isEmpty_cons, Bool.false_eq_true, if_false, some, false_and, or_false]

theorem isEmpty_primaries_iff :
    (primaries topology).isEmpty = true ↔ topology.primary? = none := by
  unfold primaries
  cases topology.primary? <;> simp

/-- A read comes to an accident exactly if it asks for lags and one of them leaves the 64 bits. -/
theorem exists_readable_iff :
    (∃ servers, readable topology preference = .ok servers) ↔
      (AsksForLags topology preference → LagsStayInRange topology) := by
  unfold readable AsksForLags
  cases preference.mode with
  | primary => simp
  | primaryPreferred =>
    dsimp only
    split
    · next leaderless =>
      rw [exists_eligibleSecondaries_iff]
      exact ⟨fun inRange _ => inRange, fun asked => asked (isEmpty_primaries_iff.1 leaderless)⟩
    · next led =>
      exact iff_of_true ⟨_, rfl⟩ fun leaderless => absurd (isEmpty_primaries_iff.2 leaderless) led
  | secondary => simp [exists_eligibleSecondaries_iff]
  | secondaryPreferred =>
    exact exists_shaped_iff.trans <| exists_eligibleSecondaries_iff.trans (forall_const True).symm
  | nearest => simp [exists_eligibleMembers_iff]

theorem mem_readable_iff (found : readable topology preference = .ok servers) :
    server ∈ servers ↔ Routes topology preference (topology.primary? = some ·) server := by
  unfold readable at found
  unfold Routes
  cases mode : preference.mode with
  | primary =>
    rw [mode] at found
    exact Except.ok.inj found ▸ mem_primaries_iff
  | primaryPreferred =>
    rw [mode] at found
    dsimp only at found ⊢
    split at found
    · next leaderless =>
      rw [mem_eligibleSecondaries_iff found, isEmpty_primaries_iff.1 leaderless]
      simp
    · next led =>
      obtain ⟨leader, leads⟩ := Option.ne_none_iff_exists'.1 (mt isEmpty_primaries_iff.2 led)
      rw [← Except.ok.inj found, mem_primaries_iff, leads]
      simp
  | secondary =>
    rw [mode] at found
    exact mem_eligibleSecondaries_iff found
  | secondaryPreferred =>
    rw [mode] at found
    obtain ⟨secondaries, eligible, rfl⟩ := shaped_eq_ok_iff.1 found
    rw [mem_orElse_iff, mem_primaries_iff]
    simp only [mem_eligibleSecondaries_iff eligible]
  | nearest =>
    rw [mode] at found
    exact mem_eligibleMembers_iff found

theorem isReplicaSet_iff {type : TopologyType} :
    type.isReplicaSet = true ↔ type = .replicaSetNoPrimary ∨ type = .replicaSetWithPrimary := by
  cases type <;> decide

theorem suitable_write (set : topology.type.isReplicaSet = true) :
    suitable topology .write = .ok (primaries topology) := by
  unfold suitable
  rcases isReplicaSet_iff.1 set with type | type <;> rw [type]

theorem suitable_read (set : topology.type.isReplicaSet = true) :
    suitable topology (.read preference) = readable topology preference := by
  unfold suitable
  rcases isReplicaSet_iff.1 set with type | type <;> rw [type]

theorem suitable_predicate (set : topology.type.isReplicaSet = true)
    (test : ServerDescription → Bool) : suitable topology (.predicate test) =
      .ok ((topology.descriptions.filter (·.isAvailable)).filter test) := by
  unfold suitable
  rcases isReplicaSet_iff.1 set with type | type <;> rw [type]

/-- The suitable servers are found exactly if no lag that is asked for leaves the 64 bits. -/
theorem exists_suitable_iff :
    (∃ servers, suitable topology criteria = .ok servers) ↔ StaysInRange topology criteria := by
  unfold StaysInRange
  by_cases set : topology.type.isReplicaSet = true
  · cases criteria with
    | read preference =>
      rw [suitable_read set, exists_readable_iff]
      simp [set]
    | write => simp [suitable_write set]
    | predicate test =>
      exact iff_of_true ⟨_, suitable_predicate set test⟩ fun _ _ isRead => by cases isRead
  · refine iff_of_true ?_ fun isSet => absurd isSet set
    unfold suitable
    cases type : topology.type with
    | unknown | single | sharded => exact ⟨_, rfl⟩
    | replicaSetNoPrimary | replicaSetWithPrimary => exact absurd (type ▸ rfl) set

/-- A write asks for no lag. -/
theorem exists_suitable_write (topology : Topology) :
    ∃ servers, suitable topology .write = .ok servers :=
  exists_suitable_iff.2 fun _ _ isRead => by cases isRead

/-! ### No server twice -/

/-- Descriptions under their own addresses are pairwise different. -/
theorem nodup_descriptions (keyed : topology.Keyed) : topology.descriptions.Nodup := by
  unfold Topology.descriptions AddressMap.values
  rw [List.nodup_iff_pairwise_ne, List.pairwise_map]
  refine topology.servers.ordered.imp_of_mem fun {first second} isFirst isSecond smaller same => ?_
  have own (entry : ServerAddress × ServerDescription)
      (member : entry ∈ topology.servers.entries) : entry.2.address = entry.1 :=
    keyed entry.1 entry.2 ((AddressMap.get?_eq_some_iff _).2 member)
  rw [← own first isFirst, ← own second isSecond, same, ServerAddress.before_irrefl] at smaller
  cases smaller

theorem nodup_primaries (topology : Topology) : (primaries topology).Nodup := by
  unfold primaries
  cases topology.primary? <;> simp

theorem nodup_suitable (keyed : topology.Keyed) (found : suitable topology criteria = .ok servers) :
    servers.Nodup :=
  ((suitable_sublist topology found).trans List.filter_sublist).nodup (nodup_descriptions keyed)

/-! ### Servers that can be written to -/

/-- The least of some latencies and another one is one of them. -/
theorem foldl_latency_eq_or (servers : List ServerDescription) (start : Duration) :
    servers.foldl (fun best server => min best (latency server)) start = start ∨
      ∃ server ∈ servers, latency server =
        servers.foldl (fun best server => min best (latency server)) start := by
  induction servers generalizing start with
  | nil => exact .inl rfl
  | cons first rest inductionHypothesis =>
    rw [List.foldl_cons]
    rcases inductionHypothesis (min start (latency first)) with same | ⟨server, member, attained⟩
    · rcases Duration.min_eq_or start (latency first) with least | least
      · exact .inl (same.trans least)
      · exact .inr ⟨first, List.mem_cons_self, least.symm.trans same.symm⟩
    · exact .inr ⟨server, List.mem_cons_of_mem _ member, attained⟩

theorem fastest?_attained {servers : List ServerDescription} {best : Duration}
    (fastest : fastest? servers = some best) : ∃ server ∈ servers, latency server = best := by
  cases servers with
  | nil => cases fastest
  | cons first rest =>
    cases fastest
    rcases foldl_latency_eq_or rest (latency first) with same | ⟨server, member, attained⟩
    · exact ⟨first, List.mem_cons_self, same.symm⟩
    · exact ⟨server, List.mem_cons_of_mem _ member, attained⟩

/-- A fastest server is never too slow. -/
theorem inLatencyWindow_eq_nil_iff (threshold : Duration) (servers : List ServerDescription) :
    inLatencyWindow threshold servers = [] ↔ servers = [] := by
  constructor
  · intro none
    cases servers with
    | nil => rfl
    | cons first rest =>
      obtain ⟨best, fastest⟩ : ∃ best, fastest? (first :: rest) = some best := ⟨_, rfl⟩
      obtain ⟨server, member, attained⟩ := fastest?_attained fastest
      unfold inLatencyWindow at none
      rw [fastest] at none
      refine absurd (List.filter_eq_nil_iff.1 none server member) (not_not_intro ?_)
      rw [attained]
      exact decide_eq_true (Nat.le_add_right _ _)
  · rintro rfl
    rfl

/-- A deployment is written to if some server suits the writes. -/
theorem finds_write (compatible : topology.incompatibility = none)
    (found : suitable topology .write = .ok servers) :
    ∃ answer, finds topology .write = .ok answer ∧ (answer = true ↔ ∃ server, server ∈ servers) := by
  have checked : check topology .write = .ok () := by
    unfold check Topology.checkCompatible
    rw [compatible]
    rfl
  refine ⟨!(window topology servers).isEmpty, ?_, ?_⟩
  · unfold finds select
    rw [checked, found]
    rfl
  · rw [← List.isEmpty_eq_false_iff_exists_mem, Bool.not_eq_true', List.isEmpty_eq_false_iff,
      List.isEmpty_eq_false_iff]
    unfold window
    split
    · exact Iff.rfl
    · exact not_congr (inLatencyWindow_eq_nil_iff _ _)

/-- A deployment can be written to through its primary, through a router, or if it is a single server
that has answered. -/
theorem exists_mem_suitable_write_iff (consistent : topology.Consistent)
    (found : suitable topology .write = .ok servers) :
    (∃ server, server ∈ servers) ↔
      topology.type = .replicaSetWithPrimary ∨
        topology.type = .sharded ∧ (∃ server ∈ topology.descriptions, server.type = .mongos) ∨
        topology.type = .single ∧
          ∃ server ∈ topology.descriptions, server.isAvailable = true := by
  have led (set : topology.type.isReplicaSet = true) :
      (∃ server, server ∈ servers) ↔ topology.type = .replicaSetWithPrimary := by
    rw [suitable_write set] at found
    rw [consistent.agrees set, ← Topology.primary?_isSome_iff, Option.isSome_iff_exists,
      ← Except.ok.inj found]
    exact exists_congr fun server => mem_primaries_iff
  unfold suitable at found
  cases type : topology.type with
  | unknown =>
    rw [type] at found
    rw [← Except.ok.inj found]
    simp
  | single =>
    rw [type] at found
    rw [← Except.ok.inj found]
    simp [SelectionCriteria.admits]
  | sharded =>
    rw [type] at found
    rw [← Except.ok.inj found]
    simp only [List.mem_filter, beq_iff_eq, SelectionCriteria.admits, and_true, reduceCtorEq,
      true_and, false_and, or_false, false_or, and_assoc]
    refine exists_congr fun server => and_congr_right fun _ => ⟨And.right, fun router => ?_⟩
    exact ⟨ServerType.isAvailable_iff.2 (router ▸ by decide), router⟩
  | replicaSetNoPrimary | replicaSetWithPrimary =>
    rw [led (by rw [type]; rfl), type]
    simp

/-- In a replica set as a client sees it, the first primary is the only one. -/
theorem primary?_eq_some_iff (consistent : topology.Consistent)
    (set : topology.type.isReplicaSet = true) :
    topology.primary? = some server ↔ IsPrimary topology server := by
  constructor
  · intro first
    exact ⟨List.mem_of_find?_eq_some first,
      (Topology.server?_of_primary? topology consistent.keyed server first).2⟩
  · rintro ⟨member, primary⟩
    obtain ⟨address, found⟩ := (Topology.mem_descriptions_iff topology server).1 member
    obtain ⟨leader, first⟩ := Option.isSome_iff_exists.1
      ((Topology.primary?_isSome_iff topology).2 ⟨address, server, found, primary⟩)
    obtain ⟨known, leads⟩ := Topology.server?_of_primary? topology consistent.keyed leader first
    have same := consistent.sole set address leader.address ⟨server, found, primary⟩
      ⟨leader, known, leads⟩
    rw [same, known] at found
    rw [first, found]

/-- Where the operations on a replica set go. Whatever the servers are, a write is offered the first
primary. A read is offered the servers that its mode, its bound on the lag and its tags ask for, unless
it asks for lags and the lag of some secondary leaves the 64 bits: then, and only then, it comes to an
accident. No server is offered twice if each is described under its own address. In every picture a
client can come to see this is so, and the first primary is the only one. Therefore a compatible
deployment can be written to exactly if it is a replica set with a primary, or sharded with a router, or
a single server that has answered. -/
theorem operations_are_routed (topology : Topology) :
    (topology.type.isReplicaSet = true →
      (∃ servers, suitable topology .write = .ok servers ∧ servers.Nodup ∧
        ∀ server, server ∈ servers ↔ topology.primary? = some server) ∧
      ∀ preference,
        ((∃ servers, suitable topology (.read preference) = .ok servers) ↔
          (AsksForLags topology preference → LagsStayInRange topology)) ∧
        ∀ servers, suitable topology (.read preference) = .ok servers →
          (∀ server, server ∈ servers ↔
            Routes topology preference (topology.primary? = some ·) server) ∧
          (topology.Keyed → servers.Nodup)) ∧
    ∀ options, Topology.Reachable options topology →
      topology.Keyed ∧
      (topology.type.isReplicaSet = true →
        (∀ first second, IsPrimary topology first → IsPrimary topology second → first = second) ∧
        (∃ servers, suitable topology .write = .ok servers ∧
          ∀ server, server ∈ servers ↔ IsPrimary topology server) ∧
        ∀ preference servers, suitable topology (.read preference) = .ok servers →
          ∀ server, server ∈ servers ↔
            Routes topology preference (IsPrimary topology) server) ∧
      (topology.incompatibility = none →
        ∃ answer, topology.hasWritableServer = .ok answer ∧
          (answer = true ↔
            topology.type = .replicaSetWithPrimary ∨
              topology.type = .sharded ∧
                (∃ server ∈ topology.descriptions, server.type = .mongos) ∨
              topology.type = .single ∧
                ∃ server ∈ topology.descriptions, server.isAvailable = true)) := by
  refine ⟨fun set => ⟨⟨primaries topology, suitable_write set, nodup_primaries topology,
    fun _ => mem_primaries_iff⟩, fun preference => ⟨?_, fun servers found => ⟨fun server => ?_, ?_⟩⟩⟩,
    ?_⟩
  · rw [suitable_read set]
    exact exists_readable_iff
  · rw [suitable_read set] at found
    exact mem_readable_iff found
  · exact fun keyed => nodup_suitable keyed found
  · intro options reached
    have consistent := Topology.consistent_of_reachable options topology reached
    refine ⟨consistent.keyed, fun set => ?_, fun compatible => ?_⟩
    · have only : (topology.primary? = some ·) = IsPrimary topology :=
        funext fun server => propext (primary?_eq_some_iff consistent set)
      refine ⟨fun first second isFirst isSecond => ?_, ⟨primaries topology, suitable_write set,
        fun server => ?_⟩, fun preference servers found server => ?_⟩
      · rw [← primary?_eq_some_iff consistent set] at isFirst isSecond
        rw [isFirst] at isSecond
        exact Option.some.inj isSecond
      · rw [mem_primaries_iff]
        exact primary?_eq_some_iff consistent set
      · rw [suitable_read set] at found
        rw [mem_readable_iff found, only]
    · obtain ⟨servers, found⟩ := exists_suitable_write topology
      obtain ⟨answer, answered, isFound⟩ := finds_write compatible found
      exact ⟨answer, answered, isFound.trans (exists_mem_suitable_write_iff consistent found)⟩

/-- The answer of either server of the pair as a secondary in some region. -/
def pairRegion (host region : String) : ServerDescription :=
  .ofReply ⟨host, 27017⟩
    [("ok", .int32 1), ("secondary", .boolean true), ("setName", .string "pair"),
      ("maxWireVersion", .int32 17), ("tags", .document [("region", .string region)]),
      ("hosts", .array [.string "left", .string "right"])] none .zero

/-- The picture once both servers of the pair have told where they are. -/
def pairRegions : Topology :=
  (Topology.initial Topology.pairOptions).applyAll
    [pairRegion "left" "east", pairRegion "right" "west"]

/-- A read that would rather go to the north than to the west, and to the west than to the east. -/
def westward : ReadPreference where
  mode := .secondary
  tagSets := [⟨[("region", "north")]⟩, ⟨[("region", "west")]⟩, ⟨[("region", "east")]⟩]

/-- Nobody is in the north, so the read goes to the west. A pair with a primary can be written to. -/
theorem operations_are_routed_pair :
    Topology.Reachable Topology.pairOptions pairRegions ∧
      pairRegions.type.isReplicaSet = true ∧
      (∃ servers, suitable pairRegions (.read westward) = .ok servers ∧
        pairRegion "right" "west" ∈ servers) ∧
      Topology.pairLed.incompatibility = none ∧
      Topology.pairLed.hasWritableServer = .ok true := by
  have reached : Topology.Reachable Topology.pairOptions pairRegions := by
    refine Topology.reachable_applyAll _ _ (.start _ rfl) _ fun description member => ?_
    simp only [List.mem_cons, List.not_mem_nil, or_false] at member
    rcases member with rfl | rfl <;> exact .replied _ _ _ _
  have set : pairRegions.type.isReplicaSet = true := by decide +kernel
  have tracked : pairRegions.descriptions =
      [pairRegion "left" "east", pairRegion "right" "west"] := rfl
  have inRange : LagsStayInRange pairRegions := by
    intro server member _ evidence known
    rw [tracked] at member
    simp only [List.mem_cons, List.not_mem_nil, or_false] at member
    rcases member with rfl | rfl <;> cases known
  have fresh : IsFresh pairRegions westward (pairRegion "right" "west") := by
    refine ⟨?_, by decide +kernel, fun _ _ bounded => by cases bounded⟩
    rw [tracked]
    exact List.mem_cons_of_mem _ List.mem_cons_self
  have nobody : ∀ other, IsFresh pairRegions westward other →
      other.matchesTags ⟨[("region", "north")]⟩ = false := by
    rintro other ⟨member, -⟩
    rw [tracked] at member
    simp only [List.mem_cons, List.not_mem_nil, or_false] at member
    rcases member with rfl | rfl <;> decide +kernel
  obtain ⟨members, reachable⟩ := operations_are_routed pairRegions
  obtain ⟨-, routed, -⟩ := reachable _ reached
  obtain ⟨servers, found⟩ := ((members set).2 westward).1.2 fun _ => inRange
  obtain ⟨-, written⟩ := operations_are_routed Topology.pairLed
  obtain ⟨-, -, writable⟩ := written _ Topology.reachable_pairLed
  have compatible : Topology.pairLed.incompatibility = none := by decide +kernel
  obtain ⟨answer, answered, isWritable⟩ := writable compatible
  rw [isWritable.2 (.inl (by decide +kernel))] at answered
  refine ⟨reached, set, ⟨servers, found, ?_⟩, compatible, answered⟩
  refine ((routed set).2.2 westward _ found _).2 ⟨fresh, .inr ⟨[⟨[("region", "north")]⟩], _, _, rfl,
    by decide +kernel, ?_⟩⟩
  intro earlier member
  rw [List.mem_singleton.1 member]
  exact nobody

/-- A read can come to an accident although it does not bound the lag. Both members of the pair are
secondaries that the read may go to, but the lag of the one that wrote last before 1970 leaves the 64
bits, so neither is offered. -/
theorem distant_dates_stop_read :
    Topology.Reachable Topology.pairOptions (Staleness.pairWrites Int64.maxValue (-1)) ∧
      (Staleness.pairWrites Int64.maxValue (-1)).type.isReplicaSet = true ∧
      Staleness.pairWritten "left" Int64.maxValue ∈
        (Staleness.pairWrites Int64.maxValue (-1)).descriptions ∧
      (Staleness.pairWritten "left" Int64.maxValue).type = .rsSecondary ∧
      suitable (Staleness.pairWrites Int64.maxValue (-1)) (.read { mode := .secondary }) =
        .error .overflow :=
  ⟨Staleness.reachable_pairWrites _ _, by decide +kernel, List.mem_cons_self, by decide +kernel, rfl⟩

end Selection

end DocumentDriver
