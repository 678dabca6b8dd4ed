/-
This file proves that elections never go backwards. Elections are ranked by their two parts, of
which an absent one is the lowest. The election that is recorded moves only up in that ranking,
the primary in the picture is always the one that it belongs to, and a primary of an older election
changes nothing but what is known of itself. Where servers compare versions first, the same holds
of the ranking that compares them first.
-/

import Mathlib
import DocumentDriver.Proofs.Selection.Latency

namespace DocumentDriver

/-! ### The order of elections -/

namespace ObjectId

/-- The bytes of an identifier as numbers, which compare one after the other. -/
def numbers (id : ObjectId) : List ℕ := id.toBytes.map UInt8.toNat

theorem map_toNat_lt_iff (left right : Bytes) :
    left.map UInt8.toNat < right.map UInt8.toNat ↔ left < right := by
  induction left generalizing right with
  | nil => cases right <;> simp
  | cons first rest inductionHypothesis =>
    cases right with
    | nil => simp
    | cons other others =>
      rw [List.map_cons, List.map_cons, List.cons_lt_cons_iff, List.cons_lt_cons_iff,
        inductionHypothesis, UInt8.toNat_inj, UInt8.lt_iff_toNat_lt]

theorem numbers_lt_iff (left right : ObjectId) : left.numbers < right.numbers ↔ left < right :=
  map_toNat_lt_iff left.toBytes right.toBytes

theorem numbers_injective : Function.Injective numbers := by
  intro left right same
  have bytes : left.toBytes = right.toBytes :=
    List.map_injective_iff.2 (fun _ _ => UInt8.toNat_inj.1) same
  obtain ⟨left⟩ := left
  obtain ⟨right⟩ := right
  exact congrArg ObjectId.mk (Vector.toList_inj.1 bytes)

end ObjectId

namespace Election

/-- The key of an optional value. Nothing comes before any value. -/
def optionalKey {Value Key : Type} (key : Value → Key) : Option Value → WithBot Key
  | none => ⊥
  | some value => key value

theorem before_iff {Value Key : Type} [LT Value] [DecidableLT Value] [LinearOrder Key]
    {key : Value → Key} (keeps : ∀ left right, key left < key right ↔ left < right)
    (left right : Option Value) :
    before (fun first second => decide (first < second)) left right = true ↔
      optionalKey key left < optionalKey key right := by
  cases left <;> cases right <;> simp [before, optionalKey, keeps]

theorem optionalKey_injective {Value Key : Type} {key : Value → Key}
    (injective : Function.Injective key) : Function.Injective (optionalKey key) := by
  intro left right same
  cases left <;> cases right <;> simp_all [optionalKey, injective.eq_iff]

/-- Where an election stands in the order that compares identifiers first. -/
def rank (election : Election) : WithBot (List ℕ) ×ₗ WithBot ℤ :=
  toLex (optionalKey ObjectId.numbers election.id, optionalKey Int64.toInt election.setVersion)

/-- Where an election stands in the order that compares versions first. -/
def versionRank (election : Election) : WithBot ℤ ×ₗ WithBot (List ℕ) :=
  toLex (optionalKey Int64.toInt election.setVersion, optionalKey ObjectId.numbers election.id)

theorem rank_injective : Function.Injective rank := by
  intro left right same
  obtain ⟨ids, versions⟩ := Prod.mk.inj (toLex.injective same)
  cases left
  cases right
  exact congrArg₂ Election.mk (optionalKey_injective ObjectId.numbers_injective ids)
    (optionalKey_injective (fun _ _ => Int64.toInt_inj.1) versions)

theorem isOlder_iff_rank_lt (left right : Election) :
    left.isOlder right = true ↔ left.rank < right.rank := by
  unfold isOlder rank
  rw [Prod.Lex.toLex_lt_toLex, Bool.or_eq_true, Bool.and_eq_true, beq_iff_eq,
    before_iff ObjectId.numbers_lt_iff, before_iff fun _ _ => Int64.lt_iff_toInt_lt.symm,
    (optionalKey_injective ObjectId.numbers_injective).eq_iff]

/-- Remembering an election that is not over never goes back, where versions compare first: a
greater version decides, and beside the same version only an identifier that is not smaller
counts. -/
theorem versionRank_le_mergeByVersion (known reported : Election)
    (current : reported.isOlderByVersion known = false) :
    known.versionRank ≤ (known.mergeByVersion reported).versionRank := by
  obtain ⟨knownId, knownVersion⟩ := known
  obtain ⟨id, version⟩ := reported
  cases version with
  | none => cases knownVersion <;> exact le_refl _
  | some version =>
    cases knownVersion with
    | none => exact Prod.Lex.toLex_le_toLex.2 (.inl (WithBot.bot_lt_coe _))
    | some greatest =>
      -- A greater version decides alone. A smaller one is passed over, so that only identifiers
      -- beside the same version compare, and those are not smaller.
      by_cases newer : greatest < version
      · have grown : optionalKey Int64.toInt (some greatest) < optionalKey Int64.toInt
            (mergeByVersion ⟨knownId, some greatest⟩ ⟨id, some version⟩).setVersion := by
          simpa [mergeByVersion, newer, optionalKey] using Int64.lt_iff_toInt_lt.1 newer
        exact Prod.Lex.toLex_le_toLex.2 (.inl grown)
      · have kept : (mergeByVersion ⟨knownId, some greatest⟩ ⟨id, some version⟩).setVersion =
            some greatest := by simp [mergeByVersion, newer]
        refine Prod.Lex.toLex_le_toLex.2 (.inr ⟨by rw [kept], ?_⟩)
        cases id with
        | none => exact le_refl _
        | some id =>
          cases knownId with
          | none => exact bot_le
          | some knownId =>
            have complete : ¬ version < greatest ∧ (version = greatest → ¬ id < knownId) := by
              simpa [isOlderByVersion] using current
            have same : version = greatest :=
              Int64.le_antisymm (Int64.not_lt.1 newer) (Int64.not_lt.1 complete.1)
            have later : ¬ id.numbers < knownId.numbers :=
              mt (ObjectId.numbers_lt_iff id knownId).1 (complete.2 same)
            exact WithBot.coe_le_coe.2 (not_lt.1 later)

end Election

namespace Selection

/-- Writes go to the primary of a replica set and to no other server. -/
theorem primary?_of_select_write {topology : Topology} (set : topology.type.isReplicaSet = true)
    {servers : List ServerDescription} (selected : select topology .write = .ok (.ok servers))
    {server : ServerDescription} (member : server ∈ servers) :
    topology.primary? = some server := by
  unfold select at selected
  rw [suitable_write set] at selected
  cases passed : check topology .write with
  | error fault =>
    rw [passed] at selected
    cases selected
  | ok _ =>
    rw [passed] at selected
    cases selected
    exact mem_primaries_iff.1 ((window_sublist _ _).subset member)

end Selection

namespace Topology

/-! ### What is recorded -/

theorem comparesElectionFirst_iff (description : ServerDescription) :
    description.comparesElectionFirst = true ↔
      electionFirstWireVersion ≤ description.maxWireVersion := decide_eq_true_iff

theorem isStalePrimary_iff (topology : Topology) (description : ServerDescription)
    (first : description.comparesElectionFirst = true) :
    topology.isStalePrimary description = true ↔
      description.election.rank < topology.election.rank := by
  unfold isStalePrimary
  rw [if_pos first, Election.isOlder_iff_rank_lt]

theorem election_recordElection (topology : Topology) (description : ServerDescription)
    (first : description.comparesElectionFirst = true) :
    (topology.recordElection description).election = description.election := if_pos first

theorem rank_le_recordElection (topology : Topology) (description : ServerDescription)
    (first : description.comparesElectionFirst = true)
    (current : topology.isStalePrimary description = false) :
    topology.election.rank ≤ (topology.recordElection description).election.rank := by
  rw [election_recordElection topology description first]
  refine not_lt.1 fun older => ?_
  rw [(isStalePrimary_iff topology description first).2 older] at current
  cases current

theorem versionRank_le_recordElection (topology : Topology) (description : ServerDescription)
    (second : description.comparesElectionFirst = false)
    (current : topology.isStalePrimary description = false) :
    topology.election.versionRank ≤ (topology.recordElection description).election.versionRank := by
  have apart : ¬ description.comparesElectionFirst = true := Bool.eq_false_iff.1 second
  unfold isStalePrimary at current
  rw [if_neg apart] at current
  have merged : (topology.recordElection description).election =
      topology.election.mergeByVersion description.election := if_neg apart
  rw [merged]
  exact Election.versionRank_le_mergeByVersion _ _ current

theorem election_updateFromPrimary_of_leads (topology : Topology)
    (description : ServerDescription) (leads : topology.Leads description) :
    (topology.updateFromPrimary description).election =
      (topology.recordElection description).election := by
  obtain ⟨-, accepted, current⟩ := leads
  have currentNamed : ¬ (topology.adoptSetName description).isStalePrimary description = true :=
    Bool.eq_false_iff.1 current
  unfold updateFromPrimary
  rw [if_pos accepted]
  dsimp only
  rw [if_neg currentNamed]
  rfl

theorem election_updateFromPrimary_of_follows (topology : Topology)
    (description : ServerDescription) (kind : description.type = .rsPrimary)
    (follows : ¬ topology.Leads description) :
    (topology.updateFromPrimary description).election = topology.election := by
  unfold updateFromPrimary
  split
  · next accepted =>
    dsimp only
    split
    · rfl
    · next current => exact absurd ⟨kind, accepted, eq_false_of_ne_true current⟩ follows
  · rfl

/-- No effect but that of a description that leads changes what is recorded. -/
theorem election_reaction (topology : Topology) (description : ServerDescription)
    (next : Topology) (effect : Reaction topology description next) :
    next.election = topology.election ∨ topology.Leads description ∧
      next.election = (topology.recordElection description).election := by
  cases effect with
  | direct => exact .inl (by unfold updateSingle; split <;> rfl)
  | standalone => exact .inl (by unfold updateFromStandalone; split <;> rfl)
  | primary _ kind =>
    by_cases leads : topology.Leads description
    · exact .inr ⟨leads, election_updateFromPrimary_of_leads topology description leads⟩
    · exact .inl (election_updateFromPrimary_of_follows topology description kind leads)
  | member =>
    refine .inl ?_
    unfold updateWithoutPrimary
    split
    · dsimp only
      split <;> rfl
    · rfl
  | subject =>
    refine .inl ?_
    unfold updateFromMember
    dsimp only
    split <;> rfl
  | router | waiting | shard | intruder | stranger | deserter | silence => exact .inl rfl

/-! ### Runs -/

/-- What is recorded moves only up in a ranking in which no leader is recorded below it. -/
theorem election_mono {Rank : Type} [Preorder Rank] (rank : Election → Rank)
    (Allowed : ServerDescription → Prop)
    (recorded : ∀ (topology : Topology) description, Allowed description →
      topology.Leads description →
      rank topology.election ≤ rank (topology.recordElection description).election)
    (topology : Topology) (descriptions : List ServerDescription)
    (allowed : ∀ description ∈ descriptions, Allowed description) :
    rank topology.election ≤ rank (topology.applyAll descriptions).election := by
  refine applyAll_induction Allowed (fun later => rank topology.election ≤ rank later.election) ?_
    descriptions allowed topology (le_refl _)
  intro before description below accepted _
  refine below.trans ?_
  rcases election_reaction _ description _ (reaction (before.store description) description) with
    same | ⟨leads, changed⟩
  · exact le_of_eq (congrArg rank same.symm)
  · exact (recorded before description accepted leads).trans (le_of_eq (congrArg rank changed.symm))

theorem consistent_applyAll (topology : Topology) (consistent : topology.Consistent)
    (descriptions : List ServerDescription) : (topology.applyAll descriptions).Consistent :=
  applyAll_induction (fun _ => True) Consistent
    (fun before description kept _ _ =>
      consistent_refresh _ (consistent_react before kept description))
    descriptions (fun _ _ => trivial) topology consistent

/-- The primary of a replica set is the one that the recorded election belongs to. -/
def LatestLeads (topology : Topology) : Prop :=
  topology.type.isReplicaSet = true → ∀ address leader,
    topology.server? address = some leader → leader.type = .rsPrimary →
    leader.election = topology.election

theorem latestLeads_initial (options : ClientOptions) : (initial options).LatestLeads := by
  intro _ address leader found primary
  rw [eq_unknown_of_initial options address leader found] at primary
  cases primary

/-- Whoever leads is recorded and leaves no other primary; any other description makes none. -/
theorem latestLeads_react (topology : Topology) (consistent : topology.Consistent)
    (latest : topology.LatestLeads) (description : ServerDescription)
    (first : description.type = .rsPrimary → description.comparesElectionFirst = true) :
    ((topology.store description).react description).LatestLeads := by
  have effect := reaction (topology.store description) description
  intro set address leader found primary
  have before : topology.type = .unknown ∨ topology.type.isReplicaSet = true :=
    (type_reaction _ description _ effect set).1
  -- A leader is the only primary afterwards and is recorded. Beside any other description both the
  -- record and the primaries are those of before.
  by_cases leads : topology.Leads description
  · rw [react_of_primary (topology.store description) description before leads.1] at found ⊢
    obtain ⟨own, listed⟩ := (primaryAt_updateFromPrimary topology consistent.keyed description leads
      address).1 ⟨leader, found, primary⟩
    rw [server?_updateFromPrimary topology consistent.keyed description leads, own,
      if_pos listed, if_pos rfl] at found
    cases found
    rw [election_updateFromPrimary_of_leads (topology.store description) description leads,
      election_recordElection _ description (first primary)]
  · have known : topology.server? address = some leader :=
      addsNoPrimary_reaction topology description _ before leads effect address leader found primary
    have kept : ((topology.store description).react description).election = topology.election := by
      rcases election_reaction _ description _ effect with same | ⟨led, -⟩
      · exact same
      · exact absurd led leads
    rw [kept]
    rcases before with stillOpen | wasSet
    · exact absurd ⟨leader, known, primary⟩
        (noPrimary_of_consistent topology consistent (.inl stillOpen) address)
    · exact latest wasSet address leader known primary

theorem latestLeads_applyAll (topology : Topology) (consistent : topology.Consistent)
    (latest : topology.LatestLeads) (descriptions : List ServerDescription)
    (first : ∀ description ∈ descriptions, description.type = .rsPrimary →
      description.comparesElectionFirst = true) :
    (topology.applyAll descriptions).LatestLeads := by
  refine (applyAll_induction
    (fun description => description.type = .rsPrimary → description.comparesElectionFirst = true)
    (fun topology => topology.Consistent ∧ topology.LatestLeads) ?_ descriptions first topology
    ⟨consistent, latest⟩).2
  rintro before description ⟨keptConsistent, keptLatest⟩ modern _
  exact ⟨consistent_refresh _ (consistent_react before keptConsistent description),
    latestLeads_react before keptConsistent keptLatest description modern⟩

/-- Elections never go backwards. As long as all primaries compare identifiers first, the recorded
election never gets older, the primary of a replica set is the server that it belongs to, and no
other server is selected for writes. A primary of an older election is unknown afterwards and
changes no other server. As long as all primaries compare versions first, the recorded election
never gets older in that order. -/
theorem election_never_goes_back (options : ClientOptions) (start topology : Topology)
    (started : ofOptions options = .ok start) (earlier later : List ServerDescription)
    (reached : start.applyAll earlier = topology) :
    ((∀ description ∈ earlier ++ later, description.type = .rsPrimary →
        electionFirstWireVersion ≤ description.maxWireVersion) →
      topology.election.rank ≤ (topology.applyAll later).election.rank ∧
      (topology.type.isReplicaSet = true → ∀ address leader,
        topology.server? address = some leader → leader.type = .rsPrimary →
        leader.election = topology.election ∧
          ∀ servers, Selection.select topology .write = .ok (.ok servers) →
            ∀ server ∈ servers, server = leader)) ∧
      (topology.type.isReplicaSet = true → ∀ description current,
        topology.server? description.address = some current →
        isOutdated current description = false → description.type = .rsPrimary →
        electionFirstWireVersion ≤ description.maxWireVersion →
        topology.acceptsSetName description = true →
        description.election.rank < topology.election.rank →
        (∃ server, (topology.apply description).server? description.address = some server ∧
            server.type = .unknown) ∧
          ∀ other, other ≠ description.address →
            (topology.apply description).server? other = topology.server? other) ∧
      ((∀ description ∈ earlier ++ later, description.type = .rsPrimary →
        description.maxWireVersion < electionFirstWireVersion) →
        topology.election.versionRank ≤ (topology.applyAll later).election.versionRank) := by
  obtain ⟨-, rfl⟩ := (ofOptions_eq_ok_iff options start).1 started
  have consistent : topology.Consistent :=
    reached ▸ consistent_applyAll _ (consistent_initial options) earlier
  refine ⟨fun modern => ⟨?_, fun set address leader found primary => ⟨?_, ?_⟩⟩, ?_, fun dated => ?_⟩
  · refine election_mono Election.rank (fun description => description.type = .rsPrimary →
      electionFirstWireVersion ≤ description.maxWireVersion) ?_ topology later fun description
      member => modern description (List.mem_append_right _ member)
    intro before description first leads
    exact rank_le_recordElection before description
      ((comparesElectionFirst_iff description).2 (first leads.1)) leads.2.2
  · have latest : topology.LatestLeads := by
      rw [← reached]
      refine latestLeads_applyAll _ (consistent_initial options) (latestLeads_initial options)
        earlier fun description member kind => (comparesElectionFirst_iff description).2 ?_
      exact modern description (List.mem_append_left _ member) kind
    exact latest set address leader found primary
  · intro servers selected server member
    have chosen := Selection.primary?_of_select_write set selected member
    obtain ⟨foundServer, kind⟩ := server?_of_primary? topology consistent.keyed server chosen
    have same : server.address = address :=
      consistent.sole set _ _ ⟨server, foundServer, kind⟩ ⟨leader, found, primary⟩
    rw [same, found] at foundServer
    exact (Option.some.inj foundServer).symm
  · intro set description current found recent kind first accepted older
    have stale : topology.isStalePrimary description = true :=
      (isStalePrimary_iff topology description ((comparesElectionFirst_iff description).2 first)).2
        older
    have after (address : ServerAddress) := server?_updateFromPrimary_of_stale topology description
      accepted stale address
    rw [apply_of_tracked topology description current found recent,
      react_of_primary (topology.store description) description (.inr set) kind]
    exact ⟨⟨_, (after description.address).trans (if_pos rfl), rfl⟩,
      fun other distinct => (after other).trans (if_neg distinct)⟩
  · refine election_mono Election.versionRank (fun description => description.type = .rsPrimary →
      description.maxWireVersion < electionFirstWireVersion) ?_ topology later fun description
      member => dated description (List.mem_append_right _ member)
    intro before description second leads
    refine versionRank_le_recordElection before description ?_ leads.2.2
    exact decide_eq_false (Int32.not_le.2 (second leads.1))

/-- The answer of either server of the pair as primary of an election and a configuration. -/
def pairClaim (host : String) (term : UInt8) (version wireVersion : Int32) : ServerDescription :=
  .ofReply ⟨host, 27017⟩
    [("ok", .int32 1), ("ismaster", .boolean true), ("setName", .string "pair"),
      ("electionId", .objectId ⟨.replicate 12 term⟩), ("setVersion", .int32 version),
      ("maxWireVersion", .int32 wireVersion),
      ("hosts", .array [.string "left", .string "right"])] none .zero

/-- The picture once the first server of the pair has told of the second election. -/
def pairElected (wireVersion : Int32) : Topology :=
  (initial pairOptions).applyAll [pairClaim "left" 2 1 wireVersion]

theorem election_never_goes_back_pair :
    ((pairElected 17).election.rank ≤
          ((pairElected 17).applyAll [pairClaim "right" 3 0 17]).election.rank ∧
        (pairClaim "left" 2 1 17).election = (pairElected 17).election ∧
          ∀ servers, Selection.select (pairElected 17) .write = .ok (.ok servers) →
            ∀ server ∈ servers, server = pairClaim "left" 2 1 17) ∧
      ((∃ server, ((pairElected 17).apply (pairClaim "right" 1 9 17)).server? ⟨"right", 27017⟩ =
            some server ∧ server.type = .unknown) ∧
        ∀ other, other ≠ ⟨"right", 27017⟩ →
          ((pairElected 17).apply (pairClaim "right" 1 9 17)).server? other =
            (pairElected 17).server? other) ∧
      (pairElected 9).election.versionRank ≤
        ((pairElected 9).applyAll [pairClaim "right" 1 2 9]).election.versionRank := by
  have modern := election_never_goes_back pairOptions _ (pairElected 17) rfl
    [pairClaim "left" 2 1 17] [pairClaim "right" 3 0 17] rfl
  have dated := election_never_goes_back pairOptions _ (pairElected 9) rfl
    [pairClaim "left" 2 1 9] [pairClaim "right" 1 2 9] rfl
  have set : (pairElected 17).type.isReplicaSet = true := by decide +kernel
  have ascends := modern.1 (by decide +kernel)
  refine ⟨⟨ascends.1, ascends.2 set ⟨"left", 27017⟩ (pairClaim "left" 2 1 17) rfl rfl⟩, ?_, ?_⟩
  · exact modern.2.1 set (pairClaim "right" 1 9 17) (.unknown ⟨"right", 27017⟩) rfl rfl rfl
      (by decide +kernel) (by decide +kernel)
      ((Election.isOlder_iff_rank_lt _ _).1 (by decide +kernel))
  · exact dated.2.2 (by decide +kernel)

end Topology

end DocumentDriver
