/-
This file proves what a client may rely on about primaries. However the servers answer, a replica
set has at most one primary in the picture, the kind of the deployment says whether it has one, and
what that primary lists is all that is tracked beside it.
-/

import DocumentDriver.Proofs.Topology.Run

namespace DocumentDriver

namespace Topology

/-! ### At most one primary -/

/-- A picture tells the truth about its primary: a replica set has at most one, its kind says
whether it has one, and as long as the kind is open, no server has told of its part. -/
structure Consistent (topology : Topology) : Prop where
  keyed : topology.Keyed
  sole : topology.type.isReplicaSet = true → ∀ first second, topology.PrimaryAt first →
    topology.PrimaryAt second → first = second
  agrees : topology.type.isReplicaSet = true →
    (topology.type = .replicaSetWithPrimary ↔ ∃ address, topology.PrimaryAt address)
  undecided : topology.type = .unknown → ∀ address server,
    topology.server? address = some server → server.type = .unknown ∨ server.type = .rsGhost

theorem consistent_initial (options : ClientOptions) : (initial options).Consistent := by
  have noPrimary (address : ServerAddress) : ¬ (initial options).PrimaryAt address := by
    rintro ⟨server, found, primary⟩
    rw [eq_unknown_of_initial options address server found] at primary
    cases primary
  have noneLeads : (initial options).type ≠ .replicaSetWithPrimary := by
    rcases type_initial_cases options with ⟨-, type⟩ | ⟨-, ⟨-, type⟩ | ⟨-, type⟩⟩
    all_goals
      rw [type]
      decide
  refine ⟨keyed_initial options, ?_, ?_, ?_⟩
  · intro _ first _ primary
    exact absurd primary (noPrimary first)
  · intro _
    exact ⟨fun leads => absurd leads noneLeads, fun ⟨address, primary⟩ =>
      absurd primary (noPrimary address)⟩
  · intro _ address server found
    rw [eq_unknown_of_initial options address server found]
    exact .inl rfl

/-- Before a replica set has a primary in the picture, none of its servers is one. -/
theorem noPrimary_of_consistent (topology : Topology) (consistent : topology.Consistent)
    (type : topology.type = .unknown ∨ topology.type = .replicaSetNoPrimary)
    (address : ServerAddress) : ¬ topology.PrimaryAt address := by
  intro primary
  rcases type with type | type
  · obtain ⟨server, found, kind⟩ := primary
    rcases consistent.undecided type address server found with same | same
    · rw [same] at kind
      cases kind
    · rw [same] at kind
      cases kind
  · have leads := (consistent.agrees (by rw [type]; rfl)).2 ⟨address, primary⟩
    rw [type] at leads
    cases leads

theorem sole_of_consistent (topology : Topology) (consistent : topology.Consistent)
    (type : topology.type = .unknown ∨ topology.type.isReplicaSet = true)
    (first second : ServerAddress) (firstPrimary : topology.PrimaryAt first)
    (secondPrimary : topology.PrimaryAt second) : first = second := by
  rcases type with type | type
  · exact absurd firstPrimary (noPrimary_of_consistent topology consistent (.inl type) first)
  · exact consistent.sole type first second firstPrimary secondPrimary

theorem primaryAt_of_addsNoPrimary (topology next : Topology)
    (none : topology.AddsNoPrimary next) (address : ServerAddress)
    (primary : next.PrimaryAt address) : topology.PrimaryAt address := by
  obtain ⟨server, found, kind⟩ := primary
  exact ⟨server, none address server found kind, kind⟩

/-- Whoever leads is the only primary afterwards, if it lists itself at all. -/
theorem primaryAt_updateFromPrimary (topology : Topology) (keyed : topology.Keyed)
    (description : ServerDescription) (leads : topology.Leads description)
    (address : ServerAddress) :
    ((topology.store description).updateFromPrimary description).PrimaryAt address ↔
      address = description.address ∧ description.address ∈ description.allHosts := by
  unfold PrimaryAt
  rw [server?_updateFromPrimary topology keyed description leads]
  constructor
  · rintro ⟨server, found, primary⟩
    split at found
    · next listed =>
      cases found
      split at primary
      · next own => exact ⟨own, own ▸ listed⟩
      · exact absurd primary (type_subordinate topology address)
    · cases found
  · rintro ⟨rfl, listed⟩
    exact ⟨description, by rw [if_pos listed, if_pos rfl], leads.1⟩

/-- Every effect keeps a picture true about its primary. A description that leads leaves no other
primary; any other one makes none, so the primaries afterwards are among those of before. -/
theorem consistent_react (topology : Topology) (consistent : topology.Consistent)
    (description : ServerDescription) :
    ((topology.store description).react description).Consistent := by
  have effect := reaction (topology.store description) description
  have keyed : ((topology.store description).react description).Keyed :=
    keyed_reaction _ (keyed_store topology consistent.keyed description) description _ effect
  have before (set : ((topology.store description).react description).type.isReplicaSet = true) :
      topology.type = .unknown ∨ topology.type.isReplicaSet = true :=
    (type_reaction _ description _ effect set).1
  refine ⟨keyed, ?_, ?_, ?_⟩
  · intro set first second firstPrimary secondPrimary
    by_cases leads : topology.Leads description
    · rw [react_of_primary (topology.store description) description (before set) leads.1,
        primaryAt_updateFromPrimary topology consistent.keyed description leads]
        at firstPrimary secondPrimary
      exact firstPrimary.1.trans secondPrimary.1.symm
    · have none := addsNoPrimary_reaction topology description _ (before set) leads effect
      exact sole_of_consistent topology consistent (before set) first second
        (primaryAt_of_addsNoPrimary topology _ none first firstPrimary)
        (primaryAt_of_addsNoPrimary topology _ none second secondPrimary)
  · intro set
    by_cases leads : topology.Leads description
    · obtain ⟨earlier, same⟩ :=
        updateFromPrimary_refreshes (topology.store description) description
      rw [react_of_primary (topology.store description) description (before set) leads.1, same]
      exact type_refreshPrimary earlier
    · rcases (type_reaction _ description _ effect set).2 with ⟨earlier, same⟩ | ⟨type, was⟩
      · rw [same]
        exact type_refreshPrimary earlier
      · have none := addsNoPrimary_reaction topology description _ (before set) leads effect
        constructor
        · intro led
          rw [type] at led
          cases led
        · rintro ⟨address, primary⟩
          exact absurd (primaryAt_of_addsNoPrimary topology _ none address primary)
            (noPrimary_of_consistent topology consistent was address)
  · intro stillOpen address server found
    obtain ⟨wasOpen, servers⟩ := open_reaction topology description _ effect stillOpen
    rcases servers address server found with ghost | down | known
    · exact .inr ghost
    · exact .inl down
    · exact consistent.undecided wasOpen address server known

/-- What is found out anew for the whole deployment does not touch what has to be true. -/
theorem consistent_refresh (topology : Topology) (consistent : topology.Consistent) :
    topology.refresh.Consistent :=
  ⟨consistent.keyed, consistent.sole, consistent.agrees, consistent.undecided⟩

theorem consistent_of_reachable (options : ClientOptions) (topology : Topology)
    (reached : Reachable options topology) : topology.Consistent := by
  refine reachable_induction options Consistent (fun _ => consistent_initial options) ?_ topology
    reached
  intro before description consistent _ _
  exact consistent_refresh _ (consistent_react before consistent description)

/-- In every picture a client can come to see, each description stands under its own address, a
replica set has at most one primary and its kind says whether it has one, and a deployment of open
kind holds only servers that have not told of their part. -/
theorem primary_agrees_with_type (options : ClientOptions) (topology : Topology)
    (reached : Reachable options topology) :
    (∀ entry ∈ topology.servers.entries, entry.2.address = entry.1) ∧
      (topology.type.isReplicaSet = true →
        (∀ first second, topology.PrimaryAt first → topology.PrimaryAt second → first = second) ∧
        (topology.type = .replicaSetWithPrimary ↔ ∃ address, topology.PrimaryAt address) ∧
        (topology.type = .replicaSetNoPrimary ↔ ¬ ∃ address, topology.PrimaryAt address)) ∧
      (topology.type = .unknown → ∀ entry ∈ topology.servers.entries,
        entry.2.type = .unknown ∨ entry.2.type = .rsGhost) := by
  have consistent := consistent_of_reachable options topology reached
  have found (entry : ServerAddress × ServerDescription)
      (member : entry ∈ topology.servers.entries) : topology.server? entry.1 = some entry.2 :=
    (AddressMap.get?_eq_some_iff _).2 member
  refine ⟨fun entry member => consistent.keyed _ _ (found entry member), fun set => ?_,
    fun stillOpen entry member => consistent.undecided stillOpen _ _ (found entry member)⟩
  have agrees := consistent.agrees set
  refine ⟨consistent.sole set, agrees, ?_⟩
  rw [← agrees]
  cases type : topology.type with
  | replicaSetNoPrimary => exact ⟨fun _ led => (by cases led), fun _ => rfl⟩
  | replicaSetWithPrimary => exact ⟨fun none => (by cases none), fun unled => absurd rfl unled⟩
  | unknown | single | sharded =>
    rw [type] at set
    cases set

/-- Two servers that answer as primaries of one set, each listing both. -/
def pairOptions : ClientOptions := { hosts := [⟨"left", 27017⟩, ⟨"right", 27017⟩] }

/-- The answer of either server as primary of the given configuration. -/
def pairReport (host : String) (version : Int32) : ServerDescription :=
  .ofReply ⟨host, 27017⟩
    [("ok", .int32 1), ("ismaster", .boolean true), ("setName", .string "pair"),
      ("setVersion", .int32 version), ("maxWireVersion", .int32 17),
      ("hosts", .array [.string "left", .string "right"])] none .zero

/-- The picture once the second server has taken the lead from the first. -/
def pairLed : Topology :=
  (initial pairOptions).applyAll [pairReport "left" 1, pairReport "right" 2]

theorem reachable_pairLed : Reachable pairOptions pairLed := by
  refine reachable_applyAll pairOptions _ (.start _ rfl) _ fun description member => ?_
  simp only [List.mem_cons, List.not_mem_nil, or_false] at member
  rcases member with rfl | rfl <;> exact .replied _ _ _ _

theorem primary_agrees_with_type_pair :
    Reachable pairOptions pairLed ∧ pairLed.type = .replicaSetWithPrimary ∧
      (∃ address, pairLed.PrimaryAt address) ∧
      ∀ first second, pairLed.PrimaryAt first → pairLed.PrimaryAt second → first = second := by
  have type : pairLed.type = .replicaSetWithPrimary := by decide +kernel
  have agrees := (primary_agrees_with_type pairOptions pairLed reachable_pairLed).2.1
    (by rw [type]; rfl)
  exact ⟨reachable_pairLed, type, agrees.2.1.1 type, agrees.1⟩

/-! ### What the primary lists -/

/-- Beside a primary only servers that it lists are tracked. -/
def Listed (topology : Topology) : Prop :=
  topology.type.isReplicaSet = true → ∀ address leader, topology.server? address = some leader →
    leader.type = .rsPrimary → ∀ other, topology.tracks other = true → other ∈ leader.allHosts

/-- Beside a primary no description but that of a leader lets further servers in. -/
theorem tracks_of_reaction (topology : Topology) (description : ServerDescription)
    (next : Topology) (type : topology.type = .replicaSetWithPrimary)
    (tracked : topology.tracks description.address = true)
    (follows : ¬ topology.Leads description)
    (effect : Reaction (topology.store description) description next) (address : ServerAddress)
    (later : next.tracks address = true) : topology.tracks address = true := by
  have stored (kept : (topology.store description).tracks address = true) :
      topology.tracks address = true := by
    rcases (tracks_store topology description address).1 kept with rfl | kept
    · exact tracked
    · exact kept
  have removed (kept : ((topology.store description).remove description.address).tracks address =
      true) : topology.tracks address = true :=
    stored ((tracks_remove _ _ _).1 kept).2
  have otherwise (kind : TopologyType) (distinct : kind ≠ .replicaSetWithPrimary)
      (same : topology.type = kind) : topology.tracks address = true :=
    absurd (same.symm.trans type) distinct
  cases effect with
  | direct single => exact otherwise _ (by decide) single
  | standalone open_ | router open_ => exact otherwise _ (by decide) open_
  | waiting before | member before =>
    rcases before with before | before
    · exact otherwise _ (by decide) before
    · exact otherwise _ (by decide) before
  | shard sharded | intruder sharded => exact otherwise _ (by decide) sharded
  | stranger before => exact otherwise _ (by decide) before
  | primary _ kind =>
    unfold updateFromPrimary at later
    split at later
    · next accepted =>
      dsimp only at later
      split at later
      · rcases (tracks_store _ _ _).1 later with own | kept
        · exact own ▸ tracked
        · exact stored kept
      · next current => exact (follows ⟨kind, accepted, eq_false_of_ne_true current⟩).elim
    · exact removed later
  | subject =>
    unfold updateFromMember at later
    dsimp only at later
    split at later
    · exact removed later
    · exact stored later
  | deserter => exact removed later
  | silence => exact stored later

/-- Who leads decides alone which servers are tracked. -/
theorem tracks_updateFromPrimary (topology : Topology) (keyed : topology.Keyed)
    (description : ServerDescription) (leads : topology.Leads description)
    (address : ServerAddress) :
    ((topology.store description).updateFromPrimary description).tracks address = true ↔
      address ∈ description.allHosts := by
  rw [tracks_iff, server?_updateFromPrimary topology keyed description leads]
  by_cases listed : address ∈ description.allHosts
  · simp [listed]
  · simp [listed]

theorem listed_react (topology : Topology) (consistent : topology.Consistent)
    (listed : topology.Listed) (description : ServerDescription)
    (tracked : topology.tracks description.address = true) :
    ((topology.store description).react description).Listed := by
  have effect := reaction (topology.store description) description
  intro set address leader found primary other later
  have before : topology.type = .unknown ∨ topology.type.isReplicaSet = true :=
    (type_reaction _ description _ effect set).1
  by_cases leads : topology.Leads description
  · rw [react_of_primary (topology.store description) description before leads.1] at found later
    have own : address = description.address :=
      ((primaryAt_updateFromPrimary topology consistent.keyed description leads address).1
        ⟨leader, found, primary⟩).1
    rw [server?_updateFromPrimary topology consistent.keyed description leads, if_pos own] at found
    split at found
    · cases found
      exact (tracks_updateFromPrimary topology consistent.keyed description leads other).1 later
    · cases found
  · have known : topology.server? address = some leader :=
      addsNoPrimary_reaction topology description _ before leads effect address leader found primary
    have notBefore (type : topology.type = .unknown ∨ topology.type = .replicaSetNoPrimary) :
        other ∈ leader.allHosts :=
      absurd ⟨leader, known, primary⟩ (noPrimary_of_consistent topology consistent type address)
    cases type : topology.type with
    | unknown => exact notBefore (.inl type)
    | replicaSetNoPrimary => exact notBefore (.inr type)
    | replicaSetWithPrimary =>
      exact listed (by rw [type]; rfl) address leader known primary other
        (tracks_of_reaction topology description _ type tracked leads effect other later)
    | single | sharded => simp [type, TopologyType.isReplicaSet] at before

theorem listed_of_reachable (options : ClientOptions) (topology : Topology)
    (reached : Reachable options topology) : topology.Listed := by
  refine (reachable_induction options (fun topology => topology.Consistent ∧ topology.Listed)
    (fun _ => ⟨consistent_initial options, ?_⟩) ?_ topology reached).2
  · intro _ address leader found primary
    rw [eq_unknown_of_initial options address leader found] at primary
    cases primary
  · rintro before description ⟨consistent, listed⟩ _ tracked
    exact ⟨consistent_refresh _ (consistent_react before consistent description),
      listed_react before consistent listed description tracked⟩

/-- The primary speaks for its set. Whatever is tracked beside a primary is listed by it, itself
included; and once a description that leads has been applied, exactly the servers it lists are
tracked, and the set has a primary exactly if it lists itself. -/
theorem primary_speaks_for_set (options : ClientOptions) (topology : Topology)
    (reached : Reachable options topology) :
    (topology.type = .replicaSetWithPrimary →
      ∃ leader, topology.primary? = some leader ∧ topology.tracks leader.address = true ∧
        ∀ address, topology.tracks address = true → address ∈ leader.allHosts) ∧
      ∀ description current, topology.server? description.address = some current →
        isOutdated current description = false →
        topology.type = .unknown ∨ topology.type.isReplicaSet = true →
        topology.Leads description →
        (∀ address, (topology.apply description).tracks address = true ↔
          address ∈ description.allHosts) ∧
        ((topology.apply description).type = .replicaSetWithPrimary ↔
          description.address ∈ description.allHosts) := by
  have consistent := consistent_of_reachable options topology reached
  constructor
  · intro led
    have set : topology.type.isReplicaSet = true := by rw [led]; rfl
    obtain ⟨leader, first⟩ := Option.isSome_iff_exists.1
      ((primary?_isSome_iff topology).2 ((consistent.agrees set).1 led))
    obtain ⟨found, primary⟩ := server?_of_primary? topology consistent.keyed leader first
    exact ⟨leader, first, (tracks_iff _ _).2 ⟨leader, found⟩,
      listed_of_reachable options topology reached set _ leader found primary⟩
  · intro description current found recent type leads
    rw [apply_of_tracked topology description current found recent,
      react_of_primary (topology.store description) description type leads.1]
    refine ⟨tracks_updateFromPrimary topology consistent.keyed description leads, ?_⟩
    obtain ⟨earlier, same⟩ := updateFromPrimary_refreshes (topology.store description) description
    have agrees : ((topology.store description).updateFromPrimary description).type =
        .replicaSetWithPrimary ↔ ∃ address,
          ((topology.store description).updateFromPrimary description).PrimaryAt address := by
      rw [same]
      exact type_refreshPrimary earlier
    refine agrees.trans ⟨?_, ?_⟩
    · rintro ⟨address, primary⟩
      exact ((primaryAt_updateFromPrimary topology consistent.keyed description leads
        address).1 primary).2
    · intro listed
      exact ⟨description.address, (primaryAt_updateFromPrimary topology consistent.keyed
        description leads _).2 ⟨rfl, listed⟩⟩

theorem primary_speaks_for_set_pair :
    (∃ leader, pairLed.primary? = some leader ∧ pairLed.tracks leader.address = true ∧
        ∀ address, pairLed.tracks address = true → address ∈ leader.allHosts) ∧
      pairLed.Leads (pairReport "left" 3) ∧
      (∀ address, (pairLed.apply (pairReport "left" 3)).tracks address = true ↔
        address ∈ (pairReport "left" 3).allHosts) ∧
      (pairLed.apply (pairReport "left" 3)).type = .replicaSetWithPrimary := by
  have speaks := primary_speaks_for_set pairOptions pairLed reachable_pairLed
  have leads : pairLed.Leads (pairReport "left" 3) :=
    ⟨by decide +kernel, by decide +kernel, by decide +kernel⟩
  have known : pairLed.server? (pairReport "left" 3).address =
      some (.unknown ⟨"left", 27017⟩) := rfl
  have follows := speaks.2 (pairReport "left" 3) _ known rfl (.inr (by decide +kernel)) leads
  exact ⟨speaks.1 (by decide +kernel), leads, follows.1, follows.2.2 (by decide +kernel)⟩

end Topology

end DocumentDriver
