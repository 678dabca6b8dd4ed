/-
This file proves that competing primaries resolve the same in any order. A primary of an older
election is refused if it comes late and demoted if it came early. Either way the picture depends
only on the strongest of the claims: the primary is the server that made it, its election is
recorded, and nothing is known of the other members.
-/

import DocumentDriver.Proofs.Topology.Election
import DocumentDriver.Proofs.Topology.SetName

namespace DocumentDriver

/-- The server claims to be the primary of a set with the given name and members, itself among
them, and compares identifiers of elections first. -/
structure ServerDescription.Claims (description : ServerDescription) (name : String)
    (members : Set ServerAddress) : Prop where
  kind : description.type = .rsPrimary
  first : electionFirstWireVersion ≤ description.maxWireVersion
  named : description.setName = some name
  lists : ∀ address, address ∈ description.allHosts ↔ address ∈ members
  own : description.address ∈ members

namespace Topology

variable {name : String} {members : Set ServerAddress}

/-- Nothing is known of a server unless it is a primary. -/
def KnowsPrimariesOnly (topology : Topology) : Prop :=
  ∀ address server, topology.server? address = some server → server.type = .rsPrimary ∨
    server.type = .unknown ∧ server.topologyVersion = none

/-- The name of the set is open, or it is the given one. -/
def MayBeNamed (topology : Topology) (name : String) : Prop :=
  topology.setName = none ∨ topology.setName = some name

/-- One of the members leads: it is tracked with its own description, its election is recorded, and
nothing is known of the other members, beside which no server is tracked. -/
structure LedBy (topology : Topology) (name : String) (members : Set ServerAddress)
    (leader : ServerDescription) : Prop where
  keyed : topology.Keyed
  type : topology.type = .replicaSetWithPrimary
  named : topology.MayBeNamed name
  election : topology.election = leader.election
  leads : topology.server? leader.address = some leader
  others : ∀ address ∈ members, address ≠ leader.address → ∃ server,
    topology.server? address = some server ∧ server.type = .unknown ∧
      server.topologyVersion = none
  outside : ∀ address, address ∉ members → topology.server? address = none

/-! ### One claim -/

theorem acceptsSetName_of_mayBeNamed (topology : Topology) (named : topology.MayBeNamed name)
    (description : ServerDescription) (told : description.setName = some name) :
    topology.acceptsSetName description = true :=
  (acceptsSetName_iff topology description).2 (named.imp id fun same => same.trans told.symm)

theorem mayBeNamed_updateFromPrimary (topology : Topology) (named : topology.MayBeNamed name)
    (description : ServerDescription) (told : description.setName = some name) :
    (topology.updateFromPrimary description).MayBeNamed name := by
  have accepted := acceptsSetName_of_mayBeNamed topology named description told
  refine .inr ?_
  rw [setName_updateFromPrimary, adoptedName_of_accepted topology description accepted, told]

theorem knowsPrimariesOnly_of_ledBy {topology : Topology} {leader : ServerDescription}
    (led : topology.LedBy name members leader) (claims : leader.Claims name members) :
    topology.KnowsPrimariesOnly := by
  intro address server found
  by_cases own : address = leader.address
  · rw [own, led.leads] at found
    cases found
    exact .inl claims.kind
  · by_cases member : address ∈ members
    · obtain ⟨other, known, unknown⟩ := led.others address member own
      rw [known] at found
      cases found
      exact .inr unknown
    · rw [led.outside address member] at found
      cases found

theorem unknown_subordinate (topology : Topology) (quiet : topology.KnowsPrimariesOnly)
    (address : ServerAddress) : (topology.subordinate address).type = .unknown ∧
      (topology.subordinate address).topologyVersion = none := by
  unfold subordinate
  cases found : topology.server? address with
  | none => exact ⟨rfl, rfl⟩
  | some server =>
    dsimp only
    split
    · exact ⟨rfl, rfl⟩
    · next other => exact (quiet address server found).resolve_left other

/-- Among primaries of which nothing else is known, a claim that is not over takes the lead. -/
theorem ledBy_of_leads (topology : Topology) (keyed : topology.Keyed)
    (quiet : topology.KnowsPrimariesOnly) (named : topology.MayBeNamed name)
    (description : ServerDescription) (claims : description.Claims name members)
    (leads : topology.Leads description) :
    (((topology.store description).updateFromPrimary description).refresh).LedBy name members
      description := by
  have after := server?_updateFromPrimary topology keyed description leads
  have own : ((topology.store description).updateFromPrimary description).server?
      description.address = some description := by
    rw [after, if_pos ((claims.lists _).2 claims.own), if_pos rfl]
  refine ⟨?_, ?_, ?_, ?_, own, ?_, ?_⟩
  · exact keyed_updateFromPrimary _ (keyed_store topology keyed description) description
  · exact (type_updateFromPrimary _ description).2
      ⟨description.address, description, own, claims.kind⟩
  · exact mayBeNamed_updateFromPrimary (topology.store description) named description claims.named
  · have first := (comparesElectionFirst_iff description).2 claims.first
    exact (election_updateFromPrimary_of_leads (topology.store description) description leads).trans
      (election_recordElection _ description first)
  · intro address member distinct
    exact ⟨topology.subordinate address,
      (after address).trans (by rw [if_pos ((claims.lists address).2 member), if_neg distinct]),
      unknown_subordinate topology quiet address⟩
  · intro address absent
    exact (after address).trans (if_neg (mt (claims.lists address).1 absent))

/-- Beside a leader, a claim of an older election leaves its server unknown and the lead where it
is. -/
theorem ledBy_of_stale (topology : Topology) (leader : ServerDescription)
    (led : topology.LedBy name members leader) (leaderClaims : leader.Claims name members)
    (description : ServerDescription) (claims : description.Claims name members)
    (distinct : leader.address ≠ description.address)
    (older : description.election.rank < leader.election.rank) :
    (((topology.store description).updateFromPrimary description).refresh).LedBy name members
      leader := by
  have accepted := acceptsSetName_of_mayBeNamed topology led.named description claims.named
  have stale : topology.isStalePrimary description = true :=
    (isStalePrimary_iff topology description ((comparesElectionFirst_iff _).2 claims.first)).2
      (led.election.symm ▸ older)
  have after := server?_updateFromPrimary_of_stale topology description accepted stale
  have kept : ((topology.store description).updateFromPrimary description).server?
      leader.address = some leader :=
    (after leader.address).trans ((if_neg distinct).trans led.leads)
  refine ⟨?_, ?_, ?_, ?_, kept, ?_, ?_⟩
  · exact keyed_updateFromPrimary _ (keyed_store topology led.keyed description) description
  · exact (type_updateFromPrimary _ description).2
      ⟨leader.address, leader, kept, leaderClaims.kind⟩
  · exact mayBeNamed_updateFromPrimary (topology.store description) led.named description
      claims.named
  · have follows : ¬ topology.Leads description := fun leads =>
      Bool.false_ne_true (leads.2.2.symm.trans stale)
    exact (election_updateFromPrimary_of_follows (topology.store description) description
      claims.kind follows).trans led.election
  · intro address member other
    by_cases own : address = description.address
    · exact ⟨_, (after address).trans (if_pos own), rfl, rfl⟩
    · obtain ⟨server, known, unknown⟩ := led.others address member other
      exact ⟨server, (after address).trans ((if_neg own).trans known), unknown⟩
  · intro address absent
    have apart : address ≠ description.address := fun same => absent (same ▸ claims.own)
    exact (after address).trans ((if_neg apart).trans (led.outside address absent))

/-- A claim from a server of which nothing is known is not ignored. -/
theorem apply_of_claim (topology : Topology)
    (type : topology.type = .unknown ∨ topology.type.isReplicaSet = true)
    (description current : ServerDescription) (claims : description.Claims name members)
    (found : topology.server? description.address = some current)
    (unversioned : current.topologyVersion = none) :
    topology.apply description =
      ((topology.store description).updateFromPrimary description).refresh := by
  rw [apply_of_tracked topology description current found
      (isOutdated_of_unversioned current description unversioned),
    react_of_primary (topology.store description) description type claims.kind]

/-! ### All claims -/

/-- The first claim is not older than no election at all, so it takes the lead. -/
theorem ledBy_first (options : ClientOptions) (indirect : options.directConnection ≠ some true)
    (named : options.replicaSet = none ∨ options.replicaSet = some name)
    (description : ServerDescription) (claims : description.Claims name members)
    (seed : description.address ∈ options.hosts) :
    ((initial options).apply description).LedBy name members description := by
  have quiet : (initial options).KnowsPrimariesOnly := by
    intro address server known
    rw [eq_unknown_of_initial options address server known]
    exact .inr ⟨rfl, rfl⟩
  have type : (initial options).type = .unknown ∨ (initial options).type.isReplicaSet = true := by
    rcases type_initial_cases options with ⟨direct, -⟩ | ⟨-, ⟨-, type⟩ | ⟨-, type⟩⟩
    · exact absurd direct indirect
    · exact .inr (by rw [type]; rfl)
    · exact .inl type
  have current : (initial options).isStalePrimary description = false := by
    refine Bool.eq_false_iff.2 fun stale => ?_
    have first := (comparesElectionFirst_iff description).2 claims.first
    have older := (isStalePrimary_iff (initial options) description first).1 stale
    exact absurd older (not_lt.2 (Prod.Lex.toLex_mono ⟨bot_le, bot_le⟩))
  rw [apply_of_claim (initial options) type description (.unknown description.address) claims
    ((server?_initial options _).trans (if_pos seed)) rfl]
  exact ledBy_of_leads (initial options) (keyed_initial options) quiet named description claims
    ⟨claims.kind, acceptsSetName_of_mayBeNamed (initial options) named description claims.named,
      current⟩

/-- Of the leader and a rival whose claim comes after it, the stronger one leads. -/
theorem ledBy_apply (topology : Topology) (leader : ServerDescription)
    (led : topology.LedBy name members leader) (leaderClaims : leader.Claims name members)
    (rival : ServerDescription) (claims : rival.Claims name members)
    (apart : leader.address ≠ rival.address) :
    rival.election.rank < leader.election.rank ∧
        (topology.apply rival).LedBy name members leader ∨
      leader.election.rank ≤ rival.election.rank ∧
        (topology.apply rival).LedBy name members rival := by
  obtain ⟨current, found, -, unversioned⟩ := led.others rival.address claims.own (Ne.symm apart)
  have set : topology.type.isReplicaSet = true := by
    rw [led.type]
    rfl
  rw [apply_of_claim topology (.inr set) rival current claims found unversioned]
  rcases lt_or_ge rival.election.rank leader.election.rank with older | newer
  · exact .inl ⟨older, ledBy_of_stale topology leader led leaderClaims rival claims apart older⟩
  · refine .inr ⟨newer, ledBy_of_leads topology led.keyed
      (knowsPrimariesOnly_of_ledBy led leaderClaims) led.named rival claims ⟨claims.kind,
        acceptsSetName_of_mayBeNamed topology led.named rival claims.named, ?_⟩⟩
    refine Bool.eq_false_iff.2 fun stale => not_lt.2 newer ?_
    rw [← led.election]
    exact (isStalePrimary_iff topology rival ((comparesElectionFirst_iff rival).2 claims.first)).1
      stale

/-- After further claims from other members, a strongest one leads. -/
theorem exists_ledBy_applyAll (topology : Topology) (leader : ServerDescription)
    (led : topology.LedBy name members leader) (leaderClaims : leader.Claims name members)
    (rivals : List ServerDescription) (claims : ∀ rival ∈ rivals, rival.Claims name members)
    (distinct : ((leader :: rivals).map (·.address)).Nodup) :
    ∃ winner ∈ leader :: rivals,
      (∀ other ∈ leader :: rivals, other.election.rank ≤ winner.election.rank) ∧
      (topology.applyAll rivals).LedBy name members winner := by
  induction rivals generalizing topology leader with
  | nil =>
    refine ⟨leader, List.mem_singleton_self leader, fun other member => ?_, led⟩
    rw [List.mem_singleton.1 member]
  | cons rival rest inductionHypothesis =>
    have rivalClaims := claims rival List.mem_cons_self
    have restClaims (other : ServerDescription) (member : other ∈ rest) :=
      claims other (List.mem_cons_of_mem _ member)
    obtain ⟨leaderApart, restDistinct⟩ := List.nodup_cons.1 distinct
    have apart : leader.address ≠ rival.address := fun same =>
      leaderApart (List.mem_map.2 ⟨rival, List.mem_cons_self, same.symm⟩)
    -- The induction goes on with whoever leads. The other one is not stronger, so that whoever is
    -- at least as strong as the one is so as the other.
    rcases ledBy_apply topology leader led leaderClaims rival rivalClaims apart with
      ⟨older, still⟩ | ⟨newer, changed⟩
    · obtain ⟨winner, member, strongest, wins⟩ := inductionHypothesis (topology.apply rival) leader
        still leaderClaims restClaims
        (List.nodup_cons.2 ⟨fun member => leaderApart (List.mem_cons_of_mem _ member),
          (List.nodup_cons.1 restDistinct).2⟩)
      refine ⟨winner, ?_, ?_, wins⟩
      · exact (List.mem_cons.1 member).elim (fun same => same ▸ List.mem_cons_self)
          fun later => List.mem_cons_of_mem _ (List.mem_cons_of_mem _ later)
      · intro other among
        rcases List.mem_cons.1 among with rfl | among
        · exact strongest other List.mem_cons_self
        · rcases List.mem_cons.1 among with rfl | later
          · exact older.le.trans (strongest leader List.mem_cons_self)
          · exact strongest other (List.mem_cons_of_mem _ later)
    · obtain ⟨winner, member, strongest, wins⟩ := inductionHypothesis (topology.apply rival) rival
        changed rivalClaims restClaims restDistinct
      refine ⟨winner, List.mem_cons_of_mem _ member, fun other among => ?_, wins⟩
      rcases List.mem_cons.1 among with rfl | later
      · exact newer.trans (strongest rival List.mem_cons_self)
      · exact strongest other later

theorem primary?_of_ledBy {topology : Topology} {leader : ServerDescription}
    (led : topology.LedBy name members leader) (claims : leader.Claims name members) :
    topology.primary? = some leader := by
  obtain ⟨first, same⟩ := Option.isSome_iff_exists.1 ((primary?_isSome_iff topology).2
    ⟨leader.address, leader, led.leads, claims.kind⟩)
  obtain ⟨found, primary⟩ := server?_of_primary? topology led.keyed first same
  by_cases own : first.address = leader.address
  · rw [own, led.leads] at found
    rw [same, found]
  · by_cases member : first.address ∈ members
    · obtain ⟨other, known, unknown, -⟩ := led.others first.address member own
      rw [known] at found
      cases found
      rw [unknown] at primary
      cases primary
    · rw [led.outside first.address member] at found
      cases found

theorem tracks_of_ledBy {topology : Topology} {leader : ServerDescription}
    (led : topology.LedBy name members leader) (address : ServerAddress) :
    topology.tracks address = true ↔ address ∈ members := by
  rw [tracks_iff]
  constructor
  · rintro ⟨server, found⟩
    by_contra absent
    rw [led.outside address absent] at found
    cases found
  · intro member
    by_cases own : address = leader.address
    · exact ⟨leader, own ▸ led.leads⟩
    · obtain ⟨server, found, -⟩ := led.others address member own
      exact ⟨server, found⟩

/-- Whatever the order of the claims, a strongest one leads in the end. -/
theorem exists_ledBy_of_claims (options : ClientOptions)
    (indirect : options.directConnection ≠ some true)
    (named : options.replicaSet = none ∨ options.replicaSet = some name)
    (order : List ServerDescription) (nonempty : order ≠ [])
    (claims : ∀ claimant ∈ order, claimant.Claims name members)
    (seeds : ∀ claimant ∈ order, claimant.address ∈ options.hosts)
    (addresses : (order.map (·.address)).Nodup) :
    ∃ winner ∈ order, (∀ other ∈ order, other.election.rank ≤ winner.election.rank) ∧
      ((initial options).applyAll order).LedBy name members winner := by
  cases order with
  | nil => exact absurd rfl nonempty
  | cons first rest =>
    have firstClaims := claims first List.mem_cons_self
    exact exists_ledBy_applyAll ((initial options).apply first) first
      (ledBy_first options indirect named first firstClaims (seeds first List.mem_cons_self))
      firstClaims rest (fun rival member => claims rival (List.mem_cons_of_mem _ member)) addresses

/-- Competing primaries resolve the same in any order. If the servers of some seeds claim to be
primary of one set with the same members, each in an election of its own, then in whatever order
the claims are applied, the strongest one wins: its server is the primary, its election is
recorded, exactly the members are tracked, and nothing is known of the others. -/
theorem strongest_claim_wins (options : ClientOptions) (start : Topology)
    (started : ofOptions options = .ok start) (indirect : options.directConnection ≠ some true)
    (name : String) (named : options.replicaSet = none ∨ options.replicaSet = some name)
    (members : Set ServerAddress) (claimants : List ServerDescription) (nonempty : claimants ≠ [])
    (claims : ∀ claimant ∈ claimants, claimant.Claims name members)
    (seeds : ∀ claimant ∈ claimants, claimant.address ∈ options.hosts)
    (addresses : (claimants.map (·.address)).Nodup)
    (elections : (claimants.map (·.election)).Nodup) :
    ∃ winner ∈ claimants,
      (∀ other ∈ claimants, other.election.rank ≤ winner.election.rank) ∧
      ∀ order settled, order.Perm claimants → start.applyAll order = settled →
        settled.type = .replicaSetWithPrimary ∧
        (∀ address, settled.tracks address = true ↔ address ∈ members) ∧
        settled.primary? = some winner ∧
        (∀ address ∈ members, address ≠ winner.address → ∃ server,
          settled.server? address = some server ∧ server.type = .unknown) ∧
        settled.election = winner.election := by
  obtain ⟨-, rfl⟩ := (ofOptions_eq_ok_iff options start).1 started
  obtain ⟨winner, member, strongest, -⟩ :=
    exists_ledBy_of_claims options indirect named claimants nonempty claims seeds addresses
  refine ⟨winner, member, strongest, ?_⟩
  rintro order settled permuted rfl
  obtain ⟨leader, among, above, led⟩ := exists_ledBy_of_claims options indirect named order
    (fun none => nonempty (List.nil_perm.1 (none ▸ permuted)))
    (fun claimant found => claims claimant (permuted.mem_iff.1 found))
    (fun claimant found => seeds claimant (permuted.mem_iff.1 found))
    ((permuted.map _).nodup_iff.2 addresses)
  have listed : leader ∈ claimants := permuted.mem_iff.1 among
  -- No two claims are of the same election, so the strongest one is the same in every order.
  have equal : leader.election = winner.election := Election.rank_injective
    (le_antisymm (strongest leader listed) (above winner (permuted.mem_iff.2 member)))
  have same : leader = winner := List.inj_on_of_nodup_map elections listed member equal
  rw [same] at led
  exact ⟨led.type, tracks_of_ledBy led, primary?_of_ledBy led (claims winner member),
    fun address other distinct => (led.others address other distinct).imp fun _ known =>
      ⟨known.1, known.2.1⟩, led.election⟩

/-- The two servers of the pair claim to be primary, the second one of a later election. -/
def pairClaims : List ServerDescription := [pairClaim "left" 2 1 17, pairClaim "right" 3 0 17]

theorem claims_of_mem_pairClaims (claimant : ServerDescription) (member : claimant ∈ pairClaims) :
    claimant.Claims "pair" {address | address ∈ pairOptions.hosts} := by
  have all : ∀ claimant ∈ pairClaims, claimant.type = .rsPrimary ∧
      electionFirstWireVersion ≤ claimant.maxWireVersion ∧ claimant.setName = some "pair" ∧
      claimant.allHosts = pairOptions.hosts ∧ claimant.address ∈ pairOptions.hosts := by
    decide +kernel
  obtain ⟨kind, first, named, lists, own⟩ := all claimant member
  exact ⟨kind, first, named, fun address => lists ▸ Iff.rfl, own⟩

theorem strongest_claim_wins_pair :
    (∀ claimant ∈ pairClaims, claimant.Claims "pair" {address | address ∈ pairOptions.hosts}) ∧
      ∀ order, order.Perm pairClaims →
        ((initial pairOptions).applyAll order).primary? = some (pairClaim "right" 3 0 17) := by
  refine ⟨claims_of_mem_pairClaims, fun order permuted => ?_⟩
  obtain ⟨winner, member, strongest, settles⟩ := strongest_claim_wins pairOptions _ rfl
    (by decide) "pair" (.inl rfl) {address | address ∈ pairOptions.hosts} pairClaims
    (by decide +kernel) claims_of_mem_pairClaims (by decide +kernel) (by decide +kernel)
    (by decide +kernel)
  have wins := (settles order _ permuted rfl).2.2.1
  simp only [pairClaims, List.mem_cons, List.not_mem_nil, or_false] at member
  rcases member with rfl | rfl
  · have older : (pairClaim "left" 2 1 17).election.rank <
        (pairClaim "right" 3 0 17).election.rank :=
      (Election.isOlder_iff_rank_lt _ _).1 (by decide +kernel)
    exact absurd older (not_lt.2 (strongest (pairClaim "right" 3 0 17) (by simp [pairClaims])))
  · exact wins

end Topology

end DocumentDriver
