/-
This file takes the effect of one description apart. The kind of the deployment and the kind of the
server decide which of twelve things happens, and three of those depend further on names and
elections. Whatever happens, a description makes at most the server it is about a primary, and only
if it leads: if it comes from a primary of the set whose election is not over.
-/

import DocumentDriver.Proofs.Topology.Servers

namespace DocumentDriver

namespace ServerType

/-- The server is a member of a replica set, but not its primary, and tells of the other members. -/
def isFollower : ServerType → Bool
  | rsSecondary | rsArbiter | rsOther => true
  | _ => false

theorem ne_rsPrimary_of_isFollower {kind : ServerType} (follower : kind.isFollower = true) :
    kind ≠ .rsPrimary := by
  rintro rfl
  cases follower

end ServerType

namespace Topology

/-! ### What a description can bring about -/

/-- The effect of a description that has been stored, by the kinds of deployment and server. -/
inductive Reaction (topology : Topology) (description : ServerDescription) : Topology → Prop
  | direct (type : topology.type = .single) :
      Reaction topology description (topology.updateSingle description)
  | standalone (type : topology.type = .unknown) (kind : description.type = .standalone) :
      Reaction topology description (topology.updateFromStandalone description)
  | router (type : topology.type = .unknown) (kind : description.type = .mongos) :
      Reaction topology description { topology with type := .sharded }
  | waiting (type : topology.type = .unknown ∨ topology.type = .replicaSetNoPrimary)
      (kind : description.type = .rsGhost ∨ description.type = .unknown) :
      Reaction topology description topology
  | shard (type : topology.type = .sharded)
      (kind : description.type = .mongos ∨ description.type = .unknown) :
      Reaction topology description topology
  | intruder (type : topology.type = .sharded)
      (kind : description.type ≠ .mongos ∧ description.type ≠ .unknown) :
      Reaction topology description (topology.remove description.address)
  | primary (type : topology.type = .unknown ∨ topology.type.isReplicaSet = true)
      (kind : description.type = .rsPrimary) :
      Reaction topology description (topology.updateFromPrimary description)
  | member (type : topology.type = .unknown ∨ topology.type = .replicaSetNoPrimary)
      (kind : description.type.isFollower = true) :
      Reaction topology description
        ({ topology with type := .replicaSetNoPrimary }.updateWithoutPrimary description)
  | stranger (type : topology.type = .replicaSetNoPrimary)
      (kind : description.type = .standalone ∨ description.type = .mongos) :
      Reaction topology description (topology.remove description.address)
  | subject (type : topology.type = .replicaSetWithPrimary)
      (kind : description.type.isFollower = true) :
      Reaction topology description (topology.updateFromMember description)
  | deserter (type : topology.type = .replicaSetWithPrimary)
      (kind : description.type = .standalone ∨ description.type = .mongos) :
      Reaction topology description (topology.remove description.address).refreshPrimary
  | silence (type : topology.type = .replicaSetWithPrimary)
      (kind : description.type = .rsGhost ∨ description.type = .unknown) :
      Reaction topology description topology.refreshPrimary

/-- Every description has one of these effects. -/
theorem reaction (topology : Topology) (description : ServerDescription) :
    Reaction topology description (topology.react description) := by
  -- Beside a primary-less set the row of the table leaves out what changes nothing.
  have member (type : topology.type = .replicaSetNoPrimary)
      (kind : description.type.isFollower = true) :
      Reaction topology description (topology.updateWithoutPrimary description) := by
    have same : ({ topology with type := .replicaSetNoPrimary } : Topology) = topology := by
      rw [← type]
    have joined := Reaction.member (.inr type) kind
    rwa [same] at joined
  unfold react
  split
  · next type => exact .direct type
  · next type kind => exact .standalone type kind
  · next type kind => exact .router type kind
  · next type kind => exact .primary (.inl type) kind
  · next type kind => exact .member (.inl type) (by rw [kind]; rfl)
  · next type kind => exact .member (.inl type) (by rw [kind]; rfl)
  · next type kind => exact .member (.inl type) (by rw [kind]; rfl)
  · next type kind => exact .waiting (.inl type) (.inl kind)
  · next type kind => exact .waiting (.inl type) (.inr kind)
  · next type kind => exact .shard type (.inl kind)
  · next type kind => exact .shard type (.inr kind)
  · next type notRouter notDown => exact .intruder type ⟨notRouter, notDown⟩
  · next type kind => exact .stranger type (.inl kind)
  · next type kind => exact .stranger type (.inr kind)
  · next type kind => exact .primary (.inr (by rw [type]; rfl)) kind
  · next type kind => exact member type (by rw [kind]; rfl)
  · next type kind => exact member type (by rw [kind]; rfl)
  · next type kind => exact member type (by rw [kind]; rfl)
  · next type kind => exact .waiting (.inr type) (.inl kind)
  · next type kind => exact .waiting (.inr type) (.inr kind)
  · next type kind => exact .deserter type (.inl kind)
  · next type kind => exact .deserter type (.inr kind)
  · next type kind => exact .primary (.inr (by rw [type]; rfl)) kind
  · next type kind => exact .subject type (by rw [kind]; rfl)
  · next type kind => exact .subject type (by rw [kind]; rfl)
  · next type kind => exact .subject type (by rw [kind]; rfl)
  · next type kind => exact .silence type (.inl kind)
  · next type kind => exact .silence type (.inr kind)

/-! ### Descriptions that make no primary -/

/-- Every primary afterwards is a primary of before, with the same description. -/
def AddsNoPrimary (topology next : Topology) : Prop :=
  ∀ address server, next.server? address = some server → server.type = .rsPrimary →
    topology.server? address = some server

theorem addsNoPrimary_trans (topology middle next : Topology)
    (first : topology.AddsNoPrimary middle) (second : middle.AddsNoPrimary next) :
    topology.AddsNoPrimary next :=
  fun address server found primary =>
    first address server (second address server found primary) primary

theorem addsNoPrimary_remove (topology : Topology) (removed : ServerAddress) :
    topology.AddsNoPrimary (topology.remove removed) := by
  intro address server found primary
  rw [server?_remove] at found
  split at found
  · cases found
  · exact found

theorem addsNoPrimary_addHosts (topology : Topology) (description : ServerDescription) :
    topology.AddsNoPrimary (topology.addHosts description) := by
  intro address server found primary
  rw [server?_addHosts, Option.or_eq_some_iff] at found
  rcases found with known | ⟨-, added⟩
  · exact known
  · split at added
    · cases added
      cases primary
    · cases added

theorem addsNoPrimary_store (topology : Topology) (description : ServerDescription)
    (other : description.type ≠ .rsPrimary) :
    topology.AddsNoPrimary (topology.store description) := by
  intro address server found primary
  rw [server?_store] at found
  split at found
  · cases found
    exact absurd primary other
  · exact found

/-- What stands under an address does not matter if it is removed. -/
theorem addsNoPrimary_store_remove (topology : Topology) (description : ServerDescription) :
    topology.AddsNoPrimary ((topology.store description).remove description.address) := by
  intro address server found primary
  rw [server?_remove, server?_store] at found
  split at found
  · cases found
  · exact found

/-- What stands under an address does not matter if it is replaced. -/
theorem addsNoPrimary_store_store (topology : Topology) (description : ServerDescription)
    (error : Error) :
    topology.AddsNoPrimary
      ((topology.store description).store (.ofError description.address error)) := by
  intro address server found primary
  rw [server?_store, server?_store, ServerDescription.address_ofError] at found
  split at found
  · cases found
    cases primary
  · exact found

/-! ### Descriptions that lead -/

/-- A description leads if it comes from a primary of the set whose election is not over. -/
def Leads (topology : Topology) (description : ServerDescription) : Prop :=
  description.type = .rsPrimary ∧ topology.acceptsSetName description = true ∧
    topology.isStalePrimary description = false

/-- What is known of a server while another one is primary. -/
def subordinate (topology : Topology) (address : ServerAddress) : ServerDescription :=
  match topology.server? address with
  | some server => if server.type = .rsPrimary then .unknown address else server
  | none => .unknown address

theorem type_subordinate (topology : Topology) (address : ServerAddress) :
    (topology.subordinate address).type ≠ .rsPrimary := by
  unfold subordinate
  split
  · split
    · simp [ServerDescription.unknown]
    · next other => exact other
  · simp [ServerDescription.unknown]

/-- The servers after a primary took the lead are those it lists. It stands among them with its own
description, if it lists itself, and all others are subordinate. -/
theorem server?_updateFromPrimary (topology : Topology) (keyed : topology.Keyed)
    (description : ServerDescription) (leads : topology.Leads description)
    (address : ServerAddress) :
    ((topology.store description).updateFromPrimary description).server? address =
      if address ∈ description.allHosts then
        some (if address = description.address then description
          else topology.subordinate address)
      else none := by
  obtain ⟨-, accepted, current⟩ := leads
  have acceptedStored : (topology.store description).acceptsSetName description = true := accepted
  have currentStored : ((topology.store description).adoptSetName description).isStalePrimary
      description = false := current
  have recordedKeyed : (((topology.store description).adoptSetName description).recordElection
      description).Keyed := keyed_store topology keyed description
  unfold updateFromPrimary
  rw [if_pos acceptedStored]
  dsimp only
  rw [currentStored, if_neg Bool.false_ne_true, server?_refreshPrimary, server?_keepHosts,
    server?_addHosts, server?_demoteOthers _ recordedKeyed, server?_recordElection,
    server?_adoptSetName, server?_store]
  by_cases listed : address ∈ description.allHosts
  · rw [if_pos listed, if_pos listed, if_pos listed]
    by_cases own : address = description.address
    · simp [own]
    · rw [if_neg own, if_neg own]
      unfold subordinate
      cases topology.server? address with
      | none => rfl
      | some server =>
        by_cases primary : server.type = .rsPrimary <;> simp [primary, own]
  · rw [if_neg listed, if_neg listed]

/-- A primary of the set whose election is over is unknown afterwards, and nothing else changes. -/
theorem server?_updateFromPrimary_of_stale (topology : Topology) (description : ServerDescription)
    (accepted : topology.acceptsSetName description = true)
    (stale : topology.isStalePrimary description = true) (address : ServerAddress) :
    ((topology.store description).updateFromPrimary description).server? address =
      if address = description.address then
        some (.ofError description.address
          (Violation.outdatedElection description.address.display).toError)
      else topology.server? address := by
  have acceptedStored : (topology.store description).acceptsSetName description = true := accepted
  have staleStored : ((topology.store description).adoptSetName description).isStalePrimary
      description = true := stale
  unfold updateFromPrimary
  rw [if_pos acceptedStored]
  dsimp only
  rw [if_pos staleStored, server?_refreshPrimary]
  exact server?_store_store topology description (.ofError description.address _) rfl address

/-- A primary of another set is forgotten. -/
theorem server?_updateFromPrimary_of_refused (topology : Topology)
    (description : ServerDescription) (refused : topology.acceptsSetName description = false)
    (address : ServerAddress) :
    ((topology.store description).updateFromPrimary description).server? address =
      if address = description.address then none else topology.server? address := by
  have refusedStored : ¬ (topology.store description).acceptsSetName description = true :=
    Bool.eq_false_iff.1 refused
  unfold updateFromPrimary
  rw [if_neg refusedStored, server?_refreshPrimary, server?_store_remove]

/-! ### What all effects have in common -/

/-- A primary always speaks for its set, where there is one or may be one. -/
theorem react_of_primary (topology : Topology) (description : ServerDescription)
    (type : topology.type = .unknown ∨ topology.type.isReplicaSet = true)
    (kind : description.type = .rsPrimary) :
    topology.react description = topology.updateFromPrimary description := by
  unfold react
  rw [kind]
  cases known : topology.type <;> simp_all [TopologyType.isReplicaSet]

theorem react_of_single (topology : Topology) (description : ServerDescription)
    (type : topology.type = .single) :
    topology.react description = topology.updateSingle description := by
  unfold react
  rw [type]

/-- A member speaks for its set as long as there is no primary, and for itself beside one. -/
theorem react_of_follower (topology : Topology) (description : ServerDescription)
    (kind : description.type.isFollower = true) :
    (topology.type = .replicaSetNoPrimary →
      topology.react description = topology.updateWithoutPrimary description) ∧
      (topology.type = .replicaSetWithPrimary →
        topology.react description = topology.updateFromMember description) := by
  unfold react
  constructor
  · intro type
    rw [type]
    cases told : description.type <;> simp_all [ServerType.isFollower]
  · intro type
    rw [type]
    cases told : description.type <;> simp_all [ServerType.isFollower]

/-- Whatever a primary brings about, the kind of the set is found out anew afterwards. -/
theorem updateFromPrimary_refreshes (topology : Topology) (description : ServerDescription) :
    ∃ before : Topology, topology.updateFromPrimary description = before.refreshPrimary := by
  unfold updateFromPrimary
  split
  · dsimp only
    split <;> exact ⟨_, rfl⟩
  · exact ⟨_, rfl⟩

theorem type_updateFromPrimary (topology : Topology) (description : ServerDescription) :
    (topology.updateFromPrimary description).type = .replicaSetWithPrimary ↔
      ∃ address, (topology.updateFromPrimary description).PrimaryAt address := by
  obtain ⟨before, same⟩ := updateFromPrimary_refreshes topology description
  rw [same]
  exact type_refreshPrimary before

theorem isReplicaSet_updateFromPrimary (topology : Topology) (description : ServerDescription) :
    (topology.updateFromPrimary description).type.isReplicaSet = true := by
  obtain ⟨before, same⟩ := updateFromPrimary_refreshes topology description
  rw [same]
  exact isReplicaSet_refreshPrimary before

theorem type_updateWithoutPrimary (topology : Topology) (description : ServerDescription) :
    (topology.updateWithoutPrimary description).type = topology.type := by
  unfold updateWithoutPrimary
  split
  · dsimp only
    split <;> rfl
  · rfl

theorem type_updateSingle (topology : Topology) (description : ServerDescription) :
    (topology.updateSingle description).type = topology.type := by
  unfold updateSingle
  split <;> rfl

theorem keyed_updateFromPrimary (topology : Topology) (keyed : topology.Keyed)
    (description : ServerDescription) : (topology.updateFromPrimary description).Keyed := by
  unfold updateFromPrimary
  split
  · dsimp only
    split
    · exact keyed_store topology keyed _
    · have demoted := keyed_demoteOthers ((topology.adoptSetName description).recordElection
        description) keyed description.address
      exact keyed_keepHosts _ (keyed_addHosts _ demoted description) description
  · exact keyed_remove topology keyed _

theorem keyed_updateWithoutPrimary (topology : Topology) (keyed : topology.Keyed)
    (description : ServerDescription) : (topology.updateWithoutPrimary description).Keyed := by
  unfold updateWithoutPrimary
  split
  · have grown := keyed_addHosts (topology.adoptSetName description) keyed description
    dsimp only
    split
    · exact keyed_remove _ grown _
    · exact grown
  · exact keyed_remove topology keyed _

/-- Every effect leaves the descriptions under their own addresses. -/
theorem keyed_reaction (topology : Topology) (keyed : topology.Keyed)
    (description : ServerDescription) (next : Topology)
    (effect : Reaction topology description next) : next.Keyed := by
  cases effect with
  | direct =>
    unfold updateSingle
    split
    · exact keyed_store topology keyed _
    · exact keyed
  | standalone =>
    unfold updateFromStandalone
    split
    · exact keyed
    · exact keyed_remove topology keyed _
  | router => exact keyed
  | waiting => exact keyed
  | shard => exact keyed
  | intruder => exact keyed_remove topology keyed _
  | primary => exact keyed_updateFromPrimary topology keyed description
  | member =>
    exact keyed_updateWithoutPrimary { topology with type := .replicaSetNoPrimary } keyed
      description
  | stranger => exact keyed_remove topology keyed _
  | subject =>
    unfold updateFromMember
    dsimp only
    split
    · exact keyed_remove topology keyed _
    · exact keyed
  | deserter => exact keyed_remove topology keyed _
  | silence => exact keyed

/-- In a deployment that is or may become a replica set, a description that does not lead makes no
primary. -/
theorem addsNoPrimary_reaction (topology : Topology) (description : ServerDescription)
    (next : Topology) (type : topology.type = .unknown ∨ topology.type.isReplicaSet = true)
    (follows : ¬ topology.Leads description)
    (effect : Reaction (topology.store description) description next) :
    topology.AddsNoPrimary next := by
  have ofKind (kind : description.type ≠ .rsPrimary) :=
    addsNoPrimary_store topology description kind
  cases effect with
  | direct single =>
    have stored : topology.type = .single := single
    rw [stored] at type
    rcases type with type | type <;> cases type
  | standalone _ kind =>
    unfold updateFromStandalone
    split
    · exact ofKind (by simp [kind])
    · exact addsNoPrimary_store_remove topology description
  | router _ kind => exact ofKind (by simp [kind])
  | waiting _ kind => exact ofKind (by rcases kind with kind | kind <;> simp [kind])
  | shard sharded | intruder sharded =>
    have stored : topology.type = .sharded := sharded
    rw [stored] at type
    rcases type with type | type <;> cases type
  | primary _ kind =>
    unfold updateFromPrimary
    split
    · next accepted =>
      dsimp only
      split
      · exact addsNoPrimary_store_store topology description _
      · next current =>
        exact (follows ⟨kind, accepted, eq_false_of_ne_true current⟩).elim
    · exact addsNoPrimary_store_remove topology description
  | member _ kind =>
    have stored := ofKind (ServerType.ne_rsPrimary_of_isFollower kind)
    unfold updateWithoutPrimary
    split
    · have grown : topology.AddsNoPrimary (((({ topology.store description with
          type := .replicaSetNoPrimary } : Topology).adoptSetName description)).addHosts
          description) :=
        addsNoPrimary_trans _ _ _ stored (addsNoPrimary_addHosts _ description)
      dsimp only
      split
      · exact addsNoPrimary_trans _ _ _ grown (addsNoPrimary_remove _ _)
      · exact grown
    · exact addsNoPrimary_store_remove topology description
  | stranger => exact addsNoPrimary_store_remove topology description
  | subject _ kind =>
    unfold updateFromMember
    dsimp only
    split
    · exact addsNoPrimary_store_remove topology description
    · exact ofKind (ServerType.ne_rsPrimary_of_isFollower kind)
  | deserter => exact addsNoPrimary_store_remove topology description
  | silence _ kind => exact ofKind (by rcases kind with kind | kind <;> simp [kind])

/-- A deployment is a replica set only if it was one or could become one, and its kind is found out
anew unless it had no primary before. -/
theorem type_reaction (topology : Topology) (description : ServerDescription) (next : Topology)
    (effect : Reaction topology description next) (set : next.type.isReplicaSet = true) :
    (topology.type = .unknown ∨ topology.type.isReplicaSet = true) ∧
      ((∃ before : Topology, next = before.refreshPrimary) ∨
        (next.type = .replicaSetNoPrimary ∧
          (topology.type = .unknown ∨ topology.type = .replicaSetNoPrimary))) := by
  have ofType (type : TopologyType) (same : topology.type = type)
      (replicaSet : type.isReplicaSet = true) :
      topology.type = .unknown ∨ topology.type.isReplicaSet = true :=
    .inr (same ▸ replicaSet)
  cases effect with
  | direct type =>
    rw [type_updateSingle, type] at set
    cases set
  | standalone type =>
    unfold updateFromStandalone at set
    split at set
    · cases set
    · have kept : topology.type.isReplicaSet = true := set
      rw [type] at kept
      cases kept
  | router => cases set
  | waiting type =>
    rcases type with type | type
    · rw [type] at set
      cases set
    · exact ⟨ofType _ type rfl, .inr ⟨type, .inr type⟩⟩
  | shard type =>
    rw [type] at set
    cases set
  | intruder type =>
    have kept : topology.type.isReplicaSet = true := set
    rw [type] at kept
    cases kept
  | primary type => exact ⟨type, .inl (updateFromPrimary_refreshes topology description)⟩
  | member type =>
    refine ⟨type.imp id fun none => by rw [none]; rfl, .inr ⟨?_, type⟩⟩
    unfold updateWithoutPrimary
    split
    · dsimp only
      split <;> rfl
    · rfl
  | stranger type => exact ⟨ofType _ type rfl, .inr ⟨type, .inr type⟩⟩
  | subject type => exact ⟨ofType _ type rfl, .inl ⟨_, rfl⟩⟩
  | deserter type => exact ⟨ofType _ type rfl, .inl ⟨_, rfl⟩⟩
  | silence type => exact ⟨ofType _ type rfl, .inl ⟨_, rfl⟩⟩

/-! ### Deployments that are no replica set -/

/-- The effects that leave a deployment other than a replica set. -/
inductive OutsideReaction (topology : Topology) (description : ServerDescription) :
    Topology → Prop
  | direct (type : topology.type = .single) :
      OutsideReaction topology description (topology.updateSingle description)
  | alone (type : topology.type = .unknown) (kind : description.type = .standalone)
      (sole : topology.servers.size = 1) :
      OutsideReaction topology description { topology with type := .single }
  | beside (type : topology.type = .unknown) (kind : description.type = .standalone)
      (crowded : topology.servers.size ≠ 1) :
      OutsideReaction topology description (topology.remove description.address)
  | router (type : topology.type = .unknown) (kind : description.type = .mongos) :
      OutsideReaction topology description { topology with type := .sharded }
  | waiting (type : topology.type = .unknown)
      (kind : description.type = .rsGhost ∨ description.type = .unknown) :
      OutsideReaction topology description topology
  | shard (type : topology.type = .sharded)
      (kind : description.type = .mongos ∨ description.type = .unknown) :
      OutsideReaction topology description topology
  | intruder (type : topology.type = .sharded)
      (kind : description.type ≠ .mongos ∧ description.type ≠ .unknown) :
      OutsideReaction topology description (topology.remove description.address)

theorem outside_reaction (topology : Topology) (description : ServerDescription) (next : Topology)
    (effect : Reaction topology description next) (outside : next.type.isReplicaSet = false) :
    OutsideReaction topology description next := by
  have notSet (set : next.type.isReplicaSet = true) : False := by
    rw [outside] at set
    cases set
  cases effect with
  | direct type => exact .direct type
  | standalone type kind =>
    unfold updateFromStandalone
    split
    · next sole => exact .alone type kind sole
    · next crowded => exact .beside type kind crowded
  | router type kind => exact .router type kind
  | waiting type kind =>
    rcases type with type | type
    · exact .waiting type kind
    · exact (notSet (by rw [type]; rfl)).elim
  | shard type kind => exact .shard type kind
  | intruder type kind => exact .intruder type kind
  | primary => exact (notSet (isReplicaSet_updateFromPrimary topology description)).elim
  | member => exact (notSet (by rw [type_updateWithoutPrimary]; rfl)).elim
  | stranger type => exact (notSet (congrArg TopologyType.isReplicaSet type)).elim
  | subject => exact (notSet (isReplicaSet_refreshPrimary _)).elim
  | deserter => exact (notSet (isReplicaSet_refreshPrimary _)).elim
  | silence => exact (notSet (isReplicaSet_refreshPrimary _)).elim

/-- The kind of a deployment stays open only if it was open, and if the server does not tell of its
part or is forgotten. -/
theorem undecided_reaction (topology : Topology) (description : ServerDescription)
    (next : Topology) (effect : Reaction topology description next)
    (stillOpen : next.type = .unknown) :
    topology.type = .unknown ∧
      ((description.type = .rsGhost ∨ description.type = .unknown) ∧ next = topology ∨
        next = topology.remove description.address) := by
  have otherwise (kind : TopologyType) (known : kind ≠ .unknown) (same : next.type = kind) :
      False := known (same.symm.trans stillOpen)
  cases outside_reaction topology description next effect (by rw [stillOpen]; rfl) with
  | direct type => exact (otherwise .single (by decide) ((type_updateSingle _ _).trans type)).elim
  | alone | router => cases stillOpen
  | beside type => exact ⟨type, .inr rfl⟩
  | waiting type kind => exact ⟨type, .inl ⟨kind, rfl⟩⟩
  | shard type | intruder type => exact (otherwise .sharded (by decide) type).elim

/-- The servers of a deployment whose kind stays open have not told of their part. -/
theorem open_reaction (topology : Topology) (description : ServerDescription) (next : Topology)
    (effect : Reaction (topology.store description) description next)
    (stillOpen : next.type = .unknown) :
    topology.type = .unknown ∧ ∀ address server, next.server? address = some server →
      server.type = .rsGhost ∨ server.type = .unknown ∨
        topology.server? address = some server := by
  obtain ⟨type, ⟨silent, rfl⟩ | rfl⟩ := undecided_reaction _ description next effect stillOpen
  · refine ⟨type, fun address server found => ?_⟩
    rw [server?_store] at found
    split at found
    · cases found
      exact silent.imp id .inl
    · exact .inr (.inr found)
  · refine ⟨type, fun address server found => .inr (.inr ?_)⟩
    rw [server?_store_remove] at found
    split at found
    · cases found
    · exact found

/-- A deployment is a single server only if it was one, or if a standalone server was all that was
tracked of a deployment of open kind. -/
theorem single_reaction (topology : Topology) (description : ServerDescription) (next : Topology)
    (effect : Reaction topology description next) (single : next.type = .single) :
    topology.type = .single ∧ next = topology.updateSingle description ∨
      topology.type = .unknown ∧ topology.servers.size = 1 ∧
        next = { topology with type := .single } := by
  have otherwise (kind : TopologyType) (other : kind ≠ .single) (same : next.type = kind) :
      False := other (same.symm.trans single)
  cases outside_reaction topology description next effect (by rw [single]; rfl) with
  | direct type => exact .inl ⟨type, rfl⟩
  | alone type _ sole => exact .inr ⟨type, sole, rfl⟩
  | router => cases single
  | beside type | waiting type => exact (otherwise .unknown (by decide) type).elim
  | shard type | intruder type => exact (otherwise .sharded (by decide) type).elim

/-- A deployment is sharded only if it was, or if a router told of it. -/
theorem sharded_reaction (topology : Topology) (description : ServerDescription) (next : Topology)
    (effect : Reaction topology description next) (sharded : next.type = .sharded) :
    topology.type = .unknown ∧ description.type = .mongos ∧
        next = { topology with type := .sharded } ∨
      topology.type = .sharded ∧
        ((description.type = .mongos ∨ description.type = .unknown) ∧ next = topology ∨
          next = topology.remove description.address) := by
  have otherwise (kind : TopologyType) (other : kind ≠ .sharded) (same : next.type = kind) :
      False := other (same.symm.trans sharded)
  cases outside_reaction topology description next effect (by rw [sharded]; rfl) with
  | direct type => exact (otherwise .single (by decide) ((type_updateSingle _ _).trans type)).elim
  | alone => cases sharded
  | router type kind => exact .inl ⟨type, kind, rfl⟩
  | beside type | waiting type => exact (otherwise .unknown (by decide) type).elim
  | shard type kind => exact .inr ⟨type, .inl ⟨kind, rfl⟩⟩
  | intruder type => exact .inr ⟨type, .inr rfl⟩

end Topology

end DocumentDriver
