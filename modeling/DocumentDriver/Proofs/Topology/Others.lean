/-
This file proves what a description may do to other servers than its own. Two sorts of descriptions
touch others at all. A primary that leads speaks for the whole set: servers it does not list are
forgotten, servers that are new join, and another primary is unknown from then on. As long as there is
no primary, a member of the set brings in the servers it lists. Every other description leaves all
servers but its own as they were.
-/

import DocumentDriver.Proofs.Topology.Repetition
import DocumentDriver.Proofs.Topology.Replay

namespace DocumentDriver

namespace Topology

/-! ### Descriptions that touch others -/

/-- A description speaks for the whole set. It is heard, the deployment is a replica set or may become
one, and it comes from a primary with the name of the set whose election is not over. -/
structure SpeaksForAll (topology : Topology) (description : ServerDescription) : Prop where
  heard : topology.Hears description
  type : topology.type = .unknown ∨ topology.type.isReplicaSet = true
  leads : topology.Leads description

/-- A description brings in others. It is heard, the deployment has no primary, and it comes from
another member with the name of the set. -/
structure BringsIn (topology : Topology) (description : ServerDescription) : Prop where
  heard : topology.Hears description
  type : topology.type = .unknown ∨ topology.type = .replicaSetNoPrimary
  kind : description.type.isFollower = true
  named : topology.acceptsSetName description = true

theorem react_of_unled (topology : Topology) (description : ServerDescription)
    (type : topology.type = .unknown ∨ topology.type = .replicaSetNoPrimary)
    (kind : description.type.isFollower = true) :
    topology.react description =
      { topology with type := .replicaSetNoPrimary }.updateWithoutPrimary description := by
  rcases type with type | type
  · unfold react
    rw [type]
    cases told : description.type <;> simp_all [ServerType.isFollower]
  · have same : ({ topology with type := .replicaSetNoPrimary } : Topology) = topology := by
      rw [← type]
    rw [same]
    exact (react_of_follower topology description kind).1 type

/-- A member brings in what it lists, and at most itself is forgotten. -/
theorem server?_updateWithoutPrimary_other (topology : Topology) (description : ServerDescription)
    (named : topology.acceptsSetName description = true) (address : ServerAddress)
    (other : address ≠ description.address) :
    (topology.updateWithoutPrimary description).server? address =
      (topology.server? address).or
        (if address ∈ description.allHosts then some (.unknown address) else none) := by
  have grown := server?_addHosts (topology.adoptSetName description) description address
  unfold updateWithoutPrimary
  rw [if_pos named]
  dsimp only
  split
  · rw [server?_remove, if_neg other, grown, server?_adoptSetName]
  · rw [grown, server?_adoptSetName]

/-! ### What becomes of another server -/

theorem server?_store_other (topology : Topology) (description : ServerDescription)
    {address : ServerAddress} (other : address ≠ description.address) :
    (topology.store description).server? address = topology.server? address := by
  rw [server?_store, if_neg other]

theorem server?_apply_of_speaksForAll (topology : Topology) (keyed : topology.Keyed)
    (description : ServerDescription) (speaks : topology.SpeaksForAll description)
    (address : ServerAddress) (other : address ≠ description.address) :
    (topology.apply description).server? address =
      if address ∈ description.allHosts then some (topology.subordinate address) else none := by
  have reacts := react_of_primary (topology.store description) description speaks.type
    speaks.leads.1
  rw [apply_of_hears topology description speaks.heard, server?_refresh, reacts,
    server?_updateFromPrimary topology keyed description speaks.leads, if_neg other]

theorem server?_apply_of_bringsIn (topology : Topology) (description : ServerDescription)
    (brings : topology.BringsIn description) (address : ServerAddress)
    (other : address ≠ description.address) :
    (topology.apply description).server? address =
      (topology.server? address).or
        (if address ∈ description.allHosts then some (.unknown address) else none) := by
  have reacts := react_of_unled (topology.store description) description brings.type brings.kind
  have named : ({ topology.store description with
      type := .replicaSetNoPrimary } : Topology).acceptsSetName description = true := brings.named
  rw [apply_of_hears topology description brings.heard, server?_refresh, reacts,
    server?_updateWithoutPrimary_other _ description named address other, server?_withType,
    server?_store_other topology description other]

/-- An effect that neither speaks for the set nor brings in others stays with its own server. -/
theorem server?_reaction_other (topology : Topology) (description : ServerDescription)
    (next : Topology) (effect : Reaction (topology.store description) description next)
    (silent : topology.type = .unknown ∨ topology.type.isReplicaSet = true →
      ¬ topology.Leads description)
    (alone : topology.type = .unknown ∨ topology.type = .replicaSetNoPrimary →
      description.type.isFollower = true → topology.acceptsSetName description = false)
    (address : ServerAddress) (other : address ≠ description.address) :
    next.server? address = topology.server? address := by
  have stored := server?_store_other topology description other
  have removed : ((topology.store description).remove description.address).server? address =
      topology.server? address := by
    rw [server?_store_remove, if_neg other]
  cases effect with
  | direct =>
    unfold updateSingle
    split
    · exact (server?_store_other (topology.store description)
        (.ofError description.address _) other).trans stored
    · exact stored
  | standalone =>
    unfold updateFromStandalone
    split
    · exact stored
    · exact removed
  | router | waiting | shard | silence => exact stored
  | intruder | stranger | deserter => exact removed
  | primary type kind =>
    cases accepted : topology.acceptsSetName description with
    | false =>
      rw [server?_updateFromPrimary_of_refused topology description accepted, if_neg other]
    | true =>
      cases stale : topology.isStalePrimary description with
      | true =>
        rw [server?_updateFromPrimary_of_stale topology description accepted stale, if_neg other]
      | false => exact absurd ⟨kind, accepted, stale⟩ (silent type)
  | member type kind =>
    have refused : ¬ ({ topology.store description with
        type := .replicaSetNoPrimary } : Topology).acceptsSetName description = true :=
      Bool.eq_false_iff.1 (alone type kind)
    unfold updateWithoutPrimary
    rw [if_neg refused]
    exact removed
  | subject =>
    unfold updateFromMember
    dsimp only
    split
    · exact removed
    · exact stored

theorem server?_apply_other (topology : Topology) (description : ServerDescription)
    (silent : ¬ topology.SpeaksForAll description) (alone : ¬ topology.BringsIn description)
    (address : ServerAddress) (other : address ≠ description.address) :
    (topology.apply description).server? address = topology.server? address := by
  by_cases heard : topology.Hears description
  · rw [apply_of_hears topology description heard, server?_refresh]
    refine server?_reaction_other topology description _ (reaction _ _) ?_ ?_ address other
    · exact fun type leads => silent ⟨heard, type, leads⟩
    · exact fun type kind => Bool.eq_false_iff.2 fun named => alone ⟨heard, type, kind, named⟩
  · rw [apply_of_not_hears topology description heard]

/-- A server joins exactly if it is listed by whoever speaks for all or brings in others. -/
theorem server?_apply_of_untracked (topology : Topology) (keyed : topology.Keyed)
    (description : ServerDescription) (address : ServerAddress)
    (other : address ≠ description.address) (absent : topology.server? address = none)
    (server : ServerDescription) :
    (topology.apply description).server? address = some server ↔
      server = .unknown address ∧ address ∈ description.allHosts ∧
        (topology.SpeaksForAll description ∨ topology.BringsIn description) := by
  have unchecked : topology.subordinate address = .unknown address := by
    unfold subordinate
    rw [absent]
  by_cases speaks : topology.SpeaksForAll description
  · rw [server?_apply_of_speaksForAll topology keyed description speaks address other, unchecked]
    by_cases listed : address ∈ description.allHosts <;> simp [listed, speaks, eq_comm]
  · by_cases brings : topology.BringsIn description
    · rw [server?_apply_of_bringsIn topology description brings address other, absent]
      by_cases listed : address ∈ description.allHosts <;> simp [listed, brings, eq_comm]
    · rw [server?_apply_other topology description speaks brings address other, absent]
      simp [speaks, brings]

/-- A server is forgotten exactly if whoever speaks for all does not list it. -/
theorem server?_apply_eq_none_iff (topology : Topology) (keyed : topology.Keyed)
    (description : ServerDescription) (address : ServerAddress)
    (other : address ≠ description.address) (server : ServerDescription)
    (known : topology.server? address = some server) :
    (topology.apply description).server? address = none ↔
      topology.SpeaksForAll description ∧ address ∉ description.allHosts := by
  by_cases speaks : topology.SpeaksForAll description
  · rw [server?_apply_of_speaksForAll topology keyed description speaks address other]
    by_cases listed : address ∈ description.allHosts <;> simp [listed, speaks]
  · by_cases brings : topology.BringsIn description
    · rw [server?_apply_of_bringsIn topology description brings address other, known]
      simp [speaks]
    · rw [server?_apply_other topology description speaks brings address other, known]
      simp [speaks]

/-- A server is described anew exactly if it was the primary, and the new one lists it. -/
theorem server?_apply_eq_some_iff (topology : Topology) (keyed : topology.Keyed)
    (description : ServerDescription) (address : ServerAddress)
    (other : address ≠ description.address) (server : ServerDescription)
    (known : topology.server? address = some server) (next : ServerDescription)
    (differs : next ≠ server) :
    (topology.apply description).server? address = some next ↔
      next = .unknown address ∧ server.type = .rsPrimary ∧ topology.SpeaksForAll description ∧
        address ∈ description.allHosts := by
  by_cases speaks : topology.SpeaksForAll description
  · rw [server?_apply_of_speaksForAll topology keyed description speaks address other]
    have below : topology.subordinate address =
        if server.type = .rsPrimary then .unknown address else server := by
      unfold subordinate
      rw [known]
    rw [below]
    by_cases listed : address ∈ description.allHosts
    · by_cases led : server.type = .rsPrimary
      · simp [listed, speaks, led, eq_comm]
      · simp [listed, led, differs.symm]
    · simp [listed]
  · have same : (topology.apply description).server? address = some server := by
      by_cases brings : topology.BringsIn description
      · rw [server?_apply_of_bringsIn topology description brings address other, known]
        rfl
      · rw [server?_apply_other topology description speaks brings address other, known]
    rw [same]
    simp [speaks, differs.symm]

/-- What one description does to another server. A server that is not tracked joins exactly if it is
listed by a primary that speaks for all or by a member that brings others in, and nothing is known of
it. A server that is tracked is forgotten exactly if a primary speaks for all and does not list it. It
is described anew exactly if it was the primary and the primary that speaks for all lists it; then
nothing is known of it any more. A description of a server that is not tracked, or of an earlier state
of the same process, changes nothing at all. -/
theorem others_stay (options : ClientOptions) (topology : Topology)
    (reached : Reachable options topology) (description : ServerDescription) :
    (∀ address, address ≠ description.address →
      (topology.server? address = none → ∀ server,
        (topology.apply description).server? address = some server ↔
          server = .unknown address ∧ address ∈ description.allHosts ∧
            (topology.SpeaksForAll description ∨ topology.BringsIn description)) ∧
      ∀ server, topology.server? address = some server →
        ((topology.apply description).server? address = none ↔
          topology.SpeaksForAll description ∧ address ∉ description.allHosts) ∧
        ∀ next, next ≠ server →
          ((topology.apply description).server? address = some next ↔
            next = .unknown address ∧ server.type = .rsPrimary ∧
              topology.SpeaksForAll description ∧ address ∈ description.allHosts)) ∧
      (topology.tracks description.address = false → topology.apply description = topology) ∧
      ∀ current known told, topology.server? description.address = some current →
        current.topologyVersion = some known → description.topologyVersion = some told →
        told.processId = known.processId → told.counter < known.counter →
        topology.apply description = topology := by
  have keyed := (consistent_of_reachable options topology reached).keyed
  refine ⟨fun address other => ⟨?_, fun server known => ⟨?_, ?_⟩⟩, fun untracked => ?_, ?_⟩
  · exact server?_apply_of_untracked topology keyed description address other
  · exact server?_apply_eq_none_iff topology keyed description address other server known
  · exact server?_apply_eq_some_iff topology keyed description address other server known
  · refine apply_of_not_hears topology description fun ⟨current, found, _⟩ => ?_
    rw [(tracks_iff _ _).2 ⟨current, found⟩] at untracked
    cases untracked
  · intro current known told found versioned versions process earlier
    refine apply_of_not_hears topology description fun ⟨same, foundSame, recent⟩ => ?_
    rw [found] at foundSame
    cases foundSame
    have older : told.isOlder known = true := by
      simp [TopologyVersion.isOlder, process, earlier]
    unfold isOutdated at recent
    rw [versioned, versions] at recent
    dsimp only at recent
    rw [older] at recent
    cases recent

/-- The second server of the pair takes the lead from the first one, of which nothing is known then.
And at the start the first one leads a set without the second one, which is forgotten, and with a third
one, which joins. -/
theorem others_stay_pair :
    Reachable pairOptions pairFirst ∧
      (pairFirst.apply (pairReport "right" 6)).server? ⟨"left", 27017⟩ =
        some (.unknown ⟨"left", 27017⟩) ∧
      ((initial pairOptions).apply TopologyEvent.pairReplaced).server? ⟨"right", 27017⟩ = none ∧
      ((initial pairOptions).apply TopologyEvent.pairReplaced).server? ⟨"third", 27017⟩ =
        some (.unknown ⟨"third", 27017⟩) := by
  obtain ⟨demotes, -⟩ := others_stay pairOptions pairFirst reachable_pairFirst
    (pairReport "right" 6)
  obtain ⟨replaces, -⟩ := others_stay pairOptions (initial pairOptions) (.start _ rfl)
    TopologyEvent.pairReplaced
  have speaks : pairFirst.SpeaksForAll (pairReport "right" 6) :=
    ⟨⟨_, rfl, rfl⟩, .inr (by decide +kernel), by decide +kernel, by decide +kernel,
      by decide +kernel⟩
  have speaksFirst : (initial pairOptions).SpeaksForAll TopologyEvent.pairReplaced :=
    ⟨⟨_, rfl, rfl⟩, .inl rfl, by decide +kernel, by decide +kernel, by decide +kernel⟩
  refine ⟨reachable_pairFirst, ?_, ?_, ?_⟩
  · have led : pairFirst.server? ⟨"left", 27017⟩ = some (pairReport "left" 5) := rfl
    refine (((demotes _ (by decide +kernel)).2 _ led).2 _ fun same => ?_).2
      ⟨rfl, by decide +kernel, speaks, by decide +kernel⟩
    exact absurd (congrArg ServerDescription.type same) (by decide +kernel)
  · exact ((replaces _ (by decide +kernel)).2 (.unknown ⟨"right", 27017⟩) rfl).1.2
      ⟨speaksFirst, by decide +kernel⟩
  · exact ((replaces _ (by decide +kernel)).1 rfl _).2 ⟨rfl, by decide +kernel, .inl speaksFirst⟩

end Topology

end DocumentDriver
