/-
This file says what every step of a change does to the servers that a picture tracks. A step is
known by its look-ups: which description stands under an address afterwards, given what stood there
before. From the look-ups follow the two readings that the rest needs, which addresses are tracked
and at which of them a primary stands.
-/

import DocumentDriver.Topology.Update

namespace DocumentDriver

namespace AddressMap

variable {Value : Type}

/-! ### Filling a map from a list -/

/-- Adding what is missing keeps the values that are there. -/
theorem get?_foldl_addMissing (value : ServerAddress → Value) (added : List ServerAddress)
    (map : AddressMap Value) (address : ServerAddress) :
    (added.foldl (fun map other =>
        if map.contains other then map else map.insert other (value other)) map).get? address =
      (map.get? address).or (if address ∈ added then some (value address) else none) := by
  induction added generalizing map with
  | nil => simp
  | cons first rest inductionHypothesis =>
    rw [List.foldl_cons, inductionHypothesis]
    by_cases present : map.contains first = true
    · obtain ⟨found, stored⟩ := Option.isSome_iff_exists.1 present
      rw [if_pos present]
      by_cases same : address = first
      · rw [same, stored, Option.some_or, Option.some_or]
      · simp only [List.mem_cons, same, false_or]
    · rw [if_neg present, get?_insert]
      by_cases same : address = first
      · have absent : map.get? first = none := by simpa [contains] using present
        rw [if_pos same, same, absent, Option.some_or, Option.none_or, if_pos List.mem_cons_self]
      · rw [if_neg same]
        simp only [List.mem_cons, same, false_or]

/-- Overwriting the values of some addresses leaves the others as they were. -/
theorem get?_foldl_insert (value : ServerAddress → Value) (changed : List ServerAddress)
    (map : AddressMap Value) (address : ServerAddress) :
    (changed.foldl (fun map other => map.insert other (value other)) map).get? address =
      if address ∈ changed then some (value address) else map.get? address := by
  induction changed generalizing map with
  | nil => simp
  | cons first rest inductionHypothesis =>
    rw [List.foldl_cons, inductionHypothesis, get?_insert]
    by_cases later : address ∈ rest
    · rw [if_pos later, if_pos (List.mem_cons_of_mem _ later)]
    · by_cases same : address = first
      · rw [if_neg later, if_pos same, same, if_pos List.mem_cons_self]
      · rw [if_neg later, if_neg same, if_neg (by simp [same, later])]

/-- A map filled from a list holds exactly the listed addresses. -/
theorem get?_ofAddresses (addresses : List ServerAddress) (value : ServerAddress → Value)
    (address : ServerAddress) :
    (ofAddresses addresses value).get? address =
      if address ∈ addresses then some (value address) else none := by
  unfold ofAddresses
  rw [get?_foldl_insert, get?_empty]

end AddressMap

namespace Topology

/-! ### Look-ups after a step -/

@[simp] theorem server?_withType (topology : Topology) (type : TopologyType)
    (address : ServerAddress) :
    ({ topology with type := type } : Topology).server? address = topology.server? address := rfl

@[simp] theorem server?_adoptSetName (topology : Topology) (description : ServerDescription)
    (address : ServerAddress) :
    (topology.adoptSetName description).server? address = topology.server? address := rfl

@[simp] theorem server?_recordElection (topology : Topology) (description : ServerDescription)
    (address : ServerAddress) :
    (topology.recordElection description).server? address = topology.server? address := rfl

@[simp] theorem server?_refreshPrimary (topology : Topology) (address : ServerAddress) :
    topology.refreshPrimary.server? address = topology.server? address := rfl

@[simp] theorem server?_refresh (topology : Topology) (address : ServerAddress) :
    topology.refresh.server? address = topology.server? address := rfl

theorem server?_initial (options : ClientOptions) (address : ServerAddress) :
    (initial options).server? address =
      if address ∈ options.hosts then some (.unknown address) else none :=
  AddressMap.get?_ofAddresses _ _ _

/-- At the start nothing is known of any server. -/
theorem eq_unknown_of_initial (options : ClientOptions) (address : ServerAddress)
    (server : ServerDescription) (found : (initial options).server? address = some server) :
    server = .unknown address := by
  rw [server?_initial] at found
  split at found <;> cases found
  rfl

theorem server?_store (topology : Topology) (description : ServerDescription)
    (address : ServerAddress) :
    (topology.store description).server? address =
      if address = description.address then some description else topology.server? address :=
  AddressMap.get?_insert _ _ _ _

@[simp] theorem server?_store_self (topology : Topology) (description : ServerDescription) :
    (topology.store description).server? description.address = some description := by
  rw [server?_store, if_pos rfl]

theorem server?_remove (topology : Topology) (removed address : ServerAddress) :
    (topology.remove removed).server? address =
      if address = removed then none else topology.server? address :=
  AddressMap.get?_erase _ _ _

@[simp] theorem server?_remove_self (topology : Topology) (address : ServerAddress) :
    (topology.remove address).server? address = none := by
  rw [server?_remove, if_pos rfl]

/-- What stood under an address before it is removed does not matter. -/
theorem server?_store_remove (topology : Topology) (description : ServerDescription)
    (address : ServerAddress) :
    ((topology.store description).remove description.address).server? address =
      if address = description.address then none else topology.server? address := by
  rw [server?_remove, server?_store]
  by_cases own : address = description.address
  · rw [if_pos own, if_pos own]
  · rw [if_neg own, if_neg own, if_neg own]

/-- What stood under an address before it is replaced does not matter. -/
theorem server?_store_store (topology : Topology) (description replacement : ServerDescription)
    (same : replacement.address = description.address) (address : ServerAddress) :
    ((topology.store description).store replacement).server? address =
      if address = description.address then some replacement else topology.server? address := by
  rw [server?_store, server?_store, same]
  by_cases own : address = description.address
  · rw [if_pos own, if_pos own]
  · rw [if_neg own, if_neg own, if_neg own]

theorem server?_addHosts (topology : Topology) (description : ServerDescription)
    (address : ServerAddress) :
    (topology.addHosts description).server? address =
      (topology.server? address).or
        (if address ∈ description.allHosts then some (.unknown address) else none) :=
  AddressMap.get?_foldl_addMissing _ _ _ _

theorem server?_keepHosts (topology : Topology) (description : ServerDescription)
    (address : ServerAddress) :
    (topology.keepHosts description).server? address =
      if address ∈ description.allHosts then topology.server? address else none := by
  unfold keepHosts server?
  rw [AddressMap.get?_filter]
  by_cases listed : address ∈ description.allHosts
  · have kept : description.allHosts.contains address = true := List.contains_iff_mem.2 listed
    rw [if_pos listed]
    cases found : topology.servers.get? address with
    | none => rfl
    | some server => exact Option.filter_some_pos kept
  · rw [if_neg listed, Option.filter_eq_none_iff]
    exact fun _ _ => by simpa using listed

/-! ### Descriptions under their own addresses -/

/-- Every description stands under its own address. -/
def Keyed (topology : Topology) : Prop :=
  ∀ address server, topology.server? address = some server → server.address = address

theorem keyed_initial (options : ClientOptions) : (initial options).Keyed := by
  intro address server found
  rw [eq_unknown_of_initial options address server found]
  rfl

theorem keyed_store (topology : Topology) (keyed : topology.Keyed)
    (description : ServerDescription) : (topology.store description).Keyed := by
  intro address server found
  rw [server?_store] at found
  split at found
  · next same =>
    cases found
    exact same.symm
  · exact keyed address server found

theorem keyed_remove (topology : Topology) (keyed : topology.Keyed) (removed : ServerAddress) :
    (topology.remove removed).Keyed := by
  intro address server found
  rw [server?_remove] at found
  split at found
  · cases found
  · exact keyed address server found

theorem keyed_addHosts (topology : Topology) (keyed : topology.Keyed)
    (description : ServerDescription) : (topology.addHosts description).Keyed := by
  intro address server found
  rw [server?_addHosts, Option.or_eq_some_iff] at found
  rcases found with known | ⟨-, added⟩
  · exact keyed address server known
  · split at added
    · cases added
      rfl
    · cases added

theorem keyed_keepHosts (topology : Topology) (keyed : topology.Keyed)
    (description : ServerDescription) : (topology.keepHosts description).Keyed := by
  intro address server found
  rw [server?_keepHosts] at found
  split at found
  · exact keyed address server found
  · cases found

/-- Taking a primary from its office leaves an unknown server in its place. The list of those to
be demoted is made of descriptions, so this is about addresses only where each stands under its
own. -/
theorem server?_demoteOthers (topology : Topology) (keyed : topology.Keyed)
    (leader address : ServerAddress) :
    (topology.demoteOthers leader).server? address =
      (topology.server? address).map fun server =>
        if server.type = .rsPrimary ∧ address ≠ leader then .unknown address else server := by
  have folded : (topology.demoteOthers leader).server? address =
      if address ∈ (topology.descriptions.filter fun server =>
          server.type == .rsPrimary && server.address != leader).map (·.address)
        then some (.unknown address) else topology.server? address := by
    unfold server?
    rw [← AddressMap.get?_foldl_insert ServerDescription.unknown, List.foldl_map]
    rfl
  have demoted : address ∈ (topology.descriptions.filter fun server =>
        server.type == .rsPrimary && server.address != leader).map (·.address) ↔
      ∃ server, topology.server? address = some server ∧ server.type = .rsPrimary ∧
        address ≠ leader := by
    simp only [List.mem_map, List.mem_filter, descriptions, AddressMap.mem_values_iff,
      Bool.and_eq_true, beq_iff_eq, bne_iff_ne]
    constructor
    · rintro ⟨server, ⟨⟨other, found⟩, primary, distinct⟩, rfl⟩
      have same : server.address = other := keyed other server found
      exact ⟨server, same ▸ found, primary, distinct⟩
    · rintro ⟨server, found, primary, distinct⟩
      have same : server.address = address := keyed address server found
      exact ⟨server, ⟨⟨address, found⟩, primary, same.symm ▸ distinct⟩, same⟩
  rw [folded]
  cases found : topology.server? address with
  | none => rw [if_neg (by simp [demoted, found]), Option.map_none]
  | some server =>
    by_cases gone : server.type = .rsPrimary ∧ address ≠ leader
    · rw [if_pos (demoted.2 ⟨server, found, gone⟩), Option.map_some, if_pos gone]
    · have kept : ¬ ∃ other, topology.server? address = some other ∧ other.type = .rsPrimary ∧
          address ≠ leader := by
        rintro ⟨other, same, rest⟩
        rw [found] at same
        cases same
        exact gone rest
      rw [if_neg (fun member => kept (demoted.1 member)), Option.map_some, if_neg gone]

theorem keyed_demoteOthers (topology : Topology) (keyed : topology.Keyed)
    (leader : ServerAddress) : (topology.demoteOthers leader).Keyed := by
  intro address server found
  rw [server?_demoteOthers topology keyed, Option.map_eq_some_iff] at found
  obtain ⟨before, known, rfl⟩ := found
  split
  · rfl
  · exact keyed address before known

/-! ### Which addresses are tracked -/

/-- A description is in the picture if it is found under some address. -/
theorem mem_descriptions_iff (topology : Topology) (server : ServerDescription) :
    server ∈ topology.descriptions ↔ ∃ address, topology.server? address = some server :=
  AddressMap.mem_values_iff _

theorem tracks_iff (topology : Topology) (address : ServerAddress) :
    topology.tracks address = true ↔ ∃ server, topology.server? address = some server :=
  Option.isSome_iff_exists

theorem tracks_store (topology : Topology) (description : ServerDescription)
    (address : ServerAddress) :
    (topology.store description).tracks address = true ↔
      address = description.address ∨ topology.tracks address = true := by
  rw [tracks_iff, tracks_iff, server?_store]
  by_cases same : address = description.address
  · simp [same]
  · simp [same]

theorem tracks_remove (topology : Topology) (removed address : ServerAddress) :
    (topology.remove removed).tracks address = true ↔
      address ≠ removed ∧ topology.tracks address = true := by
  rw [tracks_iff, tracks_iff, server?_remove]
  by_cases same : address = removed
  · simp [same]
  · simp [same]

theorem tracks_addHosts (topology : Topology) (description : ServerDescription)
    (address : ServerAddress) :
    (topology.addHosts description).tracks address = true ↔
      topology.tracks address = true ∨ address ∈ description.allHosts := by
  rw [tracks_iff, tracks_iff, server?_addHosts]
  by_cases listed : address ∈ description.allHosts
  · simp [listed]
  · simp [listed]

/-! ### At which addresses a primary stands -/

/-- The server at an address is described as a primary. -/
def PrimaryAt (topology : Topology) (address : ServerAddress) : Prop :=
  ∃ server, topology.server? address = some server ∧ server.type = .rsPrimary

/-- There is a first primary exactly when there is one. -/
theorem primary?_isSome_iff (topology : Topology) :
    topology.primary?.isSome = true ↔ ∃ address, topology.PrimaryAt address := by
  unfold primary? PrimaryAt
  rw [List.find?_isSome]
  simp only [mem_descriptions_iff, beq_iff_eq]
  constructor
  · rintro ⟨server, ⟨address, found⟩, primary⟩
    exact ⟨address, server, found, primary⟩
  · rintro ⟨address, server, found, primary⟩
    exact ⟨server, ⟨address, found⟩, primary⟩

/-- The first primary is a tracked server. -/
theorem server?_of_primary? (topology : Topology) (keyed : topology.Keyed)
    (leader : ServerDescription) (first : topology.primary? = some leader) :
    topology.server? leader.address = some leader ∧ leader.type = .rsPrimary := by
  have member : leader ∈ topology.descriptions := List.mem_of_find?_eq_some first
  obtain ⟨address, found⟩ := (mem_descriptions_iff topology leader).1 member
  have own : leader.address = address := keyed address leader found
  exact ⟨own.symm ▸ found, by simpa using List.find?_some first⟩

theorem isReplicaSet_refreshPrimary (topology : Topology) :
    topology.refreshPrimary.type.isReplicaSet = true := by
  unfold refreshPrimary
  dsimp only
  split <;> rfl

theorem type_refreshPrimary (topology : Topology) :
    topology.refreshPrimary.type = .replicaSetWithPrimary ↔
      ∃ address, topology.PrimaryAt address := by
  rw [← primary?_isSome_iff]
  unfold refreshPrimary
  dsimp only
  split
  · next some => simp [some]
  · next none => simp [none]

end Topology

end DocumentDriver
