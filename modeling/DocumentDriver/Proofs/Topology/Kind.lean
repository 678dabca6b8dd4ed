/-
This file proves that the kind of a deployment is found out once. An open kind may become any other
one; a replica set gains and loses its primary and stays a replica set; and what is a single server
or sharded stays that way. A single server is one server, and it remains the same one, whatever is
told of it or of others.
-/

import DocumentDriver.Proofs.Topology.Standalone

namespace DocumentDriver

namespace TopologyType

/-- How the kind of a deployment may change: an open kind to any other, and a replica set to one
with or without a primary. -/
def Advances (before after : TopologyType) : Prop :=
  after = before ∨ before = .unknown ∨ before.isReplicaSet = true ∧ after.isReplicaSet = true

theorem advances_refl (kind : TopologyType) : kind.Advances kind := .inl rfl

theorem advances_of_isReplicaSet {before after : TopologyType}
    (opens : before = .unknown ∨ before.isReplicaSet = true) (set : after.isReplicaSet = true) :
    before.Advances after :=
  .inr (opens.imp id fun wasSet => ⟨wasSet, set⟩)

theorem Advances.trans {first second third : TopologyType} (earlier : first.Advances second)
    (later : second.Advances third) : first.Advances third := by
  rcases earlier with rfl | opens | ⟨wasSet, isSet⟩
  · exact later
  · exact .inr (.inl opens)
  · rcases later with rfl | opens | ⟨-, stillSet⟩
    · exact .inr (.inr ⟨wasSet, isSet⟩)
    · rw [opens] at isSet
      cases isSet
    · exact .inr (.inr ⟨wasSet, stillSet⟩)

end TopologyType

namespace AddressMap

variable {Value : Type}

theorem addresses_eq_singleton_iff (map : AddressMap Value) (address : ServerAddress) :
    map.addresses = [address] ↔ ∀ other, map.contains other = true ↔ other = address := by
  constructor
  · intro sole other
    rw [contains_iff, sole, List.mem_singleton]
  · intro only
    obtain ⟨entry, entries⟩ :=
      List.length_eq_one_iff.1 ((size_eq_one_iff map).2 ⟨address, only⟩)
    have held : map.contains entry.1 = true :=
      map.contains_iff.2 (by rw [addresses, entries]; exact List.mem_cons_self)
    rw [addresses, entries, List.map_singleton, (only entry.1).1 held]

end AddressMap

namespace Topology

/-! ### The kind -/

theorem advances_reaction (topology : Topology) (description : ServerDescription)
    (next : Topology) (effect : Reaction topology description next) :
    topology.type.Advances next.type := by
  by_cases set : next.type.isReplicaSet = true
  · exact TopologyType.advances_of_isReplicaSet
      (type_reaction topology description next effect set).1 set
  · cases outside_reaction topology description next effect (eq_false_of_ne_true set) with
    | direct => exact .inl (type_updateSingle topology description)
    | alone type | router type => exact .inr (.inl type)
    | beside | waiting | shard | intruder => exact .inl rfl

theorem advances_applyAll (topology : Topology) (descriptions : List ServerDescription) :
    topology.type.Advances (topology.applyAll descriptions).type := by
  refine applyAll_induction (fun _ => True) (fun later => topology.type.Advances later.type) ?_
    descriptions (fun _ _ => trivial) topology (TopologyType.advances_refl _)
  intro before description earlier _ _
  have moved : before.type.Advances ((before.store description).react description).type :=
    advances_reaction (before.store description) description _ (reaction _ description)
  exact earlier.trans moved

/-! ### The single server -/

theorem addresses_eq_singleton_iff (topology : Topology) (address : ServerAddress) :
    topology.addresses = [address] ↔ ∀ other, topology.tracks other = true ↔ other = address :=
  AddressMap.addresses_eq_singleton_iff topology.servers address

/-- Of a single server, that one alone is tracked. -/
def IsSole (topology : Topology) : Prop :=
  topology.type = .single → ∃ address, topology.addresses = [address]

theorem isSole_initial (options : ClientOptions) (valid : options.validate = .ok ()) :
    (initial options).IsSole := by
  intro single
  obtain ⟨seed, hosts⟩ :=
    options.sole_host_of_validate valid (directConnection_of_initial_single options single)
  refine ⟨seed, (addresses_eq_singleton_iff _ seed).2 fun other => ?_⟩
  rw [tracks_initial, hosts, List.mem_singleton]

/-- A description leaves the one server of a single deployment where it is. -/
theorem addresses_updateSingle (topology : Topology) (address : ServerAddress)
    (sole : topology.addresses = [address]) (description : ServerDescription)
    (tracked : topology.tracks description.address = true) :
    ((topology.store description).updateSingle description).addresses = [address] := by
  rw [addresses_eq_singleton_iff] at sole ⊢
  have own : description.address = address := (sole _).1 tracked
  intro other
  rw [tracks_updateSingle, sole, own, or_self]

theorem isSole_react (topology : Topology) (sole : topology.IsSole)
    (description : ServerDescription) (tracked : topology.tracks description.address = true) :
    ((topology.store description).react description).IsSole := by
  intro single
  have effect := reaction (topology.store description) description
  rcases single_reaction _ description _ effect single with ⟨type, same⟩ | ⟨-, size, same⟩
  · obtain ⟨address, alone⟩ := sole type
    rw [same]
    exact ⟨address, addresses_updateSingle topology address alone description tracked⟩
  · obtain ⟨address, only⟩ := (AddressMap.size_eq_one_iff _).1 size
    rw [same]
    exact ⟨address, (addresses_eq_singleton_iff _ address).2 only⟩

theorem isSole_of_reachable (options : ClientOptions) (topology : Topology)
    (reached : Reachable options topology) : topology.IsSole :=
  reachable_induction options IsSole (isSole_initial options)
    (fun before description sole _ tracked => isSole_react before sole description tracked)
    topology reached

/-- The one server of a single deployment stays the one, whatever is described. -/
theorem addresses_applyAll_of_single (topology : Topology) (single : topology.type = .single)
    (address : ServerAddress) (sole : topology.addresses = [address])
    (descriptions : List ServerDescription) :
    (topology.applyAll descriptions).addresses = [address] := by
  refine (applyAll_induction (fun _ => True)
    (fun later => later.type = .single ∧ later.addresses = [address]) ?_ descriptions
    (fun _ _ => trivial) topology ⟨single, sole⟩).2
  rintro before description ⟨type, alone⟩ - tracked
  rw [react_of_single (before.store description) description type]
  exact ⟨(type_updateSingle _ description).trans type,
    addresses_updateSingle before address alone description tracked⟩

/-- The kind of a deployment is found out once. Along every run it changes only from an open kind to
another one, or between a replica set with and one without a primary; a single server, a sharded
deployment and a replica set never become anything else. A deployment of a single server tracks one
server, and tracks that one ever after. -/
theorem kind_moves_forward (options : ClientOptions) (topology : Topology)
    (reached : Reachable options topology) :
    (∀ descriptions,
      ((topology.applyAll descriptions).type ≠ topology.type →
        topology.type = .unknown ∨
          topology.type.isReplicaSet = true ∧
            (topology.applyAll descriptions).type.isReplicaSet = true) ∧
      (topology.type = .single → (topology.applyAll descriptions).type = .single) ∧
      (topology.type = .sharded → (topology.applyAll descriptions).type = .sharded) ∧
      (topology.type.isReplicaSet = true →
        (topology.applyAll descriptions).type.isReplicaSet = true)) ∧
      (topology.type = .single → ∃ address, topology.addresses = [address] ∧
        ∀ descriptions, (topology.applyAll descriptions).addresses = [address]) := by
  constructor
  · intro descriptions
    have advances := advances_applyAll topology descriptions
    have settled (kind : TopologyType) (known : kind ≠ .unknown)
        (outside : kind.isReplicaSet = false) (type : topology.type = kind) :
        (topology.applyAll descriptions).type = kind := by
      rcases advances with same | opens | ⟨set, -⟩
      · exact same.trans type
      · exact absurd (type.symm.trans opens) known
      · rw [type, outside] at set
        cases set
    refine ⟨advances.resolve_left, settled .single (by decide) rfl,
      settled .sharded (by decide) rfl, fun set => ?_⟩
    rcases advances with same | opens | ⟨-, later⟩
    · rwa [same]
    · rw [opens] at set
      cases set
    · exact later
  · intro single
    obtain ⟨address, sole⟩ := isSole_of_reachable options topology reached single
    exact ⟨address, sole, addresses_applyAll_of_single topology single address sole⟩

theorem kind_moves_forward_pair :
    Reachable pairOptions pairForgotten ∧ pairForgotten.type = .single ∧
      (pairForgotten.applyAll [pairReport "right" 1, pairReport "left" 2]).type = .single ∧
      ∃ address, pairForgotten.addresses = [address] ∧
        ∀ descriptions, (pairForgotten.applyAll descriptions).addresses = [address] := by
  have reached := reachable_standalones pairOptions rfl pairOptions.hosts
  have single : pairForgotten.type = .single := by decide +kernel
  obtain ⟨runs, sole⟩ := kind_moves_forward pairOptions pairForgotten reached
  exact ⟨reached, single, (runs _).2.1 single, sole single⟩

end Topology

end DocumentDriver
