/-
This file says when a picture has taken a description in, so that the description has nothing left
to change. Each step of a change does nothing if what it would bring about is there already. From
the steps follow the seven ways in which a picture keeps a description, and the two in which it
keeps an error in the place of one.
-/

import DocumentDriver.Proofs.Topology.Election
import DocumentDriver.Proofs.Topology.SetName

namespace DocumentDriver

namespace Election

/-- An election that has been remembered is remembered. -/
theorem mergeByVersion_mergeByVersion (known reported : Election) :
    (known.mergeByVersion reported).mergeByVersion reported = known.mergeByVersion reported := by
  obtain ⟨id, version⟩ := reported
  obtain ⟨knownId, knownVersion⟩ := known
  cases version with
  | none => rfl
  | some version =>
    cases knownVersion with
    | none => cases id <;> simp [mergeByVersion]
    | some greatest =>
      by_cases newer : greatest < version <;> cases id <;> simp [mergeByVersion, newer]

/-- An election is older than what is known after it has been remembered exactly if it is complete
and the version that was known before is greater. -/
theorem isOlderByVersion_mergeByVersion (known reported : Election) :
    reported.isOlderByVersion (known.mergeByVersion reported) = true ↔
      reported.id.isSome = true ∧ ∃ version greatest, reported.setVersion = some version ∧
        known.setVersion = some greatest ∧ version < greatest := by
  obtain ⟨id, version⟩ := reported
  obtain ⟨knownId, knownVersion⟩ := known
  cases version with
  | none => simp [isOlderByVersion]
  | some version =>
    cases id with
    | none => simp [isOlderByVersion]
    | some id =>
      have notBelow : ¬ id < id := mt (ObjectId.numbers_lt_iff id id).2 (lt_irrefl _)
      cases knownVersion with
      | none => simp [isOlderByVersion, mergeByVersion, notBelow]
      | some greatest =>
        by_cases newer : greatest < version
        · simp [isOlderByVersion, mergeByVersion, newer, notBelow, Int64.lt_asymm newer]
        · simp [isOlderByVersion, mergeByVersion, newer, notBelow]

end Election

namespace Topology

/-! ### Steps that change nothing -/

/-- Pictures that differ at most in their servers are the same if these are. -/
theorem eq_of_server? (left right : Topology)
    (rest : { left with servers := right.servers } = right)
    (servers : ∀ address, left.server? address = right.server? address) : left = right := by
  have same : left.servers = right.servers := AddressMap.ext_get? servers
  rwa [← same] at rest

theorem store_eq_self (topology : Topology) (description : ServerDescription)
    (found : topology.server? description.address = some description) :
    topology.store description = topology := by
  refine eq_of_server? _ _ rfl fun address => ?_
  rw [server?_store]
  split
  · next own => rw [own, found]
  · rfl

/-- What stands under an address and is put there again replaces whatever came between. -/
theorem store_store_eq_self (topology : Topology) (description replacement : ServerDescription)
    (same : replacement.address = description.address)
    (found : topology.server? description.address = some replacement) :
    (topology.store description).store replacement = topology := by
  refine eq_of_server? _ _ rfl fun address => ?_
  rw [server?_store_store topology description replacement same]
  split
  · next own => rw [own, found]
  · rfl

theorem addHosts_eq_self (topology : Topology) (description : ServerDescription)
    (tracked : ∀ host ∈ description.allHosts, topology.tracks host = true) :
    topology.addHosts description = topology := by
  refine eq_of_server? _ _ rfl fun address => ?_
  rw [server?_addHosts]
  split
  · next listed =>
    obtain ⟨server, found⟩ := (tracks_iff _ _).1 (tracked address listed)
    rw [found, Option.some_or]
  · exact Option.or_none

theorem keepHosts_eq_self (topology : Topology) (description : ServerDescription)
    (listed : ∀ address, topology.tracks address = true → address ∈ description.allHosts) :
    topology.keepHosts description = topology := by
  refine eq_of_server? _ _ rfl fun address => ?_
  rw [server?_keepHosts]
  split
  · rfl
  · next absent =>
    cases found : topology.server? address with
    | none => rfl
    | some server => exact absurd (listed address ((tracks_iff _ _).2 ⟨server, found⟩)) absent

theorem demoteOthers_eq_self (topology : Topology) (keyed : topology.Keyed)
    (leader : ServerAddress) (sole : ∀ address, topology.PrimaryAt address → address = leader) :
    topology.demoteOthers leader = topology := by
  refine eq_of_server? _ _ rfl fun address => ?_
  rw [server?_demoteOthers topology keyed]
  cases found : topology.server? address with
  | none => rfl
  | some server =>
    have kept : ¬ (server.type = .rsPrimary ∧ address ≠ leader) :=
      fun ⟨primary, distinct⟩ => distinct (sole address ⟨server, found, primary⟩)
    rw [Option.map_some, if_neg kept]

theorem adoptSetName_eq_self (topology : Topology) (description : ServerDescription)
    (named : topology.setName = description.setName) :
    topology.adoptSetName description = topology := by
  have same : (topology.setName <|> description.setName) = topology.setName := by
    rw [← named]
    cases topology.setName <;> rfl
  unfold adoptSetName
  rw [same]

theorem recordElection_eq_self (topology : Topology) (description : ServerDescription)
    (recorded : (topology.recordElection description).election = topology.election) :
    topology.recordElection description = topology := by
  have same : topology.recordElection description =
      { topology with election := (topology.recordElection description).election } := rfl
  rw [same, recorded]

/-! ### What a primary leaves behind -/

theorem type_refreshPrimary_or (topology : Topology) :
    topology.refreshPrimary.type = .replicaSetWithPrimary ∨
      topology.refreshPrimary.type = .replicaSetNoPrimary := by
  unfold refreshPrimary
  dsimp only
  split
  · exact .inl rfl
  · exact .inr rfl

theorem refreshPrimary_updateFromPrimary (topology : Topology) (description : ServerDescription) :
    (topology.updateFromPrimary description).refreshPrimary =
      topology.updateFromPrimary description := by
  obtain ⟨before, same⟩ := updateFromPrimary_refreshes topology description
  rw [same]
  rfl

theorem setName_updateFromPrimary_of_accepted (topology : Topology)
    (description : ServerDescription)
    (accepted : topology.acceptsSetName description = true) :
    (topology.updateFromPrimary description).setName = description.setName :=
  (setName_updateFromPrimary topology description).trans
    (adoptedName_of_accepted topology description accepted)

/-- A description whose name is accepted gives the set its name. -/
theorem setName_adoptSetName (topology : Topology) (description : ServerDescription)
    (accepted : topology.acceptsSetName description = true) :
    (topology.adoptSetName description).setName = description.setName := by
  rw [← adoptedName_of_accepted topology description accepted, adoptedName, if_pos accepted]
  rfl

theorem isStalePrimary_congr (left right : Topology) (same : left.election = right.election)
    (description : ServerDescription) :
    left.isStalePrimary description = right.isStalePrimary description := by
  unfold isStalePrimary
  rw [same]

theorem election_recordElection_congr (left right : Topology)
    (same : left.election = right.election) (description : ServerDescription) :
    (left.recordElection description).election = (right.recordElection description).election := by
  unfold recordElection
  rw [same]

theorem election_recordElection_recordElection (topology : Topology)
    (description : ServerDescription) :
    ((topology.recordElection description).recordElection description).election =
      (topology.recordElection description).election := by
  unfold recordElection
  split
  · rfl
  · exact Election.mergeByVersion_mergeByVersion _ _

/-- An election that has just been recorded is over only where versions compare first, if it is
complete and a greater version was known before. -/
theorem isStalePrimary_recordElection (topology : Topology) (description : ServerDescription) :
    (topology.recordElection description).isStalePrimary description = true ↔
      description.comparesElectionFirst = false ∧ description.electionId.isSome = true ∧
        ∃ version greatest, description.setVersion = some version ∧
          topology.election.setVersion = some greatest ∧ version < greatest := by
  cases first : description.comparesElectionFirst with
  | true =>
    rw [isStalePrimary_iff _ description first, election_recordElection _ description first]
    simp
  | false =>
    have merged : (topology.recordElection description).isStalePrimary description =
        description.election.isOlderByVersion
          (topology.election.mergeByVersion description.election) := by
      unfold isStalePrimary recordElection
      rw [first]
      rfl
    rw [merged, Election.isOlderByVersion_mergeByVersion]
    exact ⟨fun older => ⟨rfl, older⟩, fun older => older.2⟩

/-! ### Descriptions that are kept -/

/-- The ways in which a picture keeps a description: what the description brings about is there. -/
inductive Keeps (topology : Topology) (description : ServerDescription) : Prop
  | direct (type : topology.type = .single)
      (fits : (description.isAvailable && !topology.acceptsSetName description) = false)
  | waiting (type : topology.type = .unknown ∨ topology.type = .replicaSetNoPrimary)
      (kind : description.type = .rsGhost ∨ description.type = .unknown)
  | shard (type : topology.type = .sharded)
      (kind : description.type = .mongos ∨ description.type = .unknown)
  | member (type : topology.type = .replicaSetNoPrimary)
      (kind : description.type.isFollower = true)
      (named : topology.setName = description.setName)
      (own : description.hasOtherAddress = false)
      (tracked : ∀ host ∈ description.allHosts, topology.tracks host = true)
  | subject (type : topology.type = .replicaSetWithPrimary)
      (kind : description.type.isFollower = true)
      (named : topology.setName = description.setName)
      (own : description.hasOtherAddress = false) (fresh : topology.refreshPrimary = topology)
  | silence (type : topology.type = .replicaSetWithPrimary)
      (kind : description.type = .rsGhost ∨ description.type = .unknown)
      (fresh : topology.refreshPrimary = topology)
  | leader (set : topology.type.isReplicaSet = true) (leads : topology.Leads description)
      (named : topology.setName = description.setName)
      (recorded : (topology.recordElection description).election = topology.election)
      (keyed : topology.Keyed)
      (sole : ∀ address, topology.PrimaryAt address → address = description.address)
      (members : ∀ address, topology.tracks address = true ↔ address ∈ description.allHosts)
      (fresh : topology.refreshPrimary = topology)

theorem updateWithoutPrimary_of_named (topology : Topology) (description : ServerDescription)
    (named : topology.setName = description.setName)
    (own : description.hasOtherAddress = false) :
    topology.updateWithoutPrimary description = topology.addHosts description := by
  unfold updateWithoutPrimary
  rw [if_pos ((acceptsSetName_iff topology description).2 (.inr named)),
    adoptSetName_eq_self topology description named, own]
  rfl

theorem updateFromMember_of_named (topology : Topology) (description : ServerDescription)
    (named : topology.setName = description.setName)
    (own : description.hasOtherAddress = false) :
    topology.updateFromMember description = topology.refreshPrimary := by
  unfold updateFromMember
  rw [if_neg (by simp [named, own])]

theorem react_of_keeps (topology : Topology) (description : ServerDescription)
    (keeps : topology.Keeps description) : topology.react description = topology := by
  cases keeps with
  | direct type fits =>
    rw [react_of_single topology description type]
    unfold updateSingle
    exact if_neg (Bool.eq_false_iff.1 fits)
  | waiting type kind =>
    unfold react
    rcases type with type | type <;> rcases kind with kind | kind <;> rw [type, kind]
  | shard type kind =>
    unfold react
    rcases kind with kind | kind <;> rw [type, kind]
  | member type kind named own tracked =>
    rw [(react_of_follower topology description kind).1 type,
      updateWithoutPrimary_of_named topology description named own]
    exact addHosts_eq_self topology description tracked
  | subject type kind named own fresh =>
    rw [(react_of_follower topology description kind).2 type,
      updateFromMember_of_named topology description named own]
    exact fresh
  | silence type kind fresh =>
    unfold react
    rcases kind with kind | kind
    · rw [type, kind]
      exact fresh
    · rw [type, kind]
      exact fresh
  | leader set leads named recorded keyed sole members fresh =>
    rw [react_of_primary topology description (.inr set) leads.1]
    unfold updateFromPrimary
    rw [if_pos leads.2.1, adoptSetName_eq_self topology description named]
    dsimp only
    rw [leads.2.2, if_neg Bool.false_ne_true, recordElection_eq_self topology description recorded,
      demoteOthers_eq_self topology keyed description.address sole,
      addHosts_eq_self topology description fun host => (members host).2,
      keepHosts_eq_self topology description fun address => (members address).1, fresh]

/-! ### Descriptions that have nothing left to change -/

/-- The description has nothing left to change. -/
def Absorbs (topology : Topology) (description : ServerDescription) : Prop :=
  (topology.store description).react description = topology

theorem absorbs_of_keeps (topology : Topology) (description : ServerDescription)
    (found : topology.server? description.address = some description)
    (keeps : topology.Keeps description) : topology.Absorbs description := by
  unfold Absorbs
  rw [store_eq_self topology description found]
  exact react_of_keeps topology description keeps

/-- A server that is talked to directly and belongs to another set is refused each time. -/
theorem absorbs_of_mismatch (topology : Topology) (description : ServerDescription)
    (type : topology.type = .single)
    (differs : (description.isAvailable && !topology.acceptsSetName description) = true)
    (found : topology.server? description.address =
      some (.ofError description.address (topology.setNameMismatch description))) :
    topology.Absorbs description := by
  unfold Absorbs
  rw [react_of_single (topology.store description) description type]
  unfold updateSingle
  exact (if_pos differs).trans (store_store_eq_self topology description _ rfl found)

/-- A primary whose election is over is refused each time. -/
theorem absorbs_of_stale (topology : Topology) (description : ServerDescription)
    (set : topology.type.isReplicaSet = true) (kind : description.type = .rsPrimary)
    (named : topology.setName = description.setName)
    (stale : topology.isStalePrimary description = true)
    (fresh : topology.refreshPrimary = topology)
    (found : topology.server? description.address =
      some (.ofError description.address
        (Violation.outdatedElection description.address.display).toError)) :
    topology.Absorbs description := by
  have accepted : (topology.store description).acceptsSetName description = true :=
    (acceptsSetName_iff topology description).2 (.inr named)
  have staleStored : (topology.store description).isStalePrimary description = true := stale
  unfold Absorbs
  rw [react_of_primary (topology.store description) description (.inr set) kind]
  unfold updateFromPrimary
  rw [if_pos accepted, adoptSetName_eq_self (topology.store description) description named]
  dsimp only
  rw [if_pos staleStored,
    store_store_eq_self topology description (.ofError description.address _) rfl found, fresh]

/-- What is found out anew for the whole deployment is not touched by a description that has
nothing left to change. -/
theorem apply_of_absorbs (topology : Topology) (description : ServerDescription)
    (absorbs : topology.refresh.Absorbs description) :
    topology.refresh.apply description = topology.refresh := by
  rcases apply_cases topology.refresh description with ignored | ⟨-, applied⟩
  · exact ignored
  · rw [applied, absorbs]
    rfl

end Topology

end DocumentDriver
