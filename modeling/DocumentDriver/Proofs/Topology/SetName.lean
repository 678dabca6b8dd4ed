/-
This file proves that a replica set has one name. The name is given by the options or told by the
first member, and from then on it stays, and every member that is let in reports it. A server that
is talked to directly and reports another name than the options ask for counts as unknown.
-/

import DocumentDriver.Proofs.Topology.Primary

namespace DocumentDriver

/-- The server is a member of a replica set and tells its name. -/
def ServerType.isMember : ServerType → Bool
  | rsPrimary | rsSecondary | rsArbiter | rsOther => true
  | _ => false

namespace ServerDescription

theorem isSome_setName_of_typeOf (reply : Document) (member : (typeOf reply).isMember = true) :
    (reply.string? "setName").isSome = true := by
  unfold typeOf at member
  split at member
  · cases member
  · split at member
    · next named => exact named
    · split at member <;> cases member

/-- A member says of which set it is one. -/
theorem isSome_setName_of_reported (description : ServerDescription)
    (reported : description.Reported) (member : description.type.isMember = true) :
    description.setName.isSome = true := by
  cases reported with
  | unchecked | failed => cases member
  | replied address reply roundTripTime moment =>
    unfold ofReply at member ⊢
    split at member
    · next ok =>
      rw [if_pos ok]
      exact isSome_setName_of_typeOf reply member
    · cases member

end ServerDescription

namespace Topology

/-! ### How the name comes about -/

theorem acceptsSetName_iff (topology : Topology) (description : ServerDescription) :
    topology.acceptsSetName description = true ↔
      topology.setName = none ∨ topology.setName = description.setName := by
  unfold acceptsSetName
  cases topology.setName with
  | none => exact ⟨fun _ => .inl rfl, fun _ => rfl⟩
  | some name =>
    rw [beq_iff_eq]
    exact ⟨fun same => .inr same.symm, fun known => (known.resolve_left nofun).symm⟩

/-- A description is taken at its word about the name if none is known. -/
def adoptedName (topology : Topology) (description : ServerDescription) : Option String :=
  if topology.acceptsSetName description then topology.setName <|> description.setName
  else topology.setName

theorem setName_updateFromPrimary (topology : Topology) (description : ServerDescription) :
    (topology.updateFromPrimary description).setName = topology.adoptedName description := by
  unfold updateFromPrimary adoptedName
  split
  · dsimp only
    split <;> rfl
  · rfl

theorem setName_updateWithoutPrimary (topology : Topology) (description : ServerDescription) :
    (topology.updateWithoutPrimary description).setName = topology.adoptedName description := by
  unfold updateWithoutPrimary adoptedName
  split
  · dsimp only
    split <;> rfl
  · rfl

theorem adoptedName_of_known (topology : Topology) (description : ServerDescription)
    (name : String) (known : topology.setName = some name) :
    topology.adoptedName description = some name := by
  unfold adoptedName
  rw [known]
  split <;> rfl

/-- A description whose name is accepted has the name that the set has afterwards. -/
theorem adoptedName_of_accepted (topology : Topology) (description : ServerDescription)
    (accepted : topology.acceptsSetName description = true) :
    topology.adoptedName description = description.setName := by
  unfold adoptedName
  rw [if_pos accepted]
  rcases (acceptsSetName_iff topology description).1 accepted with unnamed | same
  · rw [unnamed]
    rfl
  · rw [same]
    cases description.setName <;> rfl

theorem isSome_adoptedName (topology : Topology) (description : ServerDescription)
    (told : description.setName.isSome = true) :
    (topology.adoptedName description).isSome = true := by
  by_cases accepted : topology.acceptsSetName description = true
  · rw [adoptedName_of_accepted topology description accepted]
    exact told
  · unfold adoptedName
    rw [if_neg accepted, Option.isSome_iff_ne_none]
    exact fun unnamed => accepted ((acceptsSetName_iff topology description).2 (.inl unnamed))

/-- The name changes only if a member tells one where none is known, and a deployment of open kind
becomes a replica set in no other way. -/
theorem setName_reaction (topology : Topology) (description : ServerDescription) (next : Topology)
    (effect : Reaction topology description next) :
    next.setName = topology.setName ∧
        (topology.type = .unknown → next.type.isReplicaSet = false) ∨
      next.setName = topology.adoptedName description ∧ description.type.isMember = true := by
  have decided (kind : TopologyType) (type : topology.type = kind) (other : kind ≠ .unknown) :
      topology.type = .unknown → next.type.isReplicaSet = false :=
    fun stillOpen => absurd (type.symm.trans stillOpen) other
  cases effect with
  | direct type => exact .inl ⟨by unfold updateSingle; split <;> rfl, decided _ type (by decide)⟩
  | standalone type =>
    refine .inl ⟨by unfold updateFromStandalone; split <;> rfl, fun _ => ?_⟩
    unfold updateFromStandalone
    split
    · rfl
    · exact congrArg TopologyType.isReplicaSet type
  | router => exact .inl ⟨rfl, fun _ => rfl⟩
  | waiting => exact .inl ⟨rfl, fun stillOpen => congrArg TopologyType.isReplicaSet stillOpen⟩
  | shard type => exact .inl ⟨rfl, decided _ type (by decide)⟩
  | intruder type => exact .inl ⟨rfl, decided _ type (by decide)⟩
  | primary _ kind =>
    exact .inr ⟨setName_updateFromPrimary topology description, by rw [kind]; rfl⟩
  | member _ kind =>
    refine .inr ⟨setName_updateWithoutPrimary _ description, ?_⟩
    cases told : description.type <;> simp_all [ServerType.isFollower, ServerType.isMember]
  | stranger type => exact .inl ⟨rfl, decided _ type (by decide)⟩
  | subject type =>
    refine .inl ⟨?_, decided _ type (by decide)⟩
    unfold updateFromMember
    dsimp only
    split <;> rfl
  | deserter type => exact .inl ⟨rfl, decided _ type (by decide)⟩
  | silence type => exact .inl ⟨rfl, decided _ type (by decide)⟩

/-! ### Who is let in -/

/-- The members among the servers afterwards were there before, or are described by a description
whose name is accepted. -/
def AdmitsNamed (topology : Topology) (description : ServerDescription) (next : Topology) : Prop :=
  ∀ address server, next.server? address = some server → server.type.isMember = true →
    topology.server? address = some server ∨
      server = description ∧ topology.acceptsSetName description = true

theorem admitsNamed_store (topology : Topology) (description : ServerDescription)
    (accepted : description.type.isMember = true → topology.acceptsSetName description = true) :
    topology.AdmitsNamed description (topology.store description) := by
  intro address server found member
  rw [server?_store] at found
  split at found
  · cases found
    exact .inr ⟨rfl, accepted member⟩
  · exact .inl found

theorem admitsNamed_store_remove (topology : Topology) (description : ServerDescription) :
    topology.AdmitsNamed description
      ((topology.store description).remove description.address) := by
  intro address server found _
  rw [server?_store_remove] at found
  split at found
  · cases found
  · exact .inl found

theorem admitsNamed_remove (topology next : Topology) (description : ServerDescription)
    (admits : topology.AdmitsNamed description next) (removed : ServerAddress) :
    topology.AdmitsNamed description (next.remove removed) := by
  intro address server found member
  rw [server?_remove] at found
  split at found
  · cases found
  · exact admits address server found member

theorem admitsNamed_addHosts (topology next : Topology) (description : ServerDescription)
    (admits : topology.AdmitsNamed description next) :
    topology.AdmitsNamed description (next.addHosts description) := by
  intro address server found member
  rw [server?_addHosts, Option.or_eq_some_iff] at found
  rcases found with known | ⟨-, added⟩
  · exact admits address server known member
  · split at added
    · cases added
      cases member
    · cases added

theorem admitsNamed_updateFromPrimary (topology : Topology) (keyed : topology.Keyed)
    (description : ServerDescription) (kind : description.type = .rsPrimary) :
    topology.AdmitsNamed description
      ((topology.store description).updateFromPrimary description) := by
  intro address server found member
  by_cases accepted : topology.acceptsSetName description = true
  · by_cases stale : topology.isStalePrimary description = true
    · rw [server?_updateFromPrimary_of_stale topology description accepted stale] at found
      split at found
      · cases found
        cases member
      · exact .inl found
    · have leads : topology.Leads description := ⟨kind, accepted, eq_false_of_ne_true stale⟩
      rw [server?_updateFromPrimary topology keyed description leads] at found
      split at found
      · cases found
        split at member
        · next own => exact .inr ⟨if_pos own, accepted⟩
        · next other =>
          rw [if_neg other]
          unfold subordinate at member ⊢
          cases known : topology.server? address with
          | none =>
            rw [known] at member
            cases member
          | some before =>
            rw [known] at member
            dsimp only at member ⊢
            split at member
            · cases member
            · next follower => exact .inl (by rw [if_neg follower])
      · cases found
  · have refused := eq_false_of_ne_true accepted
    rw [server?_updateFromPrimary_of_refused topology description refused] at found
    split at found
    · cases found
    · exact .inl found

theorem admitsNamed_reaction (topology : Topology) (keyed : topology.Keyed)
    (description : ServerDescription) (next : Topology)
    (type : topology.type = .unknown ∨ topology.type.isReplicaSet = true)
    (effect : Reaction (topology.store description) description next) :
    topology.AdmitsNamed description next := by
  have outsider (kind : description.type.isMember = false) :
      topology.AdmitsNamed description (topology.store description) :=
    admitsNamed_store topology description fun member => by
      rw [kind] at member
      cases member
  have silent (kind : description.type = .rsGhost ∨ description.type = .unknown) :
      description.type.isMember = false := by
    rcases kind with kind | kind
    all_goals
      rw [kind]
      rfl
  cases effect with
  | direct single =>
    have stored : topology.type = .single := single
    rw [stored] at type
    rcases type with type | type <;> cases type
  | shard sharded | intruder sharded =>
    have stored : topology.type = .sharded := sharded
    rw [stored] at type
    rcases type with type | type <;> cases type
  | standalone _ kind =>
    unfold updateFromStandalone
    split
    · exact outsider (by rw [kind]; rfl)
    · exact admitsNamed_store_remove topology description
  | router _ kind => exact outsider (by rw [kind]; rfl)
  | waiting _ kind => exact outsider (silent kind)
  | primary _ kind => exact admitsNamed_updateFromPrimary topology keyed description kind
  | member =>
    unfold updateWithoutPrimary
    split
    · next accepted =>
      have stored : topology.AdmitsNamed description (topology.store description) :=
        admitsNamed_store topology description fun _ => accepted
      have grown := admitsNamed_addHosts topology _ description stored
      dsimp only
      split
      · exact admitsNamed_remove topology _ description grown _
      · exact grown
    · exact admitsNamed_store_remove topology description
  | stranger => exact admitsNamed_store_remove topology description
  | subject =>
    unfold updateFromMember
    dsimp only
    split
    · exact admitsNamed_store_remove topology description
    · next kept =>
      have named : (topology.store description).setName = description.setName ∧
          description.hasOtherAddress = false := by simpa using kept
      exact admitsNamed_store topology description fun _ =>
        (acceptsSetName_iff topology description).2 (.inr named.1)
  | deserter => exact admitsNamed_store_remove topology description
  | silence _ kind => exact outsider (silent kind)

/-! ### One name for all -/

/-- A picture keeps to one name: the options give it or the first member tells it, and no member of
the set, nor a server that is talked to directly, reports another one. -/
structure OneName (options : ClientOptions) (topology : Topology) : Prop where
  given : ∀ name, options.replicaSet = some name → topology.setName = some name
  known : topology.type.isReplicaSet = true → topology.setName.isSome = true
  shared : topology.type.isReplicaSet = true → ∀ address server,
    topology.server? address = some server → server.type.isMember = true →
    server.setName = topology.setName
  direct : topology.type = .single → ∀ name, options.replicaSet = some name →
    ∀ address server, topology.server? address = some server → server.isAvailable = true →
    server.setName = some name
  undecided : topology.type = .unknown → options.replicaSet = none

theorem oneName_initial (options : ClientOptions) : (initial options).OneName options := by
  have unchecked (address : ServerAddress) (server : ServerDescription)
      (found : (initial options).server? address = some server) : server.type = .unknown := by
    rw [eq_unknown_of_initial options address server found]
    rfl
  refine ⟨fun name given => given, ?_, ?_, ?_, ?_⟩
  · intro set
    rcases type_initial_cases options with ⟨-, type⟩ | ⟨-, ⟨named, -⟩ | ⟨-, type⟩⟩
    · rw [type] at set
      cases set
    · exact named
    · rw [type] at set
      cases set
  · intro _ address server found member
    rw [unchecked address server found] at member
    cases member
  · intro _ _ _ address server found available
    rw [ServerDescription.isAvailable, unchecked address server found] at available
    cases available
  · exact replicaSet_of_initial_unknown options

theorem server?_updateSingle (topology : Topology) (description : ServerDescription)
    (address : ServerAddress) :
    ((topology.store description).updateSingle description).server? address =
      if address = description.address then
        if description.isAvailable && !topology.acceptsSetName description then
          some (.ofError description.address (topology.setNameMismatch description))
        else some description
      else topology.server? address := by
  have test : (topology.store description).acceptsSetName description =
      topology.acceptsSetName description := rfl
  unfold updateSingle
  rw [test]
  split
  · exact server?_store_store topology description (.ofError description.address _) rfl address
  · exact server?_store topology description address

/-- The name of a replica set outlasts every effect. -/
theorem setName_of_known (topology : Topology) (description : ServerDescription)
    (name : String) (known : topology.setName = some name) :
    ((topology.store description).react description).setName = some name := by
  rcases setName_reaction _ description _ (reaction (topology.store description) description) with
    ⟨same, -⟩ | ⟨adopted, -⟩
  · exact same.trans known
  · exact adopted.trans (adoptedName_of_known (topology.store description) description name known)

theorem isSome_setName_react (options : ClientOptions) (topology : Topology)
    (oneName : topology.OneName options) (description : ServerDescription)
    (reported : description.Reported)
    (set : ((topology.store description).react description).type.isReplicaSet = true) :
    ((topology.store description).react description).setName.isSome = true := by
  have effect := reaction (topology.store description) description
  rcases setName_reaction _ description _ effect with ⟨same, undecided⟩ | ⟨adopted, member⟩
  · rcases (type_reaction _ description _ effect set).1 with stillOpen | wasSet
    · rw [undecided stillOpen] at set
      cases set
    · rw [same]
      exact oneName.known wasSet
  · rw [adopted]
    exact isSome_adoptedName _ description
      (description.isSome_setName_of_reported reported member)

/-- A member that was there before reports the name that was known, and one that is let in reports
the name that was known or is adopted from it. -/
theorem setName_of_member_react (options : ClientOptions) (topology : Topology)
    (consistent : topology.Consistent) (oneName : topology.OneName options)
    (description : ServerDescription)
    (set : ((topology.store description).react description).type.isReplicaSet = true)
    (address : ServerAddress) (server : ServerDescription)
    (found : ((topology.store description).react description).server? address = some server)
    (member : server.type.isMember = true) :
    server.setName = ((topology.store description).react description).setName := by
  have effect := reaction (topology.store description) description
  have before : topology.type = .unknown ∨ topology.type.isReplicaSet = true :=
    (type_reaction _ description _ effect set).1
  -- In a deployment of open kind no member stands in the picture, so a member that was there before
  -- was one of a set with a name.
  rcases admitsNamed_reaction topology consistent.keyed description _ before effect address server
    found member with was | ⟨rfl, accepted⟩
  · rcases before with stillOpen | wasSet
    · rcases consistent.undecided stillOpen address server was with type | type
      · rw [type] at member
        cases member
      · rw [type] at member
        cases member
    · obtain ⟨name, known⟩ := Option.isSome_iff_exists.1 (oneName.known wasSet)
      rw [setName_of_known topology description name known, ← known]
      exact oneName.shared wasSet address server was member
  · rcases setName_reaction _ server _ effect with ⟨same, undecided⟩ | ⟨adopted, -⟩
    · rcases before with stillOpen | wasSet
      · rw [undecided stillOpen] at set
        cases set
      · rw [same]
        have known := Option.isSome_iff_ne_none.1 (oneName.known wasSet)
        exact (((acceptsSetName_iff topology server).1 accepted).resolve_left known).symm
    · rw [adopted]
      exact (adoptedName_of_accepted (topology.store server) server accepted).symm

/-- A server that is talked to directly and is available afterwards has the name it must have. -/
theorem setName_of_direct_react (options : ClientOptions) (topology : Topology)
    (oneName : topology.OneName options) (description : ServerDescription)
    (single : ((topology.store description).react description).type = .single) (name : String)
    (given : options.replicaSet = some name) (address : ServerAddress)
    (server : ServerDescription)
    (found : ((topology.store description).react description).server? address = some server)
    (available : server.isAvailable = true) : server.setName = some name := by
  have effect := reaction (topology.store description) description
  -- Only a direct connection stays that way under a given name: a deployment of open kind, which
  -- might still become a single server, has options that give none.
  rcases single_reaction _ description _ effect single with ⟨type, same⟩ | ⟨stillOpen, -, -⟩
  · rw [same, server?_updateSingle] at found
    split at found
    · split at found
      · cases found
        cases available
      · next matching =>
        cases found
        have accepted : topology.acceptsSetName description = true := by
          simpa [available] using matching
        rw [← oneName.given name given]
        rcases (acceptsSetName_iff topology description).1 accepted with unnamed | named
        · rw [oneName.given name given] at unnamed
          cases unnamed
        · exact named.symm
    · exact oneName.direct type name given address server found available
  · rw [oneName.undecided stillOpen] at given
    cases given

theorem oneName_react (options : ClientOptions) (topology : Topology)
    (consistent : topology.Consistent) (oneName : topology.OneName options)
    (description : ServerDescription) (reported : description.Reported) :
    ((topology.store description).react description).OneName options where
  given name given := setName_of_known topology description name (oneName.given name given)
  known := isSome_setName_react options topology oneName description reported
  shared := setName_of_member_react options topology consistent oneName description
  direct := setName_of_direct_react options topology oneName description
  undecided stillOpen := oneName.undecided
    (open_reaction topology description _ (reaction (topology.store description) description)
      stillOpen).1

theorem oneName_refresh (options : ClientOptions) (topology : Topology)
    (oneName : topology.OneName options) : topology.refresh.OneName options :=
  ⟨oneName.given, oneName.known, oneName.shared, oneName.direct, oneName.undecided⟩

theorem oneName_of_reachable (options : ClientOptions) (topology : Topology)
    (reached : Reachable options topology) : topology.OneName options := by
  refine (reachable_induction options (fun topology => topology.Consistent ∧
    topology.OneName options) (fun _ => ⟨consistent_initial options, oneName_initial options⟩) ?_
    topology reached).2
  rintro before description ⟨consistent, oneName⟩ reported _
  exact ⟨consistent_refresh _ (consistent_react before consistent description),
    oneName_refresh options _
      (oneName_react options before consistent oneName description reported)⟩

theorem setName_applyAll (topology : Topology) (name : String)
    (known : topology.setName = some name) (descriptions : List ServerDescription) :
    (topology.applyAll descriptions).setName = some name :=
  applyAll_induction (fun _ => True) (fun later => later.setName = some name)
    (fun before description kept _ _ => setName_of_known before description name kept)
    descriptions (fun _ _ => trivial) topology known

/-- A replica set has one name. It is the one that the options give, if they give one; it is the
same ever after, and all members that are tracked report it. If a server that is talked to directly
must belong to a set, it counts as available only if it reports the name of that set, and with any
other name it is unknown, with a fault of the configuration. -/
theorem members_share_one_name (options : ClientOptions) (topology : Topology)
    (reached : Reachable options topology) :
    (topology.type.isReplicaSet = true → ∃ name, topology.setName = some name ∧
      (∀ given, options.replicaSet = some given → name = given) ∧
      (∀ descriptions, (topology.applyAll descriptions).setName = some name) ∧
      ∀ entry ∈ topology.servers.entries,
        entry.2.type ∈ [.rsPrimary, .rsSecondary, .rsArbiter, .rsOther] →
        entry.2.setName = some name) ∧
      (topology.type = .single → ∀ name, options.replicaSet = some name →
        (∀ entry ∈ topology.servers.entries, entry.2.isAvailable = true →
          entry.2.setName = some name) ∧
        ∀ description current, topology.server? description.address = some current →
          isOutdated current description = false → description.isAvailable = true →
          description.setName ≠ some name →
          ∃ server, (topology.apply description).server? description.address = some server ∧
            server.type = .unknown ∧ ∃ message, server.error = some (.configuration message)) := by
  have oneName := oneName_of_reachable options topology reached
  have found (entry : ServerAddress × ServerDescription)
      (member : entry ∈ topology.servers.entries) : topology.server? entry.1 = some entry.2 :=
    (AddressMap.get?_eq_some_iff _).2 member
  constructor
  · intro set
    obtain ⟨name, known⟩ := Option.isSome_iff_exists.1 (oneName.known set)
    refine ⟨name, known, fun given asked => ?_, setName_applyAll topology name known,
      fun entry member kind => ?_⟩
    · exact Option.some.inj (known.symm.trans (oneName.given given asked))
    · have isMember : entry.2.type.isMember = true := by
        simp only [List.mem_cons, List.not_mem_nil, or_false] at kind
        rcases kind with kind | kind | kind | kind
        all_goals
          rw [kind]
          rfl
      exact (oneName.shared set _ _ (found entry member) isMember).trans known
  · intro type name given
    refine ⟨fun entry member => oneName.direct type name given _ _ (found entry member), ?_⟩
    intro description current known recent available other
    have refused : topology.acceptsSetName description = false := by
      refine Bool.eq_false_iff.2 fun accepted => ?_
      rcases (acceptsSetName_iff topology description).1 accepted with unnamed | same
      · rw [oneName.given name given] at unnamed
        cases unnamed
      · exact other (same.symm.trans (oneName.given name given))
    have effect : (topology.store description).react description =
        (topology.store description).updateSingle description := by
      have stored : (topology.store description).type = .single := type
      unfold react
      rw [stored]
    refine ⟨.ofError description.address (topology.setNameMismatch description), ?_, rfl, _, rfl⟩
    rw [apply_of_tracked topology description current known recent, server?_refresh, effect,
      server?_updateSingle, if_pos rfl, available, refused]
    rfl

/-- A server that is talked to directly and must belong to a set. -/
def directOptions : ClientOptions :=
  { hosts := [⟨"left", 27017⟩], replicaSet := some "other", directConnection := some true }

theorem members_share_one_name_pair :
    (∃ name, pairLed.setName = some name ∧
        ∀ entry ∈ pairLed.servers.entries,
          entry.2.type ∈ [.rsPrimary, .rsSecondary, .rsArbiter, .rsOther] →
          entry.2.setName = some name) ∧
      ∃ server, ((initial directOptions).apply (pairReport "left" 1)).server? ⟨"left", 27017⟩ =
          some server ∧ server.type = .unknown ∧
        ∃ message, server.error = some (.configuration message) := by
  obtain ⟨name, known, -, -, shared⟩ :=
    (members_share_one_name pairOptions pairLed reachable_pairLed).1 (by decide +kernel)
  have direct := (members_share_one_name directOptions (initial directOptions) (.start _ rfl)).2
    rfl "other" rfl
  exact ⟨⟨name, known, shared⟩, direct.2 (pairReport "left" 1) (.unknown ⟨"left", 27017⟩) rfl rfl
    (by decide +kernel) (by decide +kernel)⟩

end Topology

end DocumentDriver
