/-
This file proves what a description changes that is repeated. A server that reports the same again
changes nothing, in all cases but two. In both the first report has changed who leads the set, so
that the second one is judged by other rules. A third report never changes anything.
-/

import DocumentDriver.Proofs.Topology.Absorption
import DocumentDriver.Proofs.Topology.Sameness

namespace DocumentDriver

namespace Topology

/-! ### Descriptions that are heard -/

/-- The server is tracked, and it has not described a later state before. -/
def Hears (topology : Topology) (description : ServerDescription) : Prop :=
  ∃ current, topology.server? description.address = some current ∧
    isOutdated current description = false

theorem apply_of_hears (topology : Topology) (description : ServerDescription)
    (hears : topology.Hears description) :
    topology.apply description = ((topology.store description).react description).refresh := by
  obtain ⟨current, found, recent⟩ := hears
  exact apply_of_tracked topology description current found recent

theorem apply_of_not_hears (topology : Topology) (description : ServerDescription)
    (deaf : ¬ topology.Hears description) : topology.apply description = topology := by
  unfold apply
  split
  · rfl
  · next current found =>
    split
    · rfl
    · next recent => exact absurd ⟨current, found, eq_false_of_ne_true recent⟩ deaf

/-- A description that is kept is heard again. -/
theorem apply_of_kept (topology : Topology) (description : ServerDescription)
    (found : topology.server? description.address = some description) :
    topology.apply description = (topology.react description).refresh := by
  rw [apply_of_hears topology description ⟨description, found, isOutdated_self description⟩,
    store_eq_self topology description found]

/-! ### Descriptions that count differently when repeated -/

/-- The server that was the primary has become another member, and it lists a server that is not
tracked. Beside a primary no member but it decides which servers are tracked, and there is none once
this member has been heard. -/
structure Abdicates (topology : Topology) (description : ServerDescription) : Prop where
  type : topology.type = .replicaSetWithPrimary
  kind : description.type.isFollower = true
  named : topology.setName = description.setName
  own : description.hasOtherAddress = false
  led : topology.PrimaryAt description.address
  lists : ∃ host ∈ description.allHosts, topology.tracks host = false

/-- A primary reports an older version of the configuration than the one that is known, and leads
all the same, because no identifier of an election is known beside that version. Once the primary
has been heard, its own identifier is, and then the versions count. -/
structure Overtakes (topology : Topology) (description : ServerDescription) : Prop where
  set : topology.type.isReplicaSet = true
  leads : topology.Leads description
  own : description.address ∈ description.allHosts
  second : description.comparesElectionFirst = false
  identified : description.electionId.isSome = true
  unidentified : topology.election.id = none
  older : ∃ version greatest, description.setVersion = some version ∧
    topology.election.setVersion = some greatest ∧ version < greatest

/-- The description is heard, and counts differently when repeated. -/
def Wavers (topology : Topology) (description : ServerDescription) : Prop :=
  topology.Hears description ∧
    (topology.Abdicates description ∨ topology.Overtakes description)

/-! ### As long as the kind is open -/

/-- As long as the kind is open, the set has no name, and no election is known. -/
def IsBlank (topology : Topology) : Prop :=
  topology.type = .unknown → topology.setName = none ∧ topology.election.setVersion = none

theorem isBlank_initial (options : ClientOptions) : (initial options).IsBlank :=
  fun stillOpen => ⟨replicaSet_of_initial_unknown options stillOpen, rfl⟩

theorem isBlank_react (topology : Topology) (blank : topology.IsBlank)
    (description : ServerDescription) :
    ((topology.store description).react description).IsBlank := by
  intro stillOpen
  obtain ⟨wasOpen, ⟨-, same⟩ | same⟩ := undecided_reaction _ description _
    (reaction (topology.store description) description) stillOpen
  · rw [same]
    exact blank wasOpen
  · rw [same]
    exact blank wasOpen

theorem isBlank_apply (topology : Topology) (blank : topology.IsBlank)
    (description : ServerDescription) : (topology.apply description).IsBlank :=
  holds_apply IsBlank topology description blank fun _ => isBlank_react topology blank description

theorem isBlank_of_reachable (options : ClientOptions) (topology : Topology)
    (reached : Reachable options topology) : topology.IsBlank :=
  reachable_induction options IsBlank (fun _ => isBlank_initial options)
    (fun before description blank _ _ => isBlank_react before blank description) topology reached

/-! ### The second time, where it changes nothing -/

/-- Beside a greater version only an election without an identifier lets a complete one lead. -/
theorem unidentified_of_leads (topology : Topology) (description : ServerDescription)
    (leads : topology.Leads description) (second : description.comparesElectionFirst = false)
    (identified : description.electionId.isSome = true) (version greatest : Int64)
    (told : description.setVersion = some version)
    (known : topology.election.setVersion = some greatest) (older : version < greatest) :
    topology.election.id = none := by
  obtain ⟨id, told⟩ := Option.isSome_iff_exists.1 identified
  have current := leads.2.2
  cases recorded : topology.election.id with
  | none => rfl
  | some knownId =>
    simp_all [isStalePrimary, Election.isOlderByVersion, ServerDescription.election]

/-- A primary that leads has nothing left to change, unless it overtakes itself. -/
theorem absorbs_of_leads (topology : Topology) (keyed : topology.Keyed) (blank : topology.IsBlank)
    (description : ServerDescription)
    (type : topology.type = .unknown ∨ topology.type.isReplicaSet = true)
    (leads : topology.Leads description) (listed : description.address ∈ description.allHosts)
    (steady : ¬ topology.Overtakes description) :
    ((topology.store description).updateFromPrimary description).refresh.Absorbs description := by
  have found : ((topology.store description).updateFromPrimary description).server?
      description.address = some description := by
    rw [server?_updateFromPrimary topology keyed description leads, if_pos listed, if_pos rfl]
  have named : ((topology.store description).updateFromPrimary description).setName =
      description.setName :=
    setName_updateFromPrimary_of_accepted (topology.store description) description leads.2.1
  have recorded : ((topology.store description).updateFromPrimary description).election =
      (topology.recordElection description).election :=
    election_updateFromPrimary_of_leads (topology.store description) description leads
  have current : ((topology.store description).updateFromPrimary description).isStalePrimary
      description = false := by
    rw [isStalePrimary_congr _ _ recorded]
    refine Bool.eq_false_iff.2 fun stale => ?_
    obtain ⟨second, identified, version, greatest, told, known, older⟩ :=
      (isStalePrimary_recordElection topology description).1 stale
    have set : topology.type.isReplicaSet = true := by
      refine type.resolve_left fun stillOpen => ?_
      rw [(blank stillOpen).2] at known
      cases known
    exact steady ⟨set, leads, listed, second, identified, unidentified_of_leads topology description
      leads second identified version greatest told known older, version, greatest, told, known,
      older⟩
  refine absorbs_of_keeps _ description found (.leader ?_ ⟨leads.1, ?_, current⟩ named ?_ ?_ ?_
    (tracks_updateFromPrimary topology keyed description leads) ?_)
  · exact isReplicaSet_updateFromPrimary _ description
  · exact (acceptsSetName_iff _ description).2 (.inr named)
  · exact (election_recordElection_congr _ _ recorded description).trans
      ((election_recordElection_recordElection topology description).trans recorded.symm)
  · exact keyed_updateFromPrimary _ (keyed_store topology keyed description) description
  · exact fun address primary => ((primaryAt_updateFromPrimary topology keyed description leads
      address).1 primary).1
  · exact congrArg refresh (refreshPrimary_updateFromPrimary _ description)

/-- A primary whose election is over has nothing left to change. -/
theorem absorbs_of_isStalePrimary (topology : Topology) (description : ServerDescription)
    (kind : description.type = .rsPrimary)
    (accepted : topology.acceptsSetName description = true)
    (stale : topology.isStalePrimary description = true) :
    ((topology.store description).updateFromPrimary description).refresh.Absorbs description := by
  have follows : ¬ (topology.store description).Leads description := fun leads =>
    Bool.eq_false_iff.1 leads.2.2 stale
  have recorded : ((topology.store description).updateFromPrimary description).election =
      topology.election := election_updateFromPrimary_of_follows _ description kind follows
  refine absorbs_of_stale _ description (isReplicaSet_updateFromPrimary _ description) kind
    (setName_updateFromPrimary_of_accepted (topology.store description) description accepted)
    ((isStalePrimary_congr _ _ recorded description).trans stale)
    (congrArg refresh (refreshPrimary_updateFromPrimary _ description)) ?_
  rw [server?_refresh, server?_updateFromPrimary_of_stale topology description accepted stale,
    if_pos rfl]

/-- Beside a primary, a description of another kind ends its lead exactly if it comes from its
address. -/
theorem type_refreshPrimary_store (topology : Topology) (consistent : topology.Consistent)
    (type : topology.type = .replicaSetWithPrimary) (description : ServerDescription)
    (kind : description.type ≠ .rsPrimary) :
    (topology.store description).refreshPrimary.type = .replicaSetNoPrimary ↔
      topology.PrimaryAt description.address := by
  have set : topology.type.isReplicaSet = true := by rw [type]; rfl
  have elsewhere (address : ServerAddress) (distinct : address ≠ description.address) :
      (topology.store description).PrimaryAt address ↔ topology.PrimaryAt address := by
    unfold PrimaryAt
    rw [server?_store, if_neg distinct]
  have silenced : ¬ (topology.store description).PrimaryAt description.address := by
    rintro ⟨server, found, primary⟩
    rw [server?_store_self] at found
    cases found
    exact kind primary
  constructor
  · intro unled
    obtain ⟨address, primary⟩ := (consistent.agrees set).1 type
    by_contra remains
    have distinct : address ≠ description.address := fun own => remains (own ▸ primary)
    have led := (type_refreshPrimary (topology.store description)).2
      ⟨address, (elsewhere address distinct).2 primary⟩
    rw [unled] at led
    cases led
  · intro primary
    refine (type_refreshPrimary_or (topology.store description)).resolve_left fun led => ?_
    obtain ⟨address, other⟩ := (type_refreshPrimary (topology.store description)).1 led
    by_cases own : address = description.address
    · exact silenced (own ▸ other)
    · exact own (consistent.sole set _ _ ((elsewhere address own).1 other) primary)

/-- Whatever a description has brought about, it has nothing left to change or is forgotten, unless
it wavers. -/
theorem absorbs_of_reaction (topology : Topology) (consistent : topology.Consistent)
    (blank : topology.IsBlank) (description : ServerDescription)
    (abides : ¬ topology.Abdicates description) (steady : ¬ topology.Overtakes description)
    (next : Topology) (effect : Reaction (topology.store description) description next) :
    next.server? description.address = none ∨ next.refresh.Absorbs description := by
  have stored := server?_store_self topology description
  have removed (before : Topology) := server?_remove_self before description.address
  cases effect with
  | direct type =>
    unfold updateSingle
    split
    · next differs =>
      exact .inr (absorbs_of_mismatch _ description type differs (server?_store_self _ _))
    · next fits =>
      exact .inr (absorbs_of_keeps _ description stored (.direct type (eq_false_of_ne_true fits)))
  | standalone type =>
    unfold updateFromStandalone
    split
    · have accepted : topology.acceptsSetName description = true :=
        (acceptsSetName_iff topology description).2 (.inl (blank type).1)
      refine .inr (absorbs_of_keeps _ description stored (.direct rfl ?_))
      exact Bool.and_eq_false_imp.2 fun _ => congrArg not accepted
    · exact .inl (removed _)
  | router _ kind => exact .inr (absorbs_of_keeps _ description stored (.shard rfl (.inl kind)))
  | waiting type kind =>
    exact .inr (absorbs_of_keeps _ description stored (.waiting type kind))
  | shard type kind => exact .inr (absorbs_of_keeps _ description stored (.shard type kind))
  | intruder | stranger | deserter => exact .inl (removed _)
  | primary type kind =>
    by_cases accepted : topology.acceptsSetName description = true
    · by_cases stale : topology.isStalePrimary description = true
      · exact .inr (absorbs_of_isStalePrimary topology description kind accepted stale)
      · have leads : topology.Leads description := ⟨kind, accepted, eq_false_of_ne_true stale⟩
        by_cases listed : description.address ∈ description.allHosts
        · exact .inr (absorbs_of_leads topology consistent.keyed blank description type leads listed
            steady)
        · refine .inl ?_
          rw [server?_updateFromPrimary topology consistent.keyed description leads, if_neg listed]
    · refine .inl ?_
      rw [server?_updateFromPrimary_of_refused topology description (eq_false_of_ne_true accepted),
        if_pos rfl]
  | member _ kind =>
    unfold updateWithoutPrimary
    split
    · next accepted =>
      dsimp only
      split
      · exact .inl (removed _)
      · next own =>
        refine .inr (absorbs_of_keeps _ description ?_ (.member rfl kind
          (setName_adoptSetName _ description accepted) (eq_false_of_ne_true own) fun host listed =>
            (tracks_addHosts _ description host).2 (.inr listed)))
        rw [server?_refresh, server?_addHosts, server?_adoptSetName, server?_withType, stored]
        rfl
    · exact .inl (removed _)
  | subject type kind =>
    unfold updateFromMember
    dsimp only
    split
    · exact .inl (removed _)
    · next kept =>
      have agrees : (topology.store description).setName = description.setName ∧
          description.hasOtherAddress = false := by simpa using kept
      obtain ⟨named, own⟩ := agrees
      refine .inr (absorbs_of_keeps _ description stored ?_)
      rcases type_refreshPrimary_or (topology.store description) with led | unled
      · exact .subject led kind named own rfl
      · -- The lead has ended, so the servers that the follower lists count from now on.
        have primary := (type_refreshPrimary_store topology consistent type description
          (ServerType.ne_rsPrimary_of_isFollower kind)).1 unled
        refine .member unled kind named own fun host listed => ?_
        by_contra missing
        have untracked : ¬ topology.tracks host = true := fun tracked =>
          missing ((tracks_store topology description host).2 (.inr tracked))
        exact abides ⟨type, kind, named, own, primary, host, listed, eq_false_of_ne_true untracked⟩
  | silence type kind =>
    refine .inr (absorbs_of_keeps _ description stored ?_)
    rcases type_refreshPrimary_or (topology.store description) with led | unled
    · exact .silence led kind rfl
    · exact .waiting (.inr unled) kind

theorem apply_apply_of_not_wavers (topology : Topology) (consistent : topology.Consistent)
    (blank : topology.IsBlank) (description : ServerDescription)
    (steady : ¬ topology.Wavers description) :
    (topology.apply description).apply description = topology.apply description := by
  by_cases hears : topology.Hears description
  · rw [apply_of_hears topology description hears]
    rcases absorbs_of_reaction topology consistent blank description
      (fun abdicates => steady ⟨hears, .inl abdicates⟩)
      (fun overtakes => steady ⟨hears, .inr overtakes⟩) _
      (reaction (topology.store description) description) with forgotten | absorbs
    · refine apply_of_not_hears _ description ?_
      rintro ⟨current, found, -⟩
      rw [server?_refresh, forgotten] at found
      cases found
    · exact apply_of_absorbs _ description absorbs
  · rw [apply_of_not_hears topology description hears,
      apply_of_not_hears topology description hears]

/-! ### The second time, where it changes something -/

/-- The first time a former primary is heard, its lead ends. -/
theorem apply_of_abdicates (topology : Topology) (consistent : topology.Consistent)
    (description : ServerDescription) (hears : topology.Hears description)
    (abdicates : topology.Abdicates description) :
    topology.apply description = (topology.store description).refreshPrimary.refresh ∧
      (topology.apply description).type = .replicaSetNoPrimary := by
  have applied : topology.apply description =
      (topology.store description).refreshPrimary.refresh := by
    rw [apply_of_hears topology description hears,
      (react_of_follower (topology.store description) description abdicates.kind).2 abdicates.type,
      updateFromMember_of_named (topology.store description) description abdicates.named
        abdicates.own]
  refine ⟨applied, ?_⟩
  rw [applied]
  exact (type_refreshPrimary_store topology consistent abdicates.type description
    (ServerType.ne_rsPrimary_of_isFollower abdicates.kind)).2 abdicates.led

/-- The second time, the servers that it lists are tracked. -/
theorem not_same_of_abdicates (topology : Topology) (consistent : topology.Consistent)
    (description : ServerDescription) (hears : topology.Hears description)
    (abdicates : topology.Abdicates description) :
    ((topology.apply description).apply description).same (topology.apply description) = false := by
  obtain ⟨applied, unled⟩ := apply_of_abdicates topology consistent description hears abdicates
  obtain ⟨host, listed, untracked⟩ := abdicates.lists
  obtain ⟨current, found, -⟩ := hears
  have kept : (topology.apply description).server? description.address = some description := by
    rw [applied]
    exact server?_store_self topology description
  have named : (topology.apply description).setName = description.setName := by
    rw [applied]
    exact abdicates.named
  have again : (topology.apply description).apply description =
      ((topology.apply description).addHosts description).refresh := by
    rw [apply_of_kept _ description kept, (react_of_follower _ description abdicates.kind).1 unled,
      updateWithoutPrimary_of_named _ description named abdicates.own]
  refine Bool.eq_false_iff.2 fun same => ?_
  have grown : ((topology.apply description).apply description).tracks host = true := by
    rw [again]
    exact (tracks_addHosts _ description host).2 (.inr listed)
  have tracked := (tracks_of_same _ _ same host).1 grown
  rw [applied] at tracked
  have before : topology.tracks host = true := by
    rcases (tracks_store topology description host).1 tracked with own | known
    · exact own ▸ (tracks_iff topology description.address).2 ⟨current, found⟩
    · exact known
  rw [untracked] at before
  cases before

/-- The first time a primary that overtakes itself is heard, it leads, and its own election is over
from then on. -/
theorem apply_of_overtakes (topology : Topology) (consistent : topology.Consistent)
    (description : ServerDescription) (hears : topology.Hears description)
    (overtakes : topology.Overtakes description) :
    topology.apply description =
        ((topology.store description).updateFromPrimary description).refresh ∧
      (topology.apply description).type = .replicaSetWithPrimary ∧
      (topology.apply description).isStalePrimary description = true := by
  have applied : topology.apply description =
      ((topology.store description).updateFromPrimary description).refresh := by
    rw [apply_of_hears topology description hears, react_of_primary (topology.store description)
      description (.inr overtakes.set) overtakes.leads.1]
  refine ⟨applied, ?_, ?_⟩
  · rw [applied]
    exact (type_updateFromPrimary (topology.store description) description).2
      ⟨description.address, (primaryAt_updateFromPrimary topology consistent.keyed description
        overtakes.leads description.address).2 ⟨rfl, overtakes.own⟩⟩
  · have recorded : (topology.apply description).election =
        (topology.recordElection description).election := by
      rw [applied]
      exact election_updateFromPrimary_of_leads (topology.store description) description
        overtakes.leads
    rw [isStalePrimary_congr _ _ recorded]
    exact (isStalePrimary_recordElection topology description).2
      ⟨overtakes.second, overtakes.identified, overtakes.older⟩

/-- The second time, it is refused, and the set has no primary. -/
theorem not_same_of_overtakes (topology : Topology) (consistent : topology.Consistent)
    (description : ServerDescription) (hears : topology.Hears description)
    (overtakes : topology.Overtakes description) :
    ((topology.apply description).apply description).same (topology.apply description) = false := by
  obtain ⟨applied, led, stale⟩ :=
    apply_of_overtakes topology consistent description hears overtakes
  have primaryAt := primaryAt_updateFromPrimary topology consistent.keyed description
    overtakes.leads
  have kept : (topology.apply description).server? description.address = some description := by
    rw [applied, server?_refresh, server?_updateFromPrimary topology consistent.keyed description
      overtakes.leads, if_pos overtakes.own, if_pos rfl]
  have accepted : (topology.apply description).acceptsSetName description = true := by
    rw [applied]
    exact (acceptsSetName_iff _ description).2 (.inr (setName_updateFromPrimary_of_accepted
      (topology.store description) description overtakes.leads.2.1))
  refine Bool.eq_false_iff.2 fun same => ?_
  have stillLed := (type_of_same _ _ same).trans led
  rw [apply_of_hears _ description ⟨description, kept, isOutdated_self description⟩,
    react_of_primary ((topology.apply description).store description) description
      (.inr (congrArg TopologyType.isReplicaSet led)) overtakes.leads.1] at stillLed
  obtain ⟨address, server, found, primary⟩ := (type_updateFromPrimary _ description).1 stillLed
  rw [server?_updateFromPrimary_of_stale _ description accepted stale] at found
  split at found
  · cases found
    cases primary
  · next distinct =>
    rw [applied] at found
    exact distinct ((primaryAt address).1 ⟨server, found, primary⟩).1

/-! ### The third time -/

/-- What counts differently the second time counts the same from then on. -/
theorem not_wavers_apply (topology : Topology) (consistent : topology.Consistent)
    (description : ServerDescription) (wavers : topology.Wavers description) :
    ¬ (topology.apply description).Wavers description := by
  obtain ⟨hears, abdicates | overtakes⟩ := wavers
  · rintro ⟨-, again | again⟩
    · have led := again.type
      rw [(apply_of_abdicates topology consistent description hears abdicates).2] at led
      cases led
    · exact ServerType.ne_rsPrimary_of_isFollower abdicates.kind again.leads.1
  · rintro ⟨-, again | again⟩
    · exact ServerType.ne_rsPrimary_of_isFollower again.kind overtakes.leads.1
    · have stale := (apply_of_overtakes topology consistent description hears overtakes).2.2
      rw [again.leads.2.2] at stale
      cases stale

/-- A description that is repeated changes nothing, unless it is heard and either ends the lead of
its own server, listing one that is not tracked, or tells the identifier of an election beside which
a greater version is known. In both cases the second time shows, and in no case the third. -/
theorem repetition_changes_nothing (options : ClientOptions) (topology : Topology)
    (reached : Reachable options topology) (description : ServerDescription) :
    (((topology.apply description).apply description).same (topology.apply description) = true ↔
        ¬ topology.Wavers description) ∧
      (¬ topology.Wavers description →
        (topology.apply description).apply description = topology.apply description) ∧
      ((topology.apply description).apply description).apply description =
        (topology.apply description).apply description := by
  have consistent := consistent_of_reachable options topology reached
  have blank := isBlank_of_reachable options topology reached
  have steady := apply_apply_of_not_wavers topology consistent blank description
  refine ⟨⟨fun same wavers => ?_, fun stays => ?_⟩, steady, ?_⟩
  · have differs : ((topology.apply description).apply description).same
        (topology.apply description) = false := by
      obtain ⟨hears, abdicates | overtakes⟩ := wavers
      · exact not_same_of_abdicates topology consistent description hears abdicates
      · exact not_same_of_overtakes topology consistent description hears overtakes
    rw [differs] at same
    cases same
  · rw [steady stays]
    exact same_refl _
  · by_cases wavers : topology.Wavers description
    · refine apply_apply_of_not_wavers _ ?_ ?_ description
        (not_wavers_apply topology consistent description wavers)
      · exact consistent_applyAll topology consistent [description]
      · exact isBlank_apply topology blank description
    · rw [steady wavers, steady wavers]

/-- The picture once the first server of the pair leads. -/
def pairFirst : Topology := (initial pairOptions).apply (pairReport "left" 5)

theorem reachable_pairFirst : Reachable pairOptions pairFirst :=
  .step _ _ (.start _ rfl) (.replied _ _ _ _)

/-- The answer of the first server of the pair once it leads no more and knows of a third one. -/
def pairResigned : ServerDescription :=
  .ofReply ⟨"left", 27017⟩
    [("ok", .int32 1), ("secondary", .boolean true), ("setName", .string "pair"),
      ("maxWireVersion", .int32 17),
      ("hosts", .array [.string "left", .string "right", .string "third"])] none .zero

theorem repetition_changes_nothing_pair :
    pairFirst.apply (pairReport "right" 6) ≠ pairFirst ∧
      (pairFirst.apply (pairReport "right" 6)).apply (pairReport "right" 6) =
        pairFirst.apply (pairReport "right" 6) ∧
      pairFirst.Wavers pairResigned ∧
      ((pairFirst.apply pairResigned).apply pairResigned).apply pairResigned =
        (pairFirst.apply pairResigned).apply pairResigned := by
  have steady := repetition_changes_nothing pairOptions pairFirst reachable_pairFirst
    (pairReport "right" 6)
  have resigned := repetition_changes_nothing pairOptions pairFirst reachable_pairFirst pairResigned
  refine ⟨fun same => ?_, steady.2.1 ?_, ?_, resigned.2.2⟩
  · have elections := congrArg (fun topology => topology.election.setVersion) same
    revert elections
    decide +kernel
  · rintro ⟨-, abdicates | overtakes⟩
    · exact absurd abdicates.kind (by decide +kernel)
    · exact absurd overtakes.second (by decide +kernel)
  · by_contra stays
    exact absurd (resigned.1.2 stays) (by decide +kernel)

/-- Both descriptions that count differently when repeated are reported. -/
theorem repetition_changes_pair :
    Reachable pairOptions pairFirst ∧ pairResigned.Reported ∧
      ((pairFirst.apply pairResigned).apply pairResigned).same (pairFirst.apply pairResigned) =
        false ∧
      (pairClaim "right" 1 3 9).Reported ∧
      ((pairFirst.apply (pairClaim "right" 1 3 9)).apply (pairClaim "right" 1 3 9)).same
        (pairFirst.apply (pairClaim "right" 1 3 9)) = false :=
  ⟨reachable_pairFirst, .replied _ _ _ _, by decide +kernel, .replied _ _ _ _, by decide +kernel⟩

end Topology

end DocumentDriver
