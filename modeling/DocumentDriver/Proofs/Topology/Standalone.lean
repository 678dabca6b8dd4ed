/-
This file says when a deployment counts as a single server. A standalone server is forgotten as
long as another server is tracked beside it. With several seeds a deployment therefore becomes a
single server only after all of them but one have been forgotten. That does happen, because the
servers that are tracked decide and not the seeds: it is ruled out exactly by the name of a set.
-/

import DocumentDriver.Proofs.Topology.Primary
import Mathlib.Data.List.Dedup

namespace DocumentDriver

/-- A map of one address holds that address and no other. -/
theorem AddressMap.size_eq_one_iff {Value : Type} (map : AddressMap Value) :
    map.size = 1 ↔ ∃ address, ∀ other, map.contains other = true ↔ other = address := by
  unfold size
  constructor
  · intro sole
    obtain ⟨entry, only⟩ := List.length_eq_one_iff.1 sole
    refine ⟨entry.1, fun other => ?_⟩
    rw [contains_iff, addresses, only]
    exact List.mem_singleton
  · rintro ⟨address, only⟩
    have same (entry : ServerAddress × Value) (member : entry ∈ map.entries) :
        entry.1 = address :=
      (only entry.1).1 (map.contains_iff.2 (List.mem_map_of_mem member))
    have ordered := map.ordered
    cases entries : map.entries with
    | nil =>
      have held : address ∈ map.addresses := map.contains_iff.1 ((only address).2 rfl)
      rw [addresses, entries] at held
      cases held
    | cons first rest =>
      rw [entries] at ordered same
      cases rest with
      | nil => rfl
      | cons second others =>
        have before := (List.pairwise_cons.1 ordered).1 second List.mem_cons_self
        rw [same first List.mem_cons_self,
          same second (List.mem_cons_of_mem _ List.mem_cons_self)] at before
        simp [ServerAddress.before_irrefl] at before

namespace ClientOptions

/-- A direct connection has exactly one seed. -/
theorem sole_host_of_validate (options : ClientOptions) (valid : options.validate = .ok ())
    (direct : options.directConnection = some true) : ∃ seed, options.hosts = [seed] := by
  unfold validate check at valid
  match hosts : options.hosts with
  | [] =>
    rw [if_pos (by rw [hosts]; rfl)] at valid
    cases valid
  | [seed] => exact ⟨seed, rfl⟩
  | _ :: _ :: _ =>
    have several : 1 < options.hosts.length := by
      rw [hosts]
      exact Nat.succ_lt_succ (Nat.succ_pos _)
    rw [if_neg (by rw [hosts]; exact Bool.false_ne_true), if_pos ⟨direct, several⟩] at valid
    cases valid

/-- Options with two different seeds do not ask for a direct connection. -/
theorem indirect_of_validate (options : ClientOptions) (valid : options.validate = .ok ())
    (first second : ServerAddress) (firstSeed : first ∈ options.hosts)
    (secondSeed : second ∈ options.hosts) (distinct : first ≠ second) :
    options.directConnection ≠ some true := by
  intro direct
  obtain ⟨seed, hosts⟩ := options.sole_host_of_validate valid direct
  rw [hosts, List.mem_singleton] at firstSeed secondSeed
  exact distinct (firstSeed.trans secondSeed.symm)

end ClientOptions

namespace Topology

/-! ### A standalone server beside others -/

/-- A standalone server is forgotten, unless it is all that is tracked. -/
theorem standalone_reaction (topology : Topology) (description : ServerDescription)
    (next : Topology) (effect : Reaction topology description next)
    (kind : description.type = .standalone) (notSingle : topology.type ≠ .single)
    (crowded : topology.servers.size ≠ 1) :
    next.type ≠ .single ∧ ∀ address,
      next.server? address = (topology.remove description.address).server? address := by
  have notOther (other : ServerType) (same : description.type = other)
      (differs : other ≠ .standalone) : False := differs (same.symm.trans kind)
  constructor
  · intro single
    rcases single_reaction topology description next effect single with
      ⟨wasSingle, -⟩ | ⟨-, sole, -⟩
    · exact notSingle wasSingle
    · exact crowded sole
  · intro address
    cases effect with
    | direct single => exact absurd single notSingle
    | standalone =>
      unfold updateFromStandalone
      rw [if_neg crowded]
    | intruder | stranger | deserter => rfl
    | router _ other => exact (notOther _ other (by decide)).elim
    | primary _ other => exact (notOther _ other (by decide)).elim
    | waiting _ other | shard _ other | silence _ other =>
      rcases other with other | other
      · exact (notOther _ other (by decide)).elim
      · exact (notOther _ other (by decide)).elim
    | member _ follower | subject _ follower =>
      rw [kind] at follower
      cases follower

theorem size_store_of_tracks (topology : Topology) (description : ServerDescription)
    (other : ServerAddress) (distinct : other ≠ description.address)
    (tracked : topology.tracks other = true) :
    (topology.store description).servers.size ≠ 1 := by
  rw [Ne, AddressMap.size_eq_one_iff]
  rintro ⟨sole, only⟩
  have own : description.address = sole :=
    (only _).1 ((tracks_store topology description _).2 (.inl rfl))
  have another : other = sole := (only _).1 ((tracks_store topology description _).2 (.inr tracked))
  exact distinct (another.trans own.symm)

/-- Beside another tracked server, a standalone one is forgotten, and nothing else changes. -/
theorem apply_standalone_beside (topology : Topology) (notSingle : topology.type ≠ .single)
    (description current : ServerDescription) (kind : description.type = .standalone)
    (found : topology.server? description.address = some current)
    (recent : isOutdated current description = false) (other : ServerAddress)
    (distinct : other ≠ description.address) (tracked : topology.tracks other = true) :
    (topology.apply description).type ≠ .single ∧ ∀ address,
      (topology.apply description).server? address =
        if address = description.address then none else topology.server? address := by
  have crowded := size_store_of_tracks topology description other distinct tracked
  obtain ⟨type, servers⟩ := standalone_reaction _ description _
    (reaction (topology.store description) description) kind notSingle crowded
  rw [apply_of_tracked topology description current found recent]
  exact ⟨type, fun address =>
    (servers address).trans (server?_store_remove topology description address)⟩

/-- In a deployment of open kind a standalone server decides by what is tracked beside it. -/
theorem apply_standalone_open (topology : Topology) (stillOpen : topology.type = .unknown)
    (description current : ServerDescription) (kind : description.type = .standalone)
    (found : topology.server? description.address = some current)
    (recent : isOutdated current description = false) :
    (topology.apply description).type =
      if (topology.store description).servers.size = 1 then .single else .unknown := by
  have react : (topology.store description).react description =
      (topology.store description).updateFromStandalone description := by
    have stored : (topology.store description).type = .unknown := stillOpen
    unfold react
    rw [stored, kind]
  rw [apply_of_tracked topology description current found recent, react]
  unfold updateFromStandalone
  split
  · rfl
  · exact stillOpen

/-! ### What is left of the seeds -/

/-- As long as the kind is open, only seeds are tracked, and of a single server only that one. In
either case the set has no name to go by. -/
structure OnlySeeds (options : ClientOptions) (topology : Topology) : Prop where
  undecided : topology.type = .unknown → options.replicaSet = none ∧
    ∀ address, topology.tracks address = true → address ∈ options.hosts
  sole : topology.type = .single → options.replicaSet = none ∧
    ∃ seed ∈ options.hosts, ∀ address, topology.tracks address = true ↔ address = seed

theorem tracks_initial (options : ClientOptions) (address : ServerAddress) :
    (initial options).tracks address = true ↔ address ∈ options.hosts := by
  rw [tracks_iff, server?_initial]
  by_cases seed : address ∈ options.hosts
  · simp [seed]
  · simp [seed]

theorem onlySeeds_initial (options : ClientOptions)
    (indirect : options.directConnection ≠ some true) : (initial options).OnlySeeds options := by
  refine ⟨fun stillOpen => ⟨?_, fun address => (tracks_initial options address).1⟩, ?_⟩
  · exact replicaSet_of_initial_unknown options stillOpen
  · intro single
    exact absurd (directConnection_of_initial_single options single) indirect

/-- As long as the kind stays open, no server is tracked that was not. -/
theorem tracks_of_open_reaction (topology : Topology) (description : ServerDescription)
    (next : Topology) (effect : Reaction topology description next)
    (stillOpen : next.type = .unknown) (address : ServerAddress)
    (later : next.tracks address = true) : topology.tracks address = true := by
  obtain ⟨-, ⟨-, rfl⟩ | rfl⟩ := undecided_reaction topology description next effect stillOpen
  · exact later
  · exact ((tracks_remove _ _ _).1 later).2

theorem tracks_updateSingle (topology : Topology) (description : ServerDescription)
    (address : ServerAddress) :
    ((topology.store description).updateSingle description).tracks address = true ↔
      address = description.address ∨ topology.tracks address = true := by
  unfold updateSingle
  split
  · rw [tracks_store, tracks_store, ServerDescription.address_ofError, ← or_assoc, or_self]
  · exact tracks_store topology description address

theorem onlySeeds_react (options : ClientOptions) (topology : Topology)
    (seeds : topology.OnlySeeds options) (description : ServerDescription)
    (tracked : topology.tracks description.address = true) :
    ((topology.store description).react description).OnlySeeds options := by
  have effect := reaction (topology.store description) description
  have stored (address : ServerAddress) :
      (topology.store description).tracks address = true ↔ topology.tracks address = true := by
    rw [tracks_store, or_iff_right_of_imp]
    rintro rfl
    exact tracked
  constructor
  · intro stillOpen
    obtain ⟨unnamed, fromSeeds⟩ :=
      seeds.undecided (open_reaction topology description _ effect stillOpen).1
    exact ⟨unnamed, fun address later => fromSeeds address ((stored address).1
      (tracks_of_open_reaction _ description _ effect stillOpen address later))⟩
  · intro single
    -- Either the one server was there before, or the kind was open until now, so that the one
    -- server left is among the seeds.
    rcases single_reaction _ description _ effect single with ⟨type, same⟩ | ⟨open_, size, same⟩
    · obtain ⟨unnamed, seed, member, only⟩ := seeds.sole type
      refine ⟨unnamed, seed, member, fun address => ?_⟩
      rw [same, tracks_updateSingle, ← tracks_store, stored]
      exact only address
    · obtain ⟨unnamed, fromSeeds⟩ := seeds.undecided open_
      obtain ⟨sole, only⟩ := (AddressMap.size_eq_one_iff _).1 size
      rw [same]
      exact ⟨unnamed, sole, fromSeeds sole ((stored sole).1 ((only sole).2 rfl)), only⟩

theorem onlySeeds_of_reachable (options : ClientOptions)
    (indirect : options.directConnection ≠ some true) (topology : Topology)
    (reached : Reachable options topology) : topology.OnlySeeds options :=
  reachable_induction options (OnlySeeds options) (fun _ => onlySeeds_initial options indirect)
    (fun before description seeds _ tracked =>
      have kept := onlySeeds_react options before seeds description tracked
      ⟨kept.undecided, kept.sole⟩)
    topology reached

/-! ### Runs to a single server -/

/-- The answer of a standalone server. -/
def standaloneReport (address : ServerAddress) : ServerDescription :=
  .ofReply address [("ok", .int32 1), ("maxWireVersion", .int32 17)] none .zero

theorem reported_standaloneReport (address : ServerAddress) :
    (standaloneReport address).Reported := .replied address _ none .zero

theorem address_standaloneReport (address : ServerAddress) :
    (standaloneReport address).address = address := ServerDescription.address_ofReply _ _ _ _

theorem type_standaloneReport (address : ServerAddress) :
    (standaloneReport address).type = .standalone := rfl

/-- The kind of the deployment is open, the given servers are tracked and no others, and none of
them has told a version. -/
structure OpenWith (topology : Topology) (addresses : List ServerAddress) : Prop where
  stillOpen : topology.type = .unknown
  only : ∀ address, topology.tracks address = true ↔ address ∈ addresses
  unversioned : ∀ address server, topology.server? address = some server →
    server.topologyVersion = none

theorem openWith_initial (options : ClientOptions) (indirect : options.directConnection ≠ some true)
    (unnamed : options.replicaSet = none) : (initial options).OpenWith options.hosts.dedup := by
  refine ⟨?_, fun address => ?_, fun address server found => ?_⟩
  · unfold initial
    rw [if_neg indirect, unnamed]
    rfl
  · rw [tracks_initial, List.mem_dedup]
  · rw [eq_unknown_of_initial options address server found]
    rfl

theorem apply_last_standalone (topology : Topology) (last : ServerAddress)
    (open_ : topology.OpenWith [last]) :
    (topology.apply (standaloneReport last)).type = .single := by
  obtain ⟨current, found⟩ :=
    (tracks_iff topology last).1 ((open_.only last).2 List.mem_cons_self)
  have recent : isOutdated current (standaloneReport last) = false :=
    isOutdated_of_unversioned current _ (open_.unversioned last current found)
  have sole : (topology.store (standaloneReport last)).servers.size = 1 := by
    refine (AddressMap.size_eq_one_iff _).2 ⟨last, fun other => ?_⟩
    refine (tracks_store topology (standaloneReport last) other).trans ?_
    rw [open_.only, List.mem_singleton]
    exact or_self_iff
  refine (apply_standalone_open topology open_.stillOpen (standaloneReport last) current
    (type_standaloneReport last) found recent).trans ?_
  exact if_pos sole

theorem openWith_apply_standalone (topology : Topology) (first second : ServerAddress)
    (rest : List ServerAddress) (distinct : (first :: second :: rest).Nodup)
    (open_ : topology.OpenWith (first :: second :: rest)) :
    (topology.apply (standaloneReport first)).OpenWith (second :: rest) := by
  have absent : first ∉ second :: rest := (List.nodup_cons.1 distinct).1
  have apart : second ≠ first := fun same => absent (same ▸ List.mem_cons_self)
  obtain ⟨current, found⟩ :=
    (tracks_iff topology first).1 ((open_.only first).2 List.mem_cons_self)
  have recent : isOutdated current (standaloneReport first) = false :=
    isOutdated_of_unversioned current _ (open_.unversioned first current found)
  have tracked : topology.tracks second = true :=
    (open_.only second).2 (List.mem_cons_of_mem _ List.mem_cons_self)
  have notSingle : topology.type ≠ .single := by
    rw [open_.stillOpen]
    decide
  have servers := (apply_standalone_beside topology notSingle (standaloneReport first) current
    (type_standaloneReport first) found recent second apart tracked).2
  refine ⟨?_, fun address => ?_, fun address server known => ?_⟩
  · refine (apply_standalone_open topology open_.stillOpen (standaloneReport first) current
      (type_standaloneReport first) found recent).trans ?_
    exact if_neg (size_store_of_tracks topology _ second apart tracked)
  · rw [tracks_iff, servers, address_standaloneReport]
    by_cases own : address = first
    · rw [if_pos own, own]
      refine ⟨?_, fun member => absurd member absent⟩
      rintro ⟨server, known⟩
      cases known
    · rw [if_neg own, ← tracks_iff, open_.only, List.mem_cons, or_iff_right own]
  · rw [servers] at known
    split at known
    · cases known
    · exact open_.unversioned address server known

theorem applyAll_standalones (topology : Topology) (first : ServerAddress)
    (rest : List ServerAddress) (distinct : (first :: rest).Nodup)
    (open_ : topology.OpenWith (first :: rest)) :
    (topology.applyAll ((first :: rest).map standaloneReport)).type = .single := by
  induction rest generalizing topology first with
  | nil => exact apply_last_standalone topology first open_
  | cons second rest inductionHypothesis =>
    exact inductionHypothesis (topology.apply (standaloneReport first)) second
      (List.nodup_cons.1 distinct).2 (openWith_apply_standalone topology first second rest distinct
        open_)

theorem reachable_standalones (options : ClientOptions) (valid : options.validate = .ok ())
    (addresses : List ServerAddress) :
    Reachable options ((initial options).applyAll (addresses.map standaloneReport)) := by
  refine reachable_applyAll options _ (.start _ ((ofOptions_eq_ok_iff _ _).2 ⟨valid, rfl⟩)) _
    fun report member => ?_
  obtain ⟨address, -, rfl⟩ := List.mem_map.1 member
  exact reported_standaloneReport address

/-- Where the options name no set and ask for no direct connection, the seeds may be forgotten one
after the other until one is left. -/
theorem exists_reachable_single (options : ClientOptions) (valid : options.validate = .ok ())
    (indirect : options.directConnection ≠ some true) (unnamed : options.replicaSet = none)
    (seed : ServerAddress) (member : seed ∈ options.hosts) :
    ∃ topology, Reachable options topology ∧ topology.type = .single := by
  have open_ := openWith_initial options indirect unnamed
  refine ⟨_, reachable_standalones options valid options.hosts.dedup, ?_⟩
  -- A seed given twice is tracked once, so each of them reports once.
  cases seeds : options.hosts.dedup with
  | nil =>
    have kept := List.mem_dedup.2 member
    rw [seeds] at kept
    cases kept
  | cons first rest =>
    rw [seeds] at open_
    exact applyAll_standalones (initial options) first rest (seeds ▸ List.nodup_dedup options.hosts)
      open_

/-- The picture once both servers of the pair have reported as standalone. -/
def pairForgotten : Topology :=
  (initial pairOptions).applyAll (pairOptions.hosts.map standaloneReport)

/-- A deployment with several seeds counts as a single server only after all other seeds have been
forgotten, and a standalone server is forgotten as long as another one is tracked beside it. Unless
the options name the set, servers may report so that one is left. -/
theorem single_only_if_sole_seed_left (options : ClientOptions)
    (valid : options.validate = .ok ()) (first second : ServerAddress)
    (firstSeed : first ∈ options.hosts) (secondSeed : second ∈ options.hosts)
    (distinct : first ≠ second) :
    ((∃ topology, Reachable options topology ∧ topology.type = .single) ↔
        options.replicaSet = none) ∧
      ∀ topology, Reachable options topology →
        (topology.type = .single → ∃ seed ∈ options.hosts, ∀ address,
          topology.tracks address = true ↔ address = seed) ∧
        ∀ description current other, description.type = .standalone →
          topology.server? description.address = some current →
          isOutdated current description = false →
          other ≠ description.address → topology.tracks other = true →
          (topology.apply description).type ≠ .single ∧ ∀ address,
            (topology.apply description).server? address =
              if address = description.address then none else topology.server? address := by
  have indirect :=
    options.indirect_of_validate valid first second firstSeed secondSeed distinct
  constructor
  · constructor
    · rintro ⟨topology, reached, single⟩
      exact ((onlySeeds_of_reachable options indirect topology reached).sole single).1
    · exact fun unnamed =>
        exists_reachable_single options valid indirect unnamed first firstSeed
  · intro topology reached
    have seeds := onlySeeds_of_reachable options indirect topology reached
    refine ⟨fun single => (seeds.sole single).2, ?_⟩
    intro description current other kind found recent apart tracked
    refine apply_standalone_beside topology ?_ description current kind found recent other apart
      tracked
    intro single
    obtain ⟨-, seed, -, only⟩ := seeds.sole single
    have own : description.address = seed :=
      (only _).1 ((tracks_iff _ _).2 ⟨current, found⟩)
    exact apart (((only other).1 tracked).trans own.symm)

theorem single_only_if_sole_seed_left_pair :
    (∃ topology, Reachable pairOptions topology ∧ topology.type = .single) ∧
      (∃ seed ∈ pairOptions.hosts, ∀ address, pairForgotten.tracks address = true ↔
        address = seed) ∧
      ((initial pairOptions).apply (standaloneReport ⟨"left", 27017⟩)).type ≠ .single ∧
      ((initial pairOptions).apply (standaloneReport ⟨"left", 27017⟩)).server? ⟨"left", 27017⟩ =
        none := by
  obtain ⟨reachable, beside⟩ := single_only_if_sole_seed_left pairOptions rfl ⟨"left", 27017⟩
    ⟨"right", 27017⟩ (by decide) (by decide) (by decide)
  obtain ⟨type, servers⟩ := (beside (initial pairOptions) (.start _ rfl)).2
    (standaloneReport ⟨"left", 27017⟩) (.unknown ⟨"left", 27017⟩) ⟨"right", 27017⟩ rfl rfl rfl
    (by decide) (by decide +kernel)
  have left := (beside pairForgotten (reachable_standalones pairOptions rfl _)).1
    (by decide +kernel)
  exact ⟨reachable.2 rfl, left, type, servers ⟨"left", 27017⟩⟩

/-- Two seeds do not keep a deployment from counting as a single server. -/
theorem standalone_pair_becomes_single :
    pairOptions.validate = .ok () ∧ pairOptions.hosts.Nodup ∧ 2 ≤ pairOptions.hosts.length ∧
      Reachable pairOptions pairForgotten ∧ pairForgotten.type = .single :=
  ⟨rfl, by decide, by decide, reachable_standalones pairOptions rfl _, by decide +kernel⟩

end Topology

end DocumentDriver
