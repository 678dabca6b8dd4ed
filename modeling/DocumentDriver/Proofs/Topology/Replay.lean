/-
This file proves that the events of a run tell the whole run. A listener that starts with the seeds
and follows the events knows the same servers as the client, and no event ever contradicts what the
listener knows. Each event is about a server of its own, so that within one change their order does
not matter; what a listener knows of a server is decided by the one event that is about it.
-/

import DocumentDriver.Proofs.Topology.Primary
import DocumentDriver.Proofs.Topology.Sameness
import DocumentDriver.Topology.Event

namespace DocumentDriver

theorem AddressMap.nodup_addresses {Value : Type} (map : AddressMap Value) :
    map.addresses.Nodup := by
  unfold addresses
  rw [List.nodup_iff_pairwise_ne, List.pairwise_map]
  refine map.ordered.imp fun {first second} smaller same => ?_
  rw [same, ServerAddress.before_irrefl] at smaller
  cases smaller

namespace Topology

/-! ### Servers that join -/

/-- Every server but one is described as before, or has not been checked. -/
def LeavesOthers (topology : Topology) (address : ServerAddress) (next : Topology) : Prop :=
  ∀ other server, next.server? other = some server →
    other = address ∨ topology.server? other = some server ∨ server = .unknown other

theorem leavesOthers_refl (topology : Topology) (address : ServerAddress) :
    topology.LeavesOthers address topology :=
  fun _ _ found => .inr (.inl found)

theorem LeavesOthers.trans {topology middle next : Topology} {address : ServerAddress}
    (first : topology.LeavesOthers address middle) (second : middle.LeavesOthers address next) :
    topology.LeavesOthers address next := by
  intro other server found
  rcases second other server found with own | before | unchecked
  · exact .inl own
  · exact first other server before
  · exact .inr (.inr unchecked)

theorem leavesOthers_store (topology : Topology) (description : ServerDescription) :
    topology.LeavesOthers description.address (topology.store description) := by
  intro other server found
  rw [server?_store] at found
  split at found
  · next own => exact .inl own
  · exact .inr (.inl found)

theorem leavesOthers_remove (topology : Topology) (address removed : ServerAddress) :
    topology.LeavesOthers address (topology.remove removed) := by
  intro other server found
  rw [server?_remove] at found
  split at found
  · cases found
  · exact .inr (.inl found)

theorem leavesOthers_addHosts (topology : Topology) (address : ServerAddress)
    (description : ServerDescription) :
    topology.LeavesOthers address (topology.addHosts description) := by
  intro other server found
  rw [server?_addHosts, Option.or_eq_some_iff] at found
  rcases found with known | ⟨-, added⟩
  · exact .inr (.inl known)
  · split at added
    · cases added
      exact .inr (.inr rfl)
    · cases added

theorem leavesOthers_keepHosts (topology : Topology) (address : ServerAddress)
    (description : ServerDescription) :
    topology.LeavesOthers address (topology.keepHosts description) := by
  intro other server found
  rw [server?_keepHosts] at found
  split at found
  · exact .inr (.inl found)
  · cases found

theorem leavesOthers_demoteOthers (topology : Topology) (keyed : topology.Keyed)
    (address leader : ServerAddress) :
    topology.LeavesOthers address (topology.demoteOthers leader) := by
  intro other server found
  rw [server?_demoteOthers topology keyed, Option.map_eq_some_iff] at found
  obtain ⟨before, known, rfl⟩ := found
  split
  · exact .inr (.inr rfl)
  · exact .inr (.inl known)

theorem leavesOthers_updateFromPrimary (topology : Topology) (keyed : topology.Keyed)
    (description : ServerDescription) :
    topology.LeavesOthers description.address (topology.updateFromPrimary description) := by
  unfold updateFromPrimary
  split
  · dsimp only
    split
    · exact leavesOthers_store topology (.ofError description.address _)
    · have demoted := leavesOthers_demoteOthers ((topology.adoptSetName description).recordElection
        description) keyed description.address description.address
      exact (demoted.trans (leavesOthers_addHosts _ _ description)).trans
        (leavesOthers_keepHosts _ _ description)
  · exact leavesOthers_remove topology _ _

theorem leavesOthers_updateWithoutPrimary (topology : Topology)
    (description : ServerDescription) :
    topology.LeavesOthers description.address (topology.updateWithoutPrimary description) := by
  unfold updateWithoutPrimary
  split
  · have grown := leavesOthers_addHosts (topology.adoptSetName description) description.address
      description
    dsimp only
    split
    · exact grown.trans (leavesOthers_remove _ _ _)
    · exact grown
  · exact leavesOthers_remove topology _ _

theorem leavesOthers_reaction (topology : Topology) (keyed : topology.Keyed)
    (description : ServerDescription) (next : Topology)
    (effect : Reaction topology description next) :
    topology.LeavesOthers description.address next := by
  have same := leavesOthers_refl topology description.address
  have removed := leavesOthers_remove topology description.address description.address
  cases effect with
  | direct =>
    unfold updateSingle
    split
    · exact leavesOthers_store topology (.ofError description.address _)
    · exact same
  | standalone =>
    unfold updateFromStandalone
    split
    · exact same
    · exact removed
  | router | waiting | shard | silence => exact same
  | intruder | stranger | deserter => exact removed
  | primary => exact leavesOthers_updateFromPrimary topology keyed description
  | member =>
    exact leavesOthers_updateWithoutPrimary { topology with type := .replicaSetNoPrimary }
      description
  | subject =>
    unfold updateFromMember
    dsimp only
    split
    · exact removed
    · exact same

/-- A server that joins has not been checked. The description itself cannot make its server join,
because descriptions of servers that are not tracked are ignored. -/
theorem eq_unknown_of_joins (topology : Topology) (keyed : topology.Keyed)
    (description : ServerDescription) (address : ServerAddress) (server : ServerDescription)
    (absent : topology.server? address = none)
    (found : (topology.apply description).server? address = some server) :
    server = .unknown address := by
  rcases apply_cases topology description with ignored | ⟨tracked, applied⟩
  · rw [ignored, absent] at found
    cases found
  · rw [applied, server?_refresh] at found
    have others := (leavesOthers_store topology description).trans
      (leavesOthers_reaction _ (keyed_store topology keyed description) description _
        (reaction _ _))
    rcases others address server found with rfl | before | unchecked
    · obtain ⟨known, present⟩ := (tracks_iff _ _).1 tracked
      rw [absent] at present
      cases present
    · rw [absent] at before
      cases before
    · exact unchecked

theorem keyed_apply (topology : Topology) (keyed : topology.Keyed)
    (description : ServerDescription) : (topology.apply description).Keyed := by
  refine holds_apply Keyed topology description keyed fun _ => ?_
  have reacted : ((topology.store description).react description).Keyed :=
    keyed_reaction _ (keyed_store topology keyed description) description _ (reaction _ _)
  exact reacted

end Topology

namespace TopologyEvent

open DocumentDriver.Topology DocumentDriver.ServerDescription

/-! ### What an event is about -/

/-- The server that an event is about, if it is about one. -/
def subject : TopologyEvent → Option ServerAddress
  | opening address | closed address | serverChanged address _ _ => some address
  | topologyChanged _ _ => none

/-- Two events are not about the same server. -/
def Apart (first second : TopologyEvent) : Prop :=
  ∀ address, first.subject = some address → second.subject ≠ some address

/-- A listener that knows some servers can follow an event: only what is not there is opened, only
what is there is closed or changed, and what it is said to have been before is what the listener
knows. -/
def Fits (servers : AddressMap ServerDescription) : TopologyEvent → Prop
  | opening address => servers.get? address = none
  | closed address => servers.contains address = true
  | serverChanged address previous _ => Alike (servers.get? address) (some previous)
  | topologyChanged _ _ => True

/-- A listener can follow some events one after another. -/
def FitInTurn : AddressMap ServerDescription → List TopologyEvent → Prop
  | _, [] => True
  | servers, event :: rest => Fits servers event ∧ FitInTurn (replay servers event) rest

theorem fitInTurn_append (servers : AddressMap ServerDescription)
    (first second : List TopologyEvent) :
    FitInTurn servers (first ++ second) ↔
      FitInTurn servers first ∧ FitInTurn (first.foldl replay servers) second := by
  induction first generalizing servers with
  | nil => simp [FitInTurn]
  | cons event rest inductionHypothesis =>
    rw [List.cons_append, FitInTurn, FitInTurn, inductionHypothesis, and_assoc]
    rfl

/-- An event leaves the servers alone that it is not about. -/
theorem get?_replay_other (servers : AddressMap ServerDescription) (event : TopologyEvent)
    (address : ServerAddress) (other : event.subject ≠ some address) :
    (replay servers event).get? address = servers.get? address := by
  cases event with
  | opening own => exact AddressMap.get?_insert_other _ _ fun same => other (congrArg some same.symm)
  | closed own =>
    rw [replay, AddressMap.get?_erase, if_neg fun same => other (congrArg some same.symm)]
  | serverChanged own =>
    exact AddressMap.get?_insert_other _ _ fun same => other (congrArg some same.symm)
  | topologyChanged => rfl

theorem get?_foldl_replay_other (servers : AddressMap ServerDescription)
    (events : List TopologyEvent) (address : ServerAddress)
    (others : ∀ event ∈ events, event.subject ≠ some address) :
    (events.foldl replay servers).get? address = servers.get? address := by
  induction events generalizing servers with
  | nil => rfl
  | cons event rest inductionHypothesis =>
    rw [List.foldl_cons, inductionHypothesis _ fun other member =>
        others other (List.mem_cons_of_mem _ member),
      get?_replay_other _ _ _ (others event List.mem_cons_self)]

/-- What an event leaves of the server that it is about. -/
def outcome : TopologyEvent → Option ServerDescription
  | opening address => some (.unknown address)
  | serverChanged _ _ new => some new
  | closed _ | topologyChanged _ _ => none

theorem get?_replay_subject (servers : AddressMap ServerDescription) (event : TopologyEvent)
    (address : ServerAddress) (about : event.subject = some address) :
    (replay servers event).get? address = event.outcome := by
  cases event with
  | topologyChanged => cases about
  | opening | serverChanged =>
    cases about
    exact AddressMap.get?_insert_self _ _ _
  | closed =>
    cases about
    exact AddressMap.get?_erase_self _ _

/-- Among events apart from each other, the one about a server decides what is known of it. -/
theorem get?_foldl_replay_subject (servers : AddressMap ServerDescription)
    (events : List TopologyEvent) (apart : events.Pairwise Apart) (event : TopologyEvent)
    (member : event ∈ events) (address : ServerAddress) (about : event.subject = some address) :
    (events.foldl replay servers).get? address = event.outcome := by
  induction events generalizing servers with
  | nil => cases member
  | cons first rest inductionHypothesis =>
    obtain ⟨apartFirst, apartRest⟩ := List.pairwise_cons.1 apart
    rw [List.foldl_cons]
    rcases List.mem_cons.1 member with rfl | inRest
    · rw [get?_foldl_replay_other _ _ _ fun other later => apartFirst other later address about,
        get?_replay_subject servers event address about]
    · exact inductionHypothesis _ apartRest inRest

/-- Whether an event can be followed depends on nothing but the server that it is about. -/
theorem fits_replay (servers : AddressMap ServerDescription) (first event : TopologyEvent)
    (apart : Apart first event) (fits : Fits servers event) : Fits (replay servers first) event := by
  have other (address : ServerAddress) (about : event.subject = some address) :
      (replay servers first).get? address = servers.get? address :=
    get?_replay_other servers first address fun same => apart address same about
  cases event with
  | opening address => simpa only [Fits, other address rfl] using fits
  | closed address => simpa only [Fits, AddressMap.contains, other address rfl] using fits
  | serverChanged address => simpa only [Fits, other address rfl] using fits
  | topologyChanged => trivial

theorem fitInTurn_of_apart (servers : AddressMap ServerDescription) (events : List TopologyEvent)
    (apart : events.Pairwise Apart) (fit : ∀ event ∈ events, Fits servers event) :
    FitInTurn servers events := by
  induction events generalizing servers with
  | nil => trivial
  | cons first rest inductionHypothesis =>
    obtain ⟨apartFirst, apartRest⟩ := List.pairwise_cons.1 apart
    refine ⟨fit first List.mem_cons_self, inductionHypothesis _ apartRest fun event member => ?_⟩
    exact fits_replay servers first event (apartFirst event member)
      (fit event (List.mem_cons_of_mem _ member))

/-! ### What the events of a change tell -/

/-- What the events of a change tell of a server: that it has joined, that it is described anew, or
that it has left. -/
inductive Tells (previous new : Topology) (address : ServerAddress) : TopologyEvent → Prop
  | joined (server : ServerDescription) (absent : previous.server? address = none)
      (found : new.server? address = some server) : Tells previous new address (opening address)
  | changed (old server : ServerDescription) (known : previous.server? address = some old)
      (found : new.server? address = some server) (differs : old.same server = false) :
      Tells previous new address (serverChanged address old server)
  | left (old : ServerDescription) (known : previous.server? address = some old)
      (gone : new.server? address = none) : Tells previous new address (closed address)

theorem mem_openings_iff (previous new : Topology) (event : TopologyEvent) :
    event ∈ openings previous new ↔
      ∃ address, new.tracks address = true ∧ previous.tracks address = false ∧
        event = opening address := by
  simp only [openings, List.mem_map, List.mem_filter, Bool.not_eq_true', and_assoc,
    eq_comm (a := event)]
  exact exists_congr fun address => and_congr_left' (AddressMap.contains_iff _).symm

theorem mem_closings_iff (previous new : Topology) (event : TopologyEvent) :
    event ∈ closings previous new ↔
      ∃ address, previous.tracks address = true ∧ new.tracks address = false ∧
        event = closed address := by
  simp only [closings, List.mem_map, List.mem_filter, Bool.not_eq_true', and_assoc,
    eq_comm (a := event)]
  exact exists_congr fun address => and_congr_left' (AddressMap.contains_iff _).symm

/-- What is told of a server that was tracked before, if it is described anew. -/
def change? (previous : Topology) (server : ServerDescription) : Option TopologyEvent :=
  (previous.server? server.address).bind fun old =>
    if old.same server then none else some (serverChanged server.address old server)

theorem changes_eq (previous new : Topology) :
    changes previous new = new.servers.entries.filterMap fun entry => change? previous entry.2 := by
  unfold changes
  congr 1
  funext entry
  obtain ⟨address, server⟩ := entry
  unfold change?
  dsimp only
  cases previous.server? server.address <;> rfl

theorem change?_eq_some_iff (previous : Topology) (server : ServerDescription)
    (event : TopologyEvent) :
    change? previous server = some event ↔
      ∃ old, previous.server? server.address = some old ∧ old.same server = false ∧
        event = serverChanged server.address old server := by
  unfold change?
  rw [Option.bind_eq_some_iff]
  refine exists_congr fun old => and_congr_right fun _ => ?_
  cases old.same server <;> simp [eq_comm]

theorem mem_changes_iff (previous new : Topology) (keyed : new.Keyed) (event : TopologyEvent) :
    event ∈ changes previous new ↔
      ∃ address old server, previous.server? address = some old ∧
        new.server? address = some server ∧ old.same server = false ∧
        event = serverChanged address old server := by
  rw [changes_eq, List.mem_filterMap]
  simp only [change?_eq_some_iff]
  constructor
  · rintro ⟨⟨address, server⟩, member, old, known, differs, told⟩
    have found : new.server? address = some server := (AddressMap.get?_eq_some_iff _).2 member
    obtain rfl : server.address = address := keyed address server found
    exact ⟨_, old, server, known, found, differs, told⟩
  · rintro ⟨address, old, server, known, found, differs, told⟩
    obtain rfl : server.address = address := keyed address server found
    exact ⟨(_, server), (AddressMap.get?_eq_some_iff _).1 found, old, known, differs, told⟩

theorem tracks_eq_false_iff (topology : Topology) (address : ServerAddress) :
    topology.tracks address = false ↔ topology.server? address = none := by
  simp [tracks, server?, AddressMap.contains]

/-- The events of a change about a server tell what has become of it. -/
theorem mem_between_iff (previous new : Topology) (keyed : new.Keyed) (address : ServerAddress)
    (event : TopologyEvent) :
    event ∈ between previous new ∧ event.subject = some address ↔
      Tells previous new address event := by
  simp only [between, List.mem_append, mem_openings_iff, mem_changes_iff previous new keyed,
    mem_closings_iff, tracks_eq_false_iff, tracks_iff]
  constructor
  · rintro ⟨((⟨other, ⟨server, found⟩, absent, rfl⟩ | ⟨other, old, server, known, found, differs,
      rfl⟩) | ⟨other, ⟨old, known⟩, gone, rfl⟩) | whole, about⟩
    · cases about
      exact .joined server absent found
    · cases about
      exact .changed old server known found differs
    · cases about
      exact .left old known gone
    · split at whole
      · cases whole
      · rw [List.mem_singleton.1 whole] at about
        cases about
  · intro told
    cases told with
    | joined server absent found =>
      exact ⟨.inl (.inl (.inl ⟨address, ⟨server, found⟩, absent, rfl⟩)), rfl⟩
    | changed old server known found differs =>
      exact ⟨.inl (.inl (.inr ⟨address, old, server, known, found, differs, rfl⟩)), rfl⟩
    | left old known gone => exact ⟨.inl (.inr ⟨address, ⟨old, known⟩, gone, rfl⟩), rfl⟩

/-! ### The events of a change are apart -/

/-- Events about different servers are apart. -/
theorem apart_map (event : ServerAddress → TopologyEvent)
    (own : ∀ address, (event address).subject = some address) (addresses : List ServerAddress)
    (distinct : addresses.Nodup) : (addresses.map event).Pairwise Apart := by
  rw [List.pairwise_map]
  refine distinct.imp fun {first second} different address about same => ?_
  rw [own] at about same
  cases about
  cases same
  exact different rfl

theorem apart_changes (previous new : Topology) (keyed : new.Keyed) :
    (changes previous new).Pairwise Apart := by
  have about (entry : ServerAddress × ServerDescription) (member : entry ∈ new.servers.entries)
      (event : TopologyEvent) (told : change? previous entry.2 = some event) :
      event.subject = some entry.1 := by
    obtain ⟨old, -, -, rfl⟩ := (change?_eq_some_iff previous entry.2 event).1 told
    exact congrArg some (keyed _ _ ((AddressMap.get?_eq_some_iff _).2 member))
  rw [changes_eq, List.pairwise_filterMap]
  refine new.servers.ordered.imp_of_mem fun {first second} inFirst inSecond smaller event told
    other otherTold address same otherSame => ?_
  rw [about first inFirst event told] at same
  rw [about second inSecond other otherTold] at otherSame
  cases same
  rw [Option.some.inj otherSame, ServerAddress.before_irrefl] at smaller
  cases smaller

theorem apart_between (previous new : Topology) (keyed : new.Keyed) :
    (between previous new).Pairwise Apart := by
  -- A server that has joined was not tracked before, one that has left is not tracked now, and one
  -- that is described anew is tracked before and now.
  have ofOpening (event : TopologyEvent) (member : event ∈ openings previous new)
      (address : ServerAddress) (about : event.subject = some address) :
      previous.server? address = none := by
    obtain ⟨own, -, absent, rfl⟩ := (mem_openings_iff _ _ _).1 member
    cases about
    exact (tracks_eq_false_iff _ _).1 absent
  have ofClosing (event : TopologyEvent) (member : event ∈ closings previous new)
      (address : ServerAddress) (about : event.subject = some address) :
      previous.server? address ≠ none ∧ new.server? address = none := by
    obtain ⟨own, known, gone, rfl⟩ := (mem_closings_iff _ _ _).1 member
    cases about
    refine ⟨fun absent => ?_, (tracks_eq_false_iff _ _).1 gone⟩
    rw [(tracks_eq_false_iff _ _).2 absent] at known
    cases known
  have ofChange (event : TopologyEvent) (member : event ∈ changes previous new)
      (address : ServerAddress) (about : event.subject = some address) :
      previous.server? address ≠ none ∧ new.server? address ≠ none := by
    obtain ⟨own, old, server, known, found, -, rfl⟩ := (mem_changes_iff _ _ keyed _).1 member
    cases about
    exact ⟨by simp [known], by simp [found]⟩
  unfold between
  refine List.pairwise_append.2 ⟨List.pairwise_append.2 ⟨List.pairwise_append.2
    ⟨apart_map opening (fun _ => rfl) _ (new.servers.nodup_addresses.filter _),
      apart_changes previous new keyed, ?_⟩,
    apart_map closed (fun _ => rfl) _ (previous.servers.nodup_addresses.filter _), ?_⟩, ?_, ?_⟩
  · intro joined inOpenings changed inChanges address about same
    exact (ofChange changed inChanges address same).1 (ofOpening joined inOpenings address about)
  · intro first earlier left inClosings address about same
    obtain ⟨known, gone⟩ := ofClosing left inClosings address same
    rcases List.mem_append.1 earlier with inOpenings | inChanges
    · exact known (ofOpening first inOpenings address about)
    · exact (ofChange first inChanges address about).2 gone
  · split
    · exact .nil
    · exact List.pairwise_singleton _ _
  · intro first _ whole inWhole address _ same
    split at inWhole
    · cases inWhole
    · rw [List.mem_singleton.1 inWhole] at same
      cases same

/-! ### Following a change -/

/-- A listener that knows the servers of a picture can follow the events of a change, and then knows
the servers of the next picture. -/
theorem follows_between (servers : AddressMap ServerDescription) (previous new : Topology)
    (keyed : new.Keyed)
    (joins : ∀ address server, previous.server? address = none →
      new.server? address = some server → server = .unknown address)
    (knows : ∀ address, Alike (servers.get? address) (previous.server? address)) :
    FitInTurn servers (between previous new) ∧
      ∀ address, Alike (((between previous new).foldl replay servers).get? address)
        (new.server? address) := by
  have apart := apart_between previous new keyed
  have told (address : ServerAddress) (event : TopologyEvent) :=
    mem_between_iff previous new keyed address event
  constructor
  · refine fitInTurn_of_apart servers _ apart fun event member => ?_
    cases about : event.subject with
    | none =>
      cases event with
      | topologyChanged => trivial
      | opening | closed | serverChanged => cases about
    | some address =>
      have known := knows address
      cases (told address event).1 ⟨member, about⟩ with
      | joined _ absent =>
        rw [absent] at known
        generalize found : servers.get? address = here at known
        cases known
        exact found
      | changed old _ present =>
        rw [present] at known
        exact known
      | left old present =>
        rw [present] at known
        exact isSome_of_alike known
  · intro address
    have decided (event : TopologyEvent) (telling : Tells previous new address event) :
        ((between previous new).foldl replay servers).get? address = event.outcome := by
      obtain ⟨member, about⟩ := (told address event).2 telling
      exact get?_foldl_replay_subject servers _ apart event member address about
    have untouched (silent : ∀ event, ¬ Tells previous new address event) :
        ((between previous new).foldl replay servers).get? address = servers.get? address :=
      get?_foldl_replay_other servers _ address fun event member about =>
        silent event ((told address event).1 ⟨member, about⟩)
    cases before : previous.server? address with
    | none =>
      cases after : new.server? address with
      | none =>
        rw [untouched fun event telling => by cases telling <;> simp_all, ← before]
        exact knows address
      | some server =>
        rw [decided _ (.joined server before after), joins address server before after]
        exact alike_refl _
    | some old =>
      cases after : new.server? address with
      | none =>
        rw [decided _ (.left old before after)]
        exact .none
      | some server =>
        cases same : old.same server with
        | false =>
          rw [decided _ (.changed old server before after same)]
          exact alike_refl _
        | true =>
          rw [untouched fun event telling => by cases telling <;> simp_all]
          exact alike_trans (knows address) (before ▸ .some same)

/-- Nothing is told exactly of a change that does not show. -/
theorem between_eq_nil_iff (previous new : Topology) (keyed : new.Keyed) :
    between previous new = [] ↔ previous.same new = true := by
  constructor
  · intro silent
    by_contra differs
    unfold between at silent
    rw [if_neg differs] at silent
    simp at silent
  · intro same
    refine List.eq_nil_iff_forall_not_mem.2 fun event member => ?_
    cases about : event.subject with
    | none =>
      unfold between at member
      rw [if_pos same, List.append_nil] at member
      simp only [List.mem_append, mem_openings_iff, mem_closings_iff,
        mem_changes_iff previous new keyed] at member
      rcases member with (⟨_, _, _, rfl⟩ | ⟨_, _, _, _, _, _, rfl⟩) | ⟨_, _, _, rfl⟩ <;> cases about
    | some address =>
      have alike := alike_of_same same address
      cases (mem_between_iff previous new keyed address event).1 ⟨member, about⟩ with
      | joined _ absent found =>
        rw [absent, found] at alike
        cases alike
      | changed _ _ known found differs =>
        rw [known, found] at alike
        cases alike with
        | some shows =>
          rw [shows] at differs
          cases differs
      | left _ known gone =>
        rw [known, gone] at alike
        cases alike

/-- Last of all a change that shows is told as a whole, and before that only of single servers. -/
theorem between_of_differs (previous new : Topology) (keyed : new.Keyed)
    (differs : previous.same new = false) :
    ∃ news, between previous new = news ++ [topologyChanged previous new] ∧
      ∀ event ∈ news, event.subject ≠ none := by
  refine ⟨openings previous new ++ changes previous new ++ closings previous new, ?_, ?_⟩
  · unfold between
    rw [differs, if_neg Bool.false_ne_true]
  · intro event member
    simp only [List.mem_append, mem_openings_iff, mem_closings_iff,
      mem_changes_iff previous new keyed] at member
    rcases member with (⟨_, _, _, rfl⟩ | ⟨_, _, _, _, _, _, rfl⟩) | ⟨_, _, _, rfl⟩ <;>
      exact Option.some_ne_none _

/-! ### Following a run -/

/-- The events of a run, change after change. -/
def log (topology : Topology) : List ServerDescription → List TopologyEvent
  | [] => []
  | description :: rest =>
    between topology (topology.apply description) ++ log (topology.apply description) rest

/-- The picture that the latest event about a whole picture has told, or else a given one. -/
def announced (topology : Topology) (events : List TopologyEvent) : Topology :=
  events.foldl (fun latest event =>
    match event with
    | topologyChanged _ new => new
    | opening _ | closed _ | serverChanged _ _ _ => latest) topology

theorem announced_append (topology : Topology) (first second : List TopologyEvent) :
    announced topology (first ++ second) = announced (announced topology first) second :=
  List.foldl_append

/-- Events about single servers announce no picture. -/
theorem announced_of_subjects (topology : Topology) (events : List TopologyEvent)
    (about : ∀ event ∈ events, event.subject ≠ none) : announced topology events = topology := by
  induction events with
  | nil => rfl
  | cons event rest inductionHypothesis =>
    have kept := inductionHypothesis fun other member => about other (List.mem_cons_of_mem _ member)
    cases event with
    | topologyChanged => exact absurd rfl (about _ List.mem_cons_self)
    | opening | closed | serverChanged => exact kept

theorem follows_log (servers : AddressMap ServerDescription) (topology : Topology)
    (keyed : topology.Keyed)
    (knows : ∀ address, Alike (servers.get? address) (topology.server? address))
    (descriptions : List ServerDescription) :
    FitInTurn servers (log topology descriptions) ∧
      ∀ address, Alike (((log topology descriptions).foldl replay servers).get? address)
        ((topology.applyAll descriptions).server? address) := by
  induction descriptions generalizing servers topology with
  | nil => exact ⟨trivial, knows⟩
  | cons first rest inductionHypothesis =>
    have nextKeyed := keyed_apply topology keyed first
    obtain ⟨fits, nextKnows⟩ := follows_between servers topology (topology.apply first) nextKeyed
      (eq_unknown_of_joins topology keyed first) knows
    obtain ⟨fitLater, knowsLater⟩ := inductionHypothesis _ _ nextKeyed nextKnows
    refine ⟨(fitInTurn_append _ _ _).2 ⟨fits, fitLater⟩, fun address => ?_⟩
    rw [log, List.foldl_append]
    exact knowsLater address

/-- What was announced last still looks the same. -/
theorem same_announced_log (latest topology : Topology) (keyed : topology.Keyed)
    (same : latest.same topology = true) (descriptions : List ServerDescription) :
    (announced latest (log topology descriptions)).same (topology.applyAll descriptions) = true := by
  induction descriptions generalizing latest topology with
  | nil => exact same
  | cons first rest inductionHypothesis =>
    have nextKeyed := keyed_apply topology keyed first
    have next : (announced latest (between topology (topology.apply first))).same
        (topology.apply first) = true := by
      cases shows : topology.same (topology.apply first) with
      | true =>
        rw [(between_eq_nil_iff _ _ nextKeyed).2 shows]
        exact Topology.same_trans same shows
      | false =>
        obtain ⟨news, told, about⟩ := between_of_differs _ _ nextKeyed shows
        rw [told, announced_append, announced_of_subjects latest news about]
        exact Topology.same_refl _
    rw [log, announced_append]
    exact inductionHypothesis _ _ nextKeyed next

theorem keyed_applyAll (topology : Topology) (keyed : topology.Keyed)
    (descriptions : List ServerDescription) : (topology.applyAll descriptions).Keyed := by
  induction descriptions generalizing topology with
  | nil => exact keyed
  | cons first rest inductionHypothesis =>
    exact inductionHypothesis _ (keyed_apply topology keyed first)

/-- A listener that starts with the unchecked seeds can follow the events of a whole run, and then
knows what the client knows of every server. A change is told unless it does not show, and then the
last thing told is how the whole picture has changed from the one that was announced before. -/
theorem events_tell_run (options : ClientOptions) (start : Topology)
    (started : ofOptions options = .ok start) (descriptions : List ServerDescription) :
    FitInTurn (.ofAddresses options.hosts .unknown) (log start descriptions) ∧
      (∀ address, Alike
        (((log start descriptions).foldl replay (.ofAddresses options.hosts .unknown)).get? address)
        ((start.applyAll descriptions).server? address)) ∧
      ∀ description,
        let previous := start.applyAll descriptions
        let next := previous.apply description
        (between previous next = [] ↔ previous.same next = true) ∧
          (previous.same next = false → ∃ news,
            between previous next = news ++ [topologyChanged previous next] ∧
              (∀ event ∈ news, event.subject ≠ none) ∧
              (announced start (log start descriptions)).same previous = true) := by
  obtain ⟨-, rfl⟩ := (ofOptions_eq_ok_iff options start).1 started
  have keyed := keyed_initial options
  have seeds : (initial options).servers = .ofAddresses options.hosts .unknown := rfl
  obtain ⟨fits, knows⟩ := follows_log (initial options).servers (initial options) keyed
    (fun address => alike_refl ((initial options).server? address)) descriptions
  rw [seeds] at fits knows
  refine ⟨fits, knows, fun description => ?_⟩
  have nextKeyed := keyed_apply _ (keyed_applyAll _ keyed descriptions) description
  refine ⟨between_eq_nil_iff _ _ nextKeyed, fun differs => ?_⟩
  obtain ⟨news, told, about⟩ := between_of_differs _ _ nextKeyed differs
  exact ⟨news, told, about, same_announced_log _ _ keyed (Topology.same_refl _) descriptions⟩

/-- The answer of the first server of the pair as primary of a set in which a third server has taken
the place of the second. -/
def pairReplaced : ServerDescription :=
  .ofReply ⟨"left", 27017⟩
    [("ok", .int32 1), ("ismaster", .boolean true), ("setName", .string "pair"),
      ("maxWireVersion", .int32 17),
      ("hosts", .array [.string "left", .string "third"])] none .zero

theorem events_tell_run_pair :
    (log (initial pairOptions) [pairReplaced]).map subject =
        [some ⟨"third", 27017⟩, some ⟨"left", 27017⟩, some ⟨"right", 27017⟩, none] ∧
      FitInTurn (.ofAddresses pairOptions.hosts .unknown)
        (log (initial pairOptions) [pairReplaced]) ∧
      between ((initial pairOptions).apply pairReplaced)
        (((initial pairOptions).apply pairReplaced).apply pairReplaced) = [] := by
  have tells := events_tell_run pairOptions _ rfl [pairReplaced]
  exact ⟨by decide +kernel, tells.1, (tells.2.2 pairReplaced).1.2 (by decide +kernel)⟩

end TopologyEvent

end DocumentDriver
