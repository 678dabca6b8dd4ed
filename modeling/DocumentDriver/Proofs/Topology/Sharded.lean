/-
This file says what a sharded deployment consists of. Whoever is described once the kind is known
stays only as a router or as a server of which nothing is known. That does not hold of servers that
were described before: a member without a set that told of itself while the kind was open is still
tracked once a router has decided it, until something new is told of it.
-/

import DocumentDriver.Proofs.Topology.Primary
import Mathlib.Data.List.Induction

namespace DocumentDriver

/-- The server is a router, or nothing is known of it. -/
def ServerType.mayShard : ServerType → Bool
  | mongos | unknown => true
  | _ => false

namespace Topology

/-- Every tracked server is a router, or nothing is known of it. -/
def HoldsRoutersOnly (topology : Topology) : Prop :=
  ∀ address server, topology.server? address = some server →
    server.type = .mongos ∨ server.type = .unknown

/-- In a run of descriptions, a ghost told of itself while the kind was open, and what it told was
known at its address when a router decided the kind. -/
def IsEarlyGhost (start : Topology) (descriptions : List ServerDescription)
    (address : ServerAddress) (ghost : ServerDescription) : Prop :=
  ghost.type = .rsGhost ∧ ∃ before router after, descriptions = before ++ router :: after ∧
    router.type = .mongos ∧ (start.applyAll before).type = .unknown ∧
    ((start.applyAll before).apply router).type = .sharded ∧ ghost ∈ before ∧
    (start.applyAll before).server? address = some ghost

theorem isEarlyGhost_concat (start : Topology) (descriptions : List ServerDescription)
    (last : ServerDescription) (address : ServerAddress) (ghost : ServerDescription)
    (early : start.IsEarlyGhost descriptions address ghost) :
    start.IsEarlyGhost (descriptions ++ [last]) address ghost := by
  obtain ⟨kind, before, router, after, rfl, rest⟩ := early
  refine ⟨kind, before, router, after ++ [last], ?_, rest⟩
  rw [List.append_assoc, List.cons_append]

/-! ### As long as the kind is open -/

/-- As long as the kind is open, a server of which anything is known told it itself in the run. -/
theorem ghosts_told (options : ClientOptions) (descriptions : List ServerDescription)
    (stillOpen : ((initial options).applyAll descriptions).type = .unknown)
    (address : ServerAddress) (server : ServerDescription)
    (found : ((initial options).applyAll descriptions).server? address = some server) :
    server.type = .unknown ∨ server.type = .rsGhost ∧ server ∈ descriptions := by
  induction descriptions using List.reverseRecOn generalizing address server with
  | nil =>
    rw [eq_unknown_of_initial options address server found]
    exact .inl rfl
  | append_singleton before last inductionHypothesis =>
    rw [applyAll_concat] at stillOpen found
    have earlier (wasOpen : ((initial options).applyAll before).type = .unknown)
        (known : ((initial options).applyAll before).server? address = some server) :
        server.type = .unknown ∨ server.type = .rsGhost ∧ server ∈ before ++ [last] :=
      (inductionHypothesis wasOpen address server known).imp id
        fun ⟨kind, told⟩ => ⟨kind, List.mem_append_left _ told⟩
    rcases apply_cases ((initial options).applyAll before) last with ignored | ⟨-, applied⟩
    · rw [ignored] at stillOpen found
      exact earlier stillOpen found
    · rw [applied] at stillOpen found
      obtain ⟨wasOpen, ⟨silent, same⟩ | same⟩ :=
        undecided_reaction _ last _ (reaction _ last) stillOpen
      · rw [server?_refresh, same, server?_store] at found
        split at found
        · cases found
          exact silent.symm.imp id fun ghost =>
            ⟨ghost, List.mem_append_right _ List.mem_cons_self⟩
        · exact earlier wasOpen found
      · rw [server?_refresh, same, server?_store_remove] at found
        split at found
        · cases found
        · exact earlier wasOpen found

/-- A router decides the kind and changes nothing else. -/
theorem apply_router (topology : Topology) (stillOpen : topology.type = .unknown)
    (router current : ServerDescription) (kind : router.type = .mongos)
    (found : topology.server? router.address = some current)
    (recent : isOutdated current router = false) :
    (topology.apply router).type = .sharded ∧ ∀ address,
      (topology.apply router).server? address =
        if address = router.address then some router else topology.server? address := by
  have react : (topology.store router).react router =
      { topology.store router with type := .sharded } := by
    have stored : (topology.store router).type = .unknown := stillOpen
    unfold react
    rw [stored, kind]
  rw [apply_of_tracked topology router current found recent, react]
  exact ⟨rfl, server?_store topology router⟩

/-! ### Once the kind is known -/

/-- In a sharded deployment a description stays only if it may. -/
theorem server?_apply_of_sharded (topology : Topology) (sharded : topology.type = .sharded)
    (description current : ServerDescription)
    (found : topology.server? description.address = some current)
    (recent : isOutdated current description = false) (address : ServerAddress) :
    (topology.apply description).server? address =
      if address = description.address then
        if description.type.mayShard then some description else none
      else topology.server? address := by
  have stored : (topology.store description).type = .sharded := sharded
  rw [apply_of_tracked topology description current found recent, server?_refresh]
  by_cases may : description.type.mayShard = true
  · have kept : (topology.store description).react description = topology.store description := by
      unfold react
      rw [stored]
      cases kind : description.type <;> simp_all [ServerType.mayShard]
    rw [kept, server?_store, if_pos may]
  · have removed : (topology.store description).react description =
        (topology.store description).remove description.address := by
      unfold react
      rw [stored]
      cases kind : description.type <;> simp_all [ServerType.mayShard]
    rw [removed, server?_store_remove, if_neg may]

/-- Along every run, a server of a sharded deployment that is no router and of which something is
known is a ghost from before. -/
theorem sharded_or_early (options : ClientOptions) (descriptions : List ServerDescription)
    (sharded : ((initial options).applyAll descriptions).type = .sharded) (address : ServerAddress)
    (server : ServerDescription)
    (found : ((initial options).applyAll descriptions).server? address = some server) :
    (server.type = .mongos ∨ server.type = .unknown) ∨
      (initial options).IsEarlyGhost descriptions address server := by
  induction descriptions using List.reverseRecOn generalizing address server with
  | nil =>
    rw [eq_unknown_of_initial options address server found]
    exact .inl (.inr rfl)
  | append_singleton before last inductionHypothesis =>
    rw [applyAll_concat] at sharded found
    have decided := sharded
    have earlier (wasSharded : ((initial options).applyAll before).type = .sharded)
        (known : ((initial options).applyAll before).server? address = some server) :=
      (inductionHypothesis wasSharded address server known).imp id
        (isEarlyGhost_concat _ before last address server)
    rcases apply_cases ((initial options).applyAll before) last with ignored | ⟨-, applied⟩
    · rw [ignored] at sharded found
      exact earlier sharded found
    · rw [applied] at sharded found
      rw [server?_refresh] at found
      -- A router finds the servers of the open deployment; any later description replaces or
      -- removes the one of its own server.
      rcases sharded_reaction _ last _ (reaction _ last) sharded with
        ⟨wasOpen, router, same⟩ | ⟨wasSharded, ⟨kind, same⟩ | same⟩
      · rw [same, server?_withType, server?_store] at found
        split at found
        · cases found
          exact .inl (.inl router)
        · rcases ghosts_told options before wasOpen address server found with down | ⟨ghost, told⟩
          · exact .inl (.inr down)
          · exact .inr ⟨ghost, before, last, [], rfl, router, wasOpen, decided, told, found⟩
      · rw [same, server?_store] at found
        split at found
        · cases found
          exact .inl kind
        · exact earlier wasSharded found
      · rw [same, server?_store_remove] at found
        split at found
        · cases found
        · exact earlier wasSharded found

/-- What a sharded deployment consists of. Each of its servers is a router, or nothing is known of
it, or it is a ghost that told of itself while the kind was open and was tracked when a router
decided it. Of a server that is described once the kind is known, the description stays only if it
comes from a router or tells nothing, and no other server is touched. A router that decides the kind
leaves routers alone exactly if it finds no ghost at another address. -/
theorem sharded_keeps_only_early_ghosts (options : ClientOptions) (start topology : Topology)
    (started : ofOptions options = .ok start) (descriptions : List ServerDescription)
    (reached : start.applyAll descriptions = topology) :
    (topology.type = .sharded →
      (∀ address server, topology.server? address = some server →
        (server.type = .mongos ∨ server.type = .unknown) ∨
          start.IsEarlyGhost descriptions address server) ∧
      ∀ description current, topology.server? description.address = some current →
        isOutdated current description = false → ∀ address,
        (topology.apply description).server? address =
          if address = description.address then
            if description.type.mayShard then some description else none
          else topology.server? address) ∧
      (topology.type = .unknown → ∀ router current, router.type = .mongos →
        topology.server? router.address = some current → isOutdated current router = false →
        (topology.apply router).type = .sharded ∧
          ((topology.apply router).HoldsRoutersOnly ↔ ∀ address server,
            topology.server? address = some server → server.type = .rsGhost →
            address = router.address)) := by
  obtain ⟨-, rfl⟩ := (ofOptions_eq_ok_iff options start).1 started
  subst reached
  refine ⟨fun sharded => ⟨sharded_or_early options descriptions sharded,
    server?_apply_of_sharded _ sharded⟩, fun stillOpen router current kind known recent => ?_⟩
  obtain ⟨type, servers⟩ := apply_router _ stillOpen router current kind known recent
  refine ⟨type, fun routers address server found ghost => ?_, fun own address server found => ?_⟩
  · by_contra distinct
    have later := routers address server ((servers address).trans (by rw [if_neg distinct, found]))
    rw [ghost] at later
    rcases later with later | later <;> cases later
  · rw [servers] at found
    split at found
    · cases found
      exact .inl kind
    · next distinct =>
      rcases ghosts_told options descriptions stillOpen address server found with
        down | ⟨ghost, -⟩
      · exact .inr down
      · exact absurd (own address server found ghost) distinct

/-- The answer of the first server of the pair as a router. -/
def pairRouter : ServerDescription :=
  .ofReply ⟨"left", 27017⟩
    [("ok", .int32 1), ("msg", .string "isdbgrid"), ("maxWireVersion", .int32 17)] none .zero

/-- The answer of the second server of the pair as a member that has no set yet. -/
def pairGhost : ServerDescription :=
  .ofReply ⟨"right", 27017⟩
    [("ok", .int32 1), ("isreplicaset", .boolean true), ("maxWireVersion", .int32 17)] none .zero

theorem sharded_keeps_only_early_ghosts_pair :
    (∀ address server,
        ((initial pairOptions).applyAll [pairGhost, pairRouter]).server? address = some server →
        (server.type = .mongos ∨ server.type = .unknown) ∨
          (initial pairOptions).IsEarlyGhost [pairGhost, pairRouter] address server) ∧
      (((initial pairOptions).applyAll [pairGhost, pairRouter]).apply pairGhost).server?
        ⟨"right", 27017⟩ = none ∧
      ((initial pairOptions).apply pairRouter).HoldsRoutersOnly := by
  have late := (sharded_keeps_only_early_ghosts pairOptions _ _ rfl [pairGhost, pairRouter] rfl).1
    (by decide +kernel)
  have first := (sharded_keeps_only_early_ghosts pairOptions _ _ rfl [] rfl).2 rfl pairRouter
    (.unknown ⟨"left", 27017⟩) rfl rfl rfl
  refine ⟨late.1, late.2 pairGhost pairGhost rfl rfl ⟨"right", 27017⟩, first.2.2 ?_⟩
  intro address server found ghost
  rw [eq_unknown_of_initial pairOptions address server found] at ghost
  cases ghost

/-- A ghost that told of itself before the router is part of the sharded deployment. -/
theorem sharded_pair_keeps_ghost :
    Reachable pairOptions ((initial pairOptions).applyAll [pairGhost, pairRouter]) ∧
      ((initial pairOptions).applyAll [pairGhost, pairRouter]).type = .sharded ∧
      ((initial pairOptions).applyAll [pairGhost, pairRouter]).server? ⟨"right", 27017⟩ =
        some pairGhost ∧
      pairGhost.type = .rsGhost := by
  refine ⟨reachable_applyAll pairOptions _ (.start _ rfl) _ fun description member => ?_,
    by decide +kernel, rfl, rfl⟩
  simp only [List.mem_cons, List.not_mem_nil, or_false] at member
  rcases member with rfl | rfl <;> exact .replied _ _ _ _

end Topology

end DocumentDriver
