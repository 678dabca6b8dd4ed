/-
This file says where the descriptions of a deployment come from. Whatever a description brings about,
the server it is about is described by it afterwards, or unknown, or forgotten; all other servers are
described as before, or unknown. So everything that is known of a server was told by a description.
-/

import DocumentDriver.Proofs.Topology.Replay

namespace DocumentDriver

namespace Topology

/-- Under the address of a description stands the description itself, or that nothing is known. -/
theorem eq_or_unknown_of_reaction (topology : Topology) (keyed : topology.Keyed)
    (description server : ServerDescription) (next : Topology)
    (effect : Reaction (topology.store description) description next)
    (found : next.server? description.address = some server) :
    server = description ∨ server.type = .unknown := by
  have stored (found : (topology.store description).server? description.address = some server) :
      server = description ∨ server.type = .unknown := by
    rw [server?_store_self] at found
    exact .inl (Option.some.inj found).symm
  have removed (before : Topology)
      (found : (before.remove description.address).server? description.address = some server) :
      server = description ∨ server.type = .unknown := by
    rw [server?_remove_self] at found
    cases found
  cases effect with
  | direct =>
    unfold updateSingle at found
    split at found
    · rw [server?_store, ServerDescription.address_ofError, if_pos rfl] at found
      cases found
      exact .inr rfl
    · exact stored found
  | standalone =>
    unfold updateFromStandalone at found
    split at found
    · exact stored found
    · exact removed _ found
  | router | waiting | shard | silence => exact stored found
  | intruder | stranger | deserter => exact removed _ found
  | primary _ kind =>
    cases accepted : topology.acceptsSetName description with
    | false =>
      rw [server?_updateFromPrimary_of_refused topology description accepted, if_pos rfl] at found
      cases found
    | true =>
      cases stale : topology.isStalePrimary description with
      | true =>
        rw [server?_updateFromPrimary_of_stale topology description accepted stale,
          if_pos rfl] at found
        cases found
        exact .inr rfl
      | false =>
        rw [server?_updateFromPrimary topology keyed description ⟨kind, accepted, stale⟩,
          if_pos rfl] at found
        split at found
        · exact .inl (Option.some.inj found).symm
        · cases found
  | member =>
    have grown (found : ((topology.store description).addHosts description).server?
        description.address = some server) : server = description ∨ server.type = .unknown := by
      rw [server?_addHosts, server?_store_self] at found
      exact .inl (Option.some.inj found).symm
    unfold updateWithoutPrimary at found
    split at found
    · dsimp only at found
      split at found
      · exact removed _ found
      · exact grown found
    · exact removed _ found
  | subject =>
    unfold updateFromMember at found
    dsimp only at found
    split at found
    · exact removed _ found
    · exact stored found

/-- Nothing is known of a server, or it was described so. -/
def DescribedBy (descriptions : List ServerDescription) (topology : Topology) : Prop :=
  ∀ address server, topology.server? address = some server →
    server ∈ descriptions ∨ server.type = .unknown

theorem describedBy_applyAll (options : ClientOptions) (descriptions : List ServerDescription) :
    ((initial options).applyAll descriptions).DescribedBy descriptions := by
  have invariant : ((initial options).applyAll descriptions).Keyed ∧
      ((initial options).applyAll descriptions).DescribedBy descriptions := by
    refine applyAll_induction (· ∈ descriptions)
      (fun topology => topology.Keyed ∧ topology.DescribedBy descriptions) ?_ descriptions
      (fun _ member => member) _ ⟨keyed_initial options, ?_⟩
    · rintro topology description ⟨keyed, described⟩ applied -
      have effect := reaction (topology.store description) description
      have storedKeyed := keyed_store topology keyed description
      have reacted := keyed_reaction _ storedKeyed description _ effect
      refine ⟨reacted, fun address server found => ?_⟩
      rw [server?_refresh] at found
      rcases (leavesOthers_store topology description).trans
        (leavesOthers_reaction _ storedKeyed description _ effect) address server found with
        rfl | before | rfl
      · rcases eq_or_unknown_of_reaction topology keyed description server _ effect found with
          rfl | unknown
        · exact .inl applied
        · exact .inr unknown
      · exact described address server before
      · exact .inr rfl
    · intro address server found
      rw [eq_unknown_of_initial options address server found]
      exact .inr rfl
  exact invariant.2

end Topology

end DocumentDriver
