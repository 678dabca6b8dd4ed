/-
This file says with which servers a selection may end while nothing else happens. Chance may draw any of
the servers that suit and are near enough, and no other one, and the one that is drawn must have a handle.
-/

import DocumentDriver.Proofs.Cluster.Bookkeeping

namespace DocumentDriver

/-- Chance may draw every server that there is, and no other one. -/
theorem Selecting.exists_pick?_iff {servers : List ServerDescription} {server : ServerDescription} :
    (∃ draw, pick? draw servers = some server) ↔ server ∈ servers := by
  constructor
  · rintro ⟨draw, drawn⟩
    exact List.mem_of_getElem? drawn
  · intro member
    obtain ⟨place, inside, rfl⟩ := List.mem_iff_getElem.1 member
    refine ⟨place, ?_⟩
    rw [pick?, Nat.mod_eq_of_lt inside]
    exact List.getElem?_eq_getElem inside

namespace Cluster

variable {cluster next : Cluster} {criteria : SelectionCriteria} {draw : Nat} {elapsed : Duration}

/-- What a selection looks at in a cluster that is open. -/
theorem trySelect_of_open (isOpen : cluster.isClosed = false) :
    cluster.trySelect criteria draw =
      Selecting.step criteria draw cluster (Selecting.read cluster criteria draw) := by
  unfold trySelect
  simp only [Selecting.step, isOpen, Bool.false_eq_true, if_false]

/-- A selection that succeeds leaves an open cluster as it is, takes no time, and ends with the server
that was drawn from the published picture, if this has a handle. -/
theorem select_eq_ok_iff {server : SelectedServer} :
    cluster.select criteria draw = .ok (next, elapsed, .ok server) ↔
      next = cluster ∧ elapsed = .zero ∧ cluster.isClosed = false ∧
        cluster.handles.contains server.description.address = true ∧
        server.topologyType = cluster.published.type ∧
        ∃ servers, Selection.select cluster.published criteria = .ok (.ok servers) ∧
          Selecting.pick? draw servers = some server.description := by
  cases isOpen : cluster.isClosed with
  | true =>
    rw [(select_of_closed cluster isOpen criteria draw).2]
    exact ⟨nofun, nofun⟩
  | false =>
    unfold select
    rw [trySelect_of_open isOpen]
    unfold Selecting.read
    cases Selection.select cluster.published criteria with
    | error cause => exact ⟨nofun, nofun⟩
    | ok answer =>
      cases answer with
      | error error => exact ⟨nofun, nofun⟩
      | ok servers =>
        unfold Selecting.step
        dsimp only
        cases drawn : Selecting.pick? draw servers with
        | none =>
          refine ⟨nofun, ?_⟩
          rintro ⟨-, -, -, -, -, _, ⟨⟩, other⟩
          cases drawn.symm.trans other
        | some description =>
          rw [Option.map_some, Option.filter_some]
          by_cases handled : cluster.handles.contains description.address = true
          · rw [if_pos handled]
            constructor
            · rintro ⟨⟩
              exact ⟨rfl, rfl, rfl, handled, rfl, servers, rfl, drawn⟩
            · rintro ⟨rfl, rfl, -, -, type, _, ⟨⟩, other⟩
              obtain ⟨found, kind⟩ := server
              obtain rfl := Option.some.inj (drawn.symm.trans other)
              obtain rfl : kind = next.published.type := type
              rfl
          · rw [if_neg handled]
            refine ⟨nofun, ?_⟩
            rintro ⟨-, -, -, contains, -, _, ⟨⟩, other⟩
            obtain rfl := Option.some.inj (drawn.symm.trans other)
            exact absurd contains handled

/-- A selection from an open cluster may end with any server that it is offered and that has a handle, and
with no other one. -/
theorem exists_select_iff {description : ServerDescription} (isOpen : cluster.isClosed = false) :
    (∃ draw, cluster.select criteria draw =
        .ok (cluster, .zero, .ok ⟨description, cluster.published.type⟩)) ↔
      cluster.handles.contains description.address = true ∧
        ∃ servers, Selection.select cluster.published criteria = .ok (.ok servers) ∧
          description ∈ servers := by
  simp only [select_eq_ok_iff, isOpen, true_and, exists_and_left]
  refine and_congr_right fun _ => ?_
  rw [exists_comm]
  simp only [exists_and_left, Selecting.exists_pick?_iff]

end Cluster

end DocumentDriver
