/-
This file proves that an operation is offered only servers that are known. Whatever it asks for, and
however tags, staleness and the mode of a read narrow the choice down, what is left was tracked and had
answered its last check.
-/

import DocumentDriver.Proofs.Accident
import DocumentDriver.Selection.Suitable

namespace DocumentDriver

namespace Selection

variable (topology : Topology) {preference : ReadPreference} {criteria : SelectionCriteria}
  {servers : List ServerDescription}

theorem filterByTags_sublist (tagSets : List TagSet) (servers : List ServerDescription) :
    (filterByTags tagSets servers).Sublist servers := by
  unfold filterByTags
  split
  · exact List.Sublist.refl servers
  · dsimp only
    cases first : (tagSets.map fun set => servers.filter (·.matchesTags set)).find? (!·.isEmpty) with
    | none => exact List.nil_sublist servers
    | some matched =>
      obtain ⟨set, -, rfl⟩ := List.mem_map.1 (List.mem_of_find?_eq_some first)
      exact List.filter_sublist

theorem orElse_sublist {first second whole : List ServerDescription} (isFirst : first.Sublist whole)
    (isSecond : second.Sublist whole) : (orElse first second).Sublist whole := by
  unfold orElse
  split
  · exact isSecond
  · exact isFirst

/-- Servers that are picked for their kinds are available, as long as the kinds are. -/
theorem filter_sublist_available {keep : ServerDescription → Bool}
    (known : ∀ server, keep server = true → server.isAvailable = true) :
    (topology.descriptions.filter keep).Sublist (topology.descriptions.filter (·.isAvailable)) := by
  have twice : topology.descriptions.filter keep =
      (topology.descriptions.filter (·.isAvailable)).filter keep := by
    rw [List.filter_filter]
    refine List.filter_congr fun server _ => ?_
    cases kept : keep server with
    | false => rfl
    | true => rw [known server kept, Bool.and_self]
  rw [twice]
  exact List.filter_sublist

theorem isAvailable_of_type {server : ServerDescription} {kind : ServerType}
    (type : (server.type == kind) = true) (known : kind ≠ .unknown) : server.isAvailable = true :=
  ServerType.isAvailable_iff.2 (beq_iff_eq.1 type ▸ known)

theorem primaries_sublist :
    (primaries topology).Sublist (topology.descriptions.filter (·.isAvailable)) := by
  unfold primaries
  cases found : topology.primary? with
  | none => exact List.nil_sublist _
  | some primary =>
    have leads : topology.descriptions.find? (·.type == .rsPrimary) = some primary := found
    have type := List.find?_some leads
    exact List.singleton_sublist.2 (List.mem_filter.2 ⟨List.mem_of_find?_eq_some leads,
      isAvailable_of_type type (by decide)⟩)

theorem eligibleSecondaries_sublist (found : eligibleSecondaries topology preference = .ok servers) :
    servers.Sublist (topology.descriptions.filter (·.isAvailable)) := by
  obtain ⟨fresh, chosen, rfl⟩ := shaped_eq_ok_iff.1 found
  obtain ⟨-, rfl⟩ := filterM_eq_ok_iff.1 chosen
  exact (filterByTags_sublist _ _).trans <| List.filter_sublist.trans <|
    filter_sublist_available topology fun _ secondary => isAvailable_of_type secondary (by decide)

/-- A member that does not lag too much has told of its part. -/
theorem isAvailable_of_isFreshMember {server : ServerDescription}
    (fresh : isFreshMember topology preference server = .ok true) : server.isAvailable = true := by
  unfold isFreshMember at fresh
  split at fresh
  · next primary => exact isAvailable_of_type primary (by decide)
  · split at fresh
    · next secondary => exact isAvailable_of_type secondary (by decide)
    · cases fresh

theorem eligibleMembers_sublist (found : eligibleMembers topology preference = .ok servers) :
    servers.Sublist (topology.descriptions.filter (·.isAvailable)) := by
  obtain ⟨fresh, chosen, rfl⟩ := shaped_eq_ok_iff.1 found
  obtain ⟨-, rfl⟩ := filterM_eq_ok_iff.1 chosen
  exact (filterByTags_sublist _ _).trans <| filter_sublist_available topology fun _ passed =>
    isAvailable_of_isFreshMember topology (passes_iff.1 passed)

theorem readable_sublist (found : readable topology preference = .ok servers) :
    servers.Sublist (topology.descriptions.filter (·.isAvailable)) := by
  have leaders := primaries_sublist topology
  unfold readable at found
  cases mode : preference.mode with
  | primary =>
    rw [mode] at found
    exact Except.ok.inj found ▸ leaders
  | primaryPreferred =>
    rw [mode] at found
    dsimp only at found
    split at found
    · exact eligibleSecondaries_sublist topology found
    · exact Except.ok.inj found ▸ leaders
  | secondary =>
    rw [mode] at found
    exact eligibleSecondaries_sublist topology found
  | secondaryPreferred =>
    rw [mode] at found
    obtain ⟨secondaries, eligible, rfl⟩ := shaped_eq_ok_iff.1 found
    exact orElse_sublist (eligibleSecondaries_sublist topology eligible) leaders
  | nearest =>
    rw [mode] at found
    exact eligibleMembers_sublist topology found

/-- The suitable servers are some of those that have told of their part, in the same order. -/
theorem suitable_sublist (found : suitable topology criteria = .ok servers) :
    servers.Sublist (topology.descriptions.filter (·.isAvailable)) := by
  unfold suitable at found
  cases type : topology.type with
  | unknown =>
    rw [type] at found
    exact Except.ok.inj found ▸ List.nil_sublist _
  | single =>
    rw [type] at found
    exact Except.ok.inj found ▸ List.filter_sublist
  | sharded =>
    rw [type] at found
    exact Except.ok.inj found ▸ List.filter_sublist.trans List.filter_sublist
  | replicaSetNoPrimary | replicaSetWithPrimary =>
    rw [type] at found
    cases criteria with
    | write => exact Except.ok.inj found ▸ primaries_sublist topology
    | predicate test => exact Except.ok.inj found ▸ List.filter_sublist
    | read preference => exact readable_sublist topology found

end Selection

end DocumentDriver
