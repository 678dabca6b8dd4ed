/-
This file proves that looking the same is an equivalence, for descriptions and for pictures. Two
pictures that look the same track the same servers, and each server looks the same in both.
-/

import DocumentDriver.Topology.Basic
import Mathlib.Data.List.Perm.Basic
import Mathlib.Data.Option.Basic

namespace DocumentDriver

namespace ServerDescription

theorem same_symm {left right : ServerDescription} (alike : left.same right = true) :
    right.same left = true := by
  simp only [same, Bool.and_eq_true, beq_iff_eq, List.isPerm_iff] at alike ⊢
  grind [List.Perm.symm]

theorem same_trans {first second third : ServerDescription} (left : first.same second = true)
    (right : second.same third = true) : first.same third = true := by
  simp only [same, Bool.and_eq_true, beq_iff_eq, List.isPerm_iff] at left right ⊢
  grind [List.Perm.trans]

/-- Reporting the same is an equivalence of descriptions. -/
theorem equivalence_same :
    Equivalence fun left right : ServerDescription => left.same right = true :=
  ⟨same_refl, same_symm, same_trans⟩

/-- The same is known of a server, if anything is. -/
def Alike : Option ServerDescription → Option ServerDescription → Prop :=
  Option.Rel fun left right => left.same right = true

theorem alike_refl (known : Option ServerDescription) : Alike known known := by
  cases known with
  | none => exact .none
  | some server => exact .some server.same_refl

theorem alike_trans {first second third : Option ServerDescription} (left : Alike first second)
    (right : Alike second third) : Alike first third := by
  cases left with
  | none => exact right
  | some same =>
    cases right with
    | some alike => exact .some (same_trans same alike)

/-- Of two servers that are alike, both are known or none is. -/
theorem isSome_of_alike {left right : Option ServerDescription} (alike : Alike left right) :
    left.isSome = right.isSome := by
  cases alike <;> rfl

end ServerDescription

namespace Topology

open ServerDescription (Alike)

/-! ### Lists of servers -/

theorem sameServers_refl (entries : List (ServerAddress × ServerDescription)) :
    sameServers entries entries = true := by
  induction entries with
  | nil => rfl
  | cons first rest inductionHypothesis =>
    obtain ⟨address, server⟩ := first
    simp [sameServers, server.same_refl, inductionHypothesis]

theorem sameServers_symm {left right : List (ServerAddress × ServerDescription)}
    (alike : sameServers left right = true) : sameServers right left = true := by
  induction left generalizing right with
  | nil =>
    cases right with
    | nil => rfl
    | cons => cases alike
  | cons first rest inductionHypothesis =>
    cases right with
    | nil => cases alike
    | cons second others =>
      simp only [sameServers, Bool.and_eq_true, beq_iff_eq] at alike ⊢
      obtain ⟨⟨address, same⟩, alike⟩ := alike
      exact ⟨⟨address.symm, ServerDescription.same_symm same⟩, inductionHypothesis alike⟩

theorem sameServers_trans {first second third : List (ServerAddress × ServerDescription)}
    (left : sameServers first second = true) (right : sameServers second third = true) :
    sameServers first third = true := by
  induction first generalizing second third with
  | nil =>
    cases second with
    | nil => exact right
    | cons => cases left
  | cons entry rest inductionHypothesis =>
    cases second with
    | nil => cases left
    | cons middle others =>
      cases third with
      | nil => cases right
      | cons last remaining =>
        simp only [sameServers, Bool.and_eq_true, beq_iff_eq] at left right ⊢
        obtain ⟨⟨address, same⟩, left⟩ := left
        obtain ⟨⟨other, alike⟩, right⟩ := right
        exact ⟨⟨address.trans other, ServerDescription.same_trans same alike⟩,
          inductionHypothesis left right⟩

theorem alike_lookup_of_sameServers {left right : List (ServerAddress × ServerDescription)}
    (same : sameServers left right = true) (address : ServerAddress) :
    Alike (left.lookup address) (right.lookup address) := by
  induction left generalizing right with
  | nil =>
    cases right with
    | nil => exact .none
    | cons => cases same
  | cons first rest inductionHypothesis =>
    cases right with
    | nil => cases same
    | cons second others =>
      obtain ⟨own, server⟩ := first
      obtain ⟨other, described⟩ := second
      simp only [sameServers, Bool.and_eq_true, beq_iff_eq] at same
      obtain ⟨⟨rfl, alike⟩, same⟩ := same
      rw [AddressMap.lookup_cons_if, AddressMap.lookup_cons_if]
      split
      · exact .some alike
      · exact inductionHypothesis same

/-! ### Pictures -/

theorem same_refl (topology : Topology) : topology.same topology = true := by
  simp [same, sameServers_refl]

theorem same_symm {left right : Topology} (alike : left.same right = true) :
    right.same left = true := by
  simp only [same, Bool.and_eq_true, beq_iff_eq] at alike ⊢
  grind [sameServers_symm]

theorem same_trans {first second third : Topology} (left : first.same second = true)
    (right : second.same third = true) : first.same third = true := by
  simp only [same, Bool.and_eq_true, beq_iff_eq] at left right ⊢
  grind [sameServers_trans]

/-- Looking the same is an equivalence of pictures. -/
theorem equivalence_same : Equivalence fun left right : Topology => left.same right = true :=
  ⟨same_refl, same_symm, same_trans⟩

theorem type_of_same (left right : Topology) (same : left.same right = true) :
    left.type = right.type := by
  simp only [Topology.same, Bool.and_eq_true, beq_iff_eq] at same
  exact same.1.1.1.1.1.1.1

/-- Every server is alike in two pictures that look the same. -/
theorem alike_of_same {left right : Topology} (same : left.same right = true)
    (address : ServerAddress) : Alike (left.server? address) (right.server? address) := by
  simp only [Topology.same, Bool.and_eq_true] at same
  exact alike_lookup_of_sameServers same.2 address

theorem tracks_of_same (left right : Topology) (same : left.same right = true)
    (address : ServerAddress) : left.tracks address = true ↔ right.tracks address = true := by
  have alike := ServerDescription.isSome_of_alike (alike_of_same same address)
  unfold tracks AddressMap.contains
  exact iff_of_eq (congrArg (· = true) alike)

end Topology

end DocumentDriver
