/-
This file holds maps that keep values under the addresses of servers, in the order of the
addresses. Two maps with the same look-ups are equal, so it does not matter in which order a map
was filled.
-/

import DocumentDriver.Server.Address

namespace DocumentDriver

/-- Values under addresses, each address once and in order. -/
structure AddressMap (Value : Type) where
  entries : List (ServerAddress × Value)
  ordered : entries.Pairwise fun first second => first.1.before second.1 = true

namespace AddressMap

variable {Value : Type}

/-- The map that holds nothing. -/
def empty : AddressMap Value := ⟨[], .nil⟩

/-- The value under an address. -/
def get? (map : AddressMap Value) (address : ServerAddress) : Option Value :=
  map.entries.lookup address

/-- Whether an address has a value. -/
def contains (map : AddressMap Value) (address : ServerAddress) : Bool := (map.get? address).isSome

/-- The addresses in order. -/
def addresses (map : AddressMap Value) : List ServerAddress := map.entries.map (·.1)

/-- The values in the order of their addresses. -/
def values (map : AddressMap Value) : List Value := map.entries.map (·.2)

/-- The number of addresses. -/
def size (map : AddressMap Value) : Nat := map.entries.length

/-- Puts a value where its address belongs and replaces one that stands there. -/
def insertEntry (address : ServerAddress) (value : Value) :
    List (ServerAddress × Value) → List (ServerAddress × Value)
  | [] => [(address, value)]
  | (other, old) :: rest =>
    if other = address then (address, value) :: rest
    else if address.before other then (address, value) :: (other, old) :: rest
    else (other, old) :: insertEntry address value rest

theorem mem_insertEntry {address : ServerAddress} {value : Value}
    {entries : List (ServerAddress × Value)} {entry : ServerAddress × Value}
    (member : entry ∈ insertEntry address value entries) :
    entry = (address, value) ∨ entry ∈ entries := by
  induction entries with
  | nil => simpa [insertEntry] using member
  | cons first rest inductionHypothesis =>
    obtain ⟨other, old⟩ := first
    unfold insertEntry at member
    split at member
    · rcases List.mem_cons.1 member with same | inRest
      · exact .inl same
      · exact .inr (List.mem_cons_of_mem _ inRest)
    · split at member
      · rcases List.mem_cons.1 member with same | inRest
        · exact .inl same
        · exact .inr inRest
      · rcases List.mem_cons.1 member with same | inRest
        · exact .inr (same ▸ List.mem_cons_self)
        · exact (inductionHypothesis inRest).imp id (List.mem_cons_of_mem _)

theorem ordered_insertEntry (address : ServerAddress) (value : Value)
    {entries : List (ServerAddress × Value)}
    (ordered : entries.Pairwise fun first second => first.1.before second.1 = true) :
    (insertEntry address value entries).Pairwise
      fun first second => first.1.before second.1 = true := by
  induction entries with
  | nil => exact List.pairwise_singleton _ _
  | cons first rest inductionHypothesis =>
    obtain ⟨other, old⟩ := first
    obtain ⟨below, restOrdered⟩ := List.pairwise_cons.1 ordered
    unfold insertEntry
    split
    · next same => exact List.pairwise_cons.2 ⟨fun entry member => same ▸ below entry member, restOrdered⟩
    · next distinct =>
      split
      · next smaller =>
        refine List.pairwise_cons.2 ⟨fun entry member => ?_, ordered⟩
        rcases List.mem_cons.1 member with same | inRest
        · exact same ▸ smaller
        · exact ServerAddress.before_trans smaller (below entry inRest)
      · next notSmaller =>
        refine List.pairwise_cons.2 ⟨fun entry member => ?_, inductionHypothesis restOrdered⟩
        rcases mem_insertEntry member with same | inRest
        · exact same ▸ (ServerAddress.before_or_before distinct).resolve_right notSmaller
        · exact below entry inRest

/-- Sets the value under an address. -/
def insert (map : AddressMap Value) (address : ServerAddress) (value : Value) : AddressMap Value :=
  ⟨insertEntry address value map.entries, ordered_insertEntry address value map.ordered⟩

/-- Keeps the entries whose address and value pass a test. -/
def filter (map : AddressMap Value) (keep : ServerAddress → Value → Bool) : AddressMap Value :=
  ⟨map.entries.filter fun entry => keep entry.1 entry.2, map.ordered.filter _⟩

/-- Removes an address. -/
def erase (map : AddressMap Value) (address : ServerAddress) : AddressMap Value :=
  map.filter fun other _ => other != address

/-- The map with a value for each of some addresses. -/
def ofAddresses (addresses : List ServerAddress) (value : ServerAddress → Value) :
    AddressMap Value :=
  addresses.foldl (fun map address => map.insert address (value address)) empty

/-! ### Look-ups -/

theorem lookup_cons_if (address other : ServerAddress) (value : Value)
    (rest : List (ServerAddress × Value)) :
    ((other, value) :: rest).lookup address =
      if address = other then some value else rest.lookup address := by
  by_cases same : address = other
  · simp [same]
  · simp [List.lookup_cons, beq_false_of_ne same, same]

theorem lookup_insertEntry (address other : ServerAddress) (value : Value)
    (entries : List (ServerAddress × Value)) :
    (insertEntry address value entries).lookup other =
      if other = address then some value else entries.lookup other := by
  induction entries with
  | nil => exact lookup_cons_if other address value []
  | cons first rest inductionHypothesis =>
    obtain ⟨present, old⟩ := first
    unfold insertEntry
    split
    · next equal => subst equal; simp only [lookup_cons_if]; split <;> rfl
    · next distinct =>
      split
      · exact lookup_cons_if other address value _
      · rw [lookup_cons_if, lookup_cons_if, inductionHypothesis]
        by_cases here : other = present
        · subst here; simp [distinct]
        · simp [here]

@[simp] theorem get?_empty (address : ServerAddress) :
    (empty : AddressMap Value).get? address = none := rfl

theorem get?_insert (map : AddressMap Value) (address other : ServerAddress) (value : Value) :
    (map.insert address value).get? other = if other = address then some value else map.get? other :=
  lookup_insertEntry address other value map.entries

@[simp] theorem get?_insert_self (map : AddressMap Value) (address : ServerAddress)
    (value : Value) : (map.insert address value).get? address = some value := by
  simp [get?_insert]

theorem get?_insert_other (map : AddressMap Value) {address other : ServerAddress} (value : Value)
    (distinct : other ≠ address) : (map.insert address value).get? other = map.get? other := by
  simp [get?_insert, distinct]

theorem lookup_eq_some_iff {entries : List (ServerAddress × Value)}
    (ordered : entries.Pairwise fun first second => first.1.before second.1 = true)
    {address : ServerAddress} {value : Value} :
    entries.lookup address = some value ↔ (address, value) ∈ entries := by
  induction entries with
  | nil => simp
  | cons first rest inductionHypothesis =>
    obtain ⟨other, old⟩ := first
    obtain ⟨below, restOrdered⟩ := List.pairwise_cons.1 ordered
    by_cases same : address = other
    · subst same
      have absent : (address, value) ∉ rest := fun member => by
        simpa [ServerAddress.before_irrefl] using below _ member
      simp [absent, eq_comm]
    · simp [lookup_cons_if, same, inductionHypothesis restOrdered]

/-- A look-up finds exactly the entries. -/
theorem get?_eq_some_iff (map : AddressMap Value) {address : ServerAddress} {value : Value} :
    map.get? address = some value ↔ (address, value) ∈ map.entries :=
  lookup_eq_some_iff map.ordered

theorem get?_filter (map : AddressMap Value) (keep : ServerAddress → Value → Bool)
    (address : ServerAddress) :
    (map.filter keep).get? address = (map.get? address).filter (keep address) := by
  apply Option.ext
  intro value
  rw [get?_eq_some_iff, Option.filter_eq_some_iff, get?_eq_some_iff]
  simp [filter]

theorem get?_erase (map : AddressMap Value) (address other : ServerAddress) :
    (map.erase address).get? other = if other = address then none else map.get? other := by
  rw [erase, get?_filter]
  by_cases same : other = address <;> cases map.get? other <;> simp [same]

@[simp] theorem get?_erase_self (map : AddressMap Value) (address : ServerAddress) :
    (map.erase address).get? address = none := by simp [get?_erase]

theorem contains_iff (map : AddressMap Value) {address : ServerAddress} :
    map.contains address = true ↔ address ∈ map.addresses := by
  simp only [contains, Option.isSome_iff_exists, get?_eq_some_iff, addresses, List.mem_map]
  constructor
  · rintro ⟨value, member⟩
    exact ⟨_, member, rfl⟩
  · rintro ⟨entry, member, rfl⟩
    exact ⟨entry.2, member⟩

theorem mem_values_iff (map : AddressMap Value) {value : Value} :
    value ∈ map.values ↔ ∃ address, map.get? address = some value := by
  simp only [values, List.mem_map, get?_eq_some_iff]
  constructor
  · rintro ⟨entry, member, rfl⟩
    exact ⟨entry.1, member⟩
  · rintro ⟨address, member⟩
    exact ⟨_, member, rfl⟩

/-- Maps with the same look-ups are the same map. -/
theorem ext_get? {left right : AddressMap Value}
    (same : ∀ address, left.get? address = right.get? address) : left = right := by
  have members : ∀ entry, entry ∈ left.entries ↔ entry ∈ right.entries := fun entry => by
    have found (map : AddressMap Value) :
        map.get? entry.1 = some entry.2 ↔ entry ∈ map.entries := get?_eq_some_iff map
    rw [← found left, ← found right, same]
  have distinct (map : AddressMap Value) : map.entries.Nodup :=
    map.ordered.imp fun {first second} smaller equal => by
      simp [equal, ServerAddress.before_irrefl] at smaller
  have permuted : left.entries.Perm right.entries :=
    (List.perm_ext_iff_of_nodup (distinct left) (distinct right)).2 members
  have equal : left.entries = right.entries :=
    permuted.eq_of_pairwise
      (fun _ _ _ _ smaller larger => absurd (ServerAddress.before_trans smaller larger)
        (by simp [ServerAddress.before_irrefl]))
      left.ordered right.ordered
  cases left
  cases right
  simp_all

end AddressMap

end DocumentDriver
