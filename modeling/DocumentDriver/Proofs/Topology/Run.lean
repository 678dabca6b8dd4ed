/-
This file defines which pictures a client can come to see: the one at the start, and every picture
after another one once a server has been described. What holds at the start and is kept by every
effect holds of all of them.
-/

import DocumentDriver.Proofs.Topology.Reaction

namespace DocumentDriver

namespace ServerDescription

/-- The descriptions that a check of a server, or its absence, gives. -/
inductive Reported : ServerDescription → Prop
  | unchecked (address : ServerAddress) : Reported (.unknown address)
  | failed (address : ServerAddress) (error : Error) : Reported (.ofError address error)
  | replied (address : ServerAddress) (reply : Document) (roundTripTime : Option Duration)
      (moment : Duration) : Reported (.ofReply address reply roundTripTime moment)

end ServerDescription

namespace Topology

/-- The pictures that some descriptions, in any order, lead to from the start. -/
inductive Reachable (options : ClientOptions) : Topology → Prop
  | start (topology : Topology) (started : ofOptions options = .ok topology) :
      Reachable options topology
  | step (topology : Topology) (description : ServerDescription)
      (reached : Reachable options topology) (reported : description.Reported) :
      Reachable options (topology.apply description)

theorem reachable_applyAll (options : ClientOptions) (topology : Topology)
    (reached : Reachable options topology) (descriptions : List ServerDescription)
    (reported : ∀ description ∈ descriptions, description.Reported) :
    Reachable options (topology.applyAll descriptions) := by
  induction descriptions generalizing topology with
  | nil => exact reached
  | cons first rest inductionHypothesis =>
    exact inductionHypothesis (topology.apply first)
      (.step topology first reached (reported first List.mem_cons_self))
      fun description member => reported description (List.mem_cons_of_mem _ member)

/-- The picture at the start follows from the options, which are acceptable. -/
theorem ofOptions_eq_ok_iff (options : ClientOptions) (topology : Topology) :
    ofOptions options = .ok topology ↔ options.validate = .ok () ∧ topology = initial options := by
  unfold ofOptions
  cases options.validate with
  | error fault =>
    constructor
    · intro same
      cases same
    · rintro ⟨same, -⟩
      cases same
  | ok valid =>
    constructor
    · intro same
      cases same
      exact ⟨rfl, rfl⟩
    · rintro ⟨-, rfl⟩
      rfl

/-- At the start the kind is that of a single server if one is to be talked to directly, and else
that of a set without a primary if one is named. -/
theorem type_initial_cases (options : ClientOptions) :
    options.directConnection = some true ∧ (initial options).type = .single ∨
      options.directConnection ≠ some true ∧
        (options.replicaSet.isSome = true ∧ (initial options).type = .replicaSetNoPrimary ∨
          options.replicaSet = none ∧ (initial options).type = .unknown) := by
  unfold initial
  dsimp only
  split
  · next direct => exact .inl ⟨direct, rfl⟩
  · next indirect =>
    split
    · next named => exact .inr ⟨indirect, .inl ⟨named, rfl⟩⟩
    · next unnamed =>
      exact .inr ⟨indirect, .inr ⟨Option.not_isSome_iff_eq_none.1 unnamed, rfl⟩⟩

/-- Where the kind is open at the start, the options name no set. -/
theorem replicaSet_of_initial_unknown (options : ClientOptions)
    (stillOpen : (initial options).type = .unknown) : options.replicaSet = none := by
  rcases type_initial_cases options with ⟨-, type⟩ | ⟨-, ⟨-, type⟩ | ⟨unnamed, -⟩⟩
  · rw [type] at stillOpen
    cases stillOpen
  · rw [type] at stillOpen
    cases stillOpen
  · exact unnamed

/-- A deployment starts as a single server only if one is to be talked to directly. -/
theorem directConnection_of_initial_single (options : ClientOptions)
    (single : (initial options).type = .single) : options.directConnection = some true := by
  rcases type_initial_cases options with ⟨direct, -⟩ | ⟨-, ⟨-, type⟩ | ⟨-, type⟩⟩
  · exact direct
  · rw [type] at single
    cases single
  · rw [type] at single
    cases single

theorem applyAll_concat (topology : Topology) (descriptions : List ServerDescription)
    (last : ServerDescription) :
    topology.applyAll (descriptions ++ [last]) = (topology.applyAll descriptions).apply last :=
  List.foldl_append

/-- A description is ignored, or it has an effect. -/
theorem apply_cases (topology : Topology) (description : ServerDescription) :
    topology.apply description = topology ∨
      topology.tracks description.address = true ∧
        topology.apply description =
          ((topology.store description).react description).refresh := by
  unfold apply
  split
  · exact .inl rfl
  · next current found =>
    split
    · exact .inl rfl
    · exact .inr ⟨(tracks_iff _ _).2 ⟨current, found⟩, rfl⟩

/-- What holds, and is kept by the effect of a description, holds once it has been applied. -/
theorem holds_apply (Invariant : Topology → Prop) (topology : Topology)
    (description : ServerDescription) (holds : Invariant topology)
    (kept : topology.tracks description.address = true →
      Invariant ((topology.store description).react description).refresh) :
    Invariant (topology.apply description) := by
  rcases apply_cases topology description with ignored | ⟨tracked, applied⟩
  · rw [ignored]
    exact holds
  · rw [applied]
    exact kept tracked

/-- The effect of a description that is not ignored. -/
theorem apply_of_tracked (topology : Topology) (description current : ServerDescription)
    (found : topology.server? description.address = some current)
    (recent : isOutdated current description = false) :
    topology.apply description = ((topology.store description).react description).refresh := by
  unfold apply
  rw [found]
  dsimp only
  rw [recent, if_neg Bool.false_ne_true]

/-- Nothing is older than a description without a version. -/
theorem isOutdated_of_unversioned (current incoming : ServerDescription)
    (unversioned : current.topologyVersion = none) : isOutdated current incoming = false := by
  unfold isOutdated
  rw [unversioned]

theorem isOutdated_self (description : ServerDescription) :
    isOutdated description description = false := by
  unfold isOutdated
  cases description.topologyVersion with
  | none => rfl
  | some version => simp [TopologyVersion.isOlder, Int64.lt_irrefl]

/-- What is kept by every effect of a description of some kind holds after any number of them. -/
theorem applyAll_induction (Allowed : ServerDescription → Prop) (Invariant : Topology → Prop)
    (kept : ∀ topology description, Invariant topology → Allowed description →
      topology.tracks description.address = true →
      Invariant ((topology.store description).react description).refresh)
    (descriptions : List ServerDescription) (allowed : ∀ description ∈ descriptions,
      Allowed description) (topology : Topology) (holds : Invariant topology) :
    Invariant (topology.applyAll descriptions) := by
  induction descriptions generalizing topology with
  | nil => exact holds
  | cons first rest inductionHypothesis =>
    exact inductionHypothesis (fun description member =>
        allowed description (List.mem_cons_of_mem _ member)) (topology.apply first)
      (holds_apply Invariant topology first holds
        (kept topology first holds (allowed first List.mem_cons_self)))

/-- What holds at the start and is kept by every effect holds of every reachable picture. -/
theorem reachable_induction (options : ClientOptions) (Invariant : Topology → Prop)
    (start : options.validate = .ok () → Invariant (initial options))
    (kept : ∀ topology description, Invariant topology → description.Reported →
      topology.tracks description.address = true →
      Invariant ((topology.store description).react description).refresh)
    (topology : Topology) (reached : Reachable options topology) : Invariant topology := by
  induction reached with
  | start topology started =>
    obtain ⟨valid, rfl⟩ := (ofOptions_eq_ok_iff options topology).1 started
    exact start valid
  | step topology description _ reported inductionHypothesis =>
    exact holds_apply Invariant topology description inductionHypothesis
      (kept topology description inductionHypothesis reported)

end Topology

end DocumentDriver
