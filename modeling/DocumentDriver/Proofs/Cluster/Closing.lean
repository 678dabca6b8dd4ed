/-
This file proves what closing a cluster means while others go on working on it. Nobody who looks
whether the cluster is closed finds it open any more once it has been marked closed. So if nobody is
between this look and the lock when the handles are let go of, the cluster stays as closing has left
it: no server gets a handle again, the picture does not change and no other one is published. There is
one gap. A client that looked before the mark was set, and takes the lock after the handles are gone,
makes all of them anew.
-/

import DocumentDriver.Proofs.Cluster.Bookkeeping
import DocumentDriver.Proofs.Cluster.Interleaving

namespace DocumentDriver

namespace Selecting

/-- All that a selection does to a cluster is to ask for scans. -/
theorem step_cases (criteria : SelectionCriteria) (draw : Nat) (cluster : Cluster)
    (stage : Selecting) :
    (step criteria draw cluster stage).1 = cluster ∨
      (step criteria draw cluster stage).1 = cluster.requestScans := by
  cases stage with
  | choosing seen chosen =>
    unfold step
    dsimp only
    split
    · exact .inl rfl
    · exact .inr rfl
  | testing | reading | waiting | done | broken => exact .inl rfl

end Selecting

namespace Cluster

theorem isClosed_applyLocked (cluster : Cluster) (description : ServerDescription)
    (now : Duration) : (cluster.applyLocked description now).1.isClosed = cluster.isClosed :=
  (sameButHandles_clearFailed cluster description).isClosed

/-- Every server of the picture that a description leads to has a handle, whoever had one before. -/
theorem contains_applyLocked (cluster : Cluster) (description : ServerDescription)
    (now : Duration) (address : ServerAddress) :
    (cluster.applyLocked description now).1.handles.contains address =
      (cluster.topology.apply description).tracks address := by
  unfold AddressMap.contains
  rw [get?_applyLocked]
  cases (cluster.topology.apply description).tracks address <;> rfl

/-- Another cluster has no handles either, and the same picture. -/
structure StaysClosed (cluster next : Cluster) : Prop where
  drained : next.IsDrained
  topology : next.topology = cluster.topology
  published : next.published = cluster.published

theorem staysClosed_refl {cluster : Cluster} (drained : cluster.IsDrained) :
    cluster.StaysClosed cluster :=
  ⟨drained, rfl, rfl⟩

theorem StaysClosed.trans {cluster middle next : Cluster} (first : cluster.StaysClosed middle)
    (second : middle.StaysClosed next) : cluster.StaysClosed next :=
  ⟨second.drained, second.topology.trans first.topology, second.published.trans first.published⟩

end Cluster

namespace ClusterTask

variable {cluster : Cluster} {moment : Moment}

/-- A closed cluster is not opened again. -/
theorem isClosed_advance (closed : cluster.isClosed = true) (task : ClusterTask) :
    (task.advance cluster moment).1.isClosed = true := by
  cases task with
  | passed description => exact (Cluster.isClosed_applyLocked ..).trans closed
  | closing =>
    rw [advance, if_pos closed]
    exact closed
  | selecting criteria stage =>
    rcases Selecting.step_cases criteria moment.draw cluster stage with same | scans
    · exact same.symm ▸ closed
    · exact scans.symm ▸ (Cluster.sameButHandles_requestScans cluster).isClosed.trans closed
  | resting | applying | draining | waking => exact closed

/-- Nobody finds a closed cluster open. -/
theorem ne_passed_of_advance (closed : cluster.isClosed = true) (task : ClusterTask)
    (description : ServerDescription) : (task.advance cluster moment).2 ≠ .passed description := by
  cases task with
  | applying | closing =>
    rw [advance, if_pos closed]
    exact ClusterTask.noConfusion
  | resting | passed | draining | waking | selecting => exact ClusterTask.noConfusion

/-- Whoever is about to let go of the handles has marked the cluster closed. -/
theorem isClosed_of_advance_draining (task : ClusterTask)
    (drains : (task.advance cluster moment).2 = .draining) :
    (task.advance cluster moment).1.isClosed = true := by
  cases task with
  | closing =>
    rw [advance]
    split
    · next closed => exact closed
    · rfl
  | applying =>
    rw [advance] at drains
    dsimp only at drains
    split at drains <;> cases drains
  | resting | passed | draining | waking | selecting => cases drains

/-- A step on a cluster without handles changes nothing but its version, unless it is one under the
lock. -/
theorem staysClosed_advance (drained : cluster.IsDrained) (task : ClusterTask)
    (outside : ∀ description, task ≠ .passed description) :
    cluster.StaysClosed (task.advance cluster moment).1 := by
  have same := Cluster.staysClosed_refl drained
  cases task with
  | passed description => exact absurd rfl (outside description)
  | closing =>
    rw [advance, if_pos drained.isClosed]
    exact same
  | draining => exact ⟨⟨drained.isClosed, rfl⟩, rfl, rfl⟩
  | waking => exact ⟨⟨drained.isClosed, drained.handles⟩, rfl, rfl⟩
  | selecting criteria stage =>
    have scans : cluster.requestScans = cluster := drained.step_eq .scanAll
    rcases Selecting.step_cases criteria moment.draw cluster stage with unchanged | asked
    · rw [advance, unchanged]
      exact same
    · rw [advance, asked, scans]
      exact same
  | resting | applying => exact same

end ClusterTask

namespace ClusterScene

variable {Client : Type} [DecidableEq Client] {start scene next later : ClusterScene Client}

/-- Nobody has found the cluster open and is still to take the lock. -/
def IsSettled (scene : ClusterScene Client) : Prop :=
  ∀ client description, scene.task client ≠ .passed description

/-- Whoever is about to let go of the handles has marked the cluster closed. -/
def MarksFirst (scene : ClusterScene Client) : Prop :=
  ∀ client, scene.task client = .draining → scene.cluster.isClosed = true

/-! ### One step -/

theorem Step.isClosed (step : Step scene next) (closed : scene.cluster.isClosed = true) :
    next.cluster.isClosed = true := by
  cases step with
  | advance client moment => exact ClusterTask.isClosed_advance closed _
  | touch address change =>
    exact (Cluster.sameButHandles_modifyHandle scene.cluster address change).isClosed.trans closed
  | begin | expire => exact closed

/-- Whoever is to take the lock once the cluster is closed was so before. -/
theorem Step.passed_before (step : Step scene next) (closed : scene.cluster.isClosed = true)
    {client : Client} {description : ServerDescription}
    (passed : next.task client = .passed description) :
    scene.task client = .passed description := by
  cases step.turn client with
  | stays same => exact same.symm.trans passed
  | begins begins =>
    rw [passed] at begins
    cases begins
  | advances moment same =>
    rw [same, go, task_put_self] at passed
    exact absurd passed (ClusterTask.ne_passed_of_advance closed _ description)
  | expires criteria stage _ ends =>
    rw [passed] at ends
    cases ends

theorem MarksFirst.step (holds : scene.MarksFirst) (step : Step scene next) : next.MarksFirst := by
  intro client drains
  cases step.turn client with
  | stays same => exact step.isClosed (holds client (same.symm.trans drains))
  | begins begins =>
    rw [drains] at begins
    cases begins
  | advances moment same =>
    rw [same, go, task_put_self] at drains
    rw [same]
    exact ClusterTask.isClosed_of_advance_draining _ drains
  | expires criteria stage _ ends =>
    rw [drains] at ends
    cases ends

theorem Step.staysClosed (step : Step scene next) (drained : scene.cluster.IsDrained)
    (settled : scene.IsSettled) : scene.cluster.StaysClosed next.cluster := by
  cases step with
  | begin | expire => exact Cluster.staysClosed_refl drained
  | advance client moment => exact ClusterTask.staysClosed_advance drained _ (settled client)
  | touch address change =>
    have unchanged : scene.cluster.modifyHandle address change = scene.cluster := by
      unfold Cluster.modifyHandle
      rw [drained.handles]
      rfl
    rw [unchanged]
    exact Cluster.staysClosed_refl drained

/-! ### Any number of steps -/

theorem MarksFirst.run (holds : scene.MarksFirst) (run : Run scene later) : later.MarksFirst :=
  run.preserves MarksFirst.step holds

/-- Whoever is to take the lock at some time after the cluster was marked closed was so then. -/
theorem Run.passed_before (run : Run scene later) (closed : scene.cluster.isClosed = true) :
    later.cluster.isClosed = true ∧ ∀ client description,
      later.task client = .passed description → scene.task client = .passed description := by
  induction run with
  | refl => exact ⟨closed, fun _ _ passed => passed⟩
  | tail _ step inductionHypothesis =>
    obtain ⟨still, before⟩ := inductionHypothesis
    exact ⟨step.isClosed still, fun client description passed =>
      before client description (step.passed_before still passed)⟩

theorem Run.isSettled (run : Run scene later) (closed : scene.cluster.isClosed = true)
    (settled : scene.IsSettled) : later.IsSettled :=
  fun client description passed =>
    settled client description ((run.passed_before closed).2 client description passed)

/-- A closed cluster that nobody is about to change stays as it is. -/
theorem Run.staysClosed (run : Run scene later) (drained : scene.cluster.IsDrained)
    (settled : scene.IsSettled) : scene.cluster.StaysClosed later.cluster := by
  induction run with
  | refl => exact Cluster.staysClosed_refl drained
  | tail before step inductionHypothesis =>
    have outside := Run.isSettled before drained.isClosed settled
    exact inductionHypothesis.trans (step.staysClosed inductionHypothesis.drained outside)

/-! ### Closing is final -/

/-- In whatever order clients work on a cluster: once the handles have been let go of, the cluster is
closed and has none. If nobody is then between the look at the mark and the lock, it has none ever
after, its picture and what is published stay the same, and whoever still has a description changes
nothing. Whoever is there then looked before the mark was set, and its next step publishes a picture
in which every server has a handle again. -/
theorem closing_is_final (start scene : ClusterScene Client)
    (rests : ∀ client, start.task client = .resting) (run : Run start scene) (closer : Client)
    (drains : scene.task closer = .draining) (moment : Moment) :
    let drained := scene.go closer moment
    drained.cluster.IsDrained ∧
      (drained.IsSettled → ∀ later, Run drained later →
        later.cluster.handles = .empty ∧ later.cluster.topology = drained.cluster.topology ∧
        later.cluster.published = drained.cluster.published ∧
        ∀ client description moment, later.task client = .applying description ∨
          later.task client = .passed description →
          (later.go client moment).cluster = later.cluster) ∧
      ∀ client description, drained.task client = .passed description →
        (∀ marked, marked.cluster.isClosed = true → Run marked drained →
          marked.task client = .passed description) ∧
        ∀ moment, let late := (drained.go client moment).cluster
          late.topology = drained.cluster.topology.apply description ∧
          late.published = late.topology ∧ late.version = drained.cluster.version + 1 ∧
          ∀ address, late.handles.contains address = late.topology.tracks address := by
  have marks : start.MarksFirst := fun client drains => by
    rw [rests client] at drains
    cases drains
  have closed : scene.cluster.isClosed = true := marks.run run closer drains
  have drained : (scene.go closer moment).cluster.IsDrained := by
    unfold go
    rw [drains]
    exact ⟨closed, rfl⟩
  refine ⟨drained, fun settled later run => ?_, fun client description passed => ⟨?_, ?_⟩⟩
  · have kept := Run.staysClosed run drained settled
    refine ⟨kept.drained.handles, kept.topology, kept.published, ?_⟩
    rintro client description _ (applies | passed)
    · unfold go
      rw [applies]
      rfl
    · exact absurd passed (Run.isSettled run drained.isClosed settled client description)
  · exact fun marked closed run => (Run.passed_before run closed).2 client description passed
  · intro next
    dsimp only
    generalize scene.go closer moment = drained at passed ⊢
    have late : (drained.go client next).cluster =
        (drained.cluster.applyLocked description next.time).1 := by
      unfold go
      rw [passed]
      rfl
    rw [late, Cluster.topology_applyLocked]
    refine ⟨rfl, ?_, ?_, Cluster.contains_applyLocked drained.cluster description next.time⟩
    · exact Cluster.topology_applyLocked drained.cluster description next.time
    · exact congrArg (· + 1) (Cluster.sameButHandles_clearFailed drained.cluster description).version

/-- One of two clients marks the cluster of the pair closed while the other one rests. -/
def pairMarked : ClusterScene Bool :=
  let start : ClusterScene Bool := { cluster := Cluster.pairCluster }
  (start.put true start.cluster .closing).go true .zero

/-- After that client has let go of the handles, the other one has a description. -/
def pairTooLate : ClusterScene Bool :=
  let drained := pairMarked.go true .zero
  drained.put false drained.cluster (.applying (Topology.pairReport "left" 1))

theorem closing_is_final_pair :
    Run { cluster := Cluster.pairCluster } pairMarked ∧ pairMarked.task true = .draining ∧
      Run (pairMarked.go true .zero) pairTooLate ∧ pairTooLate.cluster.handles = .empty ∧
      (pairTooLate.go false .zero).cluster = pairTooLate.cluster := by
  have run : Run { cluster := Cluster.pairCluster } pairMarked :=
    .tail (.tail .refl (.begin true .closing rfl .close)) (.advance true .zero)
  have goesOn : Run (pairMarked.go true .zero) pairTooLate :=
    .tail .refl (.begin false (.applying (Topology.pairReport "left" 1)) rfl (.apply _))
  have settled : (pairMarked.go true .zero).IsSettled := by
    rintro (_ | _) description <;> exact ClusterTask.noConfusion
  obtain ⟨-, final, -⟩ :=
    closing_is_final { cluster := Cluster.pairCluster } pairMarked (fun _ => rfl) run true rfl .zero
  obtain ⟨empty, -, -, unchanged⟩ := final settled pairTooLate goesOn
  exact ⟨run, rfl, goesOn, empty, unchanged false _ .zero (.inl rfl)⟩

/-- One of two clients looks whether the cluster of the pair is closed, with a description at hand, and
then the other one marks it closed. -/
def pairOvertaken : ClusterScene Bool :=
  let start : ClusterScene Bool := { cluster := Cluster.pairCluster }
  let looked := (start.put false start.cluster
    (.applying (Topology.pairReport "left" 1))).go false .zero
  (looked.put true looked.cluster .closing).go true .zero

/-- The client that looked first takes its next step after the other one has let go of the handles:
both servers get a handle again, the picture changes, and a new one is published. -/
theorem late_description_undoes_closing :
    let drained := pairOvertaken.go true .zero
    let late := drained.go false .zero
    Run { cluster := Cluster.pairCluster } pairOvertaken ∧ pairOvertaken.task true = .draining ∧
      drained.cluster.isClosed = true ∧ drained.cluster.handles = .empty ∧
      (∃ description, drained.task false = .passed description) ∧
      late.cluster.handles.addresses = [⟨"left", 27017⟩, ⟨"right", 27017⟩] ∧
      drained.cluster.published.type = .unknown ∧
      late.cluster.topology.type = .replicaSetWithPrimary ∧
      late.cluster.published.type = .replicaSetWithPrimary ∧
      late.cluster.version = drained.cluster.version + 1 := by
  refine ⟨?_, rfl, rfl, rfl, ⟨_, rfl⟩, by decide +kernel, rfl, by decide +kernel, by decide +kernel,
    rfl⟩
  exact .tail (.tail (.tail (.tail .refl (.begin false (.applying (Topology.pairReport "left" 1)) rfl
    (.apply _))) (.advance false .zero)) (.begin true .closing rfl .close)) (.advance true .zero)

end ClusterScene

end DocumentDriver
