/-
This file takes the operations on a cluster apart into the steps between which others may do what they
like. To take a description into account, a client looks whether the cluster is closed, and only then
takes the lock under which the picture changes. To close the cluster, it marks it closed, lets go of
the handles and wakes the selections that wait. A client that is left alone takes its steps to the same
end as the operation that is made in one go. All clients together are a scene, in which one client at a
time takes one step. Which one of several servers a selection chooses is left to chance at each step.
-/

import DocumentDriver.Cluster.Selecting
import Mathlib.Logic.Function.Basic
import Mathlib.Logic.Relation

namespace DocumentDriver

/-- What a step meets with. -/
structure Moment where
  time : Duration := .zero
  /-- What chance draws, should the step choose a server. -/
  draw : Nat := 0

/-- The start of the clock, where chance draws the first server. -/
def Moment.zero : Moment := {}

/-- What a client of a cluster is in the middle of. -/
inductive ClusterTask where
  | resting
  /-- The client has a description and is going to look whether the cluster is closed. -/
  | applying (description : ServerDescription)
  /-- The cluster was open when the client looked, and it is going to take the lock. -/
  | passed (description : ServerDescription)
  /-- The client is going to mark the cluster closed. -/
  | closing
  /-- The client has marked the cluster closed and is going to let go of the handles. -/
  | draining
  /-- The handles are gone, and the client is going to wake the selections that wait. -/
  | waking
  | selecting (criteria : SelectionCriteria) (stage : Selecting)

namespace ClusterTask

/-- The step that a client takes at some moment, if it is in the middle of something. -/
def advance (cluster : Cluster) (moment : Moment) : ClusterTask → Cluster × ClusterTask
  | resting => (cluster, resting)
  | applying description => (cluster, if cluster.isClosed then resting else passed description)
  | passed description => ((cluster.applyLocked description moment.time).1, resting)
  | closing => if cluster.isClosed then (cluster, resting) else (cluster.setClosed, draining)
  | draining => (cluster.drain.1, waking)
  | waking => (cluster.wakeWaiting, resting)
  | selecting criteria stage =>
    ((Selecting.step criteria moment.draw cluster stage).1,
      selecting criteria (Selecting.step criteria moment.draw cluster stage).2)

/-- What a client may begin with. -/
inductive Begins : ClusterTask → Prop
  | apply (description : ServerDescription) : Begins (applying description)
  | close : Begins closing
  | select (criteria : SelectionCriteria) : Begins (selecting criteria .testing)

/-! ### A client that is left alone -/

/-- A client that is left alone gets from one point to another. -/
def Leads (moment : Moment) : Cluster × ClusterTask → Cluster × ClusterTask → Prop :=
  Relation.ReflTransGen fun before after => after = before.2.advance before.1 moment

variable (cluster : Cluster) (moment : Moment)

/-- A description is taken into account, unless the cluster is closed. -/
theorem leads_applying (description : ServerDescription) :
    Leads moment (cluster, applying description)
      ((cluster.apply description moment.time).1, resting) := by
  unfold Cluster.apply
  by_cases closed : cluster.isClosed = true
  · rw [if_pos closed]
    exact .tail .refl (by rw [advance, if_pos closed])
  · rw [if_neg closed]
    exact .tail (.tail .refl (by rw [advance, if_neg closed])) rfl

/-- A cluster is closed in three steps, unless it is closed already. -/
theorem leads_closing : Leads moment (cluster, closing) (cluster.close.1, resting) := by
  unfold Cluster.close
  by_cases closed : cluster.isClosed = true
  · rw [if_pos closed]
    exact .tail .refl (by rw [advance, if_pos closed])
  · rw [if_neg closed]
    exact .tail (.tail (.tail .refl (by rw [advance, if_neg closed])) rfl) rfl

/-- A selection comes in three steps to its end, or to the point where it waits. -/
theorem leads_selecting (criteria : SelectionCriteria) :
    Leads moment (cluster, selecting criteria .testing)
      ((cluster.trySelect criteria moment.draw).1,
        selecting criteria (cluster.trySelect criteria moment.draw).2) :=
  .tail (.tail (.tail .refl rfl) rfl) rfl

end ClusterTask

/-! ### All clients together -/

/-- A cluster and the clients that work on it at the same time. -/
structure ClusterScene (Client : Type) where
  cluster : Cluster
  task : Client → ClusterTask := fun _ => .resting

namespace ClusterScene

variable {Client : Type} [DecidableEq Client]

/-- The scene after a client has changed the cluster and its own task. -/
def put (scene : ClusterScene Client) (client : Client) (cluster : Cluster) (task : ClusterTask) :
    ClusterScene Client :=
  { cluster, task := Function.update scene.task client task }

@[simp] theorem task_put_self (scene : ClusterScene Client) (client : Client) (cluster : Cluster)
    (task : ClusterTask) : (scene.put client cluster task).task client = task := by
  simp only [put, Function.update_self]

theorem task_put_of_ne (scene : ClusterScene Client) (client : Client) (cluster : Cluster)
    (task : ClusterTask) {other : Client} (differs : other ≠ client) :
    (scene.put client cluster task).task other = scene.task other := by
  simp only [put, Function.update_of_ne differs]

/-- A client takes the step that is next for it. -/
def go (scene : ClusterScene Client) (client : Client) (moment : Moment) : ClusterScene Client :=
  scene.put client ((scene.task client).advance scene.cluster moment).1
    ((scene.task client).advance scene.cluster moment).2

/-- One client begins something, or takes a step, or the time for its selection is up. Checks, scans
and operations may do anything to the handle of one server. -/
inductive Step : ClusterScene Client → ClusterScene Client → Prop
  | begin {scene : ClusterScene Client} (client : Client) (task : ClusterTask)
      (ready : scene.task client = .resting) (begins : task.Begins) :
    Step scene (scene.put client scene.cluster task)
  | advance {scene : ClusterScene Client} (client : Client) (moment : Moment) :
    Step scene (scene.go client moment)
  | expire {scene : ClusterScene Client} (client : Client) (criteria : SelectionCriteria)
      (stage : Selecting) (selects : scene.task client = .selecting criteria stage) :
    Step scene
      (scene.put client scene.cluster (.selecting criteria (stage.expire criteria scene.cluster)))
  | touch {scene : ClusterScene Client} (address : ServerAddress)
      (change : ServerHandle → ServerHandle) :
    Step scene { scene with cluster := scene.cluster.modifyHandle address change }

/-- Any number of steps, by any clients in any order. -/
def Run : ClusterScene Client → ClusterScene Client → Prop := Relation.ReflTransGen Step

/-- What every step keeps is kept by any number of steps. -/
theorem Run.preserves {scene later : ClusterScene Client} {holds : ClusterScene Client → Prop}
    (keeps : ∀ {before after}, holds before → Step before after → holds after)
    (run : Run scene later) (start : holds scene) : holds later := by
  induction run with
  | refl => exact start
  | tail _ step inductionHypothesis => exact keeps inductionHypothesis step

/-! ### What a step may do to one client -/

/-- What a step of any client may make of the task of one: the task stays, or it is the beginning or
the end of something else, or the step is one of its own. -/
inductive Turn (scene next : ClusterScene Client) (client : Client) : Prop
  | stays (same : next.task client = scene.task client)
  | begins (begins : (next.task client).Begins) (ready : scene.task client = .resting)
  | advances (moment : Moment) (same : next = scene.go client moment)
  | expires (criteria : SelectionCriteria) (stage : Selecting)
      (selects : scene.task client = .selecting criteria stage)
      (ends : next.task client = .selecting criteria (stage.expire criteria scene.cluster))

theorem Step.turn {scene next : ClusterScene Client} (step : Step scene next) (client : Client) :
    Turn scene next client := by
  cases step with
  | begin worker task ready begins =>
    by_cases same : client = worker
    · subst same
      exact .begins (by rwa [task_put_self]) ready
    · exact .stays (task_put_of_ne _ _ _ _ same)
  | advance worker moment =>
    by_cases same : client = worker
    · subst same
      exact .advances moment rfl
    · exact .stays (task_put_of_ne _ _ _ _ same)
  | expire worker criteria stage selects =>
    by_cases same : client = worker
    · subst same
      exact .expires criteria stage selects (task_put_self ..)
    · exact .stays (task_put_of_ne _ _ _ _ same)
  | touch => exact .stays rfl

end ClusterScene

end DocumentDriver
