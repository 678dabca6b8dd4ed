/-
This file takes the operations on a pool apart into the steps between which other clients may do
what they like. A client that is left alone takes its steps to the same end as the operation that is
made in one go. All clients together are a scene, in which one client at a time takes one step.
-/

import DocumentDriver.Connection.PoolClients
import Mathlib.Logic.Function.Basic
import Mathlib.Logic.Relation

namespace DocumentDriver

/-- What a client of a pool is in the middle of. -/
inductive PoolTask where
  | resting
  /-- The client looks for a connection that waits. -/
  | looking
  /-- The client has taken a connection from the list and is going to test it. -/
  | testing (connection : Connection)
  /-- No connection waits, and the client is going to read the generation. -/
  | missing
  /-- A connection is being opened under a generation. -/
  | opening (generation : UInt32)
  | holding (connection : Connection)
  /-- The client gives a connection back and is going to test it. -/
  | returning (connection : Connection)
  /-- The connection has passed the test and is going to be put into the list. -/
  | pushing (connection : Connection)
  /-- The client has begun a generation and is going to empty the list. -/
  | emptying
deriving DecidableEq, Repr

namespace PoolTask

/-- The connection that a client has. -/
def connection? : PoolTask → Option Connection
  | testing connection | holding connection | returning connection | pushing connection =>
    some connection
  | resting | looking | missing | opening _ | emptying => none

/-- The task with another connection in place of its own. -/
def mapConnection (change : Connection → Connection) : PoolTask → PoolTask
  | testing connection => testing (change connection)
  | holding connection => holding (change connection)
  | returning connection => returning (change connection)
  | pushing connection => pushing (change connection)
  | resting => resting
  | looking => looking
  | missing => missing
  | opening generation => opening generation
  | emptying => emptying

@[simp] theorem connection?_mapConnection (change : Connection → Connection) (task : PoolTask) :
    (task.mapConnection change).connection? = task.connection?.map change := by
  cases task <;> rfl

/-- The step that a client takes on its own, if it is in the middle of something. -/
def advance (pool : Pool) : PoolTask → Pool × PoolTask
  | looking =>
    match pool.idle with
    | [] => (pool, missing)
    | connection :: rest => ({ pool with idle := rest }, testing connection)
  | testing connection => (pool, if pool.isUsable connection then holding connection else looking)
  | missing => (pool, opening pool.generation)
  | returning connection =>
    (pool, if pool.isUsable connection then pushing connection else resting)
  | pushing connection => (pool.push connection, resting)
  | emptying => (pool.dropIdle, resting)
  | resting => (pool, resting)
  | opening generation => (pool, opening generation)
  | holding connection => (pool, holding connection)

/-! ### A client that is left alone -/

/-- A client that is left alone gets from one point to another. -/
def Leads : Pool × PoolTask → Pool × PoolTask → Prop :=
  Relation.ReflTransGen fun before after => after = before.2.advance before.1

/-- What may be taken depends on the generation of a pool and not on what waits in it. -/
theorem takeUsable_of_generation (pool other : Pool) (same : pool.generation = other.generation)
    (connections : List Connection) :
    pool.takeUsable connections = other.takeUsable connections := by
  induction connections with
  | nil => rfl
  | cons connection rest inductionHypothesis =>
    have usable : pool.isUsable connection = other.isUsable connection := by
      rw [Pool.isUsable, Pool.isUsable, Pool.isStale, Pool.isStale, same]
    rw [Pool.takeUsable, Pool.takeUsable, usable, inductionHypothesis]

/-- The latest connection is taken if it may be used, and otherwise it might as well not wait. -/
theorem reuse_cons (generation : UInt32) (connection : Connection) (rest : List Connection) :
    (⟨generation, connection :: rest⟩ : Pool).reuse =
      if (⟨generation, rest⟩ : Pool).isUsable connection then
        (some connection, ⟨generation, rest⟩)
      else (⟨generation, rest⟩ : Pool).reuse := by
  have others := takeUsable_of_generation ⟨generation, connection :: rest⟩ ⟨generation, rest⟩ rfl rest
  have tested : (⟨generation, connection :: rest⟩ : Pool).isUsable connection =
      (⟨generation, rest⟩ : Pool).isUsable connection := rfl
  rw [Pool.reuse, Pool.takeUsable, others, tested]
  by_cases usable : (⟨generation, rest⟩ : Pool).isUsable connection = true
  · rw [if_pos usable, if_pos usable]
  · rw [if_neg usable, if_neg usable, Pool.reuse]

/-- Who looks for a connection takes the latest that may be used, and drops those before it. If there
is none, one is opened under the generation of the pool. -/
theorem leads_looking (pool : Pool) :
    Leads (pool, looking)
      (match pool.reuse with
        | (some connection, rest) => (rest, holding connection)
        | (none, rest) => (rest, opening rest.generation)) := by
  obtain ⟨generation, idle⟩ := pool
  induction idle with
  | nil => exact .tail (.tail .refl rfl) rfl
  | cons connection rest inductionHypothesis =>
    have taken : Leads (⟨generation, connection :: rest⟩, looking)
        (⟨generation, rest⟩, testing connection) := .tail .refl rfl
    rw [reuse_cons]
    by_cases usable : (⟨generation, rest⟩ : Pool).isUsable connection = true
    · rw [if_pos usable]
      exact taken.tail (by rw [advance, if_pos usable])
    · rw [if_neg usable]
      exact .trans (taken.tail (by rw [advance, if_neg usable])) inductionHypothesis

/-- A connection that is given back ends in the list, or it is dropped. -/
theorem leads_returning (pool : Pool) (connection : Connection) :
    Leads (pool, returning connection) (pool.checkIn connection, resting) := by
  unfold Pool.checkIn
  by_cases usable : pool.isUsable connection = true
  · rw [if_pos usable]
    exact .tail (.tail .refl (by rw [advance, if_pos usable])) rfl
  · rw [if_neg usable]
    exact .tail .refl (by rw [advance, if_neg usable])

/-- Clearing begins a generation and then empties the list. -/
theorem leads_emptying (pool : Pool) : Leads (pool.bump, emptying) (pool.clear, resting) :=
  .tail .refl rfl

end PoolTask

/-! ### All clients together -/

/-- A pool and the clients that work on it at the same time. A client has one connection at most: who
has several of them counts as several clients. -/
structure PoolScene (Client : Type) where
  pool : Pool := {}
  task : Client → PoolTask := fun _ => .resting
  /-- The number of connections that were opened, which is the number of the last one. -/
  opened : Nat := 0
  /-- How often a generation was begun. -/
  cleared : Nat := 0

namespace PoolScene

variable {Client : Type} [DecidableEq Client]

/-- The scene after a client has changed the pool and its own task. -/
def put (scene : PoolScene Client) (client : Client) (pool : Pool) (task : PoolTask) :
    PoolScene Client :=
  { scene with pool, task := Function.update scene.task client task }

@[simp] theorem task_put_self (scene : PoolScene Client) (client : Client) (pool : Pool)
    (task : PoolTask) : (scene.put client pool task).task client = task := by
  simp only [put, Function.update_self]

theorem task_put_of_ne (scene : PoolScene Client) (client : Client) (pool : Pool) (task : PoolTask)
    {other : Client} (differs : other ≠ client) :
    (scene.put client pool task).task other = scene.task other := by
  simp only [put, Function.update_of_ne differs]

/-- A client takes the step that is next for it. -/
def go (scene : PoolScene Client) (client : Client) : PoolScene Client :=
  scene.put client ((scene.task client).advance scene.pool).1
    ((scene.task client).advance scene.pool).2

/-- A client begins to clear the pool. -/
def beginClear (scene : PoolScene Client) (client : Client) : PoolScene Client :=
  { scene.put client scene.pool.bump .emptying with cleared := scene.cleared + 1 }

/-- A client is given a connection that has just been opened. -/
def give (scene : PoolScene Client) (client : Client) (connection : Connection) :
    PoolScene Client :=
  { scene.put client scene.pool (.holding connection) with opened := scene.opened + 1 }

@[simp] theorem task_beginClear_self (scene : PoolScene Client) (client : Client) :
    (scene.beginClear client).task client = .emptying :=
  task_put_self scene client scene.pool.bump .emptying

@[simp] theorem task_give_self (scene : PoolScene Client) (client : Client)
    (connection : Connection) : (scene.give client connection).task client = .holding connection :=
  task_put_self scene client scene.pool (.holding connection)

/-- The scene in which the connection of a number has failed, wherever it is. -/
def withFailed (scene : PoolScene Client) (number : Nat) : PoolScene Client :=
  { scene with
    pool := { scene.pool with idle := scene.pool.idle.map (PoolClients.disconnected number) }
    task := fun client => (scene.task client).mapConnection (PoolClients.disconnected number) }

/-- One client takes one step, or a connection fails. The connector may give any connection that
`connects` admits for the generation it is given, and it may refuse. A client that looks for a
connection does not keep others from the list, so more can happen here than under a lock. -/
inductive Step (connects : UInt32 → Connection → Prop) : PoolScene Client → PoolScene Client → Prop
  | checkOut {scene : PoolScene Client} (client : Client) (ready : scene.task client = .resting) :
    Step connects scene (scene.put client scene.pool .looking)
  | clear {scene : PoolScene Client} (client : Client) (ready : scene.task client = .resting) :
    Step connects scene (scene.beginClear client)
  | advance {scene : PoolScene Client} (client : Client) : Step connects scene (scene.go client)
  | connected {scene : PoolScene Client} (client : Client) (generation : UInt32)
      (connection : Connection) (waits : scene.task client = .opening generation)
      (given : connects generation connection) (next : connection.number = scene.opened + 1) :
    Step connects scene (scene.give client connection)
  | refused {scene : PoolScene Client} (client : Client) (generation : UInt32)
      (waits : scene.task client = .opening generation) :
    Step connects scene (scene.put client scene.pool .resting)
  | checkIn {scene : PoolScene Client} (client : Client) (connection : Connection)
      (holds : scene.task client = .holding connection) :
    Step connects scene (scene.put client scene.pool (.returning connection))
  | forget {scene : PoolScene Client} (client : Client) (connection : Connection)
      (holds : scene.task client = .holding connection) :
    Step connects scene (scene.put client scene.pool .resting)
  | disconnect {scene : PoolScene Client} (number : Nat) :
    Step connects scene (scene.withFailed number)

/-- Any number of steps, by any clients in any order. -/
def Run (connects : UInt32 → Connection → Prop) : PoolScene Client → PoolScene Client → Prop :=
  Relation.ReflTransGen (Step connects)

/-! ### What a step may do to one client -/

/-- What a step of any client may make of the task of one. -/
inductive Turn (connects : UInt32 → Connection → Prop) (scene : PoolScene Client)
    (client : Client) : PoolTask → Prop
  | stays : Turn connects scene client (scene.task client)
  | turns (task : PoolTask) (bare : task = .resting ∨ task = .looking ∨ task = .emptying) :
    Turn connects scene client task
  | advances : Turn connects scene client ((scene.task client).advance scene.pool).2
  | given (generation : UInt32) (connection : Connection)
      (waits : scene.task client = .opening generation) (given : connects generation connection)
      (next : connection.number = scene.opened + 1) :
    Turn connects scene client (.holding connection)
  | returns (connection : Connection) (holds : scene.task client = .holding connection) :
    Turn connects scene client (.returning connection)
  | fails (number : Nat) :
    Turn connects scene client
      ((scene.task client).mapConnection (PoolClients.disconnected number))

variable {connects : UInt32 → Connection → Prop} {scene next : PoolScene Client}

/-- A step of one client leaves the tasks of the others as they are. -/
theorem turn_put (client worker : Client) (pool : Pool) (task : PoolTask)
    (own : Turn connects scene worker task) :
    Turn connects scene client ((scene.put worker pool task).task client) := by
  by_cases same : client = worker
  · rw [same, task_put_self]
    exact own
  · rw [task_put_of_ne scene worker pool task same]
    exact .stays

theorem Step.turn (step : Step connects scene next) (client : Client) :
    Turn connects scene client (next.task client) := by
  cases step with
  | checkOut worker => exact turn_put client worker _ _ (.turns _ (.inr (.inl rfl)))
  | clear worker =>
    exact turn_put client worker scene.pool.bump .emptying (.turns _ (.inr (.inr rfl)))
  | advance worker => exact turn_put client worker _ _ .advances
  | connected worker generation connection waits given next =>
    exact turn_put client worker scene.pool (.holding connection)
      (.given generation connection waits given next)
  | refused worker | forget worker => exact turn_put client worker _ _ (.turns _ (.inl rfl))
  | checkIn worker connection holds =>
    exact turn_put client worker _ _ (.returns connection holds)
  | disconnect number => exact .fails number

end PoolScene

end DocumentDriver
