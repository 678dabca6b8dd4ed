/-
This file proves what clients of one pool may rely on, in whatever order they take their steps. A
connection is in one place at a time. Who begins to look for a connection is not given one from
before the generation that the pool then has, although such a connection may still come into the
list, and a connection that failed while it waited is not given to anyone.
-/

import DocumentDriver.Proofs.Connection.Interleaving
import Mathlib.Data.List.Nodup

namespace DocumentDriver

namespace PoolClients

@[simp] theorem number_disconnected (number : Nat) (connection : Connection) :
    (disconnected number connection).number = connection.number := by
  unfold disconnected
  split <;> rfl

@[simp] theorem generation_disconnected (number : Nat) (connection : Connection) :
    (disconnected number connection).generation = connection.generation := by
  unfold disconnected
  split <;> rfl

theorem disconnected_of_failed (number : Nat) {connection : Connection}
    (failed : connection.isConnected = false) :
    (disconnected number connection).isConnected = false := by
  unfold disconnected
  split
  · rfl
  · exact failed

end PoolClients

namespace PoolScene

variable {Client : Type} {connects : UInt32 → Connection → Prop}
  {scene next later : PoolScene Client}

/-! ### A connection is in one place -/

/-- The connections in a place, which is the list of the pool or a client. -/
def connections (scene : PoolScene Client) : Option Client → List Connection
  | none => scene.pool.idle
  | some client => (scene.task client).connection?.toList

theorem mem_connections_some {client : Client} {connection : Connection} :
    connection ∈ scene.connections (some client) ↔
      (scene.task client).connection? = some connection := by
  simp only [connections, Option.mem_toList]

/-- The bookkeeping of a pool is right, and no connection is in two places. -/
structure Sound (scene : PoolScene Client) : Prop where
  counted : scene.pool.generation = .ofNat scene.cleared
  room : scene.pool.idle.length ≤ Pool.maxIdle
  distinct : (scene.pool.idle.map Connection.number).Nodup
  known : ∀ place, ∀ connection ∈ scene.connections place, connection.number ≤ scene.opened
  apart : ∀ place other, ∀ first ∈ scene.connections place, ∀ second ∈ scene.connections other,
    first.number = second.number → place = other

/-- A client can reach the connections of the list, its own and those that are yet to be opened. -/
def Reaches (scene : PoolScene Client) (client : Client) (number : Nat) : Prop :=
  (∃ connection ∈ scene.connections none, connection.number = number) ∨
    (∃ connection ∈ scene.connections (some client), connection.number = number) ∨
    scene.opened < number

/-- A client cannot reach what another client has. -/
theorem Sound.not_reaches (sound : scene.Sound) {client other : Client} (differs : other ≠ client)
    {connection : Connection} (theirs : connection ∈ scene.connections (some other)) :
    ¬scene.Reaches client connection.number := by
  rintro (⟨waiting, waits, same⟩ | ⟨own, has, same⟩ | isNew)
  · cases sound.apart none (some other) waiting waits connection theirs same
  · cases sound.apart (some client) (some other) own has connection theirs same
    exact differs rfl
  · exact absurd (sound.known _ connection theirs) (Nat.not_le.mpr isNew)

/-- A client that puts what it can reach into the list or keeps it, but not both, leaves every
connection in one place. -/
theorem Sound.exchange (sound : scene.Sound) (client : Client)
    (others : ∀ other, other ≠ client → next.task other = scene.task other)
    (grows : scene.opened ≤ next.opened)
    (counted : next.pool.generation = .ofNat next.cleared)
    (room : next.pool.idle.length ≤ Pool.maxIdle)
    (distinct : (next.pool.idle.map Connection.number).Nodup)
    (reached : ∀ place, place = none ∨ place = some client →
      ∀ connection ∈ next.connections place,
        scene.Reaches client connection.number ∧ connection.number ≤ next.opened)
    (apart : ∀ first ∈ next.connections none, ∀ second ∈ next.connections (some client),
      first.number ≠ second.number) : next.Sound := by
  have places : ∀ place, (place = none ∨ place = some client) ∨
      ∀ connection ∈ next.connections place,
        connection ∈ scene.connections place ∧ ¬scene.Reaches client connection.number := by
    intro place
    rcases place with _ | other
    · exact .inl (.inl rfl)
    · by_cases differs : other = client
      · exact .inl (.inr (congrArg some differs))
      · refine .inr fun connection has => ?_
        simp only [connections, others other differs] at has
        exact ⟨has, sound.not_reaches differs has⟩
  refine ⟨counted, room, distinct, fun place connection has => ?_,
    fun place other first has second theirs equal => ?_⟩
  · rcases places place with touched | left
    · exact (reached place touched connection has).2
    · exact Nat.le_trans (sound.known place connection (left connection has).1) grows
  · rcases places place with touched | left <;> rcases places other with touchedToo | leftToo
    · rcases touched with rfl | rfl <;> rcases touchedToo with rfl | rfl
      · rfl
      · exact absurd equal (apart first has second theirs)
      · exact absurd equal.symm (apart second theirs first has)
      · rfl
    · exact absurd (equal ▸ (reached place touched first has).1) (leftToo second theirs).2
    · exact absurd (equal ▸ (reached other touchedToo second theirs).1) (left first has).2
    · exact sound.apart place other first (left first has).1 second (leftToo second theirs).1 equal

/-- A client that only lets go of connections leaves every other connection where it is. -/
theorem Sound.lessen (sound : scene.Sound) (client : Client)
    (others : ∀ other, other ≠ client → next.task other = scene.task other)
    (opened : next.opened = scene.opened)
    (counted : next.pool.generation = .ofNat next.cleared)
    (fewer : next.pool.idle.Sublist scene.pool.idle)
    (keeps : next.connections (some client) ⊆ scene.connections (some client)) : next.Sound := by
  have known : ∀ place, place = none ∨ place = some client →
      ∀ connection ∈ next.connections place, connection ∈ scene.connections place := by
    rintro place (rfl | rfl) connection has
    · exact fewer.subset has
    · exact keeps has
  refine sound.exchange client others (Nat.le_of_eq opened.symm) counted
    (Nat.le_trans fewer.length_le sound.room) (sound.distinct.sublist (fewer.map _)) ?_ ?_
  · intro place touched connection has
    have before := known place touched connection has
    refine ⟨?_, opened ▸ sound.known place connection before⟩
    rcases touched with rfl | rfl
    · exact .inl ⟨connection, before, rfl⟩
    · exact .inr (.inl ⟨connection, before, rfl⟩)
  · intro first waits second has equal
    cases sound.apart none (some client) first (fewer.subset waits) second (keeps has) equal

theorem connections_withFailed (scene : PoolScene Client) (number : Nat) (place : Option Client) :
    (scene.withFailed number).connections place =
      (scene.connections place).map (PoolClients.disconnected number) := by
  rcases place with _ | client
  · rfl
  · simp only [connections, withFailed, PoolTask.connection?_mapConnection, Option.toList_map]

/-- A connection that fails stays where it is. -/
theorem Sound.withFailed (sound : scene.Sound) (number : Nat) : (scene.withFailed number).Sound := by
  refine ⟨sound.counted, ?_, ?_, ?_, ?_⟩
  · simpa [PoolScene.withFailed] using sound.room
  · have numbers : Connection.number ∘ PoolClients.disconnected number = Connection.number :=
      funext (PoolClients.number_disconnected number)
    simpa [PoolScene.withFailed, numbers] using sound.distinct
  · intro place connection has
    rw [connections_withFailed] at has
    obtain ⟨before, was, rfl⟩ := List.mem_map.mp has
    rw [PoolClients.number_disconnected]
    exact sound.known place before was
  · intro place other first has second theirs same
    rw [connections_withFailed] at has theirs
    obtain ⟨one, was, rfl⟩ := List.mem_map.mp has
    obtain ⟨another, wasToo, rfl⟩ := List.mem_map.mp theirs
    exact sound.apart place other one was another wasToo (by simpa using same)

theorem sound_initial : Sound ({} : PoolScene Client) where
  counted := rfl
  room := Nat.zero_le _
  distinct := List.nodup_nil
  known := by rintro (_ | client) connection has <;> cases has
  apart := by rintro (_ | place) other first has <;> cases has

variable [DecidableEq Client]

theorem connections_put_self (scene : PoolScene Client) (client : Client) (pool : Pool)
    (task : PoolTask) :
    (scene.put client pool task).connections (some client) = task.connection?.toList := by
  rw [connections, task_put_self]

theorem Sound.put (sound : scene.Sound) (client : Client) {pool : Pool} {task : PoolTask}
    (generation : pool.generation = scene.pool.generation)
    (fewer : pool.idle.Sublist scene.pool.idle)
    (keeps : task.connection? = none ∨ task.connection? = (scene.task client).connection?) :
    (scene.put client pool task).Sound := by
  refine sound.lessen client (fun _ => task_put_of_ne scene client pool task) rfl
    (generation.trans sound.counted) fewer ?_
  rw [connections_put_self, connections]
  rcases keeps with gone | kept
  · rw [gone]
    exact List.nil_subset _
  · rw [kept]
    exact List.Subset.refl _

/-- The first connection of the list comes to a client that has none. -/
theorem Sound.pop (sound : scene.Sound) (client : Client) {connection : Connection}
    {rest : List Connection} (waits : scene.pool.idle = connection :: rest) :
    (scene.put client { scene.pool with idle := rest } (.testing connection)).Sound := by
  have distinct := sound.distinct
  rw [waits, List.map_cons, List.nodup_cons] at distinct
  have fewer : rest ⊆ scene.pool.idle := waits ▸ List.subset_cons_self connection rest
  have first : connection ∈ scene.pool.idle := waits ▸ List.mem_cons_self
  refine sound.exchange client (fun _ => task_put_of_ne scene client _ _) (Nat.le_refl _)
    sound.counted ?_ distinct.2 ?_ ?_
  · have room := sound.room
    rw [waits] at room
    exact Nat.le_of_succ_le room
  · rintro place (rfl | rfl) other has
    · exact ⟨.inl ⟨other, fewer has, rfl⟩, sound.known none other (fewer has)⟩
    · obtain rfl : other = connection := by
        simpa [connections_put_self, PoolTask.connection?] using has
      exact ⟨.inl ⟨other, first, rfl⟩, sound.known none other first⟩
  · intro other has own taken same
    obtain rfl : own = connection := by
      simpa [connections_put_self, PoolTask.connection?] using taken
    exact distinct.1 (same ▸ List.mem_map_of_mem has)

/-- A client puts its connection into the list, if there is room. -/
theorem Sound.push (sound : scene.Sound) (client : Client) {connection : Connection}
    (task : scene.task client = .pushing connection) :
    (scene.put client (scene.pool.push connection) .resting).Sound := by
  have own : connection ∈ scene.connections (some client) := by
    rw [mem_connections_some, task, PoolTask.connection?]
  unfold Pool.push
  split
  · rename_i room
    refine sound.exchange client (fun _ => task_put_of_ne scene client _ _) (Nat.le_refl _)
      sound.counted room ?_ ?_ ?_
    · refine List.nodup_cons.mpr ⟨fun twice => ?_, sound.distinct⟩
      obtain ⟨other, waits, same⟩ := List.mem_map.mp twice
      cases sound.apart none (some client) other waits connection own same
    · rintro place (rfl | rfl) other has
      · rcases List.mem_cons.mp has with rfl | waits
        · exact ⟨.inr (.inl ⟨other, own, rfl⟩), sound.known _ other own⟩
        · exact ⟨.inl ⟨other, waits, rfl⟩, sound.known none other waits⟩
      · rw [connections_put_self] at has
        cases has
    · intro first waits second has
      rw [connections_put_self] at has
      cases has
  · exact sound.put client rfl (List.Sublist.refl _) (.inl rfl)

/-- A client gets a connection that is new. -/
theorem Sound.give (sound : scene.Sound) (client : Client) {connection : Connection}
    (number : connection.number = scene.opened + 1) :
    (scene.give client connection).Sound := by
  refine sound.exchange client (fun _ => task_put_of_ne scene client scene.pool _)
    (Nat.le_succ _) sound.counted sound.room sound.distinct ?_ ?_
  · rintro place (rfl | rfl) other has
    · exact ⟨.inl ⟨other, has, rfl⟩, Nat.le_succ_of_le (sound.known none other has)⟩
    · obtain rfl : other = connection := by simpa [connections, PoolTask.connection?] using has
      exact ⟨.inr (.inr (number ▸ Nat.lt_succ_self _)), Nat.le_of_eq number⟩
  · intro other waits own has same
    obtain rfl : own = connection := by simpa [connections, PoolTask.connection?] using has
    have known : other.number ≤ scene.opened := sound.known none other waits
    exact absurd (same.trans number ▸ known) (Nat.not_succ_le_self _)

/-- A step that a client takes on its own leaves every connection in one place. -/
theorem Sound.go (sound : scene.Sound) (client : Client) : (scene.go client).Sound := by
  unfold PoolScene.go
  cases task : scene.task client with
  | looking =>
    rcases waits : scene.pool.idle with _ | ⟨connection, rest⟩
    · simp only [PoolTask.advance, waits]
      exact sound.put client rfl (List.Sublist.refl _) (.inl rfl)
    · simp only [PoolTask.advance, waits]
      exact sound.pop client waits
  | testing connection =>
    refine sound.put client rfl (List.Sublist.refl _) ?_
    simp only [PoolTask.advance]
    split
    · exact .inr (by rw [task]; rfl)
    · exact .inl rfl
  | returning connection =>
    refine sound.put client rfl (List.Sublist.refl _) ?_
    simp only [PoolTask.advance]
    split
    · exact .inr (by rw [task]; rfl)
    · exact .inl rfl
  | pushing connection => exact sound.push client task
  | emptying => exact sound.put client rfl (List.nil_sublist _) (.inl rfl)
  | missing | resting | opening => exact sound.put client rfl (List.Sublist.refl _) (.inl rfl)
  | holding connection => exact sound.put client rfl (List.Sublist.refl _) (.inr (by rw [task]; rfl))

/-- Every step leaves every connection in one place. -/
theorem Sound.step (sound : scene.Sound) (step : Step connects scene next) : next.Sound := by
  cases step with
  | checkOut client => exact sound.put client rfl (List.Sublist.refl _) (.inl rfl)
  | clear client =>
    refine sound.lessen client (fun _ => task_put_of_ne scene client scene.pool.bump .emptying)
      rfl ?_ (List.Sublist.refl _) ?_
    · show scene.pool.generation + 1 = .ofNat (scene.cleared + 1)
      rw [sound.counted, UInt32.ofNat_add]
      rfl
    · exact fun connection has => by simp [connections, PoolTask.connection?] at has
  | advance client => exact sound.go client
  | connected client generation connection waits given number => exact sound.give client number
  | refused client => exact sound.put client rfl (List.Sublist.refl _) (.inl rfl)
  | checkIn client connection holds =>
    exact sound.put client rfl (List.Sublist.refl _) (.inr (by rw [holds]; rfl))
  | forget client => exact sound.put client rfl (List.Sublist.refl _) (.inl rfl)
  | disconnect number => exact sound.withFailed number

/-- In whatever order clients take their steps, every connection is in one place. -/
theorem Sound.run (sound : scene.Sound) (run : Run connects scene next) : next.Sound := by
  induction run with
  | refl => exact sound
  | tail _ step inductionHypothesis => exact inductionHypothesis.step step

/-! ### Nothing from an earlier generation -/

theorem Step.cleared_le (step : Step connects scene next) : scene.cleared ≤ next.cleared := by
  cases step with
  | clear => exact Nat.le_succ _
  | checkOut | advance | connected | refused | checkIn | forget | disconnect => exact Nat.le_refl _

theorem Step.opened_le (step : Step connects scene next) : scene.opened ≤ next.opened := by
  cases step with
  | connected => exact Nat.le_succ _
  | checkOut | advance | clear | refused | checkIn | forget | disconnect => exact Nat.le_refl _

theorem Run.cleared_le (run : Run connects scene next) : scene.cleared ≤ next.cleared := by
  induction run with
  | refl => exact Nat.le_refl _
  | tail _ step inductionHypothesis => exact Nat.le_trans inductionHypothesis step.cleared_le

/-- As long as the count of generations does not overflow, generations do not go back. -/
theorem Sound.generation_le (sound : scene.Sound) (run : Run connects scene next)
    (few : next.cleared < 2 ^ 32) : scene.pool.generation ≤ next.pool.generation := by
  rw [sound.counted, (sound.run run).counted,
    UInt32.ofNat_le_iff_le (Nat.lt_of_le_of_lt run.cleared_le few) few]
  exact run.cleared_le

end PoolScene

namespace PoolTask

/-- What a client is given, or will be given, is of a generation or of a later one. -/
def Since (generation : UInt32) : PoolTask → Prop
  | opening later => generation ≤ later
  | holding connection => generation ≤ connection.generation
  | resting | looking | testing _ | missing | returning _ | pushing _ | emptying => True

theorem since_mapConnection {generation : UInt32} {task : PoolTask} (number : Nat)
    (since : task.Since generation) :
    (task.mapConnection (PoolClients.disconnected number)).Since generation := by
  cases task with
  | holding connection =>
    show generation ≤ (PoolClients.disconnected number connection).generation
    rw [PoolClients.generation_disconnected]
    exact since
  | resting | looking | testing | missing | opening | returning | pushing | emptying => exact since

/-- A client that takes a step finds a connection of the generation of the pool, or asks for one. -/
theorem since_advance {generation : UInt32} {pool : Pool} (current : generation ≤ pool.generation)
    {task : PoolTask} (since : task.Since generation) :
    (task.advance pool).2.Since generation := by
  cases task with
  | looking =>
    simp only [advance]
    split <;> trivial
  | testing connection =>
    simp only [advance]
    split
    · rename_i usable
      have fresh : ¬connection.generation < pool.generation := by
        simpa [Pool.isStale] using (Bool.and_eq_true_iff.mp usable).2
      exact UInt32.le_trans current (UInt32.not_lt.mp fresh)
    · trivial
  | missing => exact current
  | returning connection =>
    simp only [advance]
    split <;> trivial
  | resting | opening | holding | pushing | emptying => exact since

end PoolTask

namespace PoolScene

variable {Client : Type} {connects : UInt32 → Connection → Prop}
  {scene next later : PoolScene Client}

/-- No step hands out a connection from before a generation that the pool has reached. -/
theorem Turn.since (stamps : ∀ generation connection,
      connects generation connection → connection.generation = generation)
    {generation : UInt32} (current : generation ≤ scene.pool.generation) {client : Client}
    (since : (scene.task client).Since generation) {task : PoolTask}
    (turn : Turn connects scene client task) : task.Since generation := by
  cases turn with
  | stays => exact since
  | turns _ bare => rcases bare with rfl | rfl | rfl <;> trivial
  | advances => exact PoolTask.since_advance current since
  | given opened connection waits given =>
    rw [waits] at since
    show generation ≤ connection.generation
    rw [stamps opened connection given]
    exact since
  | returns => trivial
  | fails number => exact PoolTask.since_mapConnection number since

variable [DecidableEq Client]

/-- Who begins to look for a connection after the pool has reached a generation is not given one from
before it. -/
theorem Sound.since_run (sound : scene.Sound) (stamps : ∀ generation connection,
      connects generation connection → connection.generation = generation)
    {client : Client} (since : (scene.task client).Since scene.pool.generation)
    (run : Run connects scene later) (few : later.cleared < 2 ^ 32) :
    (later.task client).Since scene.pool.generation := by
  induction run with
  | refl => exact since
  | tail before step inductionHypothesis =>
    have fewBefore := Nat.lt_of_le_of_lt step.cleared_le few
    exact (step.turn client).since stamps (sound.generation_le before fewBefore)
      (inductionHypothesis fewBefore)

end PoolScene

/-! ### Nothing that failed while it waited -/

namespace PoolTask

/-- A step that a client takes on its own makes no connection up. -/
theorem forall_advance {holds : Connection → Prop} {pool : Pool} {task : PoolTask}
    (waiting : ∀ connection ∈ pool.idle, holds connection)
    (own : ∀ connection, task.connection? = some connection → holds connection) :
    (∀ connection ∈ (task.advance pool).1.idle, holds connection) ∧
      ∀ connection, (task.advance pool).2.connection? = some connection → holds connection := by
  have none : ∀ connection, Option.none = some connection → holds connection :=
    fun connection has => by cases has
  cases task with
  | looking =>
    simp only [advance]
    split
    · exact ⟨waiting, none⟩
    · rename_i connection rest waits
      rw [waits] at waiting
      exact ⟨fun other has => waiting other (List.mem_cons_of_mem _ has),
        fun other has => Option.some.inj has ▸ waiting connection List.mem_cons_self⟩
  | testing connection | returning connection =>
    simp only [advance]
    split
    · exact ⟨waiting, own⟩
    · exact ⟨waiting, none⟩
  | pushing connection =>
    refine ⟨fun other has => ?_, none⟩
    simp only [advance, Pool.push] at has
    split at has
    · rcases List.mem_cons.mp has with rfl | waits
      · exact own other rfl
      · exact waiting other waits
    · exact waiting other has
  | emptying => exact ⟨fun connection has => (List.not_mem_nil has).elim, none⟩
  | resting | missing | opening | holding => exact ⟨waiting, own⟩

/-- A client does not hold the connection of a number. -/
def Without (number : Nat) : PoolTask → Prop
  | holding connection => connection.number ≠ number
  | resting | looking | testing _ | missing | opening _ | returning _ | pushing _ | emptying => True

theorem without_mapConnection {number : Nat} {task : PoolTask} (failing : Nat)
    (without : task.Without number) :
    (task.mapConnection (PoolClients.disconnected failing)).Without number := by
  cases task with
  | holding connection =>
    show (PoolClients.disconnected failing connection).number ≠ number
    rw [PoolClients.number_disconnected]
    exact without
  | resting | looking | testing | missing | opening | returning | pushing | emptying => exact without

/-- A connection that has failed does not pass the test. -/
theorem without_advance {number : Nat} {pool : Pool} {task : PoolTask}
    (failed : ∀ connection, task.connection? = some connection →
      connection.number = number → connection.isConnected = false)
    (without : task.Without number) : (task.advance pool).2.Without number := by
  cases task with
  | looking =>
    simp only [advance]
    split <;> trivial
  | testing connection =>
    simp only [advance]
    split
    · rename_i usable
      intro same
      have connected : connection.isConnected = true := (Bool.and_eq_true_iff.mp usable).1
      exact absurd (failed connection rfl same) (by simp [connected])
    · trivial
  | returning connection =>
    simp only [advance]
    split <;> trivial
  | resting | missing | opening | holding | pushing | emptying => exact without

end PoolTask

namespace PoolScene

variable {Client : Type} {connects : UInt32 → Connection → Prop}
  {scene next later : PoolScene Client}

/-- All connections, wherever they are, have a property. -/
def Everywhere (holds : Connection → Prop) (scene : PoolScene Client) : Prop :=
  ∀ place, ∀ connection ∈ scene.connections place, holds connection

/-- A connection that has failed, and that nobody holds. -/
structure IsLost (scene : PoolScene Client) (number : Nat) : Prop where
  known : number ≤ scene.opened
  failed : scene.Everywhere fun connection =>
    connection.number = number → connection.isConnected = false
  without : ∀ client, (scene.task client).Without number

/-- A connection that has failed while it waited is lost. -/
theorem Sound.isLost (sound : scene.Sound) {connection : Connection}
    (waits : connection ∈ scene.pool.idle) (failed : connection.isConnected = false) :
    scene.IsLost connection.number where
  known := sound.known none connection waits
  failed := by
    intro place other has same
    obtain rfl := sound.apart none place connection waits other has same.symm
    obtain rfl : other = connection :=
      List.inj_on_of_nodup_map sound.distinct has waits same
    exact failed
  without := by
    intro client
    cases task : scene.task client with
    | holding other =>
      intro same
      have has : other ∈ scene.connections (some client) := by
        rw [mem_connections_some, task, PoolTask.connection?]
      cases sound.apart none (some client) connection waits other has same.symm
    | _ => trivial

/-- A step of a client leaves it with its own connection or with one from the list. -/
theorem Turn.everywhere {holds : Connection → Prop} (everywhere : scene.Everywhere holds)
    (fails : ∀ number connection, holds connection →
      holds (PoolClients.disconnected number connection))
    (starts : ∀ connection, connection.number = scene.opened + 1 → holds connection)
    {client : Client} {task : PoolTask} (turn : Turn connects scene client task) :
    ∀ connection, task.connection? = some connection → holds connection := by
  have own : ∀ connection, (scene.task client).connection? = some connection → holds connection :=
    fun connection has => everywhere (some client) connection (mem_connections_some.mpr has)
  intro connection has
  cases turn with
  | stays => exact own connection has
  | turns _ bare => rcases bare with rfl | rfl | rfl <;> cases has
  | advances => exact (PoolTask.forall_advance (everywhere none) own).2 connection has
  | given generation other waits given next =>
    cases has
    exact starts connection next
  | returns other holding =>
    cases has
    exact own connection (by rw [holding]; rfl)
  | fails number =>
    rw [PoolTask.connection?_mapConnection] at has
    obtain ⟨before, was, rfl⟩ := Option.map_eq_some_iff.mp has
    exact fails number before (own before was)

/-- No step hands out a connection that is lost. -/
theorem Turn.without {number : Nat} (lost : scene.IsLost number) {client : Client} {task : PoolTask}
    (turn : Turn connects scene client task) : task.Without number := by
  cases turn with
  | stays => exact lost.without client
  | turns _ bare => rcases bare with rfl | rfl | rfl <;> trivial
  | advances =>
    exact PoolTask.without_advance (fun connection has =>
      lost.failed (some client) connection (mem_connections_some.mpr has)) (lost.without client)
  | given generation connection waits given next =>
    exact fun same => absurd lost.known (by omega)
  | returns => trivial
  | fails failing => exact PoolTask.without_mapConnection failing (lost.without client)

variable [DecidableEq Client]

/-- What holds of all connections, also of failed and of new ones, still does after a step. -/
theorem Everywhere.step {holds : Connection → Prop} (everywhere : scene.Everywhere holds)
    (fails : ∀ number connection, holds connection →
      holds (PoolClients.disconnected number connection))
    (starts : ∀ connection, connection.number = scene.opened + 1 → holds connection)
    (step : Step connects scene next) : next.Everywhere holds := by
  rintro (_ | client) connection has
  · have waiting : ∀ connection ∈ scene.pool.idle, holds connection := everywhere none
    cases step with
    | checkOut | clear | connected | refused | checkIn | forget => exact waiting connection has
    | advance worker =>
      exact (PoolTask.forall_advance waiting fun own theirs =>
        everywhere (some worker) own (mem_connections_some.mpr theirs)).1 connection has
    | disconnect number =>
      obtain ⟨before, was, rfl⟩ := List.mem_map.mp has
      exact fails number before (waiting before was)
  · exact (step.turn client).everywhere everywhere fails starts connection
      (mem_connections_some.mp has)

/-- A connection that is lost stays lost. -/
theorem IsLost.step {number : Nat} (lost : scene.IsLost number)
    (step : Step connects scene next) : next.IsLost number where
  known := Nat.le_trans lost.known step.opened_le
  failed := by
    refine lost.failed.step (fun failing connection failed same => ?_)
      (fun connection next same => ?_) step
    · rw [PoolClients.number_disconnected] at same
      exact PoolClients.disconnected_of_failed failing (failed same)
    · exact absurd lost.known (by omega)
  without client := (step.turn client).without lost

theorem IsLost.run {number : Nat} (lost : scene.IsLost number) (run : Run connects scene later) :
    later.IsLost number := by
  induction run with
  | refl => exact lost
  | tail _ step inductionHypothesis => exact inductionHypothesis.step step

/-! ### The pool is safe -/

/-- In whatever order clients take their steps on a pool that was empty at first: generations do not
go back. A client that begins to look for a connection is given none from before the generation that
the pool has then. A connection that is known to have failed while it waits is not given to anyone any
more. No connection is with two clients, or with a client and in the list, or twice in the list. And
few connections wait. -/
theorem pool_is_safe (connects : UInt32 → Connection → Prop)
    (stamps : ∀ generation connection,
      connects generation connection → connection.generation = generation)
    (scene later : PoolScene Client) (reached : Run connects {} scene)
    (goesOn : Run connects scene later) (few : later.cleared < 2 ^ 32) :
    scene.pool.generation ≤ later.pool.generation ∧
      (∀ client connection, scene.task client = .resting →
        later.task client = .holding connection →
        scene.pool.generation ≤ connection.generation) ∧
      (∀ waiting ∈ scene.pool.idle, waiting.isConnected = false →
        ∀ client connection, later.task client = .holding connection →
          connection.number ≠ waiting.number) ∧
      (∀ one other first second, (scene.task one).connection? = some first →
        (scene.task other).connection? = some second → first.number = second.number →
        one = other) ∧
      (∀ client connection, (scene.task client).connection? = some connection →
        connection.number ∉ scene.pool.idle.map Connection.number) ∧
      (scene.pool.idle.map Connection.number).Nodup ∧
      scene.pool.idle.length ≤ Pool.maxIdle := by
  have sound : scene.Sound := sound_initial.run reached
  refine ⟨sound.generation_le goesOn few, ?_, ?_, ?_, ?_, sound.distinct, sound.room⟩
  · intro client connection rests holds
    have since : (scene.task client).Since scene.pool.generation := by
      rw [rests]
      trivial
    have kept := sound.since_run stamps since goesOn few
    rwa [holds] at kept
  · intro waiting waits failed client connection holds
    have without := ((sound.isLost waits failed).run goesOn).without client
    rwa [holds] at without
  · intro one other first second has theirs same
    exact Option.some.inj (sound.apart (some one) (some other)
      first (mem_connections_some.mpr has) second (mem_connections_some.mpr theirs) same)
  · intro client connection has twice
    obtain ⟨waiting, waits, same⟩ := List.mem_map.mp twice
    cases sound.apart none (some client) waiting waits connection (mem_connections_some.mpr has) same

/-- A connector that stamps connections with the generation it is given. -/
def Stamps (generation : UInt32) (connection : Connection) : Prop :=
  connection.generation = generation

/-- The first of two clients has got a connection, gives it back and has tested it. -/
def pushing : PoolScene Bool :=
  let opening := (((({} : PoolScene Bool).put false {} .looking).go false).go false)
  let holding := opening.give false ⟨1, 0, true⟩
  (holding.put false holding.pool (.returning ⟨1, 0, true⟩)).go false

/-- The second client clears the pool before the first one puts its connection into the list. So a
connection of the earlier generation waits, and there it fails. -/
def slipped : PoolScene Bool :=
  (((pushing.beginClear true).go true).go false).withFailed 1

/-- The second client looks for a connection and is given a new one. -/
def refreshed : PoolScene Bool :=
  (((((slipped.put true slipped.pool .looking).go true).go true).go true).go true).give true
    ⟨2, 1, true⟩

theorem pool_is_safe_slipped :
    Run Stamps {} slipped ∧ Run Stamps slipped refreshed ∧ slipped.pool = ⟨1, [⟨1, 0, false⟩]⟩ ∧
      refreshed.task true = .holding ⟨2, 1, true⟩ ∧
      slipped.pool.generation ≤ refreshed.pool.generation ∧
      (∀ client connection, refreshed.task client = .holding connection →
        connection.number ≠ 1) ∧
      (slipped.pool.idle.map Connection.number).Nodup := by
  have pushes : Run Stamps {} pushing :=
    .tail (.tail (.tail (.tail (.tail (.tail .refl (.checkOut false rfl)) (.advance false))
      (.advance false)) (.connected false 0 ⟨1, 0, true⟩ rfl rfl rfl))
      (.checkIn false ⟨1, 0, true⟩ rfl)) (.advance false)
  have slips : Run Stamps {} slipped :=
    .tail (.tail (.tail (pushes.tail (.clear true rfl)) (.advance true)) (.advance false))
      (.disconnect 1)
  have refreshes : Run Stamps slipped refreshed :=
    .tail (.tail (.tail (.tail (.tail (.tail .refl (.checkOut true rfl)) (.advance true))
      (.advance true)) (.advance true)) (.advance true))
      (.connected true 1 ⟨2, 1, true⟩ rfl rfl rfl)
  have safe := pool_is_safe Stamps (fun _ _ same => same) slipped refreshed slips refreshes
    (by decide)
  have waits : ⟨1, 0, false⟩ ∈ slipped.pool.idle := List.mem_cons_self
  exact ⟨slips, refreshes, rfl, rfl, safe.1, safe.2.2.1 _ waits rfl, safe.2.2.2.2.2.1⟩

end PoolScene

end DocumentDriver
