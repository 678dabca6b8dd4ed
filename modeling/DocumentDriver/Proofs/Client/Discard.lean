/-
This file proves what becomes of a connection over which a command has failed. If the error says that
the byte stream or the network cannot be trusted any more, the connection does not wait in the pool
afterwards, and no client is given it again. There is one gap. That a reply holds no document is found
out only after the connection has been given back, and then it waits like any other.
-/

import DocumentDriver.Proofs.Client.Failure
import DocumentDriver.Proofs.Connection.PoolSafety

namespace DocumentDriver

namespace Error

/-- An error after which the connection that it happened on must go. -/
def Damages (error : Error) : Prop := error.isProtocol = true ∨ error.isNetwork = true

theorem damages_violation (violation : Violation) : violation.toError.Damages := .inl rfl

theorem not_damages_command (code : Int32) (text : String) (codeName : Option String) :
    ¬(Error.command code text codeName).Damages := by
  rintro (protocol | network) <;> contradiction

end Error

namespace Message

/-- A message that holds no document to answer with. -/
def LacksDocument : Message → Prop
  | msg _ => False
  | reply message => message.documents = []
  | update _ | insert _ | query _ | getMore _ | delete _ | killCursors _ | compressed _ => True

/-- A message that holds no document is the only one that breaks the rules for replies. -/
theorem lacksDocument_iff (message : Message) :
    message.LacksDocument ↔ ∃ error, message.replyDocument = .error error ∧ error.Damages := by
  cases message with
  | msg message =>
    refine ⟨False.elim, ?_⟩
    rintro ⟨error, failed, -⟩
    cases failed
  | reply legacy =>
    unfold LacksDocument replyDocument
    dsimp only
    cases legacy.documents with
    | nil => exact ⟨fun _ => ⟨_, rfl, Error.damages_violation _⟩, fun _ => rfl⟩
    | cons first rest =>
      refine ⟨fun empty => (List.cons_ne_nil _ _ empty).elim, ?_⟩
      rintro ⟨error, failed, damages⟩
      dsimp only at failed
      split at failed
      · cases failed
        exact absurd damages (Error.not_damages_command _ _ _)
      · cases failed
  | update | insert | query | getMore | delete | killCursors | compressed =>
    exact ⟨fun _ => ⟨_, rfl, Error.damages_violation _⟩, fun _ => trivial⟩

end Message

namespace Command

/-- A reply without success is an answer all the same. -/
theorem not_damages_checkReply {document : Document} {error : Error}
    (failed : checkReply document = .error error) : ¬error.Damages := by
  unfold checkReply at failed
  split at failed
  · cases failed
  · cases failed
    exact Error.not_damages_command _ _ _

end Command

/-! ### Taking a connection out of a pool -/

namespace Pool

/-- The connection that is taken and those left are the end of the list. -/
theorem suffix_of_takeUsable {pool : Pool} {connections rest : List Connection}
    {connection : Connection} (taken : pool.takeUsable connections = some (connection, rest)) :
    connection :: rest <:+ connections := by
  induction connections with
  | nil => cases taken
  | cons first others inductionHypothesis =>
    rw [takeUsable] at taken
    split at taken
    · cases taken
      exact List.suffix_refl _
    · exact (inductionHypothesis taken).trans (List.suffix_cons first others)

/-- A connection that is taken out was the first of those that are left, or it is new, and then none
is left. -/
theorem waits_or_new_of_checkOut {pool next : Pool} {connect : UInt32 → Except Error Connection}
    {connection : Connection} (taken : pool.checkOut connect = (.ok connection, next)) :
    connection :: next.idle <:+ pool.idle ∨
      connect next.generation = .ok connection ∧ next.idle = [] := by
  unfold checkOut reuse at taken
  cases found : pool.takeUsable pool.idle with
  | some pair =>
    obtain ⟨first, rest⟩ := pair
    rw [found] at taken
    cases taken
    exact .inl (suffix_of_takeUsable found)
  | none =>
    rw [found] at taken
    obtain ⟨opened, rfl⟩ := Prod.mk.inj taken
    exact .inr ⟨opened, rfl⟩

/-- If no connection waits twice, one that is taken out does not wait any more. -/
theorem not_waits_of_checkOut {pool next : Pool} {connect : UInt32 → Except Error Connection}
    {connection : Connection} (distinct : (pool.idle.map Connection.number).Nodup)
    (taken : pool.checkOut connect = (.ok connection, next)) :
    connection.number ∉ next.idle.map Connection.number := by
  rcases waits_or_new_of_checkOut taken with waited | ⟨-, empty⟩
  · have ending := distinct.sublist (waited.sublist.map Connection.number)
    rw [List.map_cons, List.nodup_cons] at ending
    exact ending.1
  · rw [empty]
    exact List.not_mem_nil

/-- Whoever works on a pool from now on, and in whatever order, nobody comes to hold the connection of
a number, as long as nobody has it now. -/
def NeverLends (pool : Pool) (number : Nat) : Prop :=
  ∀ (Client : Type) [DecidableEq Client] (connects : UInt32 → Connection → Prop)
    (scene later : PoolScene Client), scene.pool = pool → number ≤ scene.opened →
    (∀ client connection, (scene.task client).connection? = some connection →
      connection.number ≠ number) →
    PoolScene.Run connects scene later →
    ∀ client connection, later.task client = .holding connection → connection.number ≠ number

/-- A connection that neither waits nor is with a client is lost. -/
theorem neverLends_of_not_waits {pool : Pool} {number : Nat}
    (absent : number ∉ pool.idle.map Connection.number) : pool.NeverLends number := by
  rintro Client _ connects scene later rfl known without run client connection holds
  have nowhere : scene.Everywhere fun connection => connection.number ≠ number := by
    rintro (_ | other) waiting has same
    · exact absent (List.mem_map.2 ⟨waiting, has, same⟩)
    · exact without other waiting (PoolScene.mem_connections_some.1 has) same
  have lost : scene.IsLost number := by
    refine ⟨known, fun place waiting has same => absurd same (nowhere place waiting has), ?_⟩
    intro other
    cases task : scene.task other with
    | holding own => exact without other own (by rw [task]; rfl)
    | _ => trivial
  have kept := (lost.run run).without client
  rwa [holds] at kept

end Pool

/-! ### The connections that wait for a server -/

namespace Cluster

/-- The connections to a server that wait to be used. -/
def waiting (cluster : Cluster) (address : ServerAddress) : List Connection :=
  ((cluster.handles.get? address).map (·.pool.idle)).getD []

theorem waiting_of_get? {cluster : Cluster} {address : ServerAddress} {handle : ServerHandle}
    (found : cluster.handles.get? address = some handle) :
    cluster.waiting address = handle.pool.idle := by
  rw [waiting, found]
  rfl

theorem waiting_requestScan (cluster : Cluster) (address other : ServerAddress) :
    (cluster.requestScan address).waiting other = cluster.waiting other := by
  unfold waiting
  rw [get?_requestScan]
  split
  · rw [Option.map_map]
    rfl
  · rfl

/-- A description that is applied lets no connection wait that did not wait before. -/
theorem waiting_applyLocked_sublist (cluster : Cluster) (description : ServerDescription)
    (now : Duration) (address : ServerAddress) :
    ((cluster.applyLocked description now).1.waiting address).Sublist
      (cluster.waiting address) := by
  unfold waiting
  rw [get?_applyLocked]
  split
  · cases cluster.handles.get? address with
    | none => exact List.nil_sublist _
    | some handle =>
      show (handle.told address description).pool.idle.Sublist handle.pool.idle
      unfold ServerHandle.told
      split
      · exact List.nil_sublist _
      · exact List.Sublist.refl _
  · exact List.nil_sublist _

theorem waiting_markUnknown_sublist (cluster : Cluster) (address : ServerAddress) (error : Error)
    (now : Duration) (other : ServerAddress) :
    ((cluster.markUnknown address error now).1.waiting other).Sublist (cluster.waiting other) := by
  unfold markUnknown apply
  split
  · exact List.Sublist.refl _
  · exact waiting_applyLocked_sublist cluster _ now other

theorem waiting_handleError_sublist (cluster : Cluster) (address : ServerAddress) (error : Error)
    (now : Duration) (other : ServerAddress) :
    ((Command.handleError cluster address error now).1.waiting other).Sublist
      (cluster.waiting other) := by
  have marked := waiting_markUnknown_sublist cluster address error now other
  unfold Command.handleError
  split
  · exact marked
  · split
    · exact (waiting_requestScan _ address other).symm ▸ marked
    · exact List.Sublist.refl _

/-- A connection is taken out of the pool of a handle, which keeps the rest. -/
theorem pool_of_checkOut {cluster next : Cluster} {address : ServerAddress}
    {connect : UInt32 → Except Error Connection} {connection : Connection}
    (taken : cluster.checkOut address connect = (.ok connection, next)) :
    ∃ handle pool, cluster.handles.get? address = some handle ∧
      handle.pool.checkOut connect = (.ok connection, pool) ∧
      next.handles.get? address = some { handle with pool } := by
  unfold checkOut at taken
  cases found : cluster.handles.get? address with
  | none =>
    rw [found] at taken
    cases taken
  | some handle =>
    rw [found] at taken
    obtain ⟨opened, rfl⟩ := Prod.mk.inj taken
    refine ⟨handle, _, rfl, Prod.ext opened rfl, ?_⟩
    rw [get?_modifyHandle, if_pos rfl, found]
    rfl

end Cluster

/-! ### The connection of a command -/

namespace CommandRun

/-- The command was replied to by a message that holds no document. -/
def LacksDocument (run : CommandRun) : Prop :=
  ∃ exchange reply, run.exchange = some exchange ∧ exchange.result = .ok (some reply) ∧
    reply.LacksDocument

theorem waiting_giveBack {run : CommandRun} {server : SelectedServer} {handle : ServerHandle}
    (found : run.cluster.handles.get? server.description.address = some handle)
    (connection : Connection) :
    (run.giveBack server connection).cluster.waiting server.description.address =
      (handle.pool.checkIn connection).idle := by
  have stored : (run.giveBack server connection).cluster.handles.get? server.description.address =
      some { handle with pool := handle.pool.checkIn connection } := by
    show (run.cluster.modifyHandle _ _).handles.get? _ = _
    rw [Cluster.get?_modifyHandle, if_pos rfl, found]
    rfl
  exact Cluster.waiting_of_get? stored

/-- A reply that cannot be trusted leaves everything as it is when it is looked at, and holds no
document. -/
theorem finish_of_damages {run : CommandRun} {server : SelectedServer} {reply : Message}
    {now : Duration} {error : Error} (failed : (run.finish server reply now).result = .error error)
    (damages : error.Damages) :
    (run.finish server reply now).cluster = run.cluster ∧ reply.LacksDocument := by
  unfold finish at failed ⊢
  cases read : reply.replyDocument with
  | error problem =>
    rw [read] at failed
    cases failed
    exact ⟨rfl, (Message.lacksDocument_iff reply).2 ⟨_, read, damages⟩⟩
  | ok document =>
    rw [read] at failed
    dsimp only at failed
    cases checked : Command.checkReply document with
    | ok answer =>
      rw [checked] at failed
      cases failed
    | error problem =>
      rw [checked] at failed
      cases failed
      exact absurd damages (Command.not_damages_checkReply checked)

theorem exchange_finish (run : CommandRun) (server : SelectedServer) (reply : Message)
    (now : Duration) :
    (run.finish server reply now).exchange = run.exchange ∧
      (run.finish server reply now).connection = run.connection := by
  unfold finish
  split
  · exact ⟨rfl, rfl⟩
  · split <;> exact ⟨rfl, rfl⟩

/-- With a connection in hand, the command uses this connection. After an error that damages it, either
none waits that did not wait before, or the reply holds no document and the connection has been given
back. -/
theorem exchangeCommand_of_damages {run : CommandRun} {server : SelectedServer}
    {connection : Connection} {message : Message} {registry : CompressorRegistry} {now : Duration}
    {encounter : CommandEncounter} {error : Error}
    (failed : (Cluster.exchangeCommand run server connection message registry now encounter).result =
      .error error) (damages : error.Damages) :
    let ended := Cluster.exchangeCommand run server connection message registry now encounter
    let used := { connection with isConnected := encounter.staysConnected }
    ended.connection = some used ∧
      (¬ended.LacksDocument ∧
          (ended.cluster.waiting server.description.address).Sublist
            (run.cluster.waiting server.description.address) ∨
        ended.LacksDocument ∧ ended.cluster = (run.giveBack server used).cluster) := by
  unfold Cluster.exchangeCommand at failed ⊢
  dsimp only at failed ⊢
  split at failed
  · next problem unread =>
    refine ⟨rfl, .inl ⟨?_, Cluster.waiting_handleError_sublist run.cluster _ problem _ _⟩⟩
    rintro ⟨exchange, reply, exchanged, replied, -⟩
    obtain rfl := Option.some.inj exchanged
    cases unread.symm.trans replied
  · next unanswered =>
    refine ⟨rfl, .inl ⟨?_, List.Sublist.refl _⟩⟩
    rintro ⟨exchange, reply, exchanged, replied, -⟩
    obtain rfl := Option.some.inj exchanged
    cases unanswered.symm.trans replied
  · next reply replied =>
    obtain ⟨same, lacks⟩ := finish_of_damages failed damages
    obtain ⟨exchanged, used⟩ := exchange_finish _ server reply now
    exact ⟨used, .inr ⟨⟨_, reply, exchanged, replied, lacks⟩, same⟩⟩

end CommandRun

namespace Cluster

/-- A command that has come to a connection has taken it out of the pool and exchanges a message over
it. -/
theorem commandOn_of_connection {cluster : Cluster} {elapsed : Duration} {server : SelectedServer}
    {registry : CompressorRegistry} {request : CommandRequest} {requestId : Int32} {now : Duration}
    {encounter : CommandEncounter} {used : Connection}
    (connected : (cluster.commandOn elapsed server registry request requestId now
      encounter).connection = some used) :
    ∃ message connection next,
      cluster.checkOut server.description.address encounter.connect = (.ok connection, next) ∧
      cluster.commandOn elapsed server registry request requestId now encounter =
        exchangeCommand { cluster := next, elapsed, server := some server, result := .ok [] } server
          connection message registry now encounter := by
  unfold commandOn at connected ⊢
  dsimp only at connected ⊢
  cases written : Command.message cluster.options registry server request.database
      (Command.prefer server request.criteria request.command) requestId with
  | error problem =>
    rw [written] at connected
    cases connected
  | ok message =>
    rw [written] at connected
    rcases taken : cluster.checkOut server.description.address encounter.connect with
      ⟨problem | connection, next⟩
    · rw [taken] at connected
      cases connected
    · exact ⟨message, connection, next, rfl, rfl⟩

/-- What a command over a connection leaves behind in the pool of its server when it fails with an error
that damages the connection. -/
theorem pool_of_damages {cluster : Cluster} {registry : CompressorRegistry} {server : SelectedServer}
    {request : CommandRequest} {requestId : Int32} {now : Duration} {encounter : CommandEncounter}
    {run : CommandRun} (runs : cluster.RunsOn registry server request requestId now encounter run)
    {error : Error} (failed : run.result = .error error) (damages : error.Damages)
    {used : Connection} (connected : run.connection = some used) :
    ∃ handle pool connection, cluster.handles.get? server.description.address = some handle ∧
      handle.pool.checkOut encounter.connect = (.ok connection, pool) ∧
      used = { connection with isConnected := encounter.staysConnected } ∧
      (¬run.LacksDocument ∧
          (run.cluster.waiting server.description.address).Sublist pool.idle ∨
        run.LacksDocument ∧
          run.cluster.waiting server.description.address = (pool.checkIn used).idle) := by
  obtain ⟨-, -, elapsed, rfl⟩ := runs
  obtain ⟨message, connection, next, taken, run⟩ := commandOn_of_connection connected
  rw [run] at failed connected ⊢
  obtain ⟨handle, pool, found, out, left⟩ := pool_of_checkOut taken
  obtain ⟨same, ends⟩ := CommandRun.exchangeCommand_of_damages failed damages
  obtain rfl := Option.some.inj (same.symm.trans connected)
  refine ⟨handle, pool, connection, found, out, rfl, ?_⟩
  rcases ends with ⟨holds, fewer⟩ | ⟨lacks, back⟩
  · rw [waiting_of_get? left] at fewer
    exact .inl ⟨holds, fewer⟩
  · rw [back, CommandRun.waiting_giveBack left]
    exact .inr ⟨lacks, rfl⟩

/-! ### A damaged connection is not used again -/

/-- A command that has selected a server runs on it. On whichever server a command runs, if it has come to
a connection and ends with an error that damages this connection, then the connection does not wait
afterwards and is not lent to anyone again, unless the reply holds no document. In that case the
connection has been given back as after a success. -/
theorem damaged_connection_is_not_reused (cluster : Cluster) (registry : CompressorRegistry)
    (request : CommandRequest) (requestId : Int32) (now : Duration) (encounter : CommandEncounter)
    (server : SelectedServer)
    (distinct : ((cluster.waiting server.description.address).map Connection.number).Nodup) :
    (∀ run, cluster.runCommand registry request requestId now encounter = .ok run →
      run.server = some server →
      cluster.RunsOn registry server request requestId now encounter run) ∧
      ∀ run error connection, cluster.RunsOn registry server request requestId now encounter run →
        run.result = .error error → error.isProtocol = true ∨ error.isNetwork = true →
        run.connection = some connection →
        (¬run.LacksDocument →
          connection.number ∉
              (run.cluster.waiting server.description.address).map Connection.number ∧
            ∀ handle, run.cluster.handles.get? server.description.address = some handle →
              handle.pool.NeverLends connection.number) ∧
          (run.LacksDocument →
            ∃ handle, cluster.handles.get? server.description.address = some handle ∧
              run.cluster.waiting server.description.address =
                ((handle.pool.checkOut encounter.connect).2.checkIn connection).idle) := by
  refine ⟨fun run ran selected => runsOn_of_runCommand ran selected, ?_⟩
  intro run error used runs failed damages connected
  obtain ⟨handle, pool, connection, found, taken, rfl, left⟩ :=
    pool_of_damages runs failed damages connected
  constructor
  · intro holds
    have fewer := (left.resolve_right fun given => holds given.1).2
    rw [waiting_of_get? found] at distinct
    have absent : connection.number ∉
        (run.cluster.waiting server.description.address).map Connection.number := fun waits =>
      Pool.not_waits_of_checkOut distinct taken
        ((fewer.map Connection.number).subset waits)
    refine ⟨absent, fun after has => ?_⟩
    rw [waiting_of_get? has] at absent
    exact Pool.neverLends_of_not_waits absent
  · intro lacks
    refine ⟨handle, found, ?_⟩
    rw [taken]
    exact (left.resolve_left fun kept => kept.1 lacks).2

/-- The pair with two connections that wait for the first server, which is its primary. -/
def pairPooled : Cluster :=
  pairReady.modifyHandle ⟨"left", 27017⟩ fun handle =>
    { handle with pool := ⟨0, [⟨2, 0, true⟩, ⟨1, 0, true⟩]⟩ }

/-- The primary of the pair replies with bytes that are no message. -/
def pairBabbles : CommandEncounter where
  connect _ := .error (.network "refused")
  peer := { send := fun _ => .ok (), receive := fun _ => .ok [] }

theorem damaged_connection_is_not_reused_pair :
    ((pairPooled.waiting pairPrimary.description.address).map Connection.number).Nodup ∧
      ∃ run, pairPooled.runCommand .default pingRequest 7 .zero pairBabbles = .ok run ∧
        run.server = some pairPrimary ∧ run.result = .error (Violation.shortHeader 0).toError ∧
        run.connection = some ⟨2, 0, true⟩ ∧
        2 ∉ (run.cluster.waiting pairPrimary.description.address).map Connection.number := by
  have distinct :
      ((pairPooled.waiting pairPrimary.description.address).map Connection.number).Nodup := by
    decide +kernel
  obtain ⟨run, ran, selected, failed, connected, unread⟩ : ∃ run,
      pairPooled.runCommand .default pingRequest 7 .zero pairBabbles = .ok run ∧
        run.server = some pairPrimary ∧ run.result = .error (Violation.shortHeader 0).toError ∧
        run.connection = some ⟨2, 0, true⟩ ∧
        run.exchange.map Exchange.result = some (.error (Violation.shortHeader 0).toError) :=
    ⟨_, rfl, rfl, rfl, rfl, rfl⟩
  obtain ⟨runs, discards⟩ := damaged_connection_is_not_reused pairPooled .default pingRequest 7 .zero
    pairBabbles pairPrimary distinct
  refine ⟨distinct, run, ran, selected, failed, connected,
    ((discards run _ _ (runs run ran selected) failed (.inl rfl) connected).1 ?_).1⟩
  rintro ⟨exchange, reply, exchanged, replied, -⟩
  rw [exchanged] at unread
  cases (Option.some.inj unread).symm.trans replied

/-- The primary of the pair replies with no document. -/
def pairSaysNothing : CommandEncounter where
  connect generation := .ok { number := 1, generation }
  peer :=
    { send := fun _ => .ok ()
      receive := fun _ => (Message.reply {
        requestId := 1, responseTo := 7, documents := [] }).serialize }

/-- The connection over which a reply without documents has come waits afterwards, although the error
says that it cannot be trusted, and it is the next one to be lent. -/
theorem empty_reply_keeps_connection :
    ∃ run, pairReady.runCommand .default pingRequest 7 .zero pairSaysNothing = .ok run ∧
      run.result = .error Violation.emptyReply.toError ∧
      Violation.emptyReply.toError.isProtocol = true ∧ run.connection = some ⟨1, 0, true⟩ ∧
      run.cluster.waiting pairPrimary.description.address = [⟨1, 0, true⟩] ∧
      (run.cluster.checkOut pairPrimary.description.address pairBabbles.connect).1 =
        .ok ⟨1, 0, true⟩ :=
  ⟨_, rfl, rfl, rfl, rfl, by decide +kernel, rfl⟩

end Cluster

end DocumentDriver
