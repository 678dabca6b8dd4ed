/-
This file proves that what goes wrong with a server during a command is taken into account by the
cluster before the caller sees it: the picture holds the error, the pool has begun a new generation
if the network failed, and a scan has been asked for if the server is no primary. There is one gap.
An error that a legacy reply tells through its flags is handed to the caller alone.
-/

import DocumentDriver.Client.Command
import DocumentDriver.Proofs.Cluster.Choice
import DocumentDriver.Proofs.Message.Refusal

namespace DocumentDriver

namespace Error

/-- An error that says something about the server: its network failed, or it is no primary. -/
def ConcernsServer (error : Error) : Prop := error.isNetwork = true ∨ error.isNotPrimary = true

theorem ConcernsServer.kind {error : Error} (concerns : error.ConcernsServer) :
    error.kind = .network ∨ error.kind = .command := by
  cases error with
  | network | io | connectionClosed => exact .inl rfl
  | command => exact .inr rfl
  | _ => rcases concerns with network | notPrimary <;> contradiction

/-- A network that failed does not answer. -/
theorem isNotPrimary_of_isNetwork {error : Error} (network : error.isNetwork = true) :
    error.isNotPrimary = false := by
  cases error with
  | network | io | connectionClosed => rfl
  | _ => cases network

theorem isNetwork_of_isNotPrimary {error : Error} (notPrimary : error.isNotPrimary = true) :
    error.isNetwork = false := by
  cases error with
  | command => rfl
  | _ => cases notPrimary

end Error

/-- Why bytes cannot be compressed says nothing about a server, whichever compressor is used. -/
def CompressorRegistry.KeepsToItself (registry : CompressorRegistry) : Prop :=
  ∀ compressor ∈ registry.compressors, ∀ bytes error,
    compressor.compress bytes = .error error → ¬error.ConcernsServer

/-- The compressors that are known from the start do not fail. -/
theorem CompressorRegistry.keepsToItself_default : default.KeepsToItself := by
  intro compressor known bytes error failed
  rcases List.mem_pair.1 known with rfl | rfl <;> cases failed

namespace Message

/-- A message that is not read as an answer tells nothing of the server, except for a legacy reply
whose flags tell that the query failed. -/
theorem error_of_replyDocument {reply : Message} {error : Error}
    (failed : reply.replyDocument = .error error) :
    error.isNetwork = false ∧ (¬error.ConcernsServer ∨
      ∃ legacy, reply = .reply legacy ∧
        legacy.flags.contains ReplyFlags.queryFailure = true) := by
  have own (violation : Violation) : ¬violation.toError.ConcernsServer := by
    rintro (network | notPrimary) <;> contradiction
  cases reply with
  | msg message => cases failed
  | reply legacy =>
    unfold replyDocument at failed
    dsimp only at failed
    split at failed
    · cases failed
      exact ⟨rfl, .inl (own .emptyReply)⟩
    · split at failed
      · next flagged =>
        cases failed
        exact ⟨rfl, .inr ⟨legacy, rfl, flagged⟩⟩
      · cases failed
  | update | insert | query | getMore | delete | killCursors | compressed =>
    cases failed
    exact ⟨rfl, .inl (own (.notReply _))⟩

/-- A legacy reply whose flags tell that the query failed is no answer. -/
theorem replyDocument_of_queryFailure {legacy : Reply}
    (flagged : legacy.flags.contains ReplyFlags.queryFailure = true) :
    ∃ error, (Message.reply legacy).replyDocument = .error error := by
  unfold replyDocument
  dsimp only
  split
  · exact ⟨_, rfl⟩
  · rw [if_pos flagged]
    exact ⟨_, rfl⟩

end Message

namespace Topology

/-- Beside a server of which nothing is known, all servers stay as they are. -/
theorem server?_react_of_unknown (topology : Topology) {description : ServerDescription}
    (unknown : description.type = .unknown) (address : ServerAddress) :
    (topology.react description).server? address = topology.server? address := by
  have unavailable : description.isAvailable = false := by
    rw [ServerDescription.isAvailable, unknown]
    rfl
  unfold react
  rw [unknown]
  cases topology.type with
  | single => simp only [updateSingle, unavailable, Bool.false_and, Bool.false_eq_true, if_false]
  | unknown | sharded | replicaSetNoPrimary => rfl
  | replicaSetWithPrimary => exact server?_refreshPrimary topology address

/-- An error is never older than what is known, so it becomes what is known of a tracked server. -/
theorem server?_apply_ofError (topology : Topology) (address : ServerAddress) (error : Error)
    (tracked : topology.tracks address = true) :
    (topology.apply (.ofError address error)).server? address = some (.ofError address error) := by
  obtain ⟨current, found⟩ := (tracks_iff topology address).1 tracked
  have isCurrent : isOutdated current (.ofError address error) = false := by
    unfold isOutdated
    cases current.topologyVersion <;> rfl
  rw [apply_of_tracked topology (.ofError address error) current found isCurrent,
    server?_refresh, server?_react_of_unknown _ rfl]
  exact server?_store_self topology (.ofError address error)

end Topology

/-! ### What a pool lends -/

namespace Pool

theorem generation_checkOut (pool : Pool) (connect : UInt32 → Except Error Connection) :
    (pool.checkOut connect).2.generation = pool.generation := by
  unfold checkOut reuse
  cases pool.takeUsable pool.idle <;> rfl

theorem generation_checkIn (pool : Pool) (connection : Connection) :
    (pool.checkIn connection).generation = pool.generation := by
  unfold checkIn push
  split
  · split <;> rfl
  · rfl

end Pool

/-- What a cluster decides about a server: the generation of its pool and when it is checked. -/
def ServerHandle.standing (handle : ServerHandle) : UInt32 × Schedule :=
  (handle.pool.generation, handle.schedule)

namespace Cluster

/-- A cluster is the same as another one but for the connections that wait in its pools. -/
structure Lends (cluster next : Cluster) : Prop where
  same : cluster.SameButHandles next
  standing : ∀ address, (next.handles.get? address).map ServerHandle.standing =
    (cluster.handles.get? address).map ServerHandle.standing

theorem lends_refl (cluster : Cluster) : cluster.Lends cluster :=
  ⟨sameButHandles_refl cluster, fun _ => rfl⟩

theorem Lends.trans {cluster middle next : Cluster} (first : cluster.Lends middle)
    (second : middle.Lends next) : cluster.Lends next :=
  ⟨first.same.trans second.same, fun address =>
    (second.standing address).trans (first.standing address)⟩

theorem Lends.contains {cluster next : Cluster} (lends : cluster.Lends next)
    (address : ServerAddress) :
    next.handles.contains address = cluster.handles.contains address := by
  simpa [AddressMap.contains] using congrArg Option.isSome (lends.standing address)

theorem lends_modifyHandle (cluster : Cluster) (address : ServerAddress)
    (change : ServerHandle → ServerHandle)
    (keeps : ∀ handle, cluster.handles.get? address = some handle →
      (change handle).standing = handle.standing) :
    cluster.Lends (cluster.modifyHandle address change) := by
  refine ⟨sameButHandles_modifyHandle cluster address change, fun other => ?_⟩
  rw [get?_modifyHandle]
  split
  · next same =>
    subst same
    cases found : cluster.handles.get? other with
    | none => rfl
    | some handle => exact congrArg some (keeps handle found)
  · rfl

theorem lends_checkOut (cluster : Cluster) (address : ServerAddress)
    (connect : UInt32 → Except Error Connection) :
    cluster.Lends (cluster.checkOut address connect).2 := by
  unfold checkOut
  cases found : cluster.handles.get? address with
  | none => exact lends_refl cluster
  | some handle =>
    refine lends_modifyHandle cluster address _ fun other again => ?_
    obtain rfl := Option.some.inj (found.symm.trans again)
    exact congrArg (·, handle.schedule) (Pool.generation_checkOut handle.pool connect)

theorem lends_giveBack (run : CommandRun) (server : SelectedServer) (connection : Connection) :
    run.cluster.Lends (run.giveBack server connection).cluster :=
  lends_modifyHandle run.cluster _ _ fun handle _ =>
    congrArg (·, handle.schedule) (Pool.generation_checkIn handle.pool connection)

/-! ### Taking an error into account -/

/-- An error of a server has been taken into account: it is what is known of the server, for
selections too, the pool has begun a new generation exactly if the network failed, and a scan is asked
for exactly if the server is no primary. -/
structure Heeds (cluster next : Cluster) (address : ServerAddress) (error : Error) : Prop where
  topology : next.topology = cluster.topology.apply (.ofError address error)
  known : next.topology.server? address = some (.ofError address error)
  published : next.published = next.topology
  version : next.version = cluster.version + 1
  handle : ∃ before after, cluster.handles.get? address = some before ∧
    next.handles.get? address = some after ∧
    after.pool.generation = before.pool.generation + (if error.isNetwork then 1 else 0) ∧
    after.schedule =
      if error.isNotPrimary then before.schedule.step cluster.options .request else before.schedule

/-- Lending connections before makes no difference. -/
theorem Lends.heeds {cluster middle next : Cluster} {address : ServerAddress} {error : Error}
    (lends : cluster.Lends middle) (heeds : middle.Heeds next address error) :
    cluster.Heeds next address error := by
  obtain ⟨lent, after, has, found, generation, schedule⟩ := heeds.handle
  have standing := lends.standing address
  rw [has] at standing
  obtain ⟨before, had, same⟩ := Option.map_eq_some_iff.1 standing.symm
  obtain ⟨sameGeneration, sameSchedule⟩ := Prod.mk.inj same
  refine ⟨lends.same.topology ▸ heeds.topology, heeds.known, heeds.published,
    lends.same.version ▸ heeds.version, before, after, had, found, ?_, ?_⟩
  · rw [generation, sameGeneration]
  · rw [schedule, sameSchedule, lends.same.options]

/-- Marking a tracked server applies the error, and changes its handle as the error demands. -/
structure Marks (cluster next : Cluster) (address : ServerAddress) (error : Error) : Prop where
  options : next.options = cluster.options
  topology : next.topology = cluster.topology.apply (.ofError address error)
  published : next.published = next.topology
  version : next.version = cluster.version + 1
  handle : ∀ handle, cluster.handles.get? address = some handle →
    next.handles.get? address = some (handle.told address (.ofError address error))

theorem marks_markUnknown (cluster : Cluster) (address : ServerAddress) (error : Error)
    (now : Duration) (isOpen : cluster.isClosed = false)
    (tracked : cluster.topology.tracks address = true) :
    cluster.Marks (cluster.markUnknown address error now).1 address error := by
  have stays : (cluster.topology.apply (.ofError address error)).tracks address = true :=
    (Topology.tracks_iff _ _).2 ⟨_, Topology.server?_apply_ofError _ address error tracked⟩
  have cleared := sameButHandles_clearFailed cluster (.ofError address error)
  rw [markUnknown, apply_of_open cluster isOpen]
  refine ⟨cleared.options, topology_applyLocked cluster _ now, rfl,
    congrArg (· + 1) cleared.version, fun handle found => ?_⟩
  rw [get?_applyLocked, if_pos stays, found]
  rfl

/-- The client takes every error into account that says something about a server. -/
theorem heeds_handleError (cluster : Cluster) (address : ServerAddress) (error : Error)
    (now : Duration) (isOpen : cluster.isClosed = false)
    (tracked : cluster.topology.tracks address = true)
    (handled : cluster.handles.contains address = true) (concerns : error.ConcernsServer) :
    cluster.Heeds (Command.handleError cluster address error now).1 address error := by
  obtain ⟨before, had⟩ := Option.isSome_iff_exists.1 handled
  have marks := marks_markUnknown cluster address error now isOpen tracked
  have known : (cluster.markUnknown address error now).1.topology.server? address =
      some (.ofError address error) :=
    marks.topology ▸ Topology.server?_apply_ofError cluster.topology address error tracked
  have handle := marks.handle before had
  rcases concerns with network | notPrimary
  · have told : before.told address (.ofError address error) =
        { before with pool := before.pool.clear } := if_pos ⟨rfl, network⟩
    rw [Command.handleError, if_pos network]
    refine ⟨marks.topology, known, marks.published, marks.version, before, _, had, handle, ?_, ?_⟩
    · rw [told, if_pos network]
      rfl
    · rw [told, Error.isNotPrimary_of_isNetwork network]
      rfl
  · have answered := Error.isNetwork_of_isNotPrimary notPrimary
    have told : before.told address (.ofError address error) = before :=
      if_neg fun both => absurd (both.2.symm.trans answered) Bool.noConfusion
    rw [Command.handleError, answered, if_neg Bool.false_ne_true, if_pos notPrimary]
    have same := sameButHandles_requestScan (cluster.markUnknown address error now).1 address
    refine ⟨same.topology.trans marks.topology, ?_, same.published.trans
      (marks.published.trans same.topology.symm), same.version.trans marks.version, before,
      before.asked cluster.options, had, ?_, ?_, ?_⟩
    · exact (congrArg (·.server? address) same.topology).trans known
    · show ((cluster.markUnknown address error now).1.requestScan address).handles.get? address = _
      rw [get?_requestScan, if_pos rfl, handle, told, marks.options]
      rfl
    · rw [answered]
      exact (UInt32.add_zero _).symm
    · rw [notPrimary]
      rfl

end Cluster

namespace Command

/-- Whatever keeps a command from being written says nothing about the server. -/
theorem own_of_message {options : ClientOptions} {registry : CompressorRegistry}
    (keeps : registry.KeepsToItself) {server : SelectedServer} {database : String}
    {command : Document} {requestId : Int32} {error : Error}
    (failed : message options registry server database command requestId = .error error) :
    ¬error.ConcernsServer := by
  have own (problem : Error) (codec : problem.kind = .codec) : ¬problem.ConcernsServer := by
    intro concerns
    rcases concerns.kind with kind | kind <;> rw [codec] at kind <;> cases kind
  unfold message at failed
  dsimp only at failed
  split at failed
  · cases failed
  · next compressor found =>
    have known : compressor ∈ registry.compressors := by
      unfold compressorFor at found
      split at found
      · exact List.mem_of_find?_eq_some (List.exists_of_findSome?_eq_some found).choose_spec.2
      · cases found
    cases written : Compressed.ofMessage (plain server database command requestId) compressor with
    | ok compressed =>
      rw [written] at failed
      cases failed
    | error problem =>
      rw [written] at failed
      cases failed
      exact Encode.failsOnly_compressed own _ (keeps compressor known) _ written

end Command

namespace Cluster

/-! ### A command on a server that has been selected -/

theorem server_commandOn (cluster : Cluster) (elapsed : Duration) (server : SelectedServer)
    (registry : CompressorRegistry) (request : CommandRequest) (requestId : Int32) (now : Duration)
    (encounter : CommandEncounter) :
    (cluster.commandOn elapsed server registry request requestId now encounter).server =
      some server := by
  unfold commandOn
  dsimp only
  split
  · rfl
  · split
    · rfl
    · unfold exchangeCommand CommandRun.finish
      dsimp only
      split
      · rfl
      · rfl
      · split
        · rfl
        · split <;> rfl

/-- A command may run so on a server, whichever of those at hand the selection has picked. -/
def RunsOn (cluster : Cluster) (registry : CompressorRegistry) (server : SelectedServer)
    (request : CommandRequest) (requestId : Int32) (now : Duration) (encounter : CommandEncounter)
    (run : CommandRun) : Prop :=
  cluster.isClosed = false ∧ cluster.handles.contains server.description.address = true ∧
    ∃ elapsed, run = cluster.commandOn elapsed server registry request requestId now encounter

/-- A command ends with the selection of a server, or it runs on the server that was selected. -/
theorem runCommand_cases {cluster : Cluster} {registry : CompressorRegistry}
    {request : CommandRequest} {requestId : Int32} {now : Duration} {encounter : CommandEncounter}
    {run : CommandRun}
    (ran : cluster.runCommand registry request requestId now encounter = .ok run) :
    (∃ next elapsed error, run = { cluster := next, elapsed, result := .error error }) ∨
      ∃ server, run.server = some server ∧
        cluster.RunsOn registry server request requestId now encounter run := by
  obtain ⟨⟨next, elapsed, error | server⟩, picked, rest⟩ := bind_eq_ok_iff.1 ran
  · exact .inl ⟨next, elapsed, error, (Except.ok.inj rest).symm⟩
  · obtain ⟨rfl, -, isOpen, handled, -⟩ := select_eq_ok_iff.1 picked
    obtain rfl := Except.ok.inj rest
    exact .inr ⟨server, server_commandOn next elapsed server registry request requestId now encounter,
      isOpen, handled, elapsed, rfl⟩

/-- A command that has selected a server runs on that server. -/
theorem runsOn_of_runCommand {cluster : Cluster} {registry : CompressorRegistry}
    {request : CommandRequest} {requestId : Int32} {now : Duration} {encounter : CommandEncounter}
    {run : CommandRun} {server : SelectedServer}
    (ran : cluster.runCommand registry request requestId now encounter = .ok run)
    (selected : run.server = some server) :
    cluster.RunsOn registry server request requestId now encounter run := by
  rcases runCommand_cases ran with ⟨_, _, _, rfl⟩ | ⟨chosen, chose, runs⟩
  · cases selected
  · obtain rfl := Option.some.inj (chose.symm.trans selected)
    exact runs

end Cluster

/-! ### How a command ends -/

namespace CommandRun

/-- The reply to the command is a legacy one whose flags tell that the query failed. -/
def FailsQuery (run : CommandRun) : Prop :=
  ∃ exchange legacy, run.exchange = some exchange ∧ exchange.result = .ok (some (.reply legacy)) ∧
    legacy.flags.contains ReplyFlags.queryFailure = true

/-- How a command on a selected server ends: with an answer, with an error of the client's own, with
an error that is taken into account, or with one that the flags of a legacy reply tell. -/
inductive Ends (cluster : Cluster) (server : SelectedServer) (now : Duration) : CommandRun → Prop
  | answered {run : CommandRun} {document : Document} (result : run.result = .ok document) :
    Ends cluster server now run
  | own {run : CommandRun} {error : Error} (result : run.result = .error error)
      (own : ¬error.ConcernsServer) : Ends cluster server now run
  | handled {before : CommandRun} (error : Error) (lends : cluster.Lends before.cluster)
      (reads : ¬before.FailsQuery) : Ends cluster server now (before.fail server error now)
  | passed {run : CommandRun} {error : Error} (result : run.result = .error error)
      (answers : error.isNetwork = false) (lends : cluster.Lends run.cluster)
      (fails : run.FailsQuery) : Ends cluster server now run

/-- With a reply in hand. -/
theorem ends_finish (cluster : Cluster) (run : CommandRun) (server : SelectedServer)
    (reply : Message) (now : Duration) (lends : cluster.Lends run.cluster) {exchange : Exchange}
    (exchanged : run.exchange = some exchange) (replied : exchange.result = .ok (some reply)) :
    Ends cluster server now (run.finish server reply now) := by
  unfold finish
  cases read : reply.replyDocument with
  | error error =>
    obtain ⟨answers, own | ⟨legacy, rfl, flagged⟩⟩ := Message.error_of_replyDocument read
    · exact .own rfl own
    · exact .passed rfl answers lends ⟨exchange, legacy, exchanged, replied, flagged⟩
  | ok document =>
    dsimp only
    cases checked : Command.checkReply document with
    | ok document => exact .answered rfl
    | error error =>
      refine .handled error lends ?_
      rintro ⟨other, legacy, again, same, flagged⟩
      obtain rfl := Option.some.inj (exchanged.symm.trans again)
      obtain rfl := Option.some.inj (Except.ok.inj (replied.symm.trans same))
      obtain ⟨failure, failed⟩ := Message.replyDocument_of_queryFailure flagged
      cases read.symm.trans failed

/-- With a connection in hand. -/
theorem ends_exchangeCommand (cluster : Cluster) (run : CommandRun) (server : SelectedServer)
    (connection : Connection) (message : Message) (registry : CompressorRegistry) (now : Duration)
    (encounter : CommandEncounter) (lends : cluster.Lends run.cluster) :
    Ends cluster server now
      (Cluster.exchangeCommand run server connection message registry now encounter) := by
  unfold Cluster.exchangeCommand
  dsimp only
  split
  · next error failed =>
    refine .handled error lends ?_
    rintro ⟨exchange, legacy, exchanged, replied, -⟩
    obtain rfl := Option.some.inj exchanged
    cases failed.symm.trans replied
  · exact .own rfl (by rintro (network | notPrimary) <;> contradiction)
  · next reply replied =>
    exact ends_finish cluster _ server reply now (lends.trans (Cluster.lends_giveBack _ server _))
      rfl replied

/-- Every command ends in one of these ways. -/
theorem ends_commandOn (cluster : Cluster) (elapsed : Duration) (server : SelectedServer)
    {registry : CompressorRegistry} (keeps : registry.KeepsToItself) (request : CommandRequest)
    (requestId : Int32) (now : Duration) (encounter : CommandEncounter) :
    Ends cluster server now
      (cluster.commandOn elapsed server registry request requestId now encounter) := by
  unfold Cluster.commandOn
  dsimp only
  split
  · next error failed => exact .own rfl (Command.own_of_message keeps failed)
  · next message _ =>
    have lends := Cluster.lends_checkOut cluster server.description.address encounter.connect
    split
    · next error next taken =>
      rw [taken] at lends
      refine .handled error lends ?_
      rintro ⟨exchange, legacy, exchanged, -⟩
      cases exchanged
    · next connection next taken =>
      rw [taken] at lends
      exact ends_exchangeCommand cluster _ server connection message registry now encounter lends

/-- An error that says something about the server is taken into account, unless the flags of a legacy
reply tell it. In that case nothing is taken into account. -/
theorem Ends.heeds {cluster : Cluster} {server : SelectedServer} {now : Duration} {run : CommandRun}
    (ends : Ends cluster server now run) (isOpen : cluster.isClosed = false)
    (handled : cluster.handles.contains server.description.address = true)
    (tracked : cluster.topology.tracks server.description.address = true) {error : Error}
    (failed : run.result = .error error) (concerns : error.ConcernsServer) :
    (¬run.FailsQuery → cluster.Heeds run.cluster server.description.address error) ∧
      (run.FailsQuery → error.isNotPrimary = true ∧ cluster.Lends run.cluster) := by
  cases ends with
  | answered result => cases result.symm.trans failed
  | own result own =>
    obtain rfl := Except.error.inj (result.symm.trans failed)
    exact absurd concerns own
  | @handled before _ lends reads =>
    obtain rfl := Except.error.inj failed
    refine ⟨fun _ => lends.heeds ?_, fun fails => absurd fails reads⟩
    refine Cluster.heeds_handleError before.cluster _ _ _ ?_ ?_ ?_ concerns
    · rw [lends.same.isClosed, isOpen]
    · rw [lends.same.topology, tracked]
    · rw [lends.contains, handled]
  | passed result answers lends fails =>
    obtain rfl := Except.error.inj (result.symm.trans failed)
    refine ⟨fun reads => absurd fails reads, fun _ => ⟨?_, lends⟩⟩
    exact concerns.resolve_left (by rw [answers]; exact Bool.false_ne_true)

end CommandRun

/-! ### Failures reach the cluster -/

namespace Cluster

/-- A command that has selected a server runs on it. On whichever tracked server a command runs, if it
ends with an error that says something about the server, the cluster has taken the error into account,
unless the flags of a legacy reply tell that the query failed. An error that they tell says that the
server is no primary, and it changes nothing but which connections wait. The compressors may be any that
do not blame a server for what they cannot do, such as those that are known from the start. -/
theorem failures_reach_cluster (cluster : Cluster) (request : CommandRequest) (requestId : Int32)
    (now : Duration) (encounter : CommandEncounter) (server : SelectedServer) :
    CompressorRegistry.default.KeepsToItself ∧ ∀ registry : CompressorRegistry,
      (∀ run, cluster.runCommand registry request requestId now encounter = .ok run →
        run.server = some server →
        cluster.RunsOn registry server request requestId now encounter run) ∧
      (registry.KeepsToItself → ∀ run error,
        cluster.RunsOn registry server request requestId now encounter run →
        cluster.topology.tracks server.description.address = true →
        run.result = .error error → error.isNetwork = true ∨ error.isNotPrimary = true →
        (¬run.FailsQuery → cluster.Heeds run.cluster server.description.address error) ∧
          (run.FailsQuery → error.isNotPrimary = true ∧ cluster.Lends run.cluster)) := by
  refine ⟨CompressorRegistry.keepsToItself_default, fun registry =>
    ⟨fun run ran selected => runsOn_of_runCommand ran selected, fun keeps => ?_⟩⟩
  rintro run error ⟨isOpen, handled, elapsed, rfl⟩ tracked failed concerns
  exact (CommandRun.ends_commandOn cluster elapsed server keeps request requestId now encounter).heeds
    isOpen handled tracked failed concerns

/-- The cluster of the pair once the first server has answered as primary. -/
def pairReady : Cluster := (pairCluster.apply (Topology.pairReport "left" 1) .zero).1

/-- The primary of the pair, selected. -/
def pairPrimary : SelectedServer := ⟨Topology.pairReport "left" 1, .replicaSetWithPrimary⟩

/-- The primary of the pair takes a command and closes the connection. -/
def pairHangsUp : CommandEncounter where
  connect generation := .ok { number := 1, generation }
  peer := { send := fun _ => .ok (), receive := fun _ => .error .connectionClosed }
  staysConnected := false

theorem failures_reach_cluster_pair :
    ∃ run, pairReady.runCommand .default pingRequest 7 .zero pairHangsUp = .ok run ∧
      run.server = some pairPrimary ∧ run.result = .error .connectionClosed ∧
      pairReady.Heeds run.cluster ⟨"left", 27017⟩ .connectionClosed := by
  obtain ⟨run, ran, selected, failed, answered⟩ : ∃ run,
      pairReady.runCommand .default pingRequest 7 .zero pairHangsUp = .ok run ∧
        run.server = some pairPrimary ∧ run.result = .error .connectionClosed ∧
        run.exchange.map Exchange.result = some (.error .connectionClosed) := ⟨_, rfl, rfl, rfl, rfl⟩
  have tracked : pairReady.topology.tracks ⟨"left", 27017⟩ = true := by decide +kernel
  obtain ⟨keeps, reach⟩ :=
    failures_reach_cluster pairReady pingRequest 7 .zero pairHangsUp pairPrimary
  obtain ⟨runs, heeds⟩ := reach .default
  refine ⟨run, ran, selected, failed,
    (heeds keeps run _ (runs run ran selected) tracked failed (.inl rfl)).1 ?_⟩
  rintro ⟨exchange, legacy, exchanged, replied, -⟩
  rw [exchanged] at answered
  cases (Option.some.inj answered).symm.trans replied

/-- The primary of the pair answers with a legacy reply whose flags tell that the query failed, since
the server is no primary any more. -/
def pairStepsDown : CommandEncounter where
  connect generation := .ok { number := 1, generation }
  peer :=
    { send := fun _ => .ok ()
      receive := fun _ => (Message.reply {
        requestId := 1, responseTo := 7, flags := ReplyFlags.queryFailure
        documents := [[("code", .int32 10107), ("$err", .string "not master")]] }).serialize }

/-- The primary that steps down is still taken for the primary, although its error names it none. -/
theorem failing_query_changes_nothing :
    ∃ run, pairReady.runCommand .default pingRequest 7 .zero pairStepsDown = .ok run ∧
      run.server = some pairPrimary ∧
      pairReady.topology.tracks pairPrimary.description.address = true ∧
      run.result = .error (.command 10107 "not master" none) ∧
      (Error.command 10107 "not master" none).isNotPrimary = true ∧
      ¬pairReady.Heeds run.cluster pairPrimary.description.address
        (.command 10107 "not master" none) := by
  obtain ⟨run, ran, selected, failed, version⟩ : ∃ run,
      pairReady.runCommand .default pingRequest 7 .zero pairStepsDown = .ok run ∧
        run.server = some pairPrimary ∧
        run.result = .error (.command 10107 "not master" none) ∧
        run.cluster.version = pairReady.version := ⟨_, rfl, rfl, rfl, by decide +kernel⟩
  refine ⟨run, ran, selected, by decide +kernel, failed, by decide +kernel, fun heeds => ?_⟩
  exact absurd (version.symm.trans heeds.version) (by decide +kernel)

end Cluster

end DocumentDriver
