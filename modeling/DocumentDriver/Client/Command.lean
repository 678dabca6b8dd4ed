/-
This file runs commands on a cluster: a server is selected, the command is addressed and perhaps
compressed, and exchanged over a connection of the pool of the server. A failure that concerns the
server is taken into account by the cluster before the caller sees it.
-/

import DocumentDriver.Cluster.Selecting

namespace DocumentDriver

namespace Command

/-- The preference that travels with a command. A router goes by it, and a member that is talked
to directly needs to be told that it may answer without being the primary. -/
def preferenceFor (server : SelectedServer) : SelectionCriteria → Option ReadPreference
  | .read preference =>
    if server.description.type = .mongos then
      if preference.mode = .primary then none else some preference
    else if server.topologyType = .single then some { mode := .primaryPreferred }
    else none
  | _ => none

/-- A command with the preference that travels with it. -/
def prefer (server : SelectedServer) (criteria : SelectionCriteria) (command : Document) :
    Document :=
  match preferenceFor server criteria with
  | none => command
  | some preference => command.insert "$readPreference" (.document preference.toDocument)

/-- The compressor for a command, if it may be compressed and the server knows one. -/
def compressorFor (options : ClientOptions) (registry : CompressorRegistry)
    (server : SelectedServer) (command : Document) : Option Compressor :=
  if command.isCompressible then
    registry.negotiate options.compressors server.description.compression
  else none

/-- A command that is addressed to a database. -/
def plain (server : SelectedServer) (database : String) (command : Document)
    (requestId : Int32) : Message :=
  .msg { Msg.addressed requestId database command with
    maxDocumentSize := some server.description.maxDocumentSize }

/-- The message of a command. -/
def message (options : ClientOptions) (registry : CompressorRegistry) (server : SelectedServer)
    (database : String) (command : Document) (requestId : Int32) : Except Error Message :=
  let plain := plain server database command requestId
  match compressorFor options registry server command with
  | none => .ok plain
  | some compressor => .compressed <$> Compressed.ofMessage plain compressor

/-- The longest message that both the client and the server accept. -/
def maxMessageSize (options : ClientOptions) (server : SelectedServer) : Nat :=
  min options.maxMessageSize server.description.maxMessageSize

/-- The document of a reply with success, or the error that the reply tells. -/
def checkReply (reply : Document) : Except Error Document :=
  if ServerDescription.flag reply "ok" then .ok reply
  else .error (ServerDescription.replyError reply "command failed")

/-- Takes an error of an operation on a server into account. -/
def handleError (cluster : Cluster) (address : ServerAddress) (error : Error) (now : Duration) :
    Cluster × List TopologyEvent :=
  if error.isNetwork then cluster.markUnknown address error now
  else if error.isNotPrimary then
    let (marked, events) := cluster.markUnknown address error now
    (marked.requestScan address, events)
  else (cluster, [])

end Command

/-- A command that is to be run. -/
structure CommandRequest where
  database : String
  command : Document
  criteria : SelectionCriteria := .read {}

/-- What the outside does during a command. -/
structure CommandEncounter where
  /-- What chance draws when a server is chosen. -/
  draw : Nat := 0
  /-- Opens a connection for a generation of the pool. -/
  connect : UInt32 → Except Error Connection
  peer : Peer
  /-- The connection outlives the exchange. -/
  staysConnected : Bool := true

/-- A finished command. -/
structure CommandRun where
  cluster : Cluster
  events : List TopologyEvent := []
  elapsed : Duration := .zero
  /-- The server, the connection and the exchange, as far as the command came. -/
  server : Option SelectedServer := none
  connection : Option Connection := none
  exchange : Option Exchange := none
  result : Except Error Document

namespace CommandRun

/-- The command ends with an error that is taken into account. -/
def fail (run : CommandRun) (server : SelectedServer) (error : Error) (now : Duration) :
    CommandRun :=
  let (cluster, events) :=
    Command.handleError run.cluster server.description.address error (now + run.elapsed)
  { run with cluster, events := run.events ++ events, result := .error error }

/-- Gives the connection back to the pool of its server. -/
def giveBack (run : CommandRun) (server : SelectedServer) (connection : Connection) : CommandRun :=
  { run with
    cluster := run.cluster.modifyHandle server.description.address fun handle =>
      { handle with pool := handle.pool.checkIn connection } }

/-- Finishes a command with the reply to it. -/
def finish (run : CommandRun) (server : SelectedServer) (reply : Message) (now : Duration) :
    CommandRun :=
  match reply.replyDocument with
  | .error error => { run with result := .error error }
  | .ok document =>
    match Command.checkReply document with
    | .ok document => { run with result := .ok document }
    | .error error => run.fail server error now

end CommandRun

namespace Cluster

/-- Exchanges the message of a command over a connection to a server. -/
def exchangeCommand (run : CommandRun) (server : SelectedServer) (connection : Connection)
    (message : Message) (registry : CompressorRegistry) (now : Duration)
    (encounter : CommandEncounter) : CommandRun :=
  let max := Command.maxMessageSize run.cluster.options server
  let exchange := Exchange.run message registry max encounter.peer
  let elapsed := run.elapsed + exchange.duration encounter.peer
  let used := { connection with isConnected := encounter.staysConnected }
  let talked := { run with connection := some used, exchange := some exchange, elapsed }
  match exchange.result with
  | .error error => talked.fail server error now
  | .ok none => { talked with result := .error Violation.unansweredCommand.toError }
  | .ok (some reply) => (talked.giveBack server used).finish server reply now

/-- Takes a connection out of the pool of a server. -/
def checkOut (cluster : Cluster) (address : ServerAddress)
    (connect : UInt32 → Except Error Connection) : Except Error Connection × Cluster :=
  match cluster.handles.get? address with
  | none => (.error .shutdown, cluster)
  | some handle =>
    let (connection, pool) := handle.pool.checkOut connect
    (connection, cluster.modifyHandle address fun handle => { handle with pool })

/-- Runs a command on a server, whichever one the selection has picked. -/
def commandOn (cluster : Cluster) (elapsed : Duration) (server : SelectedServer)
    (registry : CompressorRegistry) (request : CommandRequest) (requestId : Int32) (now : Duration)
    (encounter : CommandEncounter) : CommandRun :=
  let run : CommandRun := { cluster, elapsed, server := some server, result := .ok [] }
  let command := Command.prefer server request.criteria request.command
  match Command.message cluster.options registry server request.database command requestId with
  | .error error => { run with result := .error error }
  | .ok message =>
    match cluster.checkOut server.description.address encounter.connect with
    | (.error error, cluster) => { run with cluster }.fail server error now
    | (.ok connection, cluster) =>
      exchangeCommand { run with cluster } server connection message registry now encounter

/-- Runs a command while nothing else happens. An accident of the selection is one of the command. -/
def runCommand (cluster : Cluster) (registry : CompressorRegistry) (request : CommandRequest)
    (requestId : Int32) (now : Duration) (encounter : CommandEncounter) :
    Except Accident CommandRun := do
  match ← cluster.select request.criteria encounter.draw with
  | (cluster, elapsed, .error error) => return { cluster, elapsed, result := .error error }
  | (cluster, elapsed, .ok server) =>
    return cluster.commandOn elapsed server registry request requestId now encounter

/-- The command that asks whether the primary is there. -/
def pingRequest : CommandRequest := { database := "admin", command := [("ping", .int32 1)] }

end Cluster

end DocumentDriver
