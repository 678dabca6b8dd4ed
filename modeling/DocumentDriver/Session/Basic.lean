/-
This file holds sessions: a client and its cluster against scripted peers, one step after another.
Time passes only while a selection waits and while a reply is on its way. A monitor begins its next
check as soon as the last one is over, and then waits for the script. An accident ends a session.
-/

import DocumentDriver.Client.Command
import DocumentDriver.Session.Script

namespace DocumentDriver

/-- A client in the course of a session. -/
structure Session where
  cluster : Cluster
  registry : CompressorRegistry := .default
  platform : Platform := {}
  clock : Duration := .zero
  /-- The number of the latest request. -/
  requests : Int32 := 0
  /-- The number of the latest connection for operations. -/
  connections : Nat := 0
  /-- What chance draws when a server is chosen. -/
  draw : Nat := 0

/-- A message that was sent. -/
structure SentMessage where
  receiver : ServerAddress
  /-- A monitor sent the message, and not an operation. -/
  isFromMonitor : Bool
  /-- The generation of the connection. -/
  generation : UInt32
  bytes : Bytes

/-- A step of a session. -/
inductive SessionStep where
  /-- The monitor of a server makes a check. Its open connection may be marked as failed while
  the check is on its way. -/
  | check (address : ServerAddress) (outcome : Outcome) (disconnects : Bool)
  /-- An operation elsewhere reports an error of a server. -/
  | fail (address : ServerAddress) (error : Error)
  | select (criteria : SelectionCriteria)
  | command (request : CommandRequest) (outcome : Outcome)
  | close
  | scan (address : ServerAddress)

/-- What the caller sees of a step. -/
inductive SessionAnswer where
  /-- The check was made, and the server is described so if it is still tracked. -/
  | checked (server : Option ServerDescription)
  | notMonitored
  /-- The selected server and its pool. -/
  | selected (result : Except Error (SelectedServer × Pool))
  | ran (result : Except Error Document)
  | closed
  | nothing

/-- The outcome of a step. -/
structure SessionTurn where
  session : Session
  answer : SessionAnswer
  events : List TopologyEvent := []
  sent : List SentMessage := []

namespace Session

/-- A session at its start, if the options describe a deployment. -/
def start (options : ClientOptions) : Except Error Session := do
  return { cluster := ← Cluster.start options .zero }

/-- What a monitor meets with that has waited for the script. -/
def encounter (outcome : Outcome) (waiting : Duration) (isFresh disconnects : Bool) : Encounter where
  waiting
  connect := outcome.opening ()
  peer := outcome.peer
  staysConnected := !outcome.breaks && (isFresh || !disconnects)

/-- Makes a check of a server that has a monitor. -/
def checkHandle (session : Session) (address : ServerAddress) (handle : ServerHandle)
    (outcome : Outcome) (disconnects : Bool) : SessionTurn :=
  let options := session.cluster.options
  let begun := handle.schedule.started
  let waiting : Duration := ⟨session.clock.nanoseconds - begun.nanoseconds⟩
  let isFresh := handle.monitor.openConnection?.isNone
  let requests := session.requests + 1
  let checked := handle.monitor.check options session.platform session.registry requests begun
    (encounter outcome waiting isFresh disconnects)
  let clock := begun + checked.talk.elapsed
  let started := max clock (Schedule.earliest options begun)
  let schedule : Schedule := { now := started, started }
  let kept := session.cluster.modifyHandle address fun handle =>
    { handle with monitor := checked.monitor, schedule }
  let (cluster, events) := kept.apply checked.description clock
  let sent := (checked.talk.exchange.bind (·.sent)).map fun bytes =>
    { receiver := address, isFromMonitor := true, generation := 0, bytes }
  { session := { session with cluster, clock, requests }
    answer := .checked (cluster.published.server? address)
    events, sent := sent.toList }

/-- Makes a check of a server. -/
def check (session : Session) (address : ServerAddress) (outcome : Outcome)
    (disconnects : Bool) : SessionTurn :=
  match session.cluster.handles.get? address with
  | none => { session, answer := .notMonitored }
  | some handle => session.checkHandle address handle outcome disconnects

/-- Selects a server. -/
def select (session : Session) (criteria : SelectionCriteria) : Except Accident SessionTurn := do
  let (cluster, elapsed, result) ← session.cluster.select criteria session.draw
  let withPool (server : SelectedServer) : SelectedServer × Pool :=
    let handle := cluster.handles.get? server.description.address
    (server, (handle.map (·.pool)).getD {})
  return { session := { session with cluster, clock := session.clock + elapsed }
           answer := .selected (result.map withPool) }

/-- What a command meets with. -/
def commandEncounter (outcome : Outcome) (number draw : Nat) : CommandEncounter where
  draw
  connect generation := outcome.opening { number, generation }
  peer := outcome.peer
  staysConnected := !outcome.breaks

/-- The message that a command sent. -/
def sentBy (run : CommandRun) : Option SentMessage := do
  let server ← run.server
  let connection ← run.connection
  let bytes ← (← run.exchange).sent
  return ⟨server.description.address, false, connection.generation, bytes⟩

/-- Runs a command. -/
def command (session : Session) (request : CommandRequest) (outcome : Outcome) :
    Except Accident SessionTurn := do
  let requests := session.requests + 1
  let connections := session.connections + 1
  let run ← session.cluster.runCommand session.registry request requests session.clock
    (commandEncounter outcome connections session.draw)
  return { session := { session with
             cluster := run.cluster, clock := session.clock + run.elapsed, requests, connections }
           answer := .ran run.result
           events := run.events
           sent := (sentBy run).toList }

/-- Makes one step. -/
def step (session : Session) : SessionStep → Except Accident SessionTurn
  | .check address outcome disconnects => .ok (session.check address outcome disconnects)
  | .fail address error =>
    let (cluster, events) := session.cluster.markUnknown address error session.clock
    .ok { session := { session with cluster }, answer := .nothing, events }
  | .select criteria => session.select criteria
  | .command request outcome => session.command request outcome
  | .close =>
    let (cluster, events) := session.cluster.close
    .ok { session := { session with cluster }, answer := .closed, events }
  | .scan address =>
    .ok { session := { session with cluster := session.cluster.requestScan address }
          answer := .nothing }

end Session

end DocumentDriver
