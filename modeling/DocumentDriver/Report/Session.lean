/-
This file shows what happens in sessions, in pools and during exchanges. Messages are shown as
they were before compression, and introductions without the platform of the driver.
-/

import DocumentDriver.Connection.PoolClients
import DocumentDriver.Report.Masked
import DocumentDriver.Report.Message
import DocumentDriver.Report.Topology
import DocumentDriver.Session.Basic

namespace DocumentDriver

/-! ### Exchanges and pools -/

instance : Reported Exchange where
  report exchange :=
    .record [field "sent" (exchange.sent.getD []), field "result" exchange.result]

instance : Reported PoolAnswer where
  report
    | .checkedOut connection isStale =>
      .record [field "connection" connection.number,
        field "generation" connection.generation, field "stale" isStale]
    | .failed error => report error
    | .checkedIn isStale => .record [field "stale" isStale]
    | .notHeld => .text "not held"
    | .forgotten known => report known
    | .nothing => .nothing
    | .cleared generation => report generation

/-- An answer of a pool, and the state that it is left in. -/
def PoolClients.shown (clients : PoolClients) (answer : PoolAnswer) : Report :=
  .record [field "result" answer, field "idle" clients.pool.idle.length,
    field "generation" clients.pool.generation]

/-! ### Messages of a session -/

namespace SentMessage

/-- The message that was sent, and whether it was compressed. -/
def open? (sent : SentMessage) : Option (Message × Bool) := do
  match ← (Message.decode sent.bytes sent.bytes.length).toOption with
  | .compressed message =>
    let restored ← (message.restore .default (2 ^ 31)).toOption
    return (restored, true)
  | message => return (message, false)

/-- A command without the platform of the driver. -/
def withoutPlatform (command : Document) : Document :=
  match command.document? "client" with
  | none => command
  | some client => command.insert "client" (.document (client.erase "os"))

/-- What is shown of a message that was sent. -/
def shownMessage : Message → List (String × Report)
  | .query message =>
    (Message.query { message with query := withoutPlatform message.query }).unnumbered
  | message => message.unnumbered

end SentMessage

instance : Reported SentMessage where
  report sent :=
    let opened := sent.open?
    .record
      [field "to" sent.receiver,
       field "from" (if sent.isFromMonitor then "monitor" else "operation"),
       field "generation" sent.generation,
       field "compressed" (opened.any (·.2)),
       field "message" (opened.map fun (message, _) =>
         Report.record (SentMessage.shownMessage message))]

/-! ### Turns of a session -/

namespace SessionAnswer

/-- The parts of an error, which stand for those of the answer. -/
def shownError (error : Error) : List (String × Report) :=
  match report error with
  | .record fields => fields
  | _ => []

/-- What is shown of an answer. -/
def shown : SessionAnswer → List (String × Report)
  | checked server =>
    field "check" "done" ::
      (server.map fun server => field "type" server.type).toList
  | notMonitored => [field "check" "not monitored"]
  | selected (.error error) => shownError error
  | selected (.ok (server, pool)) =>
    [field "address" server.description.address, field "type" server.description.type,
     field "topology_type" server.topologyType, field "generation" pool.generation,
     field "idle" pool.idle.length]
  | ran result =>
    [field "result" (result.map fun document => Report.record [field "doc" document])]
  | closed => [field "closed" true]
  | nothing => []

/-- The average round-trip time of the server that was checked. -/
def shownRoundTripTime : SessionAnswer → List (String × Report)
  | checked (some server) => [field "rtt_ns" server.roundTripTime]
  | checked none => [field "rtt_ns" Report.nothing]
  | _ => []

/-- An answer of which it matters only that there was no error. -/
def withoutDocument : SessionAnswer → List (String × Report)
  | ran result => [field "result" (result.map fun _ => ())]
  | other => other.shown

end SessionAnswer

/-- What is shown of a turn beside its answer. -/
def SessionTurn.shown (turn : SessionTurn) : List (String × Report) :=
  [field "events" turn.events, field "sent" turn.sent]

end DocumentDriver
