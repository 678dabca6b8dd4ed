/-
This file holds the monitor of one server. It keeps a connection of its own and the description
that its last check gave. A check sends one handshake, on that connection or on a new one, and
makes a description of the answer; if anything fails, the connection and the average of the
round-trip times are dropped and the description tells the error.
-/

import DocumentDriver.Connection.Exchange
import DocumentDriver.Connection.Pool
import DocumentDriver.Monitor.Handshake
import DocumentDriver.Options.Basic
import DocumentDriver.Server.RoundTripTime

namespace DocumentDriver

/-- The monitor of a server. -/
structure Monitor where
  address : ServerAddress
  /-- The connection for the next check, which may have failed since the last one. -/
  connection : Option Connection := none
  /-- The number of connections that were opened. -/
  opened : Nat := 0
  /-- What the last check gave. -/
  previous : Option ServerDescription := none
  /-- The average of the round-trip times. -/
  average : Option Duration := none

/-- What a check is going to do. -/
structure CheckPlan where
  /-- A connection is opened first. -/
  isFresh : Bool
  /-- The server may wait until it has news. -/
  isAwaitable : Bool
  message : Message
  /-- How long the exchange may take. -/
  limit : Duration

/-- What the outside does during a check. -/
structure Encounter where
  /-- How long nothing happens before the connection opens or, if it is open, before the handshake
  is sent. -/
  waiting : Duration := .zero
  connect : Except Error Unit := .ok ()
  peer : Peer
  /-- The connection outlives the exchange. -/
  staysConnected : Bool := true

/-- What a check met with. -/
structure Talk where
  /-- The exchange, if there was a connection for it. -/
  exchange : Option Exchange
  elapsed : Duration
  reply : Except Error Document

/-- A finished check. -/
structure Checked where
  monitor : Monitor
  description : ServerDescription
  plan : CheckPlan
  talk : Talk

/-- A time limit that ran out. -/
inductive TimeLimit where
  | connect (address : ServerAddress)
  | check (address : ServerAddress)
deriving DecidableEq, Repr

/-- The error that a caller sees. -/
def TimeLimit.toError : TimeLimit → Error
  | connect address => .network s!"connecting to {address.display} timed out"
  | check address => .network s!"check of {address.display} timed out"

namespace Monitor

/-- The connection of a monitor, if it has not failed. -/
def openConnection? (monitor : Monitor) : Option Connection :=
  monitor.connection.filter (·.isConnected)

/-- The last description tells a version of the view of the server. -/
def hasVersion (monitor : Monitor) : Bool :=
  monitor.previous.any (·.topologyVersion.isSome)

/-- The handshake of the next check. -/
def handshake (monitor : Monitor) (options : ClientOptions) (platform : Platform)
    (isFresh isAwaitable : Bool) (requestId : Int32) : Message :=
  if isFresh then
    .query (.command requestId Handshake.database
      (Handshake.introduction platform options.appName options.compressors))
  else
    match (Handshake.usable? monitor.previous).filter Handshake.knowsMsg with
    | none => .query (.command requestId Handshake.database Handshake.legacy)
    | some previous =>
      .msg (.addressed requestId Handshake.database
        (Handshake.modern previous isAwaitable options.heartbeatFrequency))

/-- How long an exchange may take. A server that may wait gets the time between two checks on
top. -/
def limit (options : ClientOptions) (isAwaitable : Bool) : Duration :=
  let connect := Duration.ofMilliseconds options.connectTimeout
  if isAwaitable then connect + .ofMilliseconds options.heartbeatFrequency else connect

/-- What the next check is going to do. -/
def plan (monitor : Monitor) (options : ClientOptions) (platform : Platform)
    (requestId : Int32) : CheckPlan :=
  let isFresh := monitor.openConnection?.isNone
  let isAwaitable := !isFresh && monitor.hasVersion
  { isFresh, isAwaitable
    message := monitor.handshake options platform isFresh isAwaitable requestId
    limit := limit options isAwaitable }

end Monitor

namespace CheckPlan

/-- Opens the connection of a check. -/
def connect (address : ServerAddress) (options : ClientOptions) (encounter : Encounter) :
    Except Error Unit :=
  if Duration.ofMilliseconds options.connectTimeout < encounter.waiting then
    .error (TimeLimit.connect address).toError
  else encounter.connect

/-- The document that an exchange within a time limit gives. -/
def replyOf (plan : CheckPlan) (address : ServerAddress) (exchange : Exchange)
    (duration : Duration) : Except Error Document :=
  if plan.limit < duration then .error (TimeLimit.check address).toError
  else do
    match ← exchange.result with
    | none => .error Violation.unansweredHandshake.toError
    | some reply => reply.replyDocument

/-- Sends the handshake of a check on its open connection, after some time of waiting. -/
def exchange (plan : CheckPlan) (address : ServerAddress) (options : ClientOptions)
    (registry : CompressorRegistry) (waiting : Duration) (peer : Peer) : Talk :=
  let exchange := Exchange.run plan.message registry options.maxMessageSize peer
  let duration := waiting + exchange.duration peer
  ⟨some exchange, duration, plan.replyOf address exchange duration⟩

/-- Carries a check out. -/
def talk (plan : CheckPlan) (address : ServerAddress) (options : ClientOptions)
    (registry : CompressorRegistry) (encounter : Encounter) : Talk :=
  if plan.isFresh then
    match connect address options encounter with
    | .error error => ⟨none, encounter.waiting, .error error⟩
    | .ok () =>
      let talk := plan.exchange address options registry .zero encounter.peer
      { talk with elapsed := encounter.waiting + talk.elapsed }
  else plan.exchange address options registry encounter.waiting encounter.peer

end CheckPlan

namespace Monitor

/-- Takes a new sample into the average of the round-trip times. -/
def addSample (monitor : Monitor) (sample : Duration) : Monitor :=
  { monitor with average := some (RoundTripTime.next monitor.average sample) }

/-- The connection that a check uses, and the number of connections opened with it. -/
def used (monitor : Monitor) : Connection :=
  monitor.openConnection?.getD { number := monitor.opened + 1 }

/-- A check that failed. -/
def fail (monitor : Monitor) (error : Error) : Monitor × ServerDescription :=
  let description := ServerDescription.ofError monitor.address error
  ({ monitor with connection := none, average := none, previous := some description },
    description)

/-- A check that was answered. An answer that the server may have waited with tells nothing about
the round-trip time. -/
def succeed (monitor : Monitor) (plan : CheckPlan) (reply : Document) (elapsed : Duration)
    (staysConnected : Bool) (moment : Duration) : Monitor × ServerDescription :=
  let measured := if plan.isAwaitable then monitor else monitor.addSample elapsed
  let description := ServerDescription.ofReply monitor.address reply measured.average moment
  let connection := { monitor.used with isConnected := staysConnected }
  ({ measured with connection := some connection, previous := some description }, description)

/-- Makes one check. It ends so long after `start` as it takes. -/
def check (monitor : Monitor) (options : ClientOptions) (platform : Platform)
    (registry : CompressorRegistry) (requestId : Int32) (start : Duration)
    (encounter : Encounter) : Checked :=
  let plan := monitor.plan options platform requestId
  let talk := plan.talk monitor.address options registry encounter
  let opened := if plan.isFresh && talk.exchange.isSome then monitor.opened + 1 else monitor.opened
  let (next, description) := match talk.reply with
    | .error error => monitor.fail error
    | .ok reply =>
      monitor.succeed plan reply talk.elapsed encounter.staysConnected (start + talk.elapsed)
  ⟨{ next with opened }, description, plan, talk⟩

end Monitor

end DocumentDriver
