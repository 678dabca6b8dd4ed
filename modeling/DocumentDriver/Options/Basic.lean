/-
This file holds the options of a client, with the values they have unless the user chooses others,
and the rules that any choice must keep. Times are in milliseconds.
-/

import DocumentDriver.Message.Header
import DocumentDriver.Server.Address

namespace DocumentDriver

/-- The options of a client. -/
structure ClientOptions where
  /-- The servers that are known from the start. -/
  hosts : List ServerAddress := []
  /-- The name that the replica set must have. -/
  replicaSet : Option String := none
  /-- Only the one server is talked to, and no other is looked for. -/
  directConnection : Option Bool := none
  /-- The time between two checks of a server. -/
  heartbeatFrequency : Nat := 10000
  /-- The least time between two checks of a server. -/
  minHeartbeatFrequency : Nat := 500
  /-- How long the selection of a server may wait. -/
  serverSelectionTimeout : Nat := 30000
  /-- How much slower than the fastest server an eligible one may be. -/
  localThreshold : Nat := 15
  /-- How long opening a connection and a check on it may take. -/
  connectTimeout : Nat := 10000
  /-- The name of the application. -/
  appName : Option String := none
  /-- The longest message that is sent or accepted. -/
  maxMessageSize : Nat := defaultMaxMessageSize
  /-- The compressors to offer, the preferred one first. -/
  compressors : List String := []
deriving DecidableEq, Repr

namespace ClientOptions

/-- Why options do not describe a deployment. -/
inductive Fault where
  /-- There is no server to begin with. -/
  | noHost
  /-- A direct connection has more than one server. -/
  | directHosts (count : Nat)
  /-- Checks are to come faster than they may. -/
  | heartbeat (least : Nat)
  /-- The name of the replica set is empty. -/
  | emptyName
deriving DecidableEq, Repr

/-- The error that a caller sees. -/
def Fault.toError : Fault → Error
  | noHost => .configuration "at least one seed host is required"
  | directHosts count =>
    .configuration s!"a direct connection requires exactly one host, got {count}"
  | heartbeat least => .configuration s!"heartbeatFrequencyMS must be at least {least}"
  | emptyName => .configuration "replicaSet must not be empty"

/-- Checks the options. -/
def check (options : ClientOptions) : Except Fault Unit :=
  if options.hosts.isEmpty then .error .noHost
  else if options.directConnection = some true ∧ 1 < options.hosts.length then
    .error (.directHosts options.hosts.length)
  else if options.heartbeatFrequency < options.minHeartbeatFrequency then
    .error (.heartbeat options.minHeartbeatFrequency)
  else if options.replicaSet = some "" then .error .emptyName
  else .ok ()

/-- Checks the options, with the error that a caller sees. -/
def validate (options : ClientOptions) : Except Error Unit := options.check.mapError Fault.toError

end ClientOptions

end DocumentDriver
