/-
This file says how the picture of a deployment changes when a server has been described. What a
primary says counts for the whole replica set: the servers it does not list are forgotten, and no
other primary stays beside it. What any other server says counts for that server, and as long as
there is no primary, for the addresses of others.
-/

import DocumentDriver.Topology.Basic

namespace DocumentDriver

namespace Topology

/-! ### Steps -/

/-- Stores a description under its own address. -/
def store (topology : Topology) (description : ServerDescription) : Topology :=
  { topology with servers := topology.servers.insert description.address description }

/-- Forgets a server. -/
def remove (topology : Topology) (address : ServerAddress) : Topology :=
  { topology with servers := topology.servers.erase address }

/-- Tracks the servers that a description lists. New ones have not been checked. -/
def addHosts (topology : Topology) (description : ServerDescription) : Topology :=
  { topology with
    servers := description.allHosts.foldl
      (fun servers host =>
        if servers.contains host then servers else servers.insert host (.unknown host))
      topology.servers }

/-- Forgets the servers that a description does not list. -/
def keepHosts (topology : Topology) (description : ServerDescription) : Topology :=
  { topology with
    servers := topology.servers.filter fun address _ => description.allHosts.contains address }

/-- Takes all primaries but one for servers that have not been checked. -/
def demoteOthers (topology : Topology) (address : ServerAddress) : Topology :=
  let demoted := topology.descriptions.filter fun server =>
    server.type == .rsPrimary && server.address != address
  { topology with
    servers := demoted.foldl
      (fun servers server => servers.insert server.address (.unknown server.address))
      topology.servers }

/-- A replica set has a primary exactly when a tracked server is one. -/
def refreshPrimary (topology : Topology) : Topology :=
  { topology with
    type := if topology.primary?.isSome then .replicaSetWithPrimary else .replicaSetNoPrimary }

/-- The name of the set, once the first member told it, is the same for all. -/
def acceptsSetName (topology : Topology) (description : ServerDescription) : Bool :=
  match topology.setName with
  | none => true
  | some name => description.setName == some name

/-- Takes the name of the set over if none is known. -/
def adoptSetName (topology : Topology) (description : ServerDescription) : Topology :=
  { topology with setName := topology.setName <|> description.setName }

/-- The election of a primary is older than one that is known. -/
def isStalePrimary (topology : Topology) (description : ServerDescription) : Bool :=
  if description.comparesElectionFirst then description.election.isOlder topology.election
  else description.election.isOlderByVersion topology.election

/-- Remembers the election of a primary. -/
def recordElection (topology : Topology) (description : ServerDescription) : Topology :=
  { topology with
    election :=
      if description.comparesElectionFirst then description.election
      else topology.election.mergeByVersion description.election }

/-! ### Deployments -/

/-- Why a server is not what the options ask for. -/
def setNameMismatch (topology : Topology) (description : ServerDescription) : Error :=
  .configuration
    s!"server at {description.address.display} reports replica set {quotedOption description.setName}, expected {quotedOption topology.setName}"

/-- The only server of a deployment is kept even if it belongs to another set, as unknown. -/
def updateSingle (topology : Topology) (description : ServerDescription) : Topology :=
  if description.isAvailable && !topology.acceptsSetName description then
    topology.store (.ofError description.address (topology.setNameMismatch description))
  else topology

/-- A standalone server is a deployment if it is the only one known, and is forgotten else. -/
def updateFromStandalone (topology : Topology) (description : ServerDescription) : Topology :=
  if topology.servers.size = 1 then { topology with type := .single }
  else topology.remove description.address

/-- The other servers are taken over from a member as long as there is no primary. A member that
knows itself by another address is forgotten. -/
def updateWithoutPrimary (topology : Topology) (description : ServerDescription) : Topology :=
  if topology.acceptsSetName description then
    let grown := (topology.adoptSetName description).addHosts description
    if description.hasOtherAddress then grown.remove description.address else grown
  else topology.remove description.address

/-- Beside a primary a member speaks for itself alone. -/
def updateFromMember (topology : Topology) (description : ServerDescription) : Topology :=
  let kept :=
    if topology.setName ≠ description.setName || description.hasOtherAddress then
      topology.remove description.address
    else topology
  kept.refreshPrimary

/-- A primary of an old election is unknown; any other one speaks for the whole set. -/
def updateFromPrimary (topology : Topology) (description : ServerDescription) : Topology :=
  if topology.acceptsSetName description then
    let named := topology.adoptSetName description
    if named.isStalePrimary description then
      let cause := Violation.outdatedElection description.address.display
      (named.store (.ofError description.address cause.toError)).refreshPrimary
    else
      let led := (named.recordElection description).demoteOthers description.address
      ((led.addHosts description).keepHosts description).refreshPrimary
  else (topology.remove description.address).refreshPrimary

/-- The effect of a description that has been stored, for each kind of deployment. -/
def react (topology : Topology) (description : ServerDescription) : Topology :=
  match topology.type, description.type with
  | .single, _ => topology.updateSingle description
  | .unknown, .standalone => topology.updateFromStandalone description
  | .unknown, .mongos => { topology with type := .sharded }
  | .unknown, .rsPrimary => topology.updateFromPrimary description
  | .unknown, .rsSecondary | .unknown, .rsArbiter | .unknown, .rsOther =>
    { topology with type := .replicaSetNoPrimary }.updateWithoutPrimary description
  | .unknown, .rsGhost | .unknown, .unknown => topology
  | .sharded, .mongos | .sharded, .unknown => topology
  | .sharded, _ => topology.remove description.address
  | .replicaSetNoPrimary, .standalone | .replicaSetNoPrimary, .mongos =>
    topology.remove description.address
  | .replicaSetNoPrimary, .rsPrimary => topology.updateFromPrimary description
  | .replicaSetNoPrimary, .rsSecondary | .replicaSetNoPrimary, .rsArbiter
  | .replicaSetNoPrimary, .rsOther => topology.updateWithoutPrimary description
  | .replicaSetNoPrimary, .rsGhost | .replicaSetNoPrimary, .unknown => topology
  | .replicaSetWithPrimary, .standalone | .replicaSetWithPrimary, .mongos =>
    (topology.remove description.address).refreshPrimary
  | .replicaSetWithPrimary, .rsPrimary => topology.updateFromPrimary description
  | .replicaSetWithPrimary, .rsSecondary | .replicaSetWithPrimary, .rsArbiter
  | .replicaSetWithPrimary, .rsOther => topology.updateFromMember description
  | .replicaSetWithPrimary, .rsGhost | .replicaSetWithPrimary, .unknown =>
    topology.refreshPrimary

/-! ### What follows for the whole deployment -/

/-- The shortest of some sessions, if all are known and there is one. -/
def shortestSession (servers : List ServerDescription) : Option Duration :=
  match servers with
  | [] => none
  | [server] => server.logicalSessionTimeout
  | server :: rest => do
    let first ← server.logicalSessionTimeout
    return min first (← shortestSession rest)

/-- Finds out anew what follows from the servers for the whole deployment. -/
def refresh (topology : Topology) : Topology :=
  { topology with
    incompatibility := topology.descriptions.findSome? ServerDescription.incompatibility?
    sessionTimeout := shortestSession (topology.descriptions.filter (·.isDataBearing)) }

/-- The server has described a later state before. -/
def isOutdated (current incoming : ServerDescription) : Bool :=
  match current.topologyVersion, incoming.topologyVersion with
  | some known, some told => told.isOlder known
  | _, _ => false

/-- The picture after a server has been described. A server that is not tracked, and a description
that is older than the one that is known, change nothing. -/
def apply (topology : Topology) (description : ServerDescription) : Topology :=
  match topology.server? description.address with
  | none => topology
  | some current =>
    if isOutdated current description then topology
    else ((topology.store description).react description).refresh

/-- The picture after some descriptions in turn. -/
def applyAll (topology : Topology) (descriptions : List ServerDescription) : Topology :=
  descriptions.foldl apply topology

end Topology

end DocumentDriver
