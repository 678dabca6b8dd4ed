/-
This file holds the picture that the driver has of a deployment: its kind, the servers it tracks,
and what follows from them for the deployment as a whole.
-/

import DocumentDriver.Options.Basic
import DocumentDriver.Server.AddressMap
import DocumentDriver.Server.Description

namespace DocumentDriver

/-- The kind of a deployment. -/
inductive TopologyType where
  | unknown
  /-- Exactly one server, which is talked to directly. -/
  | single
  | sharded
  | replicaSetNoPrimary
  | replicaSetWithPrimary
deriving DecidableEq, Repr, Inhabited

namespace TopologyType

def name : TopologyType → String
  | unknown => "Unknown"
  | single => "Single"
  | sharded => "Sharded"
  | replicaSetNoPrimary => "ReplicaSetNoPrimary"
  | replicaSetWithPrimary => "ReplicaSetWithPrimary"

def isReplicaSet : TopologyType → Bool
  | replicaSetNoPrimary | replicaSetWithPrimary => true
  | _ => false

end TopologyType

/-- The latest election that a deployment is known to have held. -/
structure Election where
  id : Option ObjectId := none
  setVersion : Option Int64 := none
deriving DecidableEq, Repr

namespace Election

/-- Nothing comes before any value. -/
def before {Value : Type} (less : Value → Value → Bool) : Option Value → Option Value → Bool
  | none, none => false
  | none, some _ => true
  | some _, none => false
  | some left, some right => less left right

/-- An election is older if its identifier is smaller, or the identifiers are the same and the
version of the configuration is smaller. -/
def isOlder (left right : Election) : Bool :=
  before (fun first second => decide (first < second)) left.id right.id ||
    (left.id == right.id &&
      before (fun first second => decide (first < second)) left.setVersion right.setVersion)

/-- The order of servers that compare versions of the configuration first. Only two complete
elections compare. -/
def isOlderByVersion (left right : Election) : Bool :=
  match left.setVersion, left.id, right.setVersion, right.id with
  | some version, some id, some otherVersion, some otherId =>
    version < otherVersion || (version == otherVersion && id < otherId)
  | _, _, _, _ => false

/-- The election that is known after a primary reported one, where versions compare first. -/
def mergeByVersion (known reported : Election) : Election where
  id := if reported.setVersion.isSome && reported.id.isSome then reported.id else known.id
  setVersion :=
    match reported.setVersion, known.setVersion with
    | some version, some greatest => if greatest < version then some version else some greatest
    | some version, none => some version
    | none, greatest => greatest

end Election

/-- The election that a server reports. -/
def ServerDescription.election (description : ServerDescription) : Election :=
  ⟨description.electionId, description.setVersion⟩

/-- The first version of the protocol whose servers compare identifiers of elections first. -/
def electionFirstWireVersion : Int32 := 17

/-- The server compares identifiers of elections before versions of the configuration. -/
def ServerDescription.comparesElectionFirst (description : ServerDescription) : Bool :=
  decide (electionFirstWireVersion ≤ description.maxWireVersion)

/-- The picture of a deployment. -/
structure Topology where
  type : TopologyType
  /-- The name that members of the replica set must report. -/
  setName : Option String
  /-- The latest election of which a primary told. -/
  election : Election := {}
  /-- Why the driver cannot talk to the deployment, if it cannot. -/
  incompatibility : Option Incompatibility := none
  /-- The shortest session among the servers that hold data. -/
  sessionTimeout : Option Duration := none
  heartbeatFrequency : Duration
  localThreshold : Duration
  servers : AddressMap ServerDescription

namespace Topology

/-- The picture at the start, in which no server has been checked. -/
def initial (options : ClientOptions) : Topology where
  type :=
    if options.directConnection = some true then .single
    else if options.replicaSet.isSome then .replicaSetNoPrimary
    else .unknown
  setName := options.replicaSet
  heartbeatFrequency := .ofMilliseconds options.heartbeatFrequency
  localThreshold := .ofMilliseconds options.localThreshold
  servers := .ofAddresses options.hosts .unknown

/-- The picture at the start, if the options describe a deployment. -/
def ofOptions (options : ClientOptions) : Except Error Topology := do
  options.validate
  return initial options

/-- The descriptions of the servers in the order of their addresses. -/
def descriptions (topology : Topology) : List ServerDescription := topology.servers.values

/-- The addresses of the servers in order. -/
def addresses (topology : Topology) : List ServerAddress := topology.servers.addresses

/-- The description of a server, if it is tracked. -/
def server? (topology : Topology) (address : ServerAddress) : Option ServerDescription :=
  topology.servers.get? address

/-- Whether a server is tracked. -/
def tracks (topology : Topology) (address : ServerAddress) : Bool :=
  topology.servers.contains address

/-- The first primary in the order of the addresses. -/
def primary? (topology : Topology) : Option ServerDescription :=
  topology.descriptions.find? (·.type == .rsPrimary)

/-- Fails if the driver cannot talk to the deployment. -/
def checkCompatible (topology : Topology) : Except Error Unit :=
  match topology.incompatibility with
  | some cause => .error (.serverSelection cause.message)
  | none => .ok ()

/-- Equality of the servers, as far as they reported it. -/
def sameServers : List (ServerAddress × ServerDescription) →
    List (ServerAddress × ServerDescription) → Bool
  | [], [] => true
  | (left, first) :: others, (right, second) :: rest =>
    left == right && first.same second && sameServers others rest
  | _, _ => false

/-- Equality of two pictures, as far as the servers reported it. -/
def same (left right : Topology) : Bool :=
  left.type == right.type && left.setName == right.setName && left.election == right.election &&
  left.incompatibility == right.incompatibility && left.sessionTimeout == right.sessionTimeout &&
  left.heartbeatFrequency == right.heartbeatFrequency &&
  left.localThreshold == right.localThreshold &&
  sameServers left.servers.entries right.servers.entries

end Topology

end DocumentDriver
