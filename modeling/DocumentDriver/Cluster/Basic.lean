/-
This file holds the cluster, which owns the picture of a deployment. Every tracked server has a
handle with its pool and its monitor. Each new picture is published under a new version, which
selections wait for. Whatever changes the picture goes through `apply`, and closing is final.
-/

import DocumentDriver.Monitor.Basic
import DocumentDriver.Monitor.Schedule
import DocumentDriver.Text.Json
import DocumentDriver.Topology.Event
import DocumentDriver.Topology.Update

namespace DocumentDriver

/-- What a cluster keeps for a tracked server. -/
structure ServerHandle where
  pool : Pool := {}
  monitor : Monitor
  schedule : Schedule := {}

/-- The owner of the picture of a deployment. -/
structure Cluster where
  options : ClientOptions
  topology : Topology
  /-- The picture that selections see. -/
  published : Topology
  /-- The number of times that a picture was published. -/
  version : Nat := 0
  handles : AddressMap ServerHandle
  isClosed : Bool := false

namespace Cluster

/-- The handle of a server that is tracked from now on. -/
def newHandle (address : ServerAddress) (now : Duration) : ServerHandle where
  monitor := { address }
  schedule := { now, started := now }

/-- The cluster for options that describe a deployment. -/
def start (options : ClientOptions) (now : Duration) : Except Error Cluster := do
  let topology ← Topology.ofOptions options
  let handles := AddressMap.ofAddresses topology.addresses (newHandle · now)
  return { options, topology, published := topology, handles }

/-- Changes the handle of a server, if it has one. -/
def modifyHandle (cluster : Cluster) (address : ServerAddress)
    (change : ServerHandle → ServerHandle) : Cluster :=
  match cluster.handles.get? address with
  | none => cluster
  | some handle => { cluster with handles := cluster.handles.insert address (change handle) }

/-! ### Applying descriptions -/

/-- Clears the pool of a server of which the network failed. -/
def clearFailed (cluster : Cluster) (description : ServerDescription) : Cluster :=
  if description.error.any Error.isNetwork then
    cluster.modifyHandle description.address fun handle => { handle with pool := handle.pool.clear }
  else cluster

/-- The handles for a picture: those of its servers are kept, new servers get new ones. -/
def handlesFor (cluster : Cluster) (topology : Topology) (now : Duration) :
    AddressMap ServerHandle :=
  let kept := cluster.handles.filter fun address _ => topology.tracks address
  topology.addresses.foldl
    (fun handles address =>
      if handles.contains address then handles else handles.insert address (newHandle address now))
    kept

/-- Makes a picture the current one and publishes it. -/
def publish (cluster : Cluster) (topology : Topology) (now : Duration) : Cluster :=
  { cluster with
    topology, published := topology, version := cluster.version + 1
    handles := cluster.handlesFor topology now }

/-- What is done with a description once the cluster is known to be open. -/
def applyLocked (cluster : Cluster) (description : ServerDescription) (now : Duration) :
    Cluster × List TopologyEvent :=
  let cleared := cluster.clearFailed description
  let next := cleared.topology.apply description
  (cleared.publish next now, TopologyEvent.between cleared.topology next)

/-- Takes a description into account, and tells what changed. -/
def apply (cluster : Cluster) (description : ServerDescription) (now : Duration) :
    Cluster × List TopologyEvent :=
  if cluster.isClosed then (cluster, []) else cluster.applyLocked description now

/-- Takes a failure into account that an operation met with. -/
def markUnknown (cluster : Cluster) (address : ServerAddress) (error : Error) (now : Duration) :
    Cluster × List TopologyEvent :=
  cluster.apply (.ofError address error) now

/-! ### Scans -/

/-- Asks for a scan of a server. -/
def requestScan (cluster : Cluster) (address : ServerAddress) : Cluster :=
  cluster.modifyHandle address fun handle =>
    { handle with schedule := handle.schedule.step cluster.options .request }

/-- Asks for a scan of every server. -/
def requestScans (cluster : Cluster) : Cluster :=
  cluster.handles.addresses.foldl requestScan cluster

/-! ### Closing -/

/-- From now on nothing is applied and nothing selected. -/
def setClosed (cluster : Cluster) : Cluster := { cluster with isClosed := true }

/-- Lets go of every handle, and tells so in the order of the texts of the addresses. -/
def drain (cluster : Cluster) : Cluster × List TopologyEvent :=
  let addresses := cluster.handles.addresses.mergeSort fun left right =>
    !(decide (Json.quote right.display < Json.quote left.display))
  ({ cluster with handles := .empty }, addresses.map .closed)

/-- Wakes the selections that wait. -/
def wakeWaiting (cluster : Cluster) : Cluster := { cluster with version := cluster.version + 1 }

/-- Closes a cluster. Closing it again does nothing. -/
def close (cluster : Cluster) : Cluster × List TopologyEvent :=
  if cluster.isClosed then (cluster, [])
  else
    let (drained, events) := cluster.setClosed.drain
    (drained.wakeWaiting, events)

end Cluster

end DocumentDriver
