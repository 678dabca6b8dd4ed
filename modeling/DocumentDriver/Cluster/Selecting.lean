/-
This file holds the selection of a server as a sequence of steps, between which anything may happen
to the cluster. A selection that finds no server asks for scans and waits for a picture that is
newer than the one it has seen. Where there are several servers, chance draws one of them. An accident
ends a selection without a result.
-/

import DocumentDriver.Cluster.Basic
import DocumentDriver.Selection.Suitable

namespace DocumentDriver

/-- A server that was selected. -/
structure SelectedServer where
  description : ServerDescription
  /-- The kind of the deployment that the server was selected from. -/
  topologyType : TopologyType

/-- Where a selection stands. -/
inductive Selecting where
  /-- The next step is to look whether the cluster is closed. -/
  | testing
  /-- The next step is to read the published picture. -/
  | reading
  /-- The picture with a version has been read, and perhaps a server chosen from it. -/
  | choosing (seen : Nat) (chosen : Option SelectedServer)
  /-- A picture newer than the one seen is waited for. -/
  | waiting (seen : Nat)
  | done (result : Except Error SelectedServer)
  /-- The servers at hand could not be computed. -/
  | broken (cause : Accident)

namespace Selecting

/-- A server of a deployment in a report: its address, its type, and its error. -/
def reportServer (server : ServerDescription) : String :=
  let known := server.address.display ++ " " ++ server.type.name
  match server.error with
  | some error => known ++ " (" ++ error.message ++ ")"
  | none => known

/-- A deployment in a report. -/
def reportTopology (topology : Topology) : String :=
  s!"topology {topology.type.name} with servers " ++
    ReadPreference.listed (topology.descriptions.map reportServer)

/-- The error of a selection whose time is up. -/
def timeout (cluster : Cluster) (criteria : SelectionCriteria) : Error :=
  let limit := Duration.ofMilliseconds cluster.options.serverSelectionTimeout
  .serverSelectionTimeout
    s!"no server matching {criteria.report} after {limit.text}; {reportTopology cluster.published}"

/-- The server that chance draws among some. -/
def pick? (draw : Nat) (servers : List ServerDescription) : Option ServerDescription :=
  servers[draw % servers.length]?

/-- Reads the published picture and chooses a server from it. -/
def read (cluster : Cluster) (criteria : SelectionCriteria) (draw : Nat) : Selecting :=
  match Selection.select cluster.published criteria with
  | .error cause => broken cause
  | .ok (.error error) => done (.error error)
  | .ok (.ok servers) =>
    choosing cluster.version <|
      (pick? draw servers).map fun server => ⟨server, cluster.published.type⟩

/-- One step of a selection, and what it does to the cluster. -/
def step (criteria : SelectionCriteria) (draw : Nat) (cluster : Cluster) :
    Selecting → Cluster × Selecting
  | testing => (cluster, if cluster.isClosed then done (.error .shutdown) else reading)
  | reading => (cluster, read cluster criteria draw)
  | choosing seen chosen =>
    match chosen.filter fun server => cluster.handles.contains server.description.address with
    | some server => (cluster, done (.ok server))
    | none => (cluster.requestScans, waiting seen)
  | waiting seen => (cluster, if seen < cluster.version then testing else waiting seen)
  | done result => (cluster, done result)
  | broken cause => (cluster, broken cause)

/-- A selection whose time is up ends if it is still waiting. -/
def expire (criteria : SelectionCriteria) (cluster : Cluster) : Selecting → Selecting
  | waiting _ => done (.error (timeout cluster criteria))
  | other => other

end Selecting

namespace Cluster

/-- Selects a server while nothing else happens, up to the point where the selection would wait. -/
def trySelect (cluster : Cluster) (criteria : SelectionCriteria) (draw : Nat) :
    Cluster × Selecting :=
  let (tested, first) := Selecting.step criteria draw cluster .testing
  let (read, second) := Selecting.step criteria draw tested first
  Selecting.step criteria draw read second

/-- Selects a server while nothing else happens. If there is none, the time that a selection may
take goes by. -/
def select (cluster : Cluster) (criteria : SelectionCriteria) (draw : Nat) :
    Except Accident (Cluster × Duration × Except Error SelectedServer) :=
  match cluster.trySelect criteria draw with
  | (_, .broken cause) => .error cause
  | (next, .done result) => .ok (next, .zero, result)
  | (next, _) =>
    .ok (next, .ofMilliseconds next.options.serverSelectionTimeout,
      .error (Selecting.timeout next criteria))

end Cluster

end DocumentDriver
