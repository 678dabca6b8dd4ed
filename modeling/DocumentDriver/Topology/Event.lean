/-
This file says in which events a change of the picture is reported: which servers are tracked from
now on, which ones are described anew, which ones are tracked no more, and that the picture has
changed. Replaying the events of the servers gives the new servers from the old ones.
-/

import DocumentDriver.Topology.Basic

namespace DocumentDriver

/-- A change of the picture of a deployment. -/
inductive TopologyEvent where
  /-- A server is tracked from now on. -/
  | opening (address : ServerAddress)
  /-- A server is tracked no more. -/
  | closed (address : ServerAddress)
  /-- A server that was tracked before is described anew. -/
  | serverChanged (address : ServerAddress) (previous new : ServerDescription)
  /-- The picture as a whole has changed. -/
  | topologyChanged (previous new : Topology)

namespace TopologyEvent

/-- The servers that are tracked from now on. -/
def openings (previous new : Topology) : List TopologyEvent :=
  (new.addresses.filter fun address => !previous.tracks address).map opening

/-- The servers that are described anew. -/
def changes (previous new : Topology) : List TopologyEvent :=
  new.servers.entries.filterMap fun (_, description) =>
    match previous.server? description.address with
    | some old =>
      if old.same description then none
      else some (serverChanged description.address old description)
    | none => none

/-- The servers that are tracked no more. -/
def closings (previous new : Topology) : List TopologyEvent :=
  (previous.addresses.filter fun address => !new.tracks address).map closed

/-- The events that lead from one picture to another. -/
def between (previous new : Topology) : List TopologyEvent :=
  openings previous new ++ changes previous new ++ closings previous new ++
    if previous.same new then [] else [topologyChanged previous new]

/-- The effect of an event on the servers that a listener knows. -/
def replay (servers : AddressMap ServerDescription) :
    TopologyEvent → AddressMap ServerDescription
  | opening address => servers.insert address (.unknown address)
  | closed address => servers.erase address
  | serverChanged address _ description => servers.insert address description
  | topologyChanged _ _ => servers

end TopologyEvent

end DocumentDriver
