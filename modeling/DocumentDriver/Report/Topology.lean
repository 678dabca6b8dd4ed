/-
This file shows options, servers and deployments.
-/

import DocumentDriver.Report.Document
import DocumentDriver.Selection.Suitable
import DocumentDriver.Topology.Event

namespace DocumentDriver

instance : Reported ServerType := ⟨fun type => .text type.name⟩
instance : Reported TopologyType := ⟨fun type => .text type.name⟩
instance : Reported Incompatibility := ⟨fun cause => .text cause.message⟩

instance : Reported ClientOptions where
  report options := .record
    [field "hosts" options.hosts, field "replica_set" options.replicaSet,
     field "direct" options.directConnection,
     field "heartbeat_ms" (Report.size options.heartbeatFrequency),
     field "min_heartbeat_ms" (Report.size options.minHeartbeatFrequency),
     field "selection_timeout_ms" (Report.size options.serverSelectionTimeout),
     field "local_threshold_ms" (Report.size options.localThreshold),
     field "connect_timeout_ms" (Report.size options.connectTimeout),
     field "app_name" options.appName,
     field "max_message_size" (Report.size options.maxMessageSize),
     field "compressors" options.compressors]

instance : Reported TagSet :=
  ⟨fun set => .record (set.tags.map fun (name, text) => field name text)⟩

/-- All that is shown of a server. -/
def ServerDescription.shown (server : ServerDescription) : List (String × Report) :=
  [field "address" server.address, field "type" server.type,
   field "rtt_ns" server.roundTripTime, field "min_wire" server.minWireVersion,
   field "max_wire" server.maxWireVersion, field "me" server.me,
   field "hosts" server.hosts, field "passives" server.passives,
   field "arbiters" server.arbiters, field "all_hosts" server.allHosts,
   field "tags" server.tags, field "set_name" server.setName,
   field "set_version" server.setVersion, field "election_id" server.electionId,
   field "primary" server.primary, field "last_write" server.lastWriteDate,
   field "session_timeout_s"
     (server.logicalSessionTimeout.map fun timeout => Report.size timeout.seconds),
   field "max_bson" (Report.size server.maxDocumentSize),
   field "max_message" (Report.size server.maxMessageSize),
   field "max_batch" server.maxWriteBatchSize,
   field "topology_version"
     (server.topologyVersion.map fun version => (version.processId, version.counter)),
   field "compression" server.compression, field "hello_ok" server.helloOk,
   field "hidden" server.hidden, field "failure" server.error,
   field "has_reply" server.reply.isSome, field "data_bearing" server.isDataBearing,
   field "available" server.isAvailable,
   field "rs_member" server.type.isReplicaSetMember,
   field "me_mismatch" server.hasOtherAddress,
   field "incompatible" server.incompatibility?]

/-- What is shown of a server among others: its address, its type, and an error. -/
def ServerDescription.row (server : ServerDescription) : Report :=
  .list ([report server.address, report server.type] ++ (server.error.map report).toList)

namespace Topology

/-- Why the driver cannot talk to a deployment, if it cannot. -/
def incompatible? (topology : Topology) : Option Error :=
  match topology.checkCompatible with
  | .ok () => none
  | .error error => some error

/-- All that is shown of a deployment. -/
def shown (topology : Topology) : Except Accident (List (String × Report)) := do
  let isWritable ← topology.hasWritableServer
  let isReadable ← topology.hasReadableServer { mode := .nearest }
  return [field "type" topology.type, field "is_replica_set" topology.type.isReplicaSet,
    field "set_name" topology.setName, field "max_set_version" topology.election.setVersion,
    field "max_election_id" topology.election.id,
    field "incompatible" topology.incompatible?,
    field "session_timeout_s"
      (topology.sessionTimeout.map fun timeout => Report.size timeout.seconds),
    field "servers" (topology.descriptions.map ServerDescription.row),
    field "len" topology.servers.size, field "empty" (topology.servers.size == 0),
    field "primary" (topology.primary?.map (·.address)),
    field "writable" isWritable, field "readable" isReadable]

end Topology

/-- The types of two things that followed each other. -/
def Report.move {Value : Type} [Reported Value] (previous new : Value) : Report :=
  report (previous, new)

instance : Reported TopologyEvent where
  report
    | .opening address => .record [field "opening" address]
    | .closed address => .record [field "closed" address]
    | .serverChanged address previous new =>
      .record [field "server" address, field "change" (Report.move previous.type new.type),
        field "error" new.error]
    | .topologyChanged previous new =>
      .record [field "topology" (Report.move previous.type new.type)]

end DocumentDriver
