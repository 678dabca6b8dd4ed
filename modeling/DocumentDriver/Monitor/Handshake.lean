/-
This file writes the handshakes with which a monitor asks a server about itself. The first one on
a connection is a query in the old form and introduces the client. Later ones use the new form
once the server has shown that it knows it, and may ask the server to wait until it has news.
-/

import DocumentDriver.Message.Basic
import DocumentDriver.Server.Description

namespace DocumentDriver

/-- The operating system and the processor that the driver runs on. -/
structure Platform where
  system : String := "linux"
  architecture : String := "x86_64"

namespace Handshake

/-- The name under which the driver introduces itself. -/
def driverName : String := "mongo-core"

/-- The version with which the driver introduces itself. -/
def driverVersion : String := "0.1.0"

/-- The database that handshakes are addressed to. -/
def database : String := "admin"

/-- What the driver tells of itself. -/
def clientMetadata (platform : Platform) (appName : Option String) : Document :=
  let driver : Document := [("name", .string driverName), ("version", .string driverVersion)]
  let system : Document :=
    [("type", .string platform.system), ("architecture", .string platform.architecture)]
  let application : Document := match appName with
    | none => []
    | some name => [("application", .document [("name", .string name)])]
  [("driver", .document driver), ("os", .document system)] ++ application

/-- A query in the old form. -/
def legacy : Document := [("isMaster", .int32 1), ("helloOk", .boolean true)]

/-- The first query on a connection. -/
def introduction (platform : Platform) (appName : Option String) (compressors : List String) :
    Document :=
  legacy ++
    [("client", .document (clientMetadata platform appName)),
     ("compression", .array (compressors.map .string))]

/-- What a server is asked to wait with: the version of its view that is known, and how many
milliseconds it may wait for another. -/
def waiting (version : TopologyVersion) (heartbeat : Nat) : Document :=
  [("topologyVersion", .document version.toDocument),
   ("maxAwaitTimeMS", .int64 (Int64.ofNat heartbeat))]

/-- A description counts for the next handshake if the server answered well. -/
def usable? (previous : Option ServerDescription) : Option ServerDescription :=
  previous.filter (·.error.isNone)

/-- The first wire version of servers that know the new form. It is also the lowest one that the
driver supports, but it would not change with that. -/
def msgWireVersion : Int32 := 6

/-- The server knows the new form. -/
def knowsMsg (description : ServerDescription) : Bool :=
  description.helloOk || decide (msgWireVersion ≤ description.maxWireVersion)

/-- The query in the new form to a server that knows it. -/
def modern (description : ServerDescription) (isAwaitable : Bool) (heartbeat : Nat) : Document :=
  let question := if description.helloOk then "hello" else "isMaster"
  let wait : Document := match description.topologyVersion with
    | some version => if isAwaitable then waiting version heartbeat else []
    | none => []
  ((question, .int32 1) : String × Value) :: wait

end Handshake

end DocumentDriver
