/-
This file holds one exchange on a connection: a message is sent, and if the sender waits for a
reply, the next message that arrives is taken for it. A message that cannot be written or is too
long never reaches the connection, and a reply counts only if it answers the request.
-/

import DocumentDriver.Message.Compression
import DocumentDriver.Time.Duration

namespace DocumentDriver

/-- How the other end of a connection behaves during one exchange. -/
structure Peer where
  /-- What becomes of the bytes that are sent. -/
  send : Bytes → Except Error Unit
  /-- The bytes of the next message that arrives once the given ones have been sent. -/
  receive : Bytes → Except Error Bytes
  /-- How long that message is on its way. -/
  delay : Duration := .zero

/-- What happened during an exchange. -/
structure Exchange where
  /-- The bytes that were handed to the connection. -/
  sent : Option Bytes
  /-- A reply was waited for. -/
  isAwaited : Bool
  /-- The reply, if one was waited for. -/
  result : Except Error (Option Message)

namespace Exchange

/-- The bytes of a message, if they are not more than a connection takes. -/
def bytesOf (message : Message) (max : Nat) : Except Error Bytes := do
  let bytes ← message.serialize
  if max < bytes.length then .error (.messageTooLarge bytes.length max) else return bytes

/-- The reply to a message that bytes hold. -/
def replyTo (message : Message) (registry : CompressorRegistry) (max : Nat) (bytes : Bytes) :
    Except Error Message := do
  let reply ← Message.ofBytes bytes max registry
  if reply.responseTo = message.requestId then return reply
  else .error (Violation.unrelatedReply reply.responseTo message.requestId).toError

/-- Exchanges a message with a peer. -/
def run (message : Message) (registry : CompressorRegistry) (max : Nat) (peer : Peer) : Exchange :=
  match bytesOf message max with
  | .error error => ⟨none, false, .error error⟩
  | .ok bytes =>
    match peer.send bytes with
    | .error error => ⟨some bytes, false, .error error⟩
    | .ok () =>
      if message.isReplyable then
        ⟨some bytes, true, (do return some (← replyTo message registry max (← peer.receive bytes)))⟩
      else ⟨some bytes, false, .ok none⟩

/-- How long an exchange with a peer takes. -/
def duration (exchange : Exchange) (peer : Peer) : Duration :=
  if exchange.isAwaited then peer.delay else .zero

end Exchange

end DocumentDriver
