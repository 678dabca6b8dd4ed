/-
This file compresses messages and restores them. Only the body is compressed; the message around
it keeps the numbers of the one inside. The declared size is checked before anything is expanded,
and a restored message is read as if it had come uncompressed.
-/

import DocumentDriver.Compression.Compressor
import DocumentDriver.Message.Basic

namespace DocumentDriver

namespace Compressed

/-- Compresses a message. -/
def ofMessage (message : Message) (compressor : Compressor) : Except Error Compressed := do
  if message.kind = .compressed then .error (.compression "message is already compressed") else
  let body := (← message.serialize).drop headerLength
  let size ← Encode.length body.length
  return {
    requestId := message.requestId
    responseTo := message.responseTo
    inner := message.kind
    size := Bytes.toInt32 size
    compressor := compressor.id
    bytes := ← compressor.compress body }

/-- The length of the whole message inside, if it can be declared. -/
def restoredLength (message : Compressed) : Except Error Int32 :=
  if message.size.toInt + headerLength < 2 ^ 31 then
    .ok (Int32.ofInt (message.size.toInt + headerLength))
  else .error Violation.sizeOverflow.toError

/-- Restores the message inside. -/
def restore (message : Compressed) (registry : CompressorRegistry) (max : Nat) :
    Except Error Message := do
  if message.inner = .compressed then .error Violation.nestedCompression.toError else
  let length ← message.restoredLength
  Header.checkLength length max
  match registry.get? message.compressor with
  | none => .error (.compression s!"unknown compressor id {message.compressor.toNat}")
  | some compressor =>
    let body ← compressor.decompress message.bytes message.size.toInt.toNat
    let header : Header := ⟨length, message.requestId, message.responseTo, message.inner⟩
    Message.decode (header.toBytes ++ body) max

end Compressed

namespace Message

/-- The message that the bytes hold, restored if it was compressed. -/
def ofBytes (bytes : Bytes) (max : Nat) (registry : CompressorRegistry) :
    Except Error Message := do
  match ← decode bytes max with
  | compressed message => message.restore registry max
  | message => return message

end Message

end DocumentDriver
