/-
This file lists the ways in which a message can break its format other than by a damaged document,
and words each. To a caller all of them are one cause, `Error.protocol`.
-/

import DocumentDriver.Message.OpCode
import DocumentDriver.Text.Hex

namespace DocumentDriver

/-- The ways in which a message can break its format. -/
inductive Violation where
  /-- There are fewer bytes than a header has. -/
  | shortHeader (available : Nat)
  /-- A header declares fewer bytes than it has itself. -/
  | messageLength (declared : Int32)
  /-- A header declares another length than the message has. -/
  | lengthMismatch (declared : Int32) (supplied : Nat)
  /-- A message is of another kind than was asked for. -/
  | unexpectedKind (expected actual : OpCode)
  /-- Bytes are left after the last field. -/
  | trailingBytes (count : Nat) (kind : OpCode)
  /-- A field that must be zero is not. -/
  | reservedField (kind : OpCode) (found : Int32)
  /-- A reply carries another number of documents than it declares. -/
  | replyCount (declared : Int32) (carried : Nat)
  /-- A list of cursors declares another number than its bytes can hold. -/
  | cursorCount (declared available : Nat)
  /-- Flags are set that a reader must know, and this one does not. -/
  | unknownFlags (bits : UInt32)
  /-- A message announces a checksum and has no room for one. -/
  | noChecksum
  /-- A message has a second body. -/
  | secondBody
  /-- A message has no body. -/
  | noBody
  /-- A sequence of documents declares fewer bytes than its length field has. -/
  | sequenceSize (declared : Nat)
  /-- A compressed message declares a negative size. -/
  | negativeSize (declared : Int32)
  /-- A compressed message holds a compressed message. -/
  | nestedCompression
  /-- The size of a compressed message leaves no room for a header. -/
  | sizeOverflow
  /-- A reply holds no document. -/
  | emptyReply
  /-- A message of this kind is no reply. -/
  | notReply (kind : OpCode)
  /-- A reply answers another request. -/
  | unrelatedReply (answered expected : Int32)
  /-- A handshake was not answered. -/
  | unansweredHandshake
  /-- A command was not answered. -/
  | unansweredCommand
  /-- A primary reports an election that is older than the latest seen. -/
  | outdatedElection (address : String)
deriving DecidableEq, Repr

namespace Violation

/-- The wording of a violation. -/
def message : Violation → String
  | shortHeader available => s!"message header needs 16 bytes, got {available}"
  | messageLength declared => s!"invalid message length {declared.toInt}"
  | lengthMismatch declared supplied =>
    s!"message declares {declared.toInt} bytes but {supplied} were supplied"
  | unexpectedKind expected actual =>
    s!"expected {expected.name} message, got {actual.name}"
  | trailingBytes count kind => s!"{count} trailing bytes after {kind.formatName} body"
  | reservedField kind found =>
    s!"reserved field in {kind.formatName} must be zero, got {found.toInt}"
  | replyCount declared carried =>
    s!"OP_REPLY declares {declared.toInt} documents but carries {carried}"
  | cursorCount declared available =>
    s!"OP_KILL_CURSORS declares {declared} cursor ids in {available} bytes"
  | unknownFlags bits =>
    "OP_MSG sets unknown required flag bits 0x" ++ Hex.padded 4 bits.toNat
  | noChecksum => "OP_MSG too short for its checksum"
  | secondBody => "OP_MSG contains more than one body section"
  | noBody => "OP_MSG has no body section"
  | sequenceSize declared => s!"invalid document sequence size {declared}"
  | negativeSize declared => s!"negative uncompressed size {declared.toInt}"
  | nestedCompression => "nested OP_COMPRESSED message"
  | sizeOverflow => "uncompressed size overflows"
  | emptyReply => "reply contained no documents"
  | notReply kind => s!"{kind.name} is not a reply message"
  | unrelatedReply answered expected =>
    s!"reply answers request {answered.toInt}, expected {expected.toInt}"
  | unansweredHandshake => "handshake produced no reply"
  | unansweredCommand => "command produced no reply"
  | outdatedElection address =>
    s!"primary at {address} reported an election older than the latest seen"

/-- A violation as a caller sees it. -/
def toError (violation : Violation) : Error := .protocol violation.message

end Violation

end DocumentDriver
