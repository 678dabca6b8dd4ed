/-
This file joins the kinds of messages in one type. A message is a header and a body, and the
length in the header is always that of the whole. Reading checks the header first, then that the
declared length is the real one, then the body of the kind that the header announces.
-/

import DocumentDriver.Message.Msg
import DocumentDriver.Message.Query

namespace DocumentDriver

/-- A message whose body is the compressed body of another one. -/
structure Compressed where
  requestId : Int32
  responseTo : Int32
  /-- The kind of the message inside. -/
  inner : OpCode
  /-- The number of bytes of the body inside. -/
  size : Int32
  compressor : UInt8
  bytes : Bytes
deriving DecidableEq, Repr

namespace Compressed

/-- The bytes after the header. -/
def body (message : Compressed) : Written :=
  .ok (Bytes.ofInt32 message.inner.code ++ (Bytes.ofInt32 message.size ++
    message.compressor :: message.bytes))

/-- Reads the bytes after the header. -/
def readBody (header : Header) : Read Compressed := do
  let inner ← OpCode.ofCode (← Read.int32)
  let size ← Read.int32
  if size.toInt < 0 then Read.violation (.negativeSize size) else
  let compressor ← Read.byte
  return ⟨header.requestId, header.responseTo, inner, size, compressor, ← Read.remainder⟩

end Compressed

/-- A message of any kind. -/
inductive Message where
  | reply (message : Reply)
  | update (message : Update)
  | insert (message : Insert)
  | query (message : Query)
  | getMore (message : GetMore)
  | delete (message : Delete)
  | killCursors (message : KillCursors)
  | compressed (message : Compressed)
  | msg (message : Msg)

namespace Message

/-- The kind of a message. -/
def kind : Message → OpCode
  | reply _ => .reply
  | update _ => .update
  | insert _ => .insert
  | query _ => .query
  | getMore _ => .getMore
  | delete _ => .delete
  | killCursors _ => .killCursors
  | compressed _ => .compressed
  | msg _ => .msg

/-- The number of a message. -/
def requestId : Message → Int32
  | reply message => message.requestId
  | update message => message.requestId
  | insert message => message.requestId
  | query message => message.requestId
  | getMore message => message.requestId
  | delete message => message.requestId
  | killCursors message => message.requestId
  | compressed message => message.requestId
  | msg message => message.requestId

/-- The message with another number. -/
def withRequestId (message : Message) (requestId : Int32) : Message :=
  match message with
  | reply message => .reply { message with requestId }
  | update message => .update { message with requestId }
  | insert message => .insert { message with requestId }
  | query message => .query { message with requestId }
  | getMore message => .getMore { message with requestId }
  | delete message => .delete { message with requestId }
  | killCursors message => .killCursors { message with requestId }
  | compressed message => .compressed { message with requestId }
  | msg message => .msg { message with requestId }

/-- The number of the message that a message answers, or 0. -/
def responseTo : Message → Int32
  | reply message => message.responseTo
  | compressed message => message.responseTo
  | msg message => message.responseTo
  | _ => 0

/-- The bytes after the header. -/
def body : Message → Written
  | reply message => message.body
  | update message => message.body
  | insert message => message.body
  | query message => message.body
  | getMore message => message.body
  | delete message => message.body
  | killCursors message => message.body
  | compressed message => message.body
  | msg message => message.body

/-- Whether the sender waits for a reply. A compressed message answers for the kind of the one
inside, whose flags it does not see. -/
def isReplyable : Message → Bool
  | query _ | getMore _ => true
  | msg message => !message.moreToCome
  | compressed message =>
    match message.inner with
    | .query | .getMore | .msg => true
    | _ => false
  | reply _ | update _ | insert _ | delete _ | killCursors _ => false

/-- The bytes of a message. -/
def serialize (message : Message) : Written := do
  let body ← message.body
  let length ← Encode.length (headerLength + body.length)
  return (Header.mk (Bytes.toInt32 length) message.requestId message.responseTo
    message.kind).toBytes ++ body

/-- The declared length of a message must be its real one. -/
def checkDeclaredLength (header : Header) (bytes : Bytes) : Except Error Unit :=
  if header.length.toInt = bytes.length then .ok ()
  else .error (Violation.lengthMismatch header.length bytes.length).toError

/-- Reads the body of the kind that a header announces. -/
def readBody (header : Header) : Read Message :=
  match header.kind with
  | .reply => reply <$> Reply.readBody header
  | .update => update <$> Update.readBody header
  | .insert => insert <$> Insert.readBody header
  | .query => query <$> Query.readBody header
  | .getMore => getMore <$> GetMore.readBody header
  | .delete => delete <$> Delete.readBody header
  | .killCursors => killCursors <$> KillCursors.readBody header
  | .compressed => compressed <$> Compressed.readBody header
  | .msg => msg <$> Msg.readBody header

/-- The message after a header whose length has been checked. -/
def ofBody (header : Header) (bytes : Bytes) : Except Error Message := do
  checkDeclaredLength header bytes
  let (message, _) ← readBody header (Reader.start (bytes.drop headerLength))
  return message

/-- The message that the bytes hold. A compressed message stays compressed. -/
def decode (bytes : Bytes) (max : Nat) : Except Error Message := do
  let header ← Header.parse bytes max
  ofBody header bytes

/-- The message of a given kind that the bytes hold. -/
def decodeKind (kind : OpCode) (bytes : Bytes) (max : Nat) : Except Error Message := do
  let header ← Header.parse bytes max
  if header.kind ≠ kind then .error (Violation.unexpectedKind kind header.kind).toError else
  ofBody header bytes

/-- The document with which a message answers a command. A reply answers with its first document,
unless its flags say that this tells why the query failed. -/
def replyDocument : Message → Except Error Document
  | msg message => .ok message.command
  | reply message =>
    match message.documents with
    | [] => .error Violation.emptyReply.toError
    | first :: _ =>
      if message.flags.contains ReplyFlags.queryFailure then
        .error (.command ((first.integer? "code").getD 0).toInt32
          ((first.string? "$err").getD "query failure") none)
      else .ok first
  | message => .error (Violation.notReply message.kind).toError

end Message

end DocumentDriver
