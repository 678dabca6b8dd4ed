/-
This file holds the older kinds of messages, each with its body: a query and the reply to it, the
one-way writes, and the messages that continue or close a cursor. What a body writes is exactly
what it reads.
-/

import DocumentDriver.Message.Fields

namespace DocumentDriver

/-- A query, or a command when the collection is `$cmd` of a database. -/
structure Query where
  requestId : Int32
  flags : Flags := Flags.empty
  collection : String
  skip : Int32 := 0
  limit : Int32 := 0
  query : Document
  fields : Option Document := none

namespace Query

/-- A command to a database, which asks for exactly one document in reply. -/
def command (requestId : Int32) (database : String) (command : Document) : Query where
  requestId := requestId
  collection := database ++ ".$cmd"
  limit := -1
  query := command

/-- The bytes after the header. -/
def body (message : Query) : Written := do
  let collection ← Encode.name message.collection
  let query ← message.query.encode
  let fields ← match message.fields with
    | none => pure []
    | some fields => fields.encode
  return message.flags.toBytes ++ (collection ++ (Bytes.ofInt32 message.skip ++
    (Bytes.ofInt32 message.limit ++ (query ++ fields))))

/-- Reads the bytes after the header. -/
def readBody (header : Header) : Read Query := do
  let flags ← Read.flags
  let collection ← Read.name
  let skip ← Read.int32
  let limit ← Read.int32
  let query ← Read.document
  let fields ← if ← Read.atEnd then pure none else some <$> Read.document
  Read.finish .query
  return ⟨header.requestId, flags, collection, skip, limit, query, fields⟩

end Query

/-- The answer to a query, or to a message that continues a cursor. -/
structure Reply where
  requestId : Int32
  responseTo : Int32
  flags : Flags := Flags.empty
  cursorId : Int64 := 0
  startingFrom : Int32 := 0
  documents : List Document

namespace Reply

/-- The bytes after the header. -/
def body (message : Reply) : Written := do
  let count ← Encode.length message.documents.length
  let documents ← Encode.documents {} message.documents
  return message.flags.toBytes ++ (Bytes.ofInt64 message.cursorId ++
    (Bytes.ofInt32 message.startingFrom ++ (count ++ documents)))

/-- Reads the bytes after the header. -/
def readBody (header : Header) : Read Reply := do
  let flags ← Read.flags
  let cursorId ← Read.int64
  let startingFrom ← Read.int32
  let count ← Read.int32
  let documents ← Read.documents
  if count.toInt ≠ documents.length then Read.violation (.replyCount count documents.length) else
  return ⟨header.requestId, header.responseTo, flags, cursorId, startingFrom, documents⟩

end Reply

/-- A one-way insertion of documents that a user hands in. -/
structure Insert where
  requestId : Int32
  flags : Flags := Flags.empty
  collection : String
  documents : List Document

namespace Insert

/-- The bytes after the header. -/
def body (message : Insert) : Written := do
  if message.documents.isEmpty then
    .error (.invalidArgument "OP_INSERT requires at least one document") else
  let collection ← Encode.name message.collection
  let documents ← Encode.documents .user message.documents
  return message.flags.toBytes ++ (collection ++ documents)

/-- Reads the bytes after the header. -/
def readBody (header : Header) : Read Insert := do
  let flags ← Read.flags
  let collection ← Read.name
  return ⟨header.requestId, flags, collection, ← Read.documents⟩

end Insert

/-- A one-way update. -/
structure Update where
  requestId : Int32
  collection : String
  flags : Flags := Flags.empty
  selector : Document
  update : Document

namespace Update

/-- The bytes after the header. -/
def body (message : Update) : Written := do
  let collection ← Encode.name message.collection
  let selector ← message.selector.encode
  let update ← message.update.encode
  return Bytes.ofInt32 0 ++ (collection ++ (message.flags.toBytes ++ (selector ++ update)))

/-- Reads the bytes after the header. -/
def readBody (header : Header) : Read Update := do
  Read.zero .update
  let collection ← Read.name
  let flags ← Read.flags
  let selector ← Read.document
  let update ← Read.document
  Read.finish .update
  return ⟨header.requestId, collection, flags, selector, update⟩

end Update

/-- A one-way deletion. -/
structure Delete where
  requestId : Int32
  collection : String
  flags : Flags := Flags.empty
  selector : Document

namespace Delete

/-- The bytes after the header. -/
def body (message : Delete) : Written := do
  let collection ← Encode.name message.collection
  let selector ← message.selector.encode
  return Bytes.ofInt32 0 ++ (collection ++ (message.flags.toBytes ++ selector))

/-- Reads the bytes after the header. -/
def readBody (header : Header) : Read Delete := do
  Read.zero .delete
  let collection ← Read.name
  let flags ← Read.flags
  let selector ← Read.document
  Read.finish .delete
  return ⟨header.requestId, collection, flags, selector⟩

end Delete

/-- Asks for the next documents of an open cursor. -/
structure GetMore where
  requestId : Int32
  collection : String
  limit : Int32
  cursorId : Int64

namespace GetMore

/-- The bytes after the header. -/
def body (message : GetMore) : Written := do
  let collection ← Encode.name message.collection
  return Bytes.ofInt32 0 ++ (collection ++ (Bytes.ofInt32 message.limit ++
    Bytes.ofInt64 message.cursorId))

/-- Reads the bytes after the header. -/
def readBody (header : Header) : Read GetMore := do
  Read.zero .getMore
  let collection ← Read.name
  let limit ← Read.int32
  let cursorId ← Read.int64
  Read.finish .getMore
  return ⟨header.requestId, collection, limit, cursorId⟩

end GetMore

/-- Closes cursors on the server. Nothing answers it. -/
structure KillCursors where
  requestId : Int32
  cursorIds : List Int64

namespace KillCursors

/-- The bytes after the header. -/
def body (message : KillCursors) : Written := do
  let count ← Encode.length message.cursorIds.length
  return Bytes.ofInt32 0 ++ (count ++ message.cursorIds.flatMap Bytes.ofInt64)

/-- Reads the bytes after the header. -/
def readBody (header : Header) : Read KillCursors := do
  Read.zero .killCursors
  let count ← Read.length
  let available := (← get).rest.length
  if 8 * count ≠ available then Read.violation (.cursorCount count available) else
  return ⟨header.requestId, ← Read.listUntilEnd Read.int64⟩

end KillCursors

end DocumentDriver
