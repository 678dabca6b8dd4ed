/-
This file holds the kind of message that carries commands: a flag word and a list of sections, one
of which is the body, a document, while the others are named sequences of documents. The sections
may come in any order. A message is written with its body first and without a checksum.
-/

import DocumentDriver.Message.Fields

namespace DocumentDriver

/-- A named sequence of documents. -/
structure DocumentSequence where
  identifier : String
  documents : List Document

/-- A command or the reply to one. -/
structure Msg where
  requestId : Int32
  responseTo : Int32 := 0
  flags : Flags := Flags.empty
  command : Document
  sequences : List DocumentSequence := []
  /-- The checksum that came with the message, if one did. -/
  checksum : Option UInt32 := none
  /-- The largest document that the receiver accepts. It is not written. -/
  maxDocumentSize : Option Nat := none

/-- A section of a message. -/
inductive Section where
  | body (document : Document)
  | sequence (run : DocumentSequence)

namespace Section

/-- The room that a command has beyond the ceiling for documents, for its own fields. -/
def commandOverhead : Nat := 16 * 1024

/-- The largest size that can be asked for. -/
def maxCeiling : Nat := 2 ^ 64 - 1

/-- The bytes of a section, when no document of a sequence may be larger than `limit` and no body
larger than that and the overhead of a command. -/
def toBytes (limit : Nat) : Section → Written
  | .body document => do
    let ceiling := min (limit + commandOverhead) maxCeiling
    return 0 :: (← document.encodeWith { maxSize := some ceiling })
  | .sequence run => do
    let identifier ← Encode.name run.identifier
    let documents ← Encode.documents { maxSize := some limit } run.documents
    return 1 :: (← Encode.measured (identifier ++ documents))

/-- The bytes of sections, one after the other. -/
def listToBytes (limit : Nat) : List Section → Written
  | [] => .ok []
  | first :: rest => do
    let bytes ← first.toBytes limit
    return bytes ++ (← listToBytes limit rest)

/-- A sequence of documents, whose length counts its own four bytes. -/
def readSequence : Read DocumentSequence := do
  let size ← Read.length
  if size < 4 then Read.violation (.sequenceSize size) else
  let contents ← Read.take (size - 4)
  Read.inside contents do
    let identifier ← Read.name
    return ⟨identifier, ← Read.documents⟩

/-- One section. -/
def read : Read Section := do
  let kind ← Read.byte
  if kind = 0 then return .body (← Read.document)
  else if kind = 1 then return .sequence (← readSequence)
  else Read.fail (.invalidPayloadType kind)

end Section

/-- The sections of a message that were read so far, the sequences last to first. -/
structure SectionsRead where
  command : Option Document := none
  reversed : List DocumentSequence := []

namespace SectionsRead

/-- One more section. Only one of them may be a body. -/
def add (before : SectionsRead) : Section → Except Error SectionsRead
  | .body document =>
    match before.command with
    | none => .ok { before with command := some document }
    | some _ => .error Violation.secondBody.toError
  | .sequence run => .ok { before with reversed := run :: before.reversed }

/-- Reads one more section. -/
def step (before : SectionsRead) : Read SectionsRead := do
  before.add (← Section.read)

end SectionsRead

namespace Msg

/-- A command to a database, which travels in the field `$db`. -/
def addressed (requestId : Int32) (database : String) (command : Document) : Msg where
  requestId := requestId
  command := command.insert "$db" (.string database)

/-- The sender does not wait for a reply. -/
def moreToCome (message : Msg) : Bool := message.flags.contains MsgFlags.moreToCome

/-- The receiver may answer with several messages. -/
def exhaustAllowed (message : Msg) : Bool := message.flags.contains MsgFlags.exhaustAllowed

/-- The ceiling for documents. -/
def documentLimit (message : Msg) : Nat := message.maxDocumentSize.getD defaultMaxDocumentSize

/-- The sections in the order in which they are written. -/
def sections (message : Msg) : List Section :=
  .body message.command :: message.sequences.map .sequence

/-- The bytes after the header. A checksum is never written, so its flag is not either. -/
def body (message : Msg) : Written := do
  let sections ← Section.listToBytes message.documentLimit message.sections
  return (message.flags.diff MsgFlags.checksumPresent).toBytes ++ sections

/-- The flags that a reader must know and this one does not. -/
def unknownFlags (flags : Flags) : Flags :=
  ⟨flags.word &&& MsgFlags.required.word &&&
    ~~~(MsgFlags.checksumPresent.union MsgFlags.moreToCome).word⟩

/-- Separates the sections from the checksum behind them, if the flags announce one. -/
def splitChecksum (flags : Flags) (bytes : Bytes) : Except Error (Bytes × Option UInt32) :=
  if flags.contains MsgFlags.checksumPresent then
    if bytes.length < 4 then .error Violation.noChecksum.toError
    else
      let count := bytes.length - 4
      .ok (bytes.take count, some (Bytes.toUInt32 (bytes.drop count)))
  else .ok (bytes, none)

/-- Reads the bytes after the header. -/
def readBody (header : Header) : Read Msg := do
  let flags ← Read.flags
  let unknown := unknownFlags flags
  if unknown ≠ Flags.empty then Read.violation (.unknownFlags unknown.word) else
  let (sections, checksum) ← splitChecksum flags (← Read.remainder)
  let found ← Read.inside sections (Read.untilEnd SectionsRead.step {})
  match found.command with
  | none => Read.violation .noBody
  | some command =>
    return {
      requestId := header.requestId
      responseTo := header.responseTo
      flags := flags
      command := command
      sequences := found.reversed.reverse
      checksum := checksum }

end Msg

end DocumentDriver
