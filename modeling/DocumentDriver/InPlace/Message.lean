/-
This file reads messages where they lie. The header and the body are ranges of the message, and so
are the sections in front of a checksum. A compressed message is restored into new bytes, which are
read in the same way; before that, its compressor is told how many bytes are expected.
-/

import DocumentDriver.InPlace.Document
import DocumentDriver.Message.Compression

namespace DocumentDriver

namespace InPlace

variable [Machine]

open Scan

/-! ### Fields -/

/-- Fails because a message breaks its format. -/
def violation {Result : Type} (cause : Violation) : Scan Result := fail cause.toError

/-- A flag word. -/
def flags : Scan Flags := Flags.mk <$> uint32

/-- All documents up to the end. -/
def documents : Scan (List Document) := listUntilEmpty outermost

/-- A field that must be zero. -/
def zero (kind : OpCode) : Scan Unit := do
  let number ← int32
  if number = 0 then return () else violation (.reservedField kind number)

/-- Nothing is left after the last field. -/
def finish (kind : OpCode) : Scan Unit := do
  if ← isEmpty then return ()
  else violation (.trailingBytes (← remaining) kind)

/-! ### The older kinds -/

/-- A query, perhaps with the fields that are asked for. -/
def query (header : Header) : Scan Query := do
  let flags ← flags
  let collection ← name
  let skip ← int32
  let limit ← int32
  let query ← outermost
  let fields ← if ← isEmpty then pure none else some <$> outermost
  finish .query
  return ⟨header.requestId, flags, collection, skip, limit, query, fields⟩

/-- A reply, with as many documents as it counts. -/
def reply (header : Header) : Scan Reply := do
  let flags ← flags
  let cursorId ← int64
  let startingFrom ← int32
  let count ← int32
  let documents ← documents
  if count.toInt ≠ documents.length then violation (.replyCount count documents.length) else
  return ⟨header.requestId, header.responseTo, flags, cursorId, startingFrom, documents⟩

/-- An insertion of all documents up to the end. -/
def insert (header : Header) : Scan Insert := do
  let flags ← flags
  let collection ← name
  return ⟨header.requestId, flags, collection, ← documents⟩

/-- An update: which documents, and what becomes of them. -/
def update (header : Header) : Scan Update := do
  zero .update
  let collection ← name
  let flags ← flags
  let selector ← outermost
  let update ← outermost
  finish .update
  return ⟨header.requestId, collection, flags, selector, update⟩

/-- A deletion. -/
def delete (header : Header) : Scan Delete := do
  zero .delete
  let collection ← name
  let flags ← flags
  let selector ← outermost
  finish .delete
  return ⟨header.requestId, collection, flags, selector⟩

/-- A request for more documents of a cursor. -/
def getMore (header : Header) : Scan GetMore := do
  zero .getMore
  let collection ← name
  let limit ← int32
  let cursorId ← int64
  finish .getMore
  return ⟨header.requestId, collection, limit, cursorId⟩

/-- The count is compared with the bytes that are left before it is used. -/
def killCursors (header : Header) : Scan KillCursors := do
  zero .killCursors
  let count ← length
  let available ← remaining
  if saturatingProduct count 8 ≠ available then violation (.cursorCount count available) else
  return ⟨header.requestId, ← listOf int64 count⟩

/-! ### Compressed messages -/

/-- A compressed message, which may not declare a negative size. -/
def compressed (header : Header) : Scan Compressed := do
  let inner ← attempt (OpCode.ofCode (← int32))
  let size ← int32
  if size.toInt < 0 then violation (.negativeSize size) else
  let compressor ← byte
  return ⟨header.requestId, header.responseTo, inner, size, compressor, ← remainder⟩

/-! ### Commands -/

/-- A sequence of documents, whose length counts its own four bytes. -/
def sequence : Scan DocumentSequence := do
  let size ← length
  if size < 4 then violation (.sequenceSize size) else
  let contents ← take (← difference size 4)
  within contents do
    let identifier ← name
    return ⟨identifier, ← documents⟩

/-- One section. -/
def part : Scan Section := do
  let kind ← byte
  if kind = 0 then return .body (← outermost)
  else if kind = 1 then return .sequence (← sequence)
  else fail (.invalidPayloadType kind)

/-- Reads one more section. -/
def gather (before : SectionsRead) : Scan SectionsRead := do
  attempt (before.add (← part))

/-- Separates the sections, which begin behind four bytes of flags, from the checksum behind them, if
the flags announce one. -/
def sections (flags : Flags) : Scan (Bytes × Option UInt32) := do
  if flags.contains MsgFlags.checksumPresent then
    let body := (← get).whole
    if body.length < 8 then violation .noChecksum else
    let split ← difference body.length 4
    let first ← index body split
    let second ← index body (← sum split 1)
    let third ← index body (← sum split 2)
    let fourth ← index body (← sum split 3)
    let sections ← slice body 4 split
    -- The checksum stands behind the sections, so nothing is left.
    set (Cursor.mk body body.length)
    return (sections, some (Bytes.toUInt32 [first, second, third, fourth]))
  else return (← remainder, none)

/-- A message in sections. It has exactly one command, and no flag that must be known and is not. -/
def msg (header : Header) : Scan Msg := do
  let flags ← flags
  let unknown := Msg.unknownFlags flags
  if unknown ≠ Flags.empty then violation (.unknownFlags unknown.word) else
  let (sections, checksum) ← sections flags
  let found ← within sections (untilEmpty gather {})
  match found.command with
  | none => violation .noBody
  | some command =>
    return {
      requestId := header.requestId
      responseTo := header.responseTo
      flags := flags
      command := command
      sequences := found.reversed.reverse
      checksum := checksum }

/-! ### Whole messages -/

/-- Reads the body of the kind that a header announces. -/
def body (header : Header) : Scan Message :=
  match header.kind with
  | .reply => Message.reply <$> reply header
  | .update => Message.update <$> update header
  | .insert => Message.insert <$> insert header
  | .query => Message.query <$> query header
  | .getMore => Message.getMore <$> getMore header
  | .delete => Message.delete <$> delete header
  | .killCursors => Message.killCursors <$> killCursors header
  | .compressed => Message.compressed <$> compressed header
  | .msg => Message.msg <$> msg header

/-- The fields of a header. -/
def fields (max : Nat) : Scan Header := do
  let length ← int32
  attempt (Header.checkLength length max)
  let requestId ← int32
  let responseTo ← int32
  let kind ← attempt (OpCode.ofCode (← int32))
  return ⟨length, requestId, responseTo, kind⟩

/-- The header at the start of the bytes. -/
def header (bytes : Bytes) (max : Nat) : Except Halt Header := do
  if bytes.length < headerLength then
    throw (.refused (Violation.shortHeader bytes.length).toError)
  let front ← slice bytes 0 headerLength
  let (header, _) ← fields max ⟨front, 0⟩
  return header

/-- The message that the bytes hold. A compressed message stays compressed. -/
def message (bytes : Bytes) (max : Nat) : Except Halt Message := do
  let header ← header bytes max
  let declared ← size header.length
  if declared ≠ bytes.length then
    throw (.refused (Violation.lengthMismatch header.length bytes.length).toError)
  let rest ← slice bytes headerLength bytes.length
  let (message, _) ← body header ⟨rest, 0⟩
  return message

/-- Restores bytes, of which the ceiling for messages leaves room for behind a header. One more byte
may be looked for, to find out that there are too many. -/
def expand (compressor : Compressor) (bytes : Bytes) (demanded max : Nat) : Except Halt Bytes := do
  let _ ← sum demanded 1
  let room ← difference max headerLength
  if room < demanded then throw (.accident .excessiveDemand)
  (compressor.decompress bytes demanded).mapError .refused

/-- Restores the message inside. -/
def restore (wrapper : Compressed) (registry : CompressorRegistry) (max : Nat) :
    Except Halt Message := do
  if wrapper.inner = .compressed then throw (.refused Violation.nestedCompression.toError)
  let length ← wrapper.restoredLength.mapError .refused
  (Header.checkLength length max).mapError .refused
  match registry.get? wrapper.compressor with
  | none =>
    throw (.refused (.compression s!"unknown compressor id {wrapper.compressor.toNat}"))
  | some compressor =>
    let restored ← expand compressor wrapper.bytes (← size wrapper.size) max
    let _ ← size length
    let header : Header := ⟨length, wrapper.requestId, wrapper.responseTo, wrapper.inner⟩
    message (header.toBytes ++ restored) max

/-- The message that the bytes hold, restored if it was compressed. -/
def ofBytes (bytes : Bytes) (max : Nat) (registry : CompressorRegistry) : Except Halt Message := do
  match ← message bytes max with
  | .compressed wrapper => restore wrapper registry max
  | message => return message

end InPlace

end DocumentDriver
