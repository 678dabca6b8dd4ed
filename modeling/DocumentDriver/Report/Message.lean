/-
This file shows messages. The flags of a kind are shown as the number in which the kind keeps
them, which has a sign in all kinds but one.
-/

import DocumentDriver.Message.Basic
import DocumentDriver.Report.Document

namespace DocumentDriver

/-- Flags as a number with a sign. -/
def Flags.signed (flags : Flags) : Report := report flags.word.toInt32

/-- Flags as a number without a sign. -/
def Flags.unsigned (flags : Flags) : Report := report flags.word

instance : Reported DocumentSequence where
  report sequence :=
    .record [field "identifier" sequence.identifier, field "documents" sequence.documents]

namespace Message

/-- The parts of a message that are shown beside its number. -/
def shownParts (whole : Message) : List (String × Report) :=
  let responseTo := field "response_to" whole.responseTo
  match whole with
  | msg message =>
    [field "type" "msg", responseTo, field "flags" message.flags.unsigned,
     field "command" message.command, field "sequences" message.sequences,
     field "checksum" message.checksum, field "more_to_come" message.moreToCome,
     field "exhaust_allowed" message.exhaustAllowed]
  | query message =>
    [field "type" "query", field "flags" message.flags.signed,
     field "collection" message.collection, field "skip" message.skip,
     field "return" message.limit, field "query" message.query,
     field "fields" message.fields]
  | reply message =>
    [field "type" "reply", responseTo, field "flags" message.flags.signed,
     field "cursor_id" message.cursorId, field "starting_from" message.startingFrom,
     field "documents" message.documents,
     field "number_returned" message.documents.length]
  | insert message =>
    [field "type" "insert", field "flags" message.flags.signed,
     field "collection" message.collection, field "documents" message.documents]
  | update message =>
    [field "type" "update", field "flags" message.flags.signed,
     field "collection" message.collection, field "selector" message.selector,
     field "update" message.update]
  | delete message =>
    [field "type" "delete", field "flags" message.flags.signed,
     field "collection" message.collection, field "selector" message.selector]
  | getMore message =>
    [field "type" "get_more", field "collection" message.collection,
     field "return" message.limit, field "cursor_id" message.cursorId]
  | killCursors message =>
    [field "type" "kill_cursors", field "cursor_ids" message.cursorIds]
  | compressed message =>
    [field "type" "compressed", responseTo, field "original_op_code" message.inner.code,
     field "uncompressed_size" message.size, field "compressor_id" message.compressor,
     field "compressed" message.bytes]

/-- The parts of a message that are shown where its number has no meaning. -/
def unnumbered (message : Message) : List (String × Report) :=
  field "replyable" message.isReplyable :: message.shownParts

/-- All that is shown of a message. -/
def shown (message : Message) : List (String × Report) :=
  field "request_id" message.requestId :: message.unnumbered

end Message

instance : Reported Message := ⟨fun message => .record message.shown⟩

end DocumentDriver
