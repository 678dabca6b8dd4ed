/-
This file compares messages. Doubles in their documents are compared as numbers, so a message with
a number that is not a number differs from itself.
-/

import DocumentDriver.Message.Basic

namespace DocumentDriver

namespace Document

/-- Equality of lists of documents in which doubles are compared as numbers. -/
def equalLists : List Document → List Document → Bool
  | [], [] => true
  | left :: leftRest, right :: rightRest => left.equal right && equalLists leftRest rightRest
  | _, _ => false

/-- Equality of documents that may be absent. -/
def equalOptions : Option Document → Option Document → Bool
  | none, none => true
  | some left, some right => left.equal right
  | _, _ => false

end Document

/-- Equality of sequences in which doubles are compared as numbers. -/
def DocumentSequence.equalLists : List DocumentSequence → List DocumentSequence → Bool
  | [], [] => true
  | left :: leftRest, right :: rightRest =>
    left.identifier == right.identifier && Document.equalLists left.documents right.documents &&
      equalLists leftRest rightRest
  | _, _ => false

/-- Equality of messages in which doubles are compared as numbers. -/
def Message.equal : Message → Message → Bool
  | .reply left, .reply right =>
    left.requestId == right.requestId && left.responseTo == right.responseTo &&
      left.flags == right.flags && left.cursorId == right.cursorId &&
      left.startingFrom == right.startingFrom &&
      Document.equalLists left.documents right.documents
  | .update left, .update right =>
    left.requestId == right.requestId && left.collection == right.collection &&
      left.flags == right.flags && left.selector.equal right.selector &&
      left.update.equal right.update
  | .insert left, .insert right =>
    left.requestId == right.requestId && left.flags == right.flags &&
      left.collection == right.collection && Document.equalLists left.documents right.documents
  | .query left, .query right =>
    left.requestId == right.requestId && left.flags == right.flags &&
      left.collection == right.collection && left.skip == right.skip &&
      left.limit == right.limit && left.query.equal right.query &&
      Document.equalOptions left.fields right.fields
  | .getMore left, .getMore right =>
    left.requestId == right.requestId && left.collection == right.collection &&
      left.limit == right.limit && left.cursorId == right.cursorId
  | .delete left, .delete right =>
    left.requestId == right.requestId && left.collection == right.collection &&
      left.flags == right.flags && left.selector.equal right.selector
  | .killCursors left, .killCursors right =>
    left.requestId == right.requestId && left.cursorIds == right.cursorIds
  | .compressed left, .compressed right => left == right
  | .msg left, .msg right =>
    left.requestId == right.requestId && left.responseTo == right.responseTo &&
      left.flags == right.flags && left.command.equal right.command &&
      DocumentSequence.equalLists left.sequences right.sequences &&
      left.checksum == right.checksum && left.maxDocumentSize == right.maxDocumentSize
  | _, _ => false

end DocumentDriver
