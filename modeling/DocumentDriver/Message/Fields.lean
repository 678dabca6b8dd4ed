/-
This file holds what the bodies of several kinds of messages have in common: a field that must be
zero, a run of documents up to the end, the absence of anything after the last field, and a flag
word.
-/

import DocumentDriver.Document.Decode
import DocumentDriver.Document.Encode
import DocumentDriver.Message.Flags
import DocumentDriver.Message.Header

namespace DocumentDriver

namespace Read

/-- Fails because a message breaks its format. -/
def violation {Result : Type} (cause : Violation) : Read Result := fail cause.toError

/-- A flag word. -/
def flags : Read Flags := Flags.mk <$> uint32

/-- All documents up to the end. -/
def documents : Read (List Document) := listUntilEnd document

/-- A field that must be zero. -/
def zero (kind : OpCode) : Read Unit := do
  let number ← int32
  if number = 0 then return () else violation (.reservedField kind number)

/-- Nothing is left after the last field. -/
def finish (kind : OpCode) : Read Unit := fun reader =>
  if reader.rest.isEmpty then .ok ((), reader)
  else .error (Violation.trailingBytes reader.rest.length kind).toError

end Read

namespace Flags

/-- The four bytes of a flag word. -/
def toBytes (flags : Flags) : Bytes := Bytes.ofUInt32 flags.word

end Flags

namespace Encode

/-- The written forms of documents, one after the other. -/
def documents (options : EncodeOptions) : List Document → Written
  | [] => .ok []
  | first :: rest => do
    let bytes ← first.encodeWith options
    return bytes ++ (← documents options rest)

end Encode

end DocumentDriver
