/-
This file holds the sixteen bytes in front of every message: the length of the whole message, its
number, the number of the message it answers, and its kind. The length is checked before the kind
is looked at, so nothing else of a message that is too long is ever read.
-/

import DocumentDriver.Bytes.Reader
import DocumentDriver.Message.Violation

namespace DocumentDriver

/-- The number of bytes of a header. -/
def headerLength : Nat := 16

/-- The length above which a message is refused unless the caller says otherwise. -/
def defaultMaxMessageSize : Nat := 48000000

/-- What stands in front of a message. -/
structure Header where
  /-- The number of bytes of the message, the header included. -/
  length : Int32
  requestId : Int32
  /-- The number of the message that this one answers, or 0. -/
  responseTo : Int32
  kind : OpCode
deriving DecidableEq, Repr

namespace Header

/-- The sixteen bytes of a header. -/
def toBytes (header : Header) : Bytes :=
  Bytes.ofInt32 header.length ++ Bytes.ofInt32 header.requestId ++
    Bytes.ofInt32 header.responseTo ++ Bytes.ofInt32 header.kind.code

/-- The number of bytes after the header. -/
def bodyLength (header : Header) : Nat := header.length.toInt.toNat - headerLength

/-- A length is acceptable if it covers the header and does not exceed the ceiling. -/
def checkLength (length : Int32) (max : Nat) : Except Error Unit :=
  if length.toInt < headerLength then .error (Violation.messageLength length).toError
  else if max < length.toInt.toNat then .error (.messageTooLarge length.toInt.toNat max)
  else .ok ()

/-- The fields of a header. -/
def fields (max : Nat) : Read Header := do
  let length ← Read.int32
  checkLength length max
  let requestId ← Read.int32
  let responseTo ← Read.int32
  let kind ← OpCode.ofCode (← Read.int32)
  return ⟨length, requestId, responseTo, kind⟩

/-- The header at the start of the bytes. -/
def parse (bytes : Bytes) (max : Nat) : Except Error Header :=
  let front := bytes.take headerLength
  if front.length < headerLength then .error (Violation.shortHeader front.length).toError
  else (·.1) <$> fields max (Reader.start front)

end Header

end DocumentDriver
