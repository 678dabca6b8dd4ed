/-
This file lists what can be wrong with bytes that should hold a document, and words each fault.
All of them are one cause to a caller, `Error.corruptData`.
-/

import DocumentDriver.Error
import DocumentDriver.Text.Quoted
import DocumentDriver.Text.Utf8

namespace DocumentDriver

/-- What can be wrong with bytes that should hold a document. -/
inductive Corruption where
  /-- A field needs `wanted` bytes at `offset` of its container, which has fewer left. -/
  | shortage (wanted offset available : Nat)
  /-- A length field is negative. -/
  | negativeLength (length : Int32)
  /-- A name has no zero byte after it. -/
  | unterminatedName
  /-- A name is no UTF-8. -/
  | nameEncoding (fault : Utf8.Fault)
  /-- The length of a string does not even cover its final zero byte. -/
  | emptyString
  /-- A string does not end with a zero byte. -/
  | unterminatedString
  /-- A string is no UTF-8. -/
  | stringEncoding (fault : Utf8.Fault)
  /-- Bytes are left after the document. -/
  | trailingBytes (count : Nat)
  /-- Documents are nested deeper than a reader follows. -/
  | nestingTooDeep
  /-- A document declares a length that no document has. -/
  | invalidLength (declared : Int32)
  /-- A document declares more bytes than there are. -/
  | lengthExceeds (declared available : Nat)
  /-- A document does not end with a zero byte. -/
  | unterminatedDocument
  /-- An element begins with a type byte that stands for nothing. -/
  | unknownElementType (byte : UInt8)
  /-- A boolean is neither 0 nor 1. -/
  | invalidBoolean (byte : UInt8) (key : String)
  /-- A document holds a key twice. -/
  | duplicateKey (key : String)
  /-- The inner length of old binary data is not the outer one less its own four bytes. -/
  | oldBinaryLength (inner outer : Nat)
  /-- Code with scope declares fewer bytes than its shortest form has. -/
  | codeWithScopeTooSmall (declared : Nat)
  /-- Code with scope declares another length than its contents have. -/
  | codeWithScopeLength
deriving DecidableEq, Repr

namespace Corruption

/-- The wording of a fault. -/
def message : Corruption → String
  | shortage wanted offset available =>
    s!"expected {wanted} bytes at offset {offset}, only {available} available"
  | negativeLength length => s!"negative length {length.toInt}"
  | unterminatedName => "unterminated C string"
  | nameEncoding fault => "invalid UTF-8 in C string: " ++ fault.message
  | emptyString => "string length must include the terminator"
  | unterminatedString => "string is not null-terminated"
  | stringEncoding fault => "invalid UTF-8 in string: " ++ fault.message
  | trailingBytes count => s!"{count} trailing bytes after document"
  | nestingTooDeep => "document nesting is too deep"
  | invalidLength declared => s!"invalid document length {declared.toInt}"
  | lengthExceeds declared available =>
    s!"document length {declared} exceeds the {available} bytes available"
  | unterminatedDocument => "document is not null-terminated"
  | unknownElementType byte => "unknown element type 0x" ++ Hex.padded 2 byte.toNat
  | invalidBoolean byte key => s!"invalid boolean byte {byte.toNat} for key " ++ quoted key
  | duplicateKey key => "duplicate key " ++ quoted key
  | oldBinaryLength inner outer =>
    s!"old binary inner length {inner} does not match outer length {outer}"
  | codeWithScopeTooSmall declared => s!"code with scope length {declared} is too small"
  | codeWithScopeLength => "code with scope length does not match its contents"

/-- A fault as a caller sees it. -/
def toError (fault : Corruption) : Error := .corruptData fault.message

end Corruption

end DocumentDriver
