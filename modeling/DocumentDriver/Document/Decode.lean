/-
This file reads documents from bytes. Every container declares its length, and its elements are
read from exactly the bytes it declares, so a wrong length anywhere is found. Containers may be
nested two hundred deep below the outermost document; `room` counts how many more may follow.
-/

import DocumentDriver.Bytes.Reader
import DocumentDriver.Document.Basic

namespace DocumentDriver

namespace Decode

/-- How deep containers may be nested below the outermost document. -/
def maxDepth : Nat := 200

/-- Takes one container off the front and gives the bytes of its elements. -/
def frame : Read Bytes := do
  let declared ← Read.peekInt32
  if declared.toInt < 5 then Read.corrupt (.invalidLength declared) else
  let size := declared.toInt.toNat
  let reader ← get
  let bytes := reader.rest.take size
  if bytes.length < size then Read.corrupt (.lengthExceeds size bytes.length) else
  let _ ← Read.take size
  if bytes.getLast? ≠ some 0 then Read.corrupt .unterminatedDocument else
  return (bytes.drop 4).dropLast

/-- The type byte and key in front of a value. -/
def label : Read (ElementType × String) := do
  let byte ← Read.byte
  match ElementType.ofByte? byte with
  | none => Read.corrupt (.unknownElementType byte)
  | some type => return (type, ← Read.name)

/-- Binary data: length, kind and bytes. The old kind carries its length twice. -/
def binary : Read Binary := do
  let length ← Read.length
  let subtype : BinarySubtype := ⟨← Read.byte⟩
  let payload ← Read.take length
  if subtype ≠ .old then return ⟨subtype, payload⟩ else
  Read.inside payload do
    let inner ← Read.length
    if inner + 4 ≠ length then Read.corrupt (.oldBinaryLength inner length) else
    return ⟨subtype, ← Read.remainder⟩

/-- An identifier. -/
def objectId : Read ObjectId := ObjectId.mk <$> Read.vector 12

/-- A boolean, which is one byte, 0 or 1. -/
def boolean (key : String) : Read Bool := do
  let byte ← Read.byte
  if byte = 0 then return false
  else if byte = 1 then return true
  else Read.corrupt (.invalidBoolean byte key)

/-- A regular expression: two texts, the flags in any order. -/
def regex : Read Regex := do
  let pattern ← Read.name
  return Regex.of pattern (← Read.name)

/-- Code with scope: a length, a text and a document, which together have that length. -/
def codeWithScope (document : Read Document) : Read Value := do
  let total ← Read.length
  if total < 14 then Read.corrupt (.codeWithScopeTooSmall total) else
  let contents ← Read.take (total - 4)
  Read.inside contents do
    let text ← Read.text
    let scope ← document
    if ← Read.atEnd then return .codeWithScope text scope
    else Read.corrupt .codeWithScopeLength

/-- One value of the given kind. `document` and `array` read the containers inside it. -/
def value (document : Read Document) (array : Read (List Value)) (key : String) :
    ElementType → Read Value
  | .double => return .double ⟨← Read.uint64⟩
  | .string => return .string (← Read.text)
  | .embeddedDocument => return .document (← document)
  | .array => return .array (← array)
  | .binary => return .binary (← binary)
  | .undefined => return .undefined
  | .objectId => return .objectId (← objectId)
  | .boolean => return .boolean (← boolean key)
  | .dateTime => return .dateTime (← Read.int64)
  | .null => return .null
  | .regularExpression => return .regex (← regex)
  | .dbPointer => do
    let space ← Read.text
    return .dbPointer ⟨space, ← objectId⟩
  | .javaScriptCode => return .code (← Read.text)
  | .symbol => return .symbol (← Read.text)
  | .javaScriptCodeWithScope => codeWithScope document
  | .int32 => return .int32 (← Read.int32)
  | .timestamp => do
    let increment ← Read.uint32
    return .timestamp ⟨← Read.uint32, increment⟩
  | .int64 => return .int64 (← Read.int64)
  | .decimal128 => return .decimal128 ⟨← Read.vector 16⟩
  | .maxKey => return .maxKey
  | .minKey => return .minKey

/-- One element: a type byte, a key and a value. -/
def element (document : Read Document) (array : Read (List Value)) : Read (String × Value) := do
  let (type, key) ← label
  return (key, ← value document array key type)

/-- One more entry of a document, in front of those read before. Its key must be new. -/
def entry (element : Read (String × Value)) (before : Document) : Read Document := do
  let (key, value) ← element
  if before.contains key then Read.corrupt (.duplicateKey key) else
  return (key, value) :: before

mutual

/-- A document with at most `room` containers nested in it, itself included. -/
def document : Nat → Read Document
  | 0 => Read.corrupt .nestingTooDeep
  | room + 1 => do
    let elements ← frame
    Read.inside elements do
      let reversed ← Read.untilEnd (entry (element (document room) (array room))) []
      return reversed.reverse

/-- An array with at most `room` containers nested in it, itself included. The keys of its
elements do not matter, only their order. -/
def array : Nat → Read (List Value)
  | 0 => Read.corrupt .nestingTooDeep
  | room + 1 => do
    let elements ← frame
    Read.inside elements do
      let labelled ← Read.listUntilEnd (element (document room) (array room))
      return labelled.map (·.2)

end

end Decode

namespace Read

/-- An outermost document. -/
def document : Read Document := Decode.document (Decode.maxDepth + 1)

end Read

namespace Document

/-- The document at the start of the bytes, and the number of bytes it takes. -/
def decodeLeading (bytes : Bytes) : Except Error (Document × Nat) := do
  let (document, reader) ← Read.document (Reader.start bytes)
  return (document, reader.position)

/-- The document that the bytes hold, all of them. -/
def decode (bytes : Bytes) : Except Error Document := do
  let (document, reader) ← Read.document (Reader.start bytes)
  if reader.rest.isEmpty then return document
  else .error (Corruption.trailingBytes reader.rest.length).toError

end Document

end DocumentDriver
