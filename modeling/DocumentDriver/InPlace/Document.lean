/-
This file reads documents where they lie. Every container is looked at as a range of the bytes
around it, and how deep it lies is counted down to the deepest that a reader follows.
-/

import DocumentDriver.Document.Decode
import DocumentDriver.InPlace.Cursor

namespace DocumentDriver

namespace InPlace

variable [Machine]

open Scan

/-- Takes one container off the front, at some depth, and gives the bytes of its elements. -/
def frame (depth : Nat) : Scan Bytes := do
  if Decode.maxDepth < depth then corrupt .nestingTooDeep else
  let declared ← peekInt32
  if declared.toInt < 5 then corrupt (.invalidLength declared) else
  let size := declared.toInt.toNat
  let left ← remaining
  if left < size then corrupt (.lengthExceeds size left) else
  let bytes ← take size
  let last ← difference size 1
  if (← index bytes last) ≠ 0 then corrupt .unterminatedDocument else
  return ← slice bytes 4 last

/-- The type byte and key in front of a value. -/
def label : Scan (ElementType × String) := do
  let byte ← byte
  match ElementType.ofByte? byte with
  | none => corrupt (.unknownElementType byte)
  | some type => return (type, ← name)

/-- Binary data: length, kind and bytes. The old kind carries its length twice. -/
def binary : Scan Binary := do
  let length ← length
  let subtype : BinarySubtype := ⟨← byte⟩
  let payload ← take length
  if subtype ≠ .old then return ⟨subtype, payload⟩ else
  within payload do
    let inner ← Scan.length
    if (← sum inner 4) ≠ length then corrupt (.oldBinaryLength inner length) else
    return ⟨subtype, ← remainder⟩

/-- An identifier. -/
def objectId : Scan ObjectId := ObjectId.mk <$> vector 12

/-- A boolean, which is one byte, 0 or 1. -/
def boolean (key : String) : Scan Bool := do
  let byte ← byte
  if byte = 0 then return false
  else if byte = 1 then return true
  else corrupt (.invalidBoolean byte key)

/-- A regular expression: two texts, the flags in any order. -/
def regex : Scan Regex := do
  let pattern ← name
  return Regex.of pattern (← name)

/-- Code with scope: a length, a text and a document, which together have that length. -/
def codeWithScope (document : Scan Document) : Scan Value := do
  let total ← length
  if total < 14 then corrupt (.codeWithScopeTooSmall total) else
  let contents ← take (← difference total 4)
  within contents do
    let text ← text
    let scope ← document
    if ← isEmpty then return .codeWithScope text scope
    else corrupt .codeWithScopeLength

/-- One value of the given kind. `document` and `array` read the containers inside it. -/
def value (document : Scan Document) (array : Scan (List Value)) (key : String) :
    ElementType → Scan Value
  | .double => return .double ⟨← uint64⟩
  | .string => return .string (← text)
  | .embeddedDocument => return .document (← document)
  | .array => return .array (← array)
  | .binary => return .binary (← binary)
  | .undefined => return .undefined
  | .objectId => return .objectId (← objectId)
  | .boolean => return .boolean (← boolean key)
  | .dateTime => return .dateTime (← int64)
  | .null => return .null
  | .regularExpression => return .regex (← regex)
  | .dbPointer => do
    let space ← text
    return .dbPointer ⟨space, ← objectId⟩
  | .javaScriptCode => return .code (← text)
  | .symbol => return .symbol (← text)
  | .javaScriptCodeWithScope => codeWithScope document
  | .int32 => return .int32 (← int32)
  | .timestamp => do
    let increment ← uint32
    return .timestamp ⟨← uint32, increment⟩
  | .int64 => return .int64 (← int64)
  | .decimal128 => return .decimal128 ⟨← vector 16⟩
  | .maxKey => return .maxKey
  | .minKey => return .minKey

/-- One element: a type byte, a key and a value. -/
def element (document : Scan Document) (array : Scan (List Value)) : Scan (String × Value) := do
  let (type, key) ← label
  return (key, ← value document array key type)

/-- One more entry of a document, in front of those read before. Its key must be new. -/
def entry (element : Scan (String × Value)) (before : Document) : Scan Document := do
  let (key, value) ← element
  if before.contains key then corrupt (.duplicateKey key) else
  return (key, value) :: before

/-- Reads what lies one container deeper. -/
def below {Result : Type} (depth : Nat) (inner : Nat → Scan Result) : Scan Result := do
  inner (← sum depth 1)

mutual

/-- A document at some depth. Containers inside it are looked for in at most `room` further steps,
and there is none that could be left out. -/
def document : Nat → Nat → Scan Document
  | 0, depth => do
    let _ ← frame depth
    throw (.accident .endless)
  | room + 1, depth => do
    let elements ← frame depth
    within elements do
      let reversed ← untilEmpty
        (entry (element (below depth (document room)) (below depth (array room)))) []
      return reversed.reverse

/-- An array at some depth. The keys of its elements do not matter, only their order. -/
def array : Nat → Nat → Scan (List Value)
  | 0, depth => do
    let _ ← frame depth
    throw (.accident .endless)
  | room + 1, depth => do
    let elements ← frame depth
    within elements do
      let labelled ← listUntilEmpty (element (below depth (document room)) (below depth (array room)))
      return labelled.map (·.2)

end

/-- An outermost document. -/
def outermost : Scan Document := document (Decode.maxDepth + 1) 0

/-- The document at the start of the bytes, and the number of bytes it takes. -/
def decodeLeading (bytes : Bytes) : Except Halt (Document × Nat) := do
  let (document, cursor) ← outermost ⟨bytes, 0⟩
  return (document, cursor.place)

/-- The document that the bytes hold, all of them. -/
def decode (bytes : Bytes) : Except Halt Document := do
  let (document, count) ← decodeLeading bytes
  if count ≠ bytes.length then
    let trailing ← difference bytes.length count
    throw (.refused (Corruption.trailingBytes trailing).toError)
  return document

end InPlace

end DocumentDriver
