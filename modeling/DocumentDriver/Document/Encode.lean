/-
This file writes documents as bytes. A container carries its own length in front, so a container
is written by writing its contents first. A document can be written unless a key or a part of a
regular expression holds a zero byte, or a length does not fit 31 bits. Options of the caller act
on the outermost document alone: its `_id` goes first, its keys are checked, its size is capped.
-/

import DocumentDriver.Document.Basic

namespace DocumentDriver

/-- What keeps a document from being written. -/
inductive Unwritable where
  /-- A key holds a zero byte. -/
  | zeroInKey (key : String)
  /-- A part of a regular expression holds a zero byte. -/
  | zeroInRegex (part text : String)
  /-- A length does not fit its field. -/
  | length (count : Nat)
  /-- The length of old binary data does not fit once its own field is added. -/
  | oldBinary
  /-- A key that is checked begins with a dollar sign. -/
  | dollarKey (key : String)
  /-- A key that is checked contains a dot. -/
  | dottedKey (key : String)
deriving DecidableEq, Repr

/-- The error that a caller sees. -/
def Unwritable.toError : Unwritable → Error
  | zeroInKey key => .invalidKey ("C string " ++ quoted key ++ " contains a null byte")
  | zeroInRegex part text =>
    .invalidType ("regex " ++ part ++ " " ++ quoted text ++ " contains a null byte")
  | .length count => .integerRange s!"length {count} does not fit in an int32"
  | oldBinary => .integerRange "binary too large"
  | dollarKey key => .invalidKey ("key " ++ quoted key ++ " must not start with '$'")
  | dottedKey key => .invalidKey ("key " ++ quoted key ++ " must not contain '.'")

/-- Writing something either gives its bytes or fails. -/
abbrev Written := Except Error Bytes

namespace Encode

/-- Fails because something cannot be written. -/
def refuse (cause : Unwritable) : Written := .error cause.toError

/-- A length as four bytes, if it fits. -/
def length (count : Nat) : Written :=
  if count < 2 ^ 31 then .ok (littleEndian 4 count) else refuse (.length count)

/-- A text and a zero byte after it. The text must not hold one itself. -/
def name (text : String) : Written :=
  let bytes := Utf8.encode text
  if 0 ∈ bytes then refuse (.zeroInKey text) else .ok (bytes ++ [0])

/-- A text with its length in front and a zero byte behind, which the length counts. -/
def text (text : String) : Written := do
  let bytes := Utf8.encode text
  return (← length (bytes.length + 1)) ++ (bytes ++ [0])

/-- A part of a regular expression. -/
def regexPart (part text : String) : Written :=
  let bytes := Utf8.encode text
  if 0 ∈ bytes then refuse (.zeroInRegex part text) else .ok (bytes ++ [0])

/-- Binary data: length, kind and bytes. The old kind carries its length twice. -/
def binary (data : Binary) : Written := do
  let inner ← length data.bytes.length
  if data.subtype = .old then
    if data.bytes.length + 4 < 2 ^ 31 then
      return littleEndian 4 (data.bytes.length + 4) ++ data.subtype.byte :: (inner ++ data.bytes)
    else refuse .oldBinary
  else return inner ++ data.subtype.byte :: data.bytes

/-- Contents with their length in front, which counts its own four bytes. -/
def measured (contents : Bytes) : Written := do
  return (← length (contents.length + 4)) ++ contents

/-- The written form of a container from that of its elements. -/
def container (elements : Bytes) : Written := measured (elements ++ [0])

mutual

/-- The bytes of a value, its type byte and key apart. -/
def value : Value → Written
  | .double number => .ok (littleEndian 8 number.bits.toNat)
  | .string content | .code content | .symbol content => text content
  | .document fields => do container (← entries fields)
  | .array values => do container (← items 0 values)
  | .binary data => binary data
  | .undefined | .null | .maxKey | .minKey => .ok []
  | .objectId id => .ok id.toBytes
  | .boolean truth => .ok [if truth then 1 else 0]
  | .dateTime milliseconds => .ok (Bytes.ofInt64 milliseconds)
  | .regex expression => do
    let pattern ← regexPart "pattern" expression.pattern
    return pattern ++ (← regexPart "options" expression.options)
  | .dbPointer pointer => do return (← text pointer.space) ++ pointer.id.toBytes
  | .codeWithScope content scope => do
    let code ← text content
    measured (code ++ (← container (← entries scope)))
  | .int32 number => .ok (Bytes.ofInt32 number)
  | .timestamp moment => .ok (Bytes.ofUInt32 moment.increment ++ Bytes.ofUInt32 moment.time)
  | .int64 number => .ok (Bytes.ofInt64 number)
  | .decimal128 number => .ok number.bytes.toList

/-- The elements of a document. Each is a type byte, a key and a value. -/
def entries : List (String × Value) → Written
  | [] => .ok []
  | (key, first) :: rest => do
    let label ← name key
    let contents ← value first
    return first.elementType.byte :: (label ++ (contents ++ (← entries rest)))

/-- The elements of an array, whose keys are their places in decimal. -/
def items : Nat → List Value → Written
  | _, [] => .ok []
  | index, first :: rest => do
    let label ← name (toString index)
    let contents ← value first
    return first.elementType.byte :: (label ++ (contents ++ (← items (index + 1) rest)))

end

/-- Checks a key of the outermost document. -/
def checkKey (key : String) : Except Error Unit :=
  if key.toList.head? = some '$' then .error (Unwritable.dollarKey key).toError
  else if '.' ∈ key.toList then .error (Unwritable.dottedKey key).toError
  else .ok ()

/-- The elements of the outermost document when its keys are checked, each before it is
written. -/
def checkedEntries : List (String × Value) → Written
  | [] => .ok []
  | (key, first) :: rest => do
    checkKey key
    let label ← name key
    let contents ← value first
    return first.elementType.byte :: (label ++ (contents ++ (← checkedEntries rest)))

end Encode

/-- How a document is to be written. -/
structure EncodeOptions where
  /-- Keys of the outermost document must not begin with `$` or contain `.`. -/
  validateKeys : Bool := false
  /-- The `_id` of the outermost document is written first. -/
  moveId : Bool := false
  /-- The written form may not be longer. -/
  maxSize : Option Nat := none
deriving DecidableEq, Repr

/-- The size above which servers refuse a document. -/
def defaultMaxDocumentSize : Nat := 16 * 1024 * 1024

/-- How a document that a user hands in is written. -/
def EncodeOptions.user : EncodeOptions := ⟨true, true, some defaultMaxDocumentSize⟩

namespace Document

/-- The document with its `_id` moved to the front. -/
def idFirst (document : Document) : Document :=
  match document.get? "_id" with
  | none => document
  | some id => ("_id", id) :: document.erase "_id"

/-- Writes a document as the options ask. -/
def encodeWith (options : EncodeOptions) (document : Document) : Written := do
  let ordered := if options.moveId then document.idFirst else document
  let elements ←
    if options.validateKeys then Encode.checkedEntries ordered else Encode.entries ordered
  let bytes ← Encode.container elements
  match options.maxSize with
  | none => return bytes
  | some max =>
    if max < bytes.length then .error (.documentTooLarge bytes.length max) else return bytes

/-- Writes a document as it stands. -/
def encode (document : Document) : Written := document.encodeWith {}

end Document

end DocumentDriver
