/-
This file names the kinds of values that a document holds, each with the byte that announces it,
and the kinds of binary data.
-/

namespace DocumentDriver

/-- The kinds of values. -/
inductive ElementType where
  | double | string | embeddedDocument | array | binary | undefined | objectId | boolean
  | dateTime | null | regularExpression | dbPointer | javaScriptCode | symbol
  | javaScriptCodeWithScope | int32 | timestamp | int64 | decimal128 | maxKey | minKey
deriving DecidableEq, Repr

namespace ElementType

/-- The byte that announces a kind. -/
def byte : ElementType → UInt8
  | double => 0x01
  | string => 0x02
  | embeddedDocument => 0x03
  | array => 0x04
  | binary => 0x05
  | undefined => 0x06
  | objectId => 0x07
  | boolean => 0x08
  | dateTime => 0x09
  | null => 0x0A
  | regularExpression => 0x0B
  | dbPointer => 0x0C
  | javaScriptCode => 0x0D
  | symbol => 0x0E
  | javaScriptCodeWithScope => 0x0F
  | int32 => 0x10
  | timestamp => 0x11
  | int64 => 0x12
  | decimal128 => 0x13
  | maxKey => 0x7F
  | minKey => 0xFF

/-- All kinds, in the order of their bytes. -/
def all : List ElementType :=
  [double, string, embeddedDocument, array, binary, undefined, objectId, boolean, dateTime, null,
   regularExpression, dbPointer, javaScriptCode, symbol, javaScriptCodeWithScope, int32, timestamp,
   int64, decimal128, maxKey, minKey]

/-- The kind that a byte announces. -/
def ofByte? (byte : UInt8) : Option ElementType := all.find? (·.byte == byte)

/-- A byte announces a kind exactly when it is the byte of that kind. -/
theorem ofByte?_byte (kind : ElementType) : ofByte? kind.byte = some kind := by
  cases kind <;> decide

theorem byte_of_ofByte? {byte : UInt8} {kind : ElementType} (found : ofByte? byte = some kind) :
    kind.byte = byte := by
  simpa using List.find?_some found

/-- The name of a kind. -/
def name : ElementType → String
  | double => "Double"
  | string => "String"
  | embeddedDocument => "EmbeddedDocument"
  | array => "Array"
  | binary => "Binary"
  | undefined => "Undefined"
  | objectId => "ObjectId"
  | boolean => "Boolean"
  | dateTime => "DateTime"
  | null => "Null"
  | regularExpression => "RegularExpression"
  | dbPointer => "DbPointer"
  | javaScriptCode => "JavaScriptCode"
  | symbol => "Symbol"
  | javaScriptCodeWithScope => "JavaScriptCodeWithScope"
  | int32 => "Int32"
  | timestamp => "Timestamp"
  | int64 => "Int64"
  | decimal128 => "Decimal128"
  | maxKey => "MaxKey"
  | minKey => "MinKey"

end ElementType

/-- The kind of some binary data, which is one byte. Nine of its values have a meaning, those
from `80` up are free for users, and the rest is kept for later. -/
structure BinarySubtype where
  byte : UInt8
deriving DecidableEq, Repr

namespace BinarySubtype

/-- Data of no particular kind. -/
def generic : BinarySubtype := ⟨0⟩

/-- The outdated kind whose data carries its length a second time. -/
def old : BinarySubtype := ⟨2⟩

/-- The name of a kind of binary data. -/
def name (subtype : BinarySubtype) : String :=
  match subtype.byte with
  | 0x00 => "Generic"
  | 0x01 => "Function"
  | 0x02 => "BinaryOld"
  | 0x03 => "UuidOld"
  | 0x04 => "Uuid"
  | 0x05 => "Md5"
  | 0x06 => "Encrypted"
  | 0x07 => "Column"
  | 0x08 => "Sensitive"
  | byte =>
    if byte < 0x80 then s!"Reserved({byte.toNat})" else s!"UserDefined({byte.toNat})"

end BinarySubtype

end DocumentDriver
