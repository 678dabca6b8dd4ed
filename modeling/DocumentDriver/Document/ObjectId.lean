/-
This file holds the identifiers of documents: twelve bytes, of which the first four are the second
of creation. Their text is 24 hexadecimal digits, and they are ordered byte by byte, which is also
the order of their texts.
-/

import DocumentDriver.Error
import DocumentDriver.Text.Quoted
import DocumentDriver.Text.Utf8

namespace DocumentDriver

/-- An identifier of twelve bytes. -/
structure ObjectId where
  bytes : Vector UInt8 12
deriving DecidableEq, Repr

namespace ObjectId

/-- The bytes in order. -/
def toBytes (id : ObjectId) : Bytes := id.bytes.toList

/-- The identifier with the given bytes, if there are twelve. -/
def ofBytes? (bytes : Bytes) : Option ObjectId :=
  if exact : bytes.length = 12 then some ⟨⟨bytes.toArray, exact⟩⟩ else none

/-- Identifiers are ordered as their bytes are, the first difference deciding. -/
instance : LT ObjectId := ⟨fun left right => left.toBytes < right.toBytes⟩

instance (left right : ObjectId) : Decidable (left < right) :=
  inferInstanceAs (Decidable (left.toBytes < right.toBytes))

/-- The second of creation, counted from 1970. -/
def timestamp (id : ObjectId) : Nat := fromLittleEndian (id.toBytes.take 4).reverse

/-- The 24 digits of an identifier. -/
def hex (id : ObjectId) : String := Hex.encode id.toBytes

/-- An identifier as a report shows it. -/
def report (id : ObjectId) : String := "ObjectId(" ++ quoted id.hex ++ ")"

/-- Why a text is no identifier. -/
inductive Fault where
  /-- The text is not 24 ASCII characters long. -/
  | length
  /-- Two of its characters are no byte. -/
  | digits
deriving DecidableEq, Repr

/-- The wording of a fault in a text. -/
def Fault.toError (fault : Fault) (text : String) : Error :=
  match fault with
  | .length => .invalidArgument (quoted text ++ " is not a 24 character hex object id")
  | .digits => .invalidArgument (quoted text ++ " is not a hex object id")

/-- The byte that two characters stand for: two digits, or a plus sign and one digit. -/
def pair? (high low : Char) : Option UInt8 :=
  if high = '+' then (Hex.value? low).map UInt8.ofNat
  else do
    let upper ← Hex.value? high
    let lower ← Hex.value? low
    return UInt8.ofNat (16 * upper + lower)

/-- The bytes of a text of pairs. -/
def pairs? : List Char → Option Bytes
  | [] => some []
  | [_] => none
  | high :: low :: rest => do
    let byte ← pair? high low
    let others ← pairs? rest
    return byte :: others

/-- Reads the text of an identifier. -/
def parse (text : String) : Except Fault ObjectId :=
  if text.utf8ByteSize ≠ 24 ∨ ¬ text.toList.all (·.toNat < 128) then .error .length
  else
    match pairs? text.toList >>= ofBytes? with
    | some id => .ok id
    | none => .error .digits

end ObjectId

end DocumentDriver
