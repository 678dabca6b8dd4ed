/-
This file holds the values that a document is made of. A document is a list of entries in order,
and a value may itself be a document, a list of values, or code with a document as its scope.
Two comparisons of values stand beside `=`: `=` tells doubles apart by their bits, while
`Value.equal` compares them as numbers.
-/

import DocumentDriver.Document.ElementType
import DocumentDriver.Document.ObjectId
import DocumentDriver.Document.Regex
import DocumentDriver.Number.Double

namespace DocumentDriver

/-- Binary data and its kind. -/
structure Binary where
  subtype : BinarySubtype
  bytes : Bytes
deriving DecidableEq, Repr

/-- A moment inside a replication log: a second, and a count within it. -/
structure Timestamp where
  time : UInt32
  increment : UInt32
deriving DecidableEq, Repr

/-- A decimal number of sixteen bytes, which are kept as they are. -/
structure Decimal128 where
  bytes : Vector UInt8 16
deriving DecidableEq, Repr

/-- A decimal number as a report shows it. -/
def Decimal128.report (decimal : Decimal128) : String :=
  "Decimal128(" ++ Hex.encode decimal.bytes.toList ++ ")"

/-- An outdated pointer to a document in a namespace. -/
structure DbPointer where
  space : String
  id : ObjectId
deriving DecidableEq, Repr

/-- A value of a document. -/
inductive Value where
  | double (number : Double)
  | string (text : String)
  | document (entries : List (String × Value))
  | array (items : List Value)
  | binary (data : Binary)
  | undefined
  | objectId (id : ObjectId)
  | boolean (truth : Bool)
  | dateTime (milliseconds : Int64)
  | null
  | regex (expression : Regex)
  | dbPointer (pointer : DbPointer)
  | code (text : String)
  | symbol (text : String)
  | codeWithScope (text : String) (scope : List (String × Value))
  | int32 (number : Int32)
  | timestamp (moment : Timestamp)
  | int64 (number : Int64)
  | decimal128 (number : Decimal128)
  | maxKey
  | minKey
deriving Repr, Inhabited

/-- A document: keys with their values, in order. -/
abbrev Document := List (String × Value)

namespace Value

/-- The kind of a value. -/
def elementType : Value → ElementType
  | double _ => .double
  | string _ => .string
  | document _ => .embeddedDocument
  | array _ => .array
  | binary _ => .binary
  | undefined => .undefined
  | objectId _ => .objectId
  | boolean _ => .boolean
  | dateTime _ => .dateTime
  | null => .null
  | regex _ => .regularExpression
  | dbPointer _ => .dbPointer
  | code _ => .javaScriptCode
  | symbol _ => .symbol
  | codeWithScope .. => .javaScriptCodeWithScope
  | int32 _ => .int32
  | timestamp _ => .timestamp
  | int64 _ => .int64
  | decimal128 _ => .decimal128
  | maxKey => .maxKey
  | minKey => .minKey

/-! ### Making numbers -/

/-- A 32-bit number, if the integer fits one. -/
def ofInt32 (number : Int) : Except Error Value :=
  if -2 ^ 31 ≤ number ∧ number < 2 ^ 31 then .ok (int32 (Int32.ofInt number))
  else .error (.integerRange
    s!"{number} does not fit in a 32-bit integer; use a 64-bit integer")

/-- A 64-bit number, if the natural number fits one. -/
def ofNat (number : Nat) : Except Error Value :=
  if number < 2 ^ 63 then .ok (int64 (Int64.ofNat number))
  else .error (.integerRange s!"{number} does not fit in an 8-byte integer")

/-! ### Looking into a value -/

/-- The text of a string. -/
def string? : Value → Option String
  | string text => some text
  | _ => none

/-- The truth of a boolean. -/
def boolean? : Value → Option Bool
  | boolean truth => some truth
  | _ => none

/-- The number of a 32-bit integer. -/
def int32? : Value → Option Int32
  | int32 number => some number
  | _ => none

/-- The number of a 64-bit integer. -/
def int64? : Value → Option Int64
  | int64 number => some number
  | _ => none

/-- The number of a double. -/
def double? : Value → Option Double
  | double number => some number
  | _ => none

/-- The integer that any number stands for. A double must be whole, and one past the range of 64
bits counts as the end of the range. -/
def integer? : Value → Option Int64
  | int32 number => some number.toInt64
  | int64 number => some number
  | double number => number.whole?.map clampInt64
  | _ => none

/-- The entries of a document. -/
def document? : Value → Option Document
  | document entries => some entries
  | _ => none

/-- The items of an array. -/
def array? : Value → Option (List Value)
  | array items => some items
  | _ => none

/-- The identifier of an object. -/
def objectId? : Value → Option ObjectId
  | objectId id => some id
  | _ => none

/-- The moment of a date, in milliseconds. -/
def dateTime? : Value → Option Int64
  | dateTime milliseconds => some milliseconds
  | _ => none

/-- Whether a flag that a server reports is set: a true boolean, a number other than zero, or any
other value than null and undefined. -/
def isTruthy : Value → Bool
  | boolean truth => truth
  | null | undefined => false
  | value =>
    match value.integer? with
    | some number => number != 0
    | none => true

/-! ### Equality of numbers -/

mutual

/-- Equality of values in which doubles are compared as numbers. -/
def equal : Value → Value → Bool
  | double left, double right => left.equal right
  | document left, document right => equalEntries left right
  | array left, array right => equalItems left right
  | codeWithScope left leftScope, codeWithScope right rightScope =>
    left == right && equalEntries leftScope rightScope
  | string left, string right => left == right
  | binary left, binary right => left == right
  | undefined, undefined => true
  | objectId left, objectId right => left == right
  | boolean left, boolean right => left == right
  | dateTime left, dateTime right => left == right
  | null, null => true
  | regex left, regex right => left == right
  | dbPointer left, dbPointer right => left == right
  | code left, code right => left == right
  | symbol left, symbol right => left == right
  | int32 left, int32 right => left == right
  | timestamp left, timestamp right => left == right
  | int64 left, int64 right => left == right
  | decimal128 left, decimal128 right => left == right
  | maxKey, maxKey => true
  | minKey, minKey => true
  | _, _ => false

/-- Equality of documents, entry by entry and in order. -/
def equalEntries : List (String × Value) → List (String × Value) → Bool
  | [], [] => true
  | (leftKey, left) :: leftRest, (rightKey, right) :: rightRest =>
    leftKey == rightKey && equal left right && equalEntries leftRest rightRest
  | _, _ => false

/-- Equality of arrays, item by item and in order. -/
def equalItems : List Value → List Value → Bool
  | [], [] => true
  | left :: leftRest, right :: rightRest => equal left right && equalItems leftRest rightRest
  | _, _ => false

end

end Value

end DocumentDriver
