/-
This file reads bytes where they lie, as a machine does. A cursor holds all bytes and the place of
the next one. Sizes and places are computed with, and a byte or a range is taken by its place, so a
step can go wrong in a way that no caller is told of: this is an accident. An error that a caller is
told of is a refusal. Nothing here rules accidents out; a reader has to look before it takes.
-/

import DocumentDriver.Accident
import DocumentDriver.Bytes.Reader

namespace DocumentDriver

/-- A machine that holds bytes: its sizes are the numbers up to the largest one, which takes 32 bits
or more. -/
class Machine where
  largest : Nat
  enough : 2 ^ 32 - 1 ≤ largest

/-- A machine whose sizes have 64 bits. -/
@[reducible]
def Machine.wide : Machine := ⟨2 ^ 64 - 1, by decide⟩

namespace InPlace

/-- Why a computation ends without a result. -/
inductive Halt where
  | accident (cause : Accident)
  | refused (error : Error)
deriving DecidableEq, Repr

section Sizes

variable [Machine]

/-- The sum of two sizes. -/
def sum (left right : Nat) : Except Halt Nat :=
  if left + right ≤ Machine.largest then .ok (left + right) else .error (.accident .overflow)

/-- What is left of a size. -/
def difference (whole part : Nat) : Except Halt Nat :=
  if part ≤ whole then .ok (whole - part) else .error (.accident .underflow)

/-- A product that stops at the largest size instead of going beyond. -/
def saturatingProduct (left right : Nat) : Nat := min (left * right) Machine.largest

/-- A signed number taken for a size. -/
def size (number : Int32) : Except Halt Nat :=
  if 0 ≤ number.toInt then .ok number.toInt.toNat else .error (.accident .negativeSize)

/-- The byte at a place. -/
def index (bytes : Bytes) (place : Nat) : Except Halt UInt8 :=
  match bytes[place]? with
  | some byte => .ok byte
  | none => .error (.accident .outOfRange)

/-- The bytes from one place up to another. -/
def slice (bytes : Bytes) (start stop : Nat) : Except Halt Bytes :=
  if start ≤ stop ∧ stop ≤ bytes.length then .ok ((bytes.take stop).drop start)
  else .error (.accident .outOfRange)

end Sizes

/-- Some bytes and the place of the next one. -/
structure Cursor where
  whole : Bytes
  place : Nat
deriving DecidableEq, Repr

/-- An action that moves a cursor. -/
abbrev Scan (Result : Type) := StateT Cursor (Except Halt) Result

namespace Scan

variable [Machine] {Result Item State : Type}

/-- Fails with any error. -/
def fail (error : Error) : Scan Result := fun _ => .error (.refused error)

/-- Fails because the bytes are no document. -/
def corrupt (fault : Corruption) : Scan Result := fail fault.toError

/-- A step that reads nothing and may fail with an error. -/
def attempt (step : Except Error Result) : Scan Result := fun cursor =>
  match step with
  | .ok result => .ok (result, cursor)
  | .error error => .error (.refused error)

/-- The number of bytes that are left. -/
def remaining : Scan Nat := fun cursor => do
  let left ← difference cursor.whole.length cursor.place
  return (left, cursor)

/-- Whether no byte is left. -/
def isEmpty : Scan Bool := do
  return (← remaining) == 0

/-- All the bytes that are left. -/
def remainder : Scan Bytes := fun cursor => do
  let rest ← slice cursor.whole cursor.place cursor.whole.length
  return (rest, ⟨cursor.whole, cursor.whole.length⟩)

/-- The next bytes, exactly as many as asked for. -/
def take (count : Nat) : Scan Bytes := fun cursor => do
  let left ← difference cursor.whole.length cursor.place
  if left < count then .error (.refused (Corruption.shortage count cursor.place left).toError) else
  let stop ← sum cursor.place count
  let taken ← slice cursor.whole cursor.place stop
  return (taken, ⟨cursor.whole, stop⟩)

/-- The next byte. -/
def byte : Scan UInt8 := do
  let taken ← take 1
  return ← index taken 0

/-- The next bytes, as many as the type says. -/
def vector (count : Nat) : Scan (Vector UInt8 count) := do
  let taken ← take count
  if exact : taken.length = count then return ⟨taken.toArray, exact⟩
  else throw (.accident .outOfRange)

/-- A number in the next bytes, as many as its width says. -/
def number (width : Nat) (ofBytes : Bytes → Result) : Scan Result := do
  return ofBytes (← vector width).toList

/-- A signed 32-bit number. -/
def int32 : Scan Int32 := number 4 Bytes.toInt32

/-- An unsigned 32-bit number. -/
def uint32 : Scan UInt32 := number 4 Bytes.toUInt32

/-- A signed 64-bit number. -/
def int64 : Scan Int64 := number 8 Bytes.toInt64

/-- An unsigned 64-bit number. -/
def uint64 : Scan UInt64 := number 8 Bytes.toUInt64

/-- The signed 32-bit number that comes next, which stays unread. -/
def peekInt32 : Scan Int32 := fun cursor => do
  let (number, _) ← int32 cursor
  return (number, cursor)

/-- A length, which is a signed 32-bit number that must not be negative. -/
def length : Scan Nat := do
  let number ← int32
  if number.toInt < 0 then corrupt (.negativeLength number) else return number.toInt.toNat

/-- A text that reaches to the next zero byte, which is taken as well. -/
def name : Scan String := fun cursor => do
  let rest ← slice cursor.whole cursor.place cursor.whole.length
  match rest.findIdx? (· == 0) with
  | none => .error (.refused Corruption.unterminatedName.toError)
  | some stop =>
    match Utf8.decode (← slice rest 0 stop) with
    | .ok text => return (text, ⟨cursor.whole, ← sum cursor.place (← sum stop 1)⟩)
    | .error fault => .error (.refused (Corruption.nameEncoding fault).toError)

/-- A text with its length in front and a zero byte behind, which the length counts. -/
def text : Scan String := do
  let count ← length
  if count = 0 then corrupt .emptyString else
  let bytes ← take count
  let last ← difference count 1
  if (← index bytes last) ≠ 0 then corrupt .unterminatedString else
  match Utf8.decode (← slice bytes 0 last) with
  | .ok text => return text
  | .error fault => corrupt (.stringEncoding fault)

/-- Reads from bytes that were taken out whole, with places counted from their start. -/
def within (bytes : Bytes) (inner : Scan Result) : Scan Result := fun cursor => do
  let (result, _) ← inner ⟨bytes, 0⟩
  return (result, cursor)

/-- Repeats a step while bytes are left. No more repetitions are allowed for than the given number. -/
def repeatWhile (step : State → Scan State) : Nat → State → Scan State
  | 0, state => do
    if ← isEmpty then return state
    throw (.accident .endless)
  | count + 1, state => do
    if ← isEmpty then return state
    repeatWhile step count (← step state)

/-- Repeats a step while bytes are left. As many repetitions are allowed for as there are bytes. -/
def untilEmpty (step : State → Scan State) (state : State) : Scan State := fun cursor =>
  repeatWhile step (cursor.whole.length - cursor.place) state cursor

/-- Reads one thing after the other while bytes are left. -/
def listUntilEmpty (item : Scan Item) : Scan (List Item) := do
  let reversed ← untilEmpty (fun items => return (← item) :: items) []
  return reversed.reverse

/-- Reads as many things as asked for. -/
def listOf (item : Scan Item) : Nat → Scan (List Item)
  | 0 => return []
  | count + 1 => do
    let first ← item
    return first :: (← listOf item count)

end Scan

end InPlace

end DocumentDriver
