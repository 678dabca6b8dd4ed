/-
This file reads fields off the front of a byte string. A reader knows the bytes that are left and
how many it has given out, since a report of missing bytes names the place. Every field either
takes exactly its bytes or fails without taking any; none looks past them.
-/

import DocumentDriver.Bytes.Corruption

namespace DocumentDriver

/-- The unread part of a byte string, and the number of bytes read before it. -/
structure Reader where
  position : Nat
  rest : Bytes
deriving DecidableEq, Repr

/-- A reader that has not read anything yet. -/
def Reader.start (bytes : Bytes) : Reader := ⟨0, bytes⟩

/-- An action that takes something off the front of a reader, or fails. -/
abbrev Read (Result : Type) := StateT Reader (Except Error) Result

namespace Read

/-- Fails with any error. -/
def fail {Result : Type} (error : Error) : Read Result := fun _ => .error error

/-- Fails because the bytes are no document. -/
def corrupt {Result : Type} (fault : Corruption) : Read Result := fail fault.toError

/-- The next bytes, exactly as many as asked for. -/
def take (count : Nat) : Read Bytes := fun reader =>
  let taken := reader.rest.take count
  if taken.length = count then
    .ok (taken, ⟨reader.position + count, reader.rest.drop count⟩)
  else
    .error (Corruption.shortage count reader.position taken.length).toError

/-- All the bytes that are left. -/
def remainder : Read Bytes := fun reader =>
  .ok (reader.rest, ⟨reader.position + reader.rest.length, []⟩)

/-- Whether no byte is left. -/
def atEnd : Read Bool := fun reader => .ok (reader.rest.isEmpty, reader)

/-- The next byte. -/
def byte : Read UInt8 := fun reader =>
  match reader.rest with
  | [] => .error (Corruption.shortage 1 reader.position 0).toError
  | first :: rest => .ok (first, ⟨reader.position + 1, rest⟩)

/-- The next bytes, as many as the type says. -/
def vector (count : Nat) : Read (Vector UInt8 count) := fun reader =>
  let taken := reader.rest.take count
  if exact : taken.length = count then
    .ok (⟨taken.toArray, exact⟩, ⟨reader.position + count, reader.rest.drop count⟩)
  else
    .error (Corruption.shortage count reader.position taken.length).toError

/-- A signed 32-bit number. -/
def int32 : Read Int32 := Bytes.toInt32 <$> take 4

/-- An unsigned 32-bit number. -/
def uint32 : Read UInt32 := Bytes.toUInt32 <$> take 4

/-- A signed 64-bit number. -/
def int64 : Read Int64 := Bytes.toInt64 <$> take 8

/-- An unsigned 64-bit number. -/
def uint64 : Read UInt64 := Bytes.toUInt64 <$> take 8

/-- The signed 32-bit number that comes next, which stays unread. -/
def peekInt32 : Read Int32 := fun reader =>
  match int32 reader with
  | .ok (number, _) => .ok (number, reader)
  | .error error => .error error

/-- A length, which is a signed 32-bit number that must not be negative. -/
def length : Read Nat := do
  let number ← int32
  if number.toInt < 0 then corrupt (.negativeLength number) else return number.toInt.toNat

/-- A text that reaches to the next zero byte, which is taken as well. -/
def name : Read String := fun reader =>
  let bytes := reader.rest.takeWhile (· != 0)
  match reader.rest.dropWhile (· != 0) with
  | [] => .error Corruption.unterminatedName.toError
  | _ :: rest =>
    match Utf8.decode bytes with
    | .ok text => .ok (text, ⟨reader.position + (bytes.length + 1), rest⟩)
    | .error fault => .error (Corruption.nameEncoding fault).toError

/-- A text with its length in front and a zero byte behind, which the length counts. -/
def text : Read String := do
  let count ← length
  if count = 0 then corrupt .emptyString else
  let bytes ← take count
  if bytes.getLast? ≠ some 0 then corrupt .unterminatedString else
  match Utf8.decode bytes.dropLast with
  | .ok text => return text
  | .error fault => corrupt (.stringEncoding fault)

/-- Reads from bytes that were taken out whole, with offsets counted from their start. -/
def inside {Result : Type} (bytes : Bytes) (inner : Read Result) : Read Result := fun reader =>
  match inner (Reader.start bytes) with
  | .ok (result, _) => .ok (result, reader)
  | .error error => .error error

/-- Repeats a step, each time on what the last one gave, at most `count` times and no longer than
bytes are left. -/
def repeatUpTo {Result : Type} (step : Result → Read Result) : Nat → Result → Read Result
  | 0, result => pure result
  | count + 1, result => do
    if ← atEnd then return result
    repeatUpTo step count (← step result)

/-- Repeats a step that takes at least one byte until none is left. There are at most as many
steps as bytes. -/
def untilEnd {Result : Type} (step : Result → Read Result) (result : Result) : Read Result :=
  fun reader => repeatUpTo step reader.rest.length result reader

/-- Reads one thing after the other until no byte is left. -/
def listUntilEnd {Item : Type} (item : Read Item) : Read (List Item) := do
  let reversed ← untilEnd (fun items => return (← item) :: items) []
  return reversed.reverse

end Read

end DocumentDriver
