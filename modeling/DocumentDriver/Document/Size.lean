/-
This file measures documents without writing them: how many bytes the written form has, how deep
the containers are nested, and whether the keys of every document in it are distinct.
-/

import DocumentDriver.Document.Basic

namespace DocumentDriver

namespace Value

mutual

/-- The number of bytes of a value, its type byte and key apart. -/
def size : Value → Nat
  | double _ | dateTime _ | int64 _ | timestamp _ => 8
  | int32 _ => 4
  | boolean _ => 1
  | undefined | null | maxKey | minKey => 0
  | objectId _ => 12
  | decimal128 _ => 16
  | string text | code text | symbol text => 4 + text.utf8ByteSize + 1
  | document entries => 4 + sizeEntries entries + 1
  | array items => 4 + sizeItems 0 items + 1
  | binary data =>
    4 + 1 + (if data.subtype = .old then 4 else 0) + data.bytes.length
  | regex expression =>
    expression.pattern.utf8ByteSize + 1 + expression.options.utf8ByteSize + 1
  | dbPointer pointer => 4 + pointer.space.utf8ByteSize + 1 + 12
  | codeWithScope text scope => 4 + (4 + text.utf8ByteSize + 1) + (4 + sizeEntries scope + 1)

/-- The number of bytes of the entries of a document. -/
def sizeEntries : List (String × Value) → Nat
  | [] => 0
  | (key, value) :: rest => 1 + (key.utf8ByteSize + 1) + size value + sizeEntries rest

/-- The number of bytes of the items of an array, whose keys are their places in decimal. -/
def sizeItems : Nat → List Value → Nat
  | _, [] => 0
  | index, value :: rest =>
    1 + ((toString index).utf8ByteSize + 1) + size value + sizeItems (index + 1) rest

end

mutual

/-- How many containers (documents, arrays and scopes) are nested in a value at most. -/
def depth : Value → Nat
  | document entries => depthEntries entries + 1
  | array items => depthItems items + 1
  | codeWithScope _ scope => depthEntries scope + 1
  | _ => 0

/-- How many containers are nested in entries at most. -/
def depthEntries : List (String × Value) → Nat
  | [] => 0
  | (_, value) :: rest => max (depth value) (depthEntries rest)

/-- How many containers are nested in items at most. -/
def depthItems : List Value → Nat
  | [] => 0
  | value :: rest => max (depth value) (depthItems rest)

end

mutual

/-- In every document inside a value no key occurs twice. -/
def KeysDistinct : Value → Prop
  | document entries => (entries.map (·.1)).Nodup ∧ EntriesKeysDistinct entries
  | array items => ItemsKeysDistinct items
  | codeWithScope _ scope => (scope.map (·.1)).Nodup ∧ EntriesKeysDistinct scope
  | _ => True

/-- In every document inside the entries no key occurs twice. -/
def EntriesKeysDistinct : List (String × Value) → Prop
  | [] => True
  | (_, value) :: rest => KeysDistinct value ∧ EntriesKeysDistinct rest

/-- In every document inside the items no key occurs twice. -/
def ItemsKeysDistinct : List Value → Prop
  | [] => True
  | value :: rest => KeysDistinct value ∧ ItemsKeysDistinct rest

end

end Value

namespace Document

/-- The number of bytes of a document, with its length in front and the zero byte behind. -/
def size (document : Document) : Nat := 4 + Value.sizeEntries document + 1

/-- How many containers are nested below a document at most. -/
def depth (document : Document) : Nat := Value.depthEntries document

/-- No key occurs twice, at any level. -/
def KeysDistinct (document : Document) : Prop :=
  document.keys.Nodup ∧ Value.EntriesKeysDistinct document

end Document

end DocumentDriver
