/-
This file holds the operations on documents. A key occurs once: setting it again keeps its place
and replaces its value, and removing it leaves the others in order.
-/

import DocumentDriver.Document.Value

namespace DocumentDriver

namespace Document

/-- The keys in order. -/
def keys (document : Document) : List String := document.map (·.1)

/-- The value of a key. -/
def get? (document : Document) (key : String) : Option Value :=
  (document.find? (·.1 == key)).map (·.2)

/-- Whether a key is present. -/
def contains (document : Document) (key : String) : Bool := document.any (·.1 == key)

/-- Sets a key. A key that is present keeps its place, a new one goes to the end. -/
def insert : Document → String → Value → Document
  | [], key, value => [(key, value)]
  | (other, old) :: rest, key, value =>
    if other == key then (other, value) :: rest else (other, old) :: insert rest key value

/-- Removes a key and keeps the others in order. -/
def erase (document : Document) (key : String) : Document := document.filter (·.1 != key)

/-- The document that setting each entry in turn gives. -/
def ofEntries (entries : List (String × Value)) : Document :=
  entries.foldl (fun document entry => document.insert entry.1 entry.2) []

/-- The first key, which names the command in a command document. -/
def firstKey? (document : Document) : Option String := document.head?.map (·.1)

/-- Equality of documents in which doubles are compared as numbers. -/
def equal (left right : Document) : Bool := Value.equalEntries left right

/-! ### Values of one kind -/

/-- The text under a key, if a string is there. -/
def string? (document : Document) (key : String) : Option String :=
  document.get? key >>= Value.string?

/-- The truth under a key, if a boolean is there. -/
def boolean? (document : Document) (key : String) : Option Bool :=
  document.get? key >>= Value.boolean?

/-- The number under a key, if a 32-bit integer is there. -/
def int32? (document : Document) (key : String) : Option Int32 :=
  document.get? key >>= Value.int32?

/-- The number under a key, if a 64-bit integer is there. -/
def int64? (document : Document) (key : String) : Option Int64 :=
  document.get? key >>= Value.int64?

/-- The number under a key, if a double is there. -/
def double? (document : Document) (key : String) : Option Double :=
  document.get? key >>= Value.double?

/-- The integer under a key, if a whole number of any width is there. -/
def integer? (document : Document) (key : String) : Option Int64 :=
  document.get? key >>= Value.integer?

/-- The entries under a key, if a document is there. -/
def document? (document : Document) (key : String) : Option Document :=
  document.get? key >>= Value.document?

/-- The items under a key, if an array is there. -/
def array? (document : Document) (key : String) : Option (List Value) :=
  document.get? key >>= Value.array?

/-- The identifier under a key, if one is there. -/
def objectId? (document : Document) (key : String) : Option ObjectId :=
  document.get? key >>= Value.objectId?

/-- The moment under a key, if a date is there. -/
def dateTime? (document : Document) (key : String) : Option Int64 :=
  document.get? key >>= Value.dateTime?

end Document

/-- A reference to a document of another collection, perhaps in another database. -/
structure Reference where
  collection : String
  id : Value
  database : Option String

namespace Reference

/-- The document that a reference is written as. -/
def toDocument (reference : Reference) : Document :=
  [("$ref", .string reference.collection), ("$id", reference.id)] ++
    match reference.database with
    | none => []
    | some database => [("$db", .string database)]

/-- Equality of references in which doubles are compared as numbers. -/
def equal (left right : Reference) : Bool :=
  left.collection == right.collection && left.id.equal right.id && left.database == right.database

/-- The reference that a document stands for. -/
def ofDocument? (document : Document) : Option Reference := do
  let collection ← document.string? "$ref"
  let id ← document.get? "$id"
  return ⟨collection, id, document.string? "$db"⟩

end Reference

end DocumentDriver
