/-
This file holds the versions with which a server process numbers the states of its view of the
deployment. Versions of one process are ordered by their counters, and versions of different
processes do not compare.
-/

import DocumentDriver.Document.Basic

namespace DocumentDriver

/-- A process and how far its state has come. -/
structure TopologyVersion where
  processId : ObjectId
  counter : Int64
deriving DecidableEq, Repr

namespace TopologyVersion

/-- The version that a document holds. -/
def ofDocument? (document : Document) : Option TopologyVersion := do
  let processId ← document.objectId? "processId"
  let counter ← document.integer? "counter"
  return ⟨processId, counter⟩

/-- The document that a version is written as. -/
def toDocument (version : TopologyVersion) : Document :=
  [("processId", .objectId version.processId), ("counter", .int64 version.counter)]

/-- The order of two versions of one process. -/
def compare? (left right : TopologyVersion) : Option Ordering :=
  if left.processId = right.processId then
    some (compareOfLessAndEq left.counter right.counter)
  else none

/-- A version is older than another one of the same process. -/
def isOlder (version other : TopologyVersion) : Bool :=
  version.processId == other.processId && version.counter < other.counter

theorem isOlder_iff {version other : TopologyVersion} :
    version.isOlder other = true ↔ version.compare? other = some .lt := by
  by_cases same : version.processId = other.processId <;>
    by_cases smaller : version.counter < other.counter <;>
    by_cases equal : version.counter = other.counter <;>
    simp [isOlder, compare?, compareOfLessAndEq, same, smaller, equal]

end TopologyVersion

end DocumentDriver
