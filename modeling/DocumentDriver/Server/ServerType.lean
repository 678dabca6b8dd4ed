/-
This file holds the parts that a server can play in a deployment.
-/

namespace DocumentDriver

/-- The part that a server plays in its deployment. -/
inductive ServerType where
  | standalone
  /-- A router in front of a sharded deployment. -/
  | mongos
  | rsPrimary
  | rsSecondary
  /-- A member that votes and holds no data. -/
  | rsArbiter
  /-- A member that is hidden, or in none of the other states. -/
  | rsOther
  /-- A member that has not been told its configuration yet. -/
  | rsGhost
  /-- Nothing is known of the server. -/
  | unknown
deriving DecidableEq, Repr, Inhabited

namespace ServerType

def name : ServerType → String
  | standalone => "Standalone"
  | mongos => "Mongos"
  | rsPrimary => "RsPrimary"
  | rsSecondary => "RsSecondary"
  | rsArbiter => "RsArbiter"
  | rsOther => "RsOther"
  | rsGhost => "RsGhost"
  | unknown => "Unknown"

/-- All parts, in the order of their definition. -/
def all : List ServerType :=
  [standalone, mongos, rsPrimary, rsSecondary, rsArbiter, rsOther, rsGhost, unknown]

/-- The server holds data that operations can read. -/
def isDataBearing : ServerType → Bool
  | standalone | mongos | rsPrimary | rsSecondary => true
  | _ => false

/-- The server answered its last check. -/
def isAvailable : ServerType → Bool
  | unknown => false
  | _ => true

/-- The server belongs to a replica set. -/
def isReplicaSetMember : ServerType → Bool
  | rsPrimary | rsSecondary | rsArbiter | rsOther | rsGhost => true
  | _ => false

theorem isAvailable_iff {kind : ServerType} : kind.isAvailable = true ↔ kind ≠ unknown := by
  cases kind <;> simp [isAvailable]

end ServerType

end DocumentDriver
