/-
This file finds the servers that can serve an operation: those that the deployment offers for it,
and of these the ones that answer about as fast as the fastest. A lag that cannot be computed is an
accident of the whole selection, whichever server it is of.
-/

import DocumentDriver.Selection.Staleness

namespace DocumentDriver

/-- What an operation asks of its server. -/
inductive SelectionCriteria where
  /-- The operation reads, with a preference. -/
  | read (preference : ReadPreference)
  /-- The operation writes. -/
  | write
  /-- The operation wants a server that passes a test. -/
  | predicate (test : ServerDescription → Bool)

namespace SelectionCriteria

/-- What an operation asks, as a report shows it. -/
def report : SelectionCriteria → String
  | read preference => "ReadPreference(" ++ preference.report ++ ")"
  | write => "Write"
  | predicate _ => "Predicate"

/-- The test of its own that an operation puts to a server. -/
def admits : SelectionCriteria → ServerDescription → Bool
  | predicate test, description => test description
  | _, _ => true

end SelectionCriteria

namespace Selection

/-- The servers with the first set of tags that some server has. Without any set, all of them. -/
def filterByTags (tagSets : List TagSet) (servers : List ServerDescription) :
    List ServerDescription :=
  if tagSets.isEmpty then servers
  else
    let matched := tagSets.map fun set => servers.filter (·.matchesTags set)
    (matched.find? (!·.isEmpty)).getD []

/-- The time of a round trip, which counts as none if it was not measured. -/
def latency (description : ServerDescription) : Duration :=
  description.roundTripTime.getD .zero

/-- The shortest time of a round trip to some servers. -/
def fastest? (servers : List ServerDescription) : Option Duration :=
  match servers with
  | [] => none
  | first :: rest => some (rest.foldl (fun best server => min best (latency server)) (latency first))

/-- The servers whose round trips take at most so much longer than the shortest. -/
def inLatencyWindow (threshold : Duration) (servers : List ServerDescription) :
    List ServerDescription :=
  match fastest? servers with
  | none => []
  | some fastest => servers.filter fun server => decide (latency server ≤ fastest + threshold)

/-- The primary, if there is one. -/
def primaries (topology : Topology) : List ServerDescription := topology.primary?.toList

/-- The secondaries that do not lag too much and have the tags that count. -/
def eligibleSecondaries (topology : Topology) (preference : ReadPreference) :
    Except Accident (List ServerDescription) := do
  let secondaries := topology.descriptions.filter (·.type == .rsSecondary)
  let fresh ← secondaries.filterM (Staleness.isWithin topology preference)
  return filterByTags preference.tagSets fresh

/-- A server is the primary, or a secondary that does not lag too much. -/
def isFreshMember (topology : Topology) (preference : ReadPreference)
    (server : ServerDescription) : Except Accident Bool :=
  if server.type == .rsPrimary then .ok true
  else if server.type == .rsSecondary then Staleness.isWithin topology preference server
  else .ok false

/-- The primary and the secondaries that do not lag too much, of which the tags count. -/
def eligibleMembers (topology : Topology) (preference : ReadPreference) :
    Except Accident (List ServerDescription) := do
  let fresh ← topology.descriptions.filterM (isFreshMember topology preference)
  return filterByTags preference.tagSets fresh

/-- The first servers, or the second ones where there are no first ones. -/
def orElse (first second : List ServerDescription) : List ServerDescription :=
  if first.isEmpty then second else first

/-- The members of a replica set that a read may go to. Where a primary is preferred and there is
one, nobody asks how far the others lag. -/
def readable (topology : Topology) (preference : ReadPreference) :
    Except Accident (List ServerDescription) :=
  match preference.mode with
  | .primary => .ok (primaries topology)
  | .primaryPreferred =>
    if (primaries topology).isEmpty then eligibleSecondaries topology preference
    else .ok (primaries topology)
  | .secondary => eligibleSecondaries topology preference
  | .secondaryPreferred => do
    return orElse (← eligibleSecondaries topology preference) (primaries topology)
  | .nearest => eligibleMembers topology preference

/-- The servers that can serve an operation, however slow they are. -/
def suitable (topology : Topology) (criteria : SelectionCriteria) :
    Except Accident (List ServerDescription) :=
  let available := topology.descriptions.filter (·.isAvailable)
  match topology.type with
  | .unknown => .ok []
  | .single => .ok (available.filter criteria.admits)
  | .sharded => .ok ((available.filter (·.type == .mongos)).filter criteria.admits)
  | .replicaSetNoPrimary | .replicaSetWithPrimary =>
    match criteria with
    | .write => .ok (primaries topology)
    | .predicate test => .ok (available.filter test)
    | .read preference => readable topology preference

/-- Fails if no server can be found as long as the deployment stays as it is. -/
def check (topology : Topology) (criteria : SelectionCriteria) : Except Error Unit := do
  topology.checkCompatible
  match criteria with
  | .read preference => preference.validate topology.heartbeatFrequency
  | _ => return ()

/-- Of the servers that suit an operation, those that it may go to. In a deployment that is a single
server, it does not matter how slow this is. -/
def window (topology : Topology) (suitable : List ServerDescription) : List ServerDescription :=
  if topology.type = .single then suitable
  else inLatencyWindow topology.localThreshold suitable

/-- The servers that an operation may go to, in the order of their addresses. There may be none
yet. -/
def select (topology : Topology) (criteria : SelectionCriteria) :
    Except Accident (Except Error (List ServerDescription)) :=
  match check topology criteria with
  | .error error => .ok (.error error)
  | .ok () => do
    return .ok (window topology (← suitable topology criteria))

/-- Whether a server is at hand. -/
def finds (topology : Topology) (criteria : SelectionCriteria) : Except Accident Bool := do
  match ← select topology criteria with
  | .ok servers => return !servers.isEmpty
  | .error _ => return false

end Selection

namespace Topology

/-- Whether a server is at hand for reads with a preference. -/
def hasReadableServer (topology : Topology) (preference : ReadPreference) : Except Accident Bool :=
  Selection.finds topology (.read preference)

/-- Whether a server is at hand for writes. -/
def hasWritableServer (topology : Topology) : Except Accident Bool :=
  Selection.finds topology .write

end Topology

end DocumentDriver
