/-
This file estimates how far a secondary lags behind, from the dates of the last writes that the
servers report. The estimate is made in milliseconds of 64 bits, and a step that leaves the 64 bits
is an accident; `exactLag` is the same sum over all integers. The lag is computed whether a read
bounds it or not.
-/

import DocumentDriver.Number.Checked
import DocumentDriver.Selection.ReadPreference
import DocumentDriver.Topology.Basic

namespace DocumentDriver

namespace Staleness

/-- The whole milliseconds of a length of time, or the most that 64 bits hold. -/
def milliseconds (duration : Duration) : Int64 :=
  if duration.milliseconds < 2 ^ 63 then Int64.ofNat duration.milliseconds else Int64.maxValue

/-- The milliseconds from one moment to another, negative if the first one is later. -/
def gap (later earlier : Duration) : Int64 :=
  if earlier ≤ later then milliseconds ⟨later.nanoseconds - earlier.nanoseconds⟩
  else -milliseconds ⟨earlier.nanoseconds - later.nanoseconds⟩

/-- What the estimate for a secondary is made of. -/
inductive Evidence where
  /-- There is a primary: the time between the two checks, and both last writes. -/
  | primary (updateGap write primaryWrite : Int64)
  /-- There is none: the last write, and the latest one of any secondary. -/
  | freshest (write freshestWrite : Int64)
deriving DecidableEq, Repr

/-- The latest of some dates. -/
def latest : List Int64 → Option Int64
  | [] => none
  | first :: rest => some (rest.foldl (fun best date => if best < date then date else best) first)

/-- The dates of the last writes of the secondaries that report them. -/
def secondaryWrites (topology : Topology) : List Int64 :=
  (topology.descriptions.filter (·.type == .rsSecondary)).filterMap (·.lastWriteDate)

/-- What is known of a secondary, if its lag can be told at all. -/
def evidence? (topology : Topology) (secondary : ServerDescription) : Option Evidence := do
  let write ← secondary.lastWriteDate
  match topology.primary? with
  | some primary =>
    let primaryWrite ← primary.lastWriteDate
    return .primary (gap secondary.updatedAt primary.updatedAt) write primaryWrite
  | none => return .freshest write (← latest (secondaryWrites topology))

namespace Evidence

/-- The estimated lag in milliseconds of 64 bits. -/
def lag (heartbeat : Int64) : Evidence → Except Accident Int64
  | primary updateGap write primaryWrite => do
    let ahead ← Checked.difference write primaryWrite
    let behind ← Checked.difference updateGap ahead
    Checked.sum behind heartbeat
  | freshest write freshestWrite => do
    let behind ← Checked.difference freshestWrite write
    Checked.sum behind heartbeat

/-- The estimated lag over the integers. -/
def exactLag (heartbeat : Int) : Evidence → Int
  | primary updateGap write primaryWrite =>
    updateGap.toInt - (write.toInt - primaryWrite.toInt) + heartbeat
  | freshest write freshestWrite => freshestWrite.toInt - write.toInt + heartbeat

end Evidence

/-- The estimated lag of a secondary, if anything is known of it. -/
def of? (topology : Topology) (secondary : ServerDescription) :
    Except Accident (Option Duration) :=
  match evidence? topology secondary with
  | none => .ok none
  | some evidence => do
    let lag ← evidence.lag (milliseconds topology.heartbeatFrequency)
    return some (.ofMilliseconds lag.toInt.toNat)

/-- A lag is no longer than a bound, as far as both are known. -/
def isAllowed : Option Duration → Option Duration → Bool
  | some bound, some lag => decide (lag ≤ bound)
  | _, _ => true

/-- A secondary does not lag more than a preference allows, as far as can be told. -/
def isWithin (topology : Topology) (preference : ReadPreference)
    (secondary : ServerDescription) : Except Accident Bool := do
  return isAllowed preference.maxStaleness (← of? topology secondary)

end Staleness

end DocumentDriver
