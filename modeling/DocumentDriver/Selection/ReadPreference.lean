/-
This file holds the preferences of reads: which members of a replica set may answer, with which
tags, and how far they may lag behind.
-/

import DocumentDriver.Server.TagSet
import DocumentDriver.Text.Quoted
import DocumentDriver.Time.Duration

namespace DocumentDriver

/-- The members that a read may go to. -/
inductive ReadMode where
  | primary
  | primaryPreferred
  | secondary
  | secondaryPreferred
  | nearest
deriving DecidableEq, Repr, Inhabited

namespace ReadMode

/-- The word for a mode in a document. -/
def word : ReadMode → String
  | primary => "primary"
  | primaryPreferred => "primaryPreferred"
  | secondary => "secondary"
  | secondaryPreferred => "secondaryPreferred"
  | nearest => "nearest"

/-- The name of a mode in a report. -/
def name : ReadMode → String
  | primary => "Primary"
  | primaryPreferred => "PrimaryPreferred"
  | secondary => "Secondary"
  | secondaryPreferred => "SecondaryPreferred"
  | nearest => "Nearest"

end ReadMode

/-- Where a read may go. -/
structure ReadPreference where
  mode : ReadMode := .primary
  /-- Sets of tags, of which the first one that some server has counts. -/
  tagSets : List TagSet := []
  maxStaleness : Option Duration := none
deriving DecidableEq, Repr, Inhabited

namespace ReadPreference

/-- No bound on the lag may be smaller. -/
def smallestMaxStaleness : Duration := .ofSeconds 90

/-- How often a primary writes without being asked. -/
def idleWritePeriod : Duration := .ofSeconds 10

/-- The smallest bound on the lag that can be told at a rate of checks. -/
def staleFloor (heartbeat : Duration) : Duration :=
  max smallestMaxStaleness (heartbeat + idleWritePeriod)

/-- Why a preference makes no sense. -/
inductive Fault where
  /-- A primary is the only one there is, and does not lag. -/
  | restrictedPrimary
  /-- The bound on the lag is too small. -/
  | staleness (bound floor : Duration)
deriving DecidableEq, Repr

/-- The error that a caller sees. -/
def Fault.toError : Fault → Error
  | restrictedPrimary =>
    .invalidArgument "primary read preference cannot have tag sets or max staleness"
  | staleness bound floor =>
    .invalidArgument s!"max staleness {bound.text} must be at least {floor.text}"

/-- Checks a preference against the time between two checks of a server. -/
def check (preference : ReadPreference) (heartbeat : Duration) : Except Fault Unit :=
  if preference.mode = .primary ∧ (preference.tagSets ≠ [] ∨ preference.maxStaleness.isSome) then
    .error .restrictedPrimary
  else
    match preference.maxStaleness with
    | none => .ok ()
    | some bound =>
      if bound < staleFloor heartbeat then .error (.staleness bound (staleFloor heartbeat))
      else .ok ()

/-- Checks a preference, with the error that a caller sees. -/
def validate (preference : ReadPreference) (heartbeat : Duration) : Except Error Unit :=
  (preference.check heartbeat).mapError Fault.toError

/-- The document that a preference is sent as. -/
def toDocument (preference : ReadPreference) : Document :=
  let tags : Document :=
    if preference.tagSets.isEmpty then []
    else [("tags", .array (preference.tagSets.map fun set => .document set.toDocument))]
  let staleness : Document := match preference.maxStaleness with
    | none => []
    | some bound => [("maxStalenessSeconds", .int64 (Int64.ofNat bound.seconds))]
  [("mode", .string preference.mode.word)] ++ tags ++ staleness

/-! ### Report -/

/-- Items between brackets, with commas between them. -/
def listed (items : List String) : String := "[" ++ String.intercalate ", " items ++ "]"

/-- Tags as a report shows them. -/
def reportTags (set : TagSet) : String :=
  let shown := set.tags.map fun (name, text) => quoted name ++ ": " ++ quoted text
  "\x7b" ++ String.intercalate ", " shown ++ "\x7d"

/-- A preference as a report shows it. -/
def report (preference : ReadPreference) : String :=
  let staleness := match preference.maxStaleness with
    | none => "None"
    | some bound => "Some(" ++ bound.text ++ ")"
  "ReadPreference \x7b mode: " ++ preference.mode.name ++ ", tag_sets: " ++
    listed (preference.tagSets.map reportTags) ++ ", max_staleness: " ++ staleness ++ " \x7d"

end ReadPreference

end DocumentDriver
