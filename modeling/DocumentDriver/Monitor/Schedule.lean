/-
This file says when a monitor makes its next check: when the time between two checks is over, or
as soon as it may if the server promised news or someone asked for a scan. Requests for a scan
share one slot, so many of them make one check.
-/

import DocumentDriver.Options.Basic
import DocumentDriver.Time.Duration

namespace DocumentDriver

/-- What a monitor is doing. -/
inductive MonitorPhase where
  | checking
  /-- The monitor waits for the time of the next check or a request. -/
  | waiting (isStreaming : Bool)
  /-- The monitor has taken a request and waits until it may check again. -/
  | scanning
  | stopped
deriving DecidableEq, Repr

/-- Where a monitor stands in time. -/
structure Schedule where
  now : Duration := .zero
  /-- When the latest check began. -/
  started : Duration := .zero
  phase : MonitorPhase := .checking
  /-- The slot for requests is taken. -/
  isRequested : Bool := false
deriving DecidableEq, Repr

/-- Something that concerns the schedule of a monitor. -/
inductive ScheduleEvent where
  /-- Someone asks for a scan. -/
  | request
  /-- The check has ended. -/
  | finish (isStreaming : Bool)
  /-- Time passes. -/
  | pass (duration : Duration)
  /-- The monitor looks whether the time for a check has come. -/
  | wake
  /-- The monitor looks whether a scan is asked for. -/
  | take
  | stop

namespace Schedule

/-- The earliest time for the next check. -/
def earliest (options : ClientOptions) (started : Duration) : Duration :=
  started + .ofMilliseconds options.minHeartbeatFrequency

/-- The time of the next check if nobody asks for one. -/
def due (options : ClientOptions) (started : Duration) (isStreaming : Bool) : Duration :=
  if isStreaming then earliest options started
  else started + .ofMilliseconds options.heartbeatFrequency

/-- Begins a check. -/
def begin (schedule : Schedule) : Schedule :=
  { schedule with started := schedule.now, phase := .checking }

/-- Begins a check if its time has come. -/
def wake (options : ClientOptions) (schedule : Schedule) : Schedule :=
  match schedule.phase with
  | .waiting isStreaming =>
    if due options schedule.started isStreaming ≤ schedule.now then schedule.begin else schedule
  | .scanning =>
    if earliest options schedule.started ≤ schedule.now then schedule.begin else schedule
  | .checking | .stopped => schedule

/-- Takes a request out of the slot while nothing else is to be done. -/
def take (schedule : Schedule) : Schedule :=
  match schedule.phase with
  | .waiting _ =>
    if schedule.isRequested then { schedule with phase := .scanning, isRequested := false }
    else schedule
  | .checking | .scanning | .stopped => schedule

/-- The effect of an event. -/
def step (options : ClientOptions) (schedule : Schedule) : ScheduleEvent → Schedule
  | .request => { schedule with isRequested := true }
  | .finish isStreaming =>
    match schedule.phase with
    | .checking => { schedule with phase := .waiting isStreaming }
    | _ => schedule
  | .pass duration => { schedule with now := schedule.now + duration }
  | .wake => schedule.wake options
  | .take => schedule.take
  | .stop => { schedule with phase := .stopped }

end Schedule

end DocumentDriver
