/-
This file proves that requests for a scan are brought together but never lost. Whatever happens to the
schedule of a monitor, requests at any moment, checks of any length, and looks of the waiting monitor
at the time and at the slot for requests in any order, two checks do not begin closer together than
they may. And from a request on there is one in the slot until the next check begins, or the monitor
has taken one and waits for nothing but the earliest time of this check. So a request that finds the
slot taken needs no place of its own.
-/

import DocumentDriver.Proofs.Cluster.Handles

namespace DocumentDriver

/-- Checks do not come faster than they may. -/
theorem ClientOptions.least_le_heartbeat_of_validate (options : ClientOptions)
    (valid : options.validate = .ok ()) :
    options.minHeartbeatFrequency ≤ options.heartbeatFrequency := by
  refine Nat.le_of_not_lt fun faster => ?_
  unfold validate check at valid
  simp only [if_pos faster] at valid
  split at valid
  · cases valid
  · split at valid <;> cases valid

/-! ### What an event does to a schedule -/

namespace Schedule

variable {options : ClientOptions} {schedule : Schedule}

/-- A monitor that has taken a request waits for nothing but the earliest time of its next check:
whenever it looks, it begins the check if this time has come, and only then. -/
structure OnlyWaits (options : ClientOptions) (schedule : Schedule) : Prop where
  scanning : schedule.phase = .scanning
  begins : ∀ duration,
    ((schedule.step options (.pass duration)).step options .wake).phase = .checking ↔
      earliest options schedule.started ≤ schedule.now + duration

/-- A request is heeded: it is in the slot, from which the monitor takes it when it looks while it
waits, or the monitor has taken it and only waits for its time, unless the monitor has stopped. -/
inductive Heeds (options : ClientOptions) (schedule : Schedule) : Prop
  | queued (requested : schedule.isRequested = true)
      (taken : ∀ isStreaming, schedule.phase = .waiting isStreaming →
        (schedule.step options .take).OnlyWaits options)
  | taken (waits : schedule.OnlyWaits options)
  | stopped (stopped : schedule.phase = .stopped)

theorem onlyWaits_of_scanning (scanning : schedule.phase = .scanning) :
    schedule.OnlyWaits options := by
  refine ⟨scanning, fun duration => ?_⟩
  simp only [step, wake, scanning]
  split
  · next early => exact iff_of_true rfl early
  · next late => exact iff_of_false (by simp) late

theorem heeds_of_requested (requested : schedule.isRequested = true) : schedule.Heeds options := by
  refine .queued requested fun isStreaming waiting => onlyWaits_of_scanning ?_
  simp only [step, take, waiting, requested, if_true]

/-- Nothing but the slot and the phase decides whether a request is heeded. -/
theorem Heeds.of_same {other : Schedule} (heeds : schedule.Heeds options)
    (requested : other.isRequested = schedule.isRequested)
    (phase : schedule.phase = .scanning ∨ schedule.phase = .stopped →
      other.phase = schedule.phase) : other.Heeds options := by
  cases heeds with
  | queued queued => exact heeds_of_requested (requested.trans queued)
  | taken waits =>
    exact .taken (onlyWaits_of_scanning ((phase (.inl waits.scanning)).trans waits.scanning))
  | stopped stopped => exact .stopped ((phase (.inr stopped)).trans stopped)

/-- The next check is never due before it may begin. -/
theorem earliest_le_due (ordered : options.minHeartbeatFrequency ≤ options.heartbeatFrequency)
    (started : Duration) (isStreaming : Bool) :
    earliest options started ≤ due options started isStreaming := by
  unfold due earliest
  split
  · exact Nat.le_refl _
  · exact Nat.add_le_add_left (Nat.mul_le_mul_left 1000000 ordered) started.nanoseconds

/-- What an event may do: it begins the next check when its time has come, or it leaves the checks as
they are and loses no request. -/
inductive Moves (options : ClientOptions) (schedule next : Schedule) : Prop
  | begins (idle : schedule.phase ≠ .checking)
      (early : earliest options schedule.started ≤ schedule.now) (begun : next = schedule.begin)
  | keeps (started : next.started = schedule.started)
      (idle : schedule.phase ≠ .checking → next.phase ≠ .checking)
      (heeds : schedule.Heeds options → next.Heeds options)

theorem moves_wake (ordered : options.minHeartbeatFrequency ≤ options.heartbeatFrequency) :
    schedule.Moves options (schedule.wake options) := by
  unfold wake
  cases phase : schedule.phase with
  | waiting isStreaming =>
    dsimp only
    split
    · next due =>
      refine .begins (by simp [phase]) ?_ rfl
      exact Nat.le_trans (earliest_le_due ordered schedule.started isStreaming) due
    · exact .keeps rfl id id
  | scanning =>
    dsimp only
    split
    · next early => exact .begins (by simp [phase]) early rfl
    · exact .keeps rfl id id
  | checking => exact .keeps rfl id id
  | stopped => exact .keeps rfl id id

/-- A request that is taken out of the slot is heeded from then on by the phase. -/
theorem moves_take : schedule.Moves options schedule.take := by
  unfold take
  cases phase : schedule.phase with
  | waiting isStreaming =>
    dsimp only
    split
    · exact .keeps rfl (fun _ => by simp) fun _ => .taken (onlyWaits_of_scanning rfl)
    · exact .keeps rfl id id
  | checking => exact .keeps rfl id id
  | scanning => exact .keeps rfl id id
  | stopped => exact .keeps rfl id id

theorem moves_finish (isStreaming : Bool) :
    schedule.Moves options (schedule.step options (.finish isStreaming)) := by
  unfold step
  cases phase : schedule.phase with
  | checking =>
    refine .keeps rfl (fun _ => by simp) fun heeds => heeds.of_same rfl ?_
    rw [phase]
    rintro (absent | absent) <;> cases absent
  | waiting => exact .keeps rfl id id
  | scanning => exact .keeps rfl id id
  | stopped => exact .keeps rfl id id

/-- What any event may do to the schedule of a monitor. -/
theorem moves_step (ordered : options.minHeartbeatFrequency ≤ options.heartbeatFrequency)
    (schedule : Schedule) (event : ScheduleEvent) :
    schedule.Moves options (schedule.step options event) := by
  cases event with
  | request => exact .keeps rfl id fun _ => heeds_of_requested rfl
  | finish isStreaming => exact moves_finish isStreaming
  | pass duration => exact .keeps rfl id fun heeds => heeds.of_same rfl fun _ => rfl
  | wake => exact moves_wake ordered
  | take => exact moves_take
  | stop => exact .keeps rfl (fun _ => by simp [step]) fun _ => .stopped rfl

end Schedule

/-! ### Whole runs -/

/-- The schedule of a monitor, and when its checks began, the latest first. -/
structure Timeline where
  schedule : Schedule
  starts : List Duration

namespace Timeline

/-- The effect of an event. A check begins when a monitor that was not checking turns to it. -/
def step (options : ClientOptions) (timeline : Timeline) (event : ScheduleEvent) : Timeline :=
  let next := timeline.schedule.step options event
  { schedule := next
    starts :=
      if timeline.schedule.phase ≠ .checking ∧ next.phase = .checking then
        timeline.schedule.now :: timeline.starts
      else timeline.starts }

/-- A new monitor, which begins with a check, and what becomes of it with some events. -/
def run (options : ClientOptions) (now : Duration) (events : List ScheduleEvent) : Timeline :=
  events.foldl (step options) { schedule := { now, started := now }, starts := [now] }

variable {options : ClientOptions} {timeline : Timeline}

/-- What an event may do to the checks that have begun. -/
inductive Goes (options : ClientOptions) (timeline next : Timeline) : Prop
  | begins (early : Schedule.earliest options timeline.schedule.started ≤ timeline.schedule.now)
      (started : next.schedule.started = timeline.schedule.now)
      (starts : next.starts = timeline.schedule.now :: timeline.starts)
  | keeps (started : next.schedule.started = timeline.schedule.started)
      (starts : next.starts = timeline.starts)
      (heeds : timeline.schedule.Heeds options → next.schedule.Heeds options)

theorem goes_step (ordered : options.minHeartbeatFrequency ≤ options.heartbeatFrequency)
    (timeline : Timeline) (event : ScheduleEvent) :
    timeline.Goes options (timeline.step options event) := by
  cases Schedule.moves_step ordered timeline.schedule event with
  | begins idle early begun =>
    refine .begins early (congrArg Schedule.started begun) (if_pos ⟨idle, ?_⟩)
    rw [begun]
    rfl
  | keeps started idle heeds =>
    exact .keeps started (if_neg fun turns => idle turns.1 turns.2) heeds

/-- The time of the latest check is known, and any two checks began as far apart as they must. -/
structure Spaced (options : ClientOptions) (timeline : Timeline) : Prop where
  latest : ∃ earlier, timeline.starts = timeline.schedule.started :: earlier
  apart : timeline.starts.Pairwise fun second first => Schedule.earliest options first ≤ second

theorem Spaced.step (ordered : options.minHeartbeatFrequency ≤ options.heartbeatFrequency)
    (spaced : timeline.Spaced options) (event : ScheduleEvent) :
    (timeline.step options event).Spaced options := by
  cases goes_step ordered timeline event with
  | begins early started starts =>
    refine ⟨⟨timeline.starts, starts.trans (by rw [started])⟩, ?_⟩
    rw [starts]
    refine List.pairwise_cons.2 ⟨fun first known => ?_, spaced.apart⟩
    obtain ⟨earlier, split⟩ := spaced.latest
    have apart := spaced.apart
    rw [split] at known apart
    rcases List.mem_cons.1 known with rfl | older
    · exact early
    · have before := (List.pairwise_cons.1 apart).1 first older
      exact Nat.le_trans before (Nat.le_trans (Nat.le_add_right _ _) early)
  | keeps started starts heeds =>
    refine ⟨?_, starts.symm ▸ spaced.apart⟩
    rw [started, starts]
    exact spaced.latest

theorem spaced_run (ordered : options.minHeartbeatFrequency ≤ options.heartbeatFrequency)
    (now : Duration) (events : List ScheduleEvent) : (run options now events).Spaced options := by
  have start : Spaced options { schedule := { now, started := now }, starts := [now] } :=
    ⟨⟨[], rfl⟩, List.pairwise_singleton _ _⟩
  unfold run
  generalize ({ schedule := { now, started := now }, starts := [now] } : Timeline) = timeline at start
  induction events generalizing timeline with
  | nil => exact start
  | cons first rest inductionHypothesis => exact inductionHypothesis _ (start.step ordered first)

/-- Checks that have begun stay so. -/
theorem length_starts_le (ordered : options.minHeartbeatFrequency ≤ options.heartbeatFrequency)
    (timeline : Timeline) (events : List ScheduleEvent) :
    timeline.starts.length ≤ (events.foldl (step options) timeline).starts.length := by
  induction events generalizing timeline with
  | nil => exact Nat.le_refl _
  | cons first rest inductionHypothesis =>
    refine Nat.le_trans ?_ (inductionHypothesis _)
    cases goes_step ordered timeline first with
    | begins early started starts =>
      rw [starts]
      exact Nat.le_succ _
    | keeps started starts heeds => exact Nat.le_of_eq (congrArg List.length starts.symm)

/-- As long as no further check begins, a request that is heeded stays so. -/
theorem heeds_foldl (ordered : options.minHeartbeatFrequency ≤ options.heartbeatFrequency)
    (heeds : timeline.schedule.Heeds options) (events : List ScheduleEvent)
    (same : (events.foldl (step options) timeline).starts = timeline.starts) :
    (events.foldl (step options) timeline).schedule.Heeds options := by
  induction events generalizing timeline with
  | nil => exact heeds
  | cons first rest inductionHypothesis =>
    cases goes_step ordered timeline first with
    | begins early started starts =>
      have longer : _ ≤ ((first :: rest).foldl (step options) timeline).starts.length :=
        length_starts_le ordered (timeline.step options first) rest
      rw [starts, same] at longer
      exact absurd longer (Nat.not_succ_le_self _)
    | keeps started starts kept =>
      exact inductionHypothesis (kept heeds) (same.trans starts.symm)

/-- Any two checks of a monitor begin at least the least time between checks apart, and a request is
heeded until a check begins. To ask a cluster for a scan of one server or of all is such a request to
the monitor of each of them. -/
theorem checks_apart_and_requests_heeded (options : ClientOptions)
    (valid : options.validate = .ok ()) (now : Duration) :
    (∀ events, (run options now events).starts.Pairwise fun second first =>
      first + .ofMilliseconds options.minHeartbeatFrequency ≤ second) ∧
    (∀ before after,
      (run options now (before ++ .request :: after)).starts = (run options now before).starts →
      (run options now (before ++ .request :: after)).schedule.Heeds options) ∧
    ∀ (cluster : Cluster) (address : ServerAddress) (handle : ServerHandle),
      cluster.handles.get? address = some handle →
      ((cluster.requestScan address).handles.get? address).map (·.schedule) =
          some (handle.schedule.step cluster.options .request) ∧
        (cluster.requestScans.handles.get? address).map (·.schedule) =
          some (handle.schedule.step cluster.options .request) := by
  have ordered := options.least_le_heartbeat_of_validate valid
  refine ⟨fun events => (spaced_run ordered now events).apart, fun before after same => ?_, ?_⟩
  · unfold run at same ⊢
    rw [List.foldl_append, List.foldl_cons] at same ⊢
    refine heeds_foldl ordered (Schedule.heeds_of_requested rfl) after (same.trans ?_)
    exact (if_neg fun turns => turns.1 turns.2).symm
  · intro cluster address handle tracked
    constructor
    · rw [Cluster.get?_requestScan, if_pos rfl, tracked]
      rfl
    · rw [Cluster.get?_requestScans, tracked]
      rfl

/-- Two requests, of which the second comes when the monitor has taken the first. -/
def askedTwice : List ScheduleEvent := [.request, .finish false, .take, .request]

theorem checks_apart_and_requests_heeded_askedTwice :
    let options : ClientOptions := { hosts := [⟨"left", 27017⟩] }
    let asked := run options .zero (.pass (.ofMilliseconds 20) :: askedTwice)
    let scanned := run options .zero
      (.pass (.ofMilliseconds 20) :: askedTwice ++ [.pass (.ofMilliseconds 480), .wake])
    options.validate = .ok () ∧
      asked.starts = (run options .zero [.pass (.ofMilliseconds 20)]).starts ∧
      asked.schedule.Heeds options ∧
      scanned.starts = [.ofMilliseconds 500, .zero] ∧
      scanned.starts.Pairwise fun second first =>
        first + .ofMilliseconds options.minHeartbeatFrequency ≤ second := by
  intro options asked scanned
  obtain ⟨apart, heeded, -⟩ := checks_apart_and_requests_heeded options rfl .zero
  have same : asked.starts = (run options .zero [.pass (.ofMilliseconds 20)]).starts := by
    decide +kernel
  exact ⟨rfl, same, heeded [.pass (.ofMilliseconds 20)] [.finish false, .take, .request] same,
    by decide +kernel, apart _⟩

end Timeline

end DocumentDriver
