/-
This file follows one monitor through everything that may happen to it: checks with any outcome,
samples of the round-trip time that come in at any moment, also while a check is on its way, and
connections that fail between two checks. What holds at the start and is kept by every event holds
after any number of them.
-/

import DocumentDriver.Monitor.Basic

namespace DocumentDriver

namespace Monitor

/-! ### Samples and failing connections -/

/-- Takes samples into the average one after the other. -/
def addSamples (monitor : Monitor) (samples : List Duration) : Monitor :=
  samples.foldl addSample monitor

/-- Makes a check as `check` does, where samples come in after the check has begun and before its
outcome is taken into account. -/
def checkAmid (monitor : Monitor) (options : ClientOptions) (platform : Platform)
    (registry : CompressorRegistry) (requestId : Int32) (start : Duration) (encounter : Encounter)
    (samples : List Duration) : Checked :=
  let plan := monitor.plan options platform requestId
  let talk := plan.talk monitor.address options registry encounter
  let sampled := monitor.addSamples samples
  let opened := if plan.isFresh && talk.exchange.isSome then monitor.opened + 1 else monitor.opened
  let (next, description) := match talk.reply with
    | .error error => sampled.fail error
    | .ok reply =>
      sampled.succeed plan reply talk.elapsed encounter.staysConnected (start + talk.elapsed)
  ⟨{ next with opened }, description, plan, talk⟩

/-- Samples change the average and nothing else. -/
theorem addSamples_eq (monitor : Monitor) (samples : List Duration) :
    monitor.addSamples samples =
      { monitor with average := (monitor.addSamples samples).average } := by
  induction samples generalizing monitor with
  | nil => rfl
  | cons first rest inductionHypothesis => exact inductionHypothesis (monitor.addSample first)

/-- A check does not look at the average before its outcome is there, so samples that come in
meanwhile count as if they had come before. -/
theorem checkAmid_eq (monitor : Monitor) (options : ClientOptions) (platform : Platform)
    (registry : CompressorRegistry) (requestId : Int32) (start : Duration) (encounter : Encounter)
    (samples : List Duration) :
    monitor.checkAmid options platform registry requestId start encounter samples =
      (monitor.addSamples samples).check options platform registry requestId start encounter := by
  unfold check checkAmid
  rw [addSamples_eq monitor samples]
  rfl

/-- The connection that a monitor keeps fails. -/
def disconnect (monitor : Monitor) : Monitor :=
  { monitor with
    connection := monitor.connection.map fun connection => { connection with isConnected := false } }

/-! ### How a check ends -/

/-- What a check leaves behind, given that the connection is still open afterwards or not: the error
with which it failed, or the answer of the server. -/
inductive Ends (monitor : Monitor) (staysConnected : Bool) (checked : Checked) : Prop
  | failed (error : Error) (reply : checked.talk.reply = .error error)
      (description : checked.description = .ofError monitor.address error)
      (connection : checked.monitor.connection = none) (average : checked.monitor.average = none)
  | answered (document : Document) (moment : Duration) (reply : checked.talk.reply = .ok document)
      (description : checked.description =
        .ofReply monitor.address document checked.monitor.average moment)
      (connection : checked.monitor.connection =
        some { monitor.used with isConnected := staysConnected })
      (average : checked.monitor.average =
        (if checked.plan.isAwaitable then monitor
          else monitor.addSample checked.talk.elapsed).average)

section

variable (monitor : Monitor) (options : ClientOptions) (platform : Platform)
variable (registry : CompressorRegistry) (requestId : Int32) (start : Duration)
variable (encounter : Encounter)

theorem ends_check :
    monitor.Ends encounter.staysConnected
      (monitor.check options platform registry requestId start encounter) := by
  unfold check
  dsimp only
  cases reply : ((monitor.plan options platform requestId).talk monitor.address options registry
    encounter).reply with
  | error error => exact .failed error reply rfl rfl rfl
  | ok document =>
    refine .answered document _ reply rfl rfl ?_
    dsimp only [succeed]

theorem previous_check :
    let checked := monitor.check options platform registry requestId start encounter
    checked.monitor.previous = some checked.description := by
  unfold check
  dsimp only
  split <;> rfl

theorem opened_check :
    let checked := monitor.check options platform registry requestId start encounter
    checked.monitor.opened =
      if checked.plan.isFresh && checked.talk.exchange.isSome then monitor.opened + 1
      else monitor.opened := by
  unfold check
  dsimp only

end

end Monitor

/-! ### Everything that happens to a monitor -/

/-- Something that happens to a monitor. -/
inductive MonitorEvent where
  /-- The monitor makes a check, and samples come in while it is on its way. -/
  | check (requestId : Int32) (start : Duration) (encounter : Encounter) (samples : List Duration)
  /-- A sample of the round-trip time comes in between two checks. -/
  | sample (duration : Duration)
  | disconnect

/-- A check that was made, with the number of the connection that it used or was going to open. -/
structure Visit where
  number : Nat
  checked : Checked

/-- A monitor, and the checks that it has made, the latest first. -/
structure Watch where
  monitor : Monitor
  visits : List Visit := []

namespace Watch

variable (options : ClientOptions) (platform : Platform) (registry : CompressorRegistry)

/-- A check that the monitor made becomes the latest one. -/
def record (watch : Watch) (checked : Checked) : Watch where
  monitor := checked.monitor
  visits := ⟨watch.monitor.used.number, checked⟩ :: watch.visits

/-- The effect of an event. -/
def step (watch : Watch) : MonitorEvent → Watch
  | .check requestId start encounter samples => watch.record
      (watch.monitor.checkAmid options platform registry requestId start encounter samples)
  | .sample duration => { watch with monitor := watch.monitor.addSample duration }
  | .disconnect => { watch with monitor := watch.monitor.disconnect }

/-- A new monitor of a server, and what becomes of it with some events. -/
def run (address : ServerAddress) (events : List MonitorEvent) : Watch :=
  events.foldl (step options platform registry) { monitor := { address } }

/-- What holds at the start and is kept by a check, by a sample and by a failing connection holds
after any events. Samples that come in during a check may be taken to come before it. -/
theorem run_induction (Invariant : Watch → Prop) (address : ServerAddress)
    (start : Invariant { monitor := { address } })
    (checked : ∀ watch requestId start encounter, Invariant watch → Invariant
      (watch.record (watch.monitor.check options platform registry requestId start encounter)))
    (sampled : ∀ watch duration, Invariant watch →
      Invariant { watch with monitor := watch.monitor.addSample duration })
    (disconnected : ∀ watch, Invariant watch →
      Invariant { watch with monitor := watch.monitor.disconnect })
    (events : List MonitorEvent) :
    Invariant (run options platform registry address events) := by
  have afterSamples (samples : List Duration) (watch : Watch) (holds : Invariant watch) :
      Invariant { watch with monitor := watch.monitor.addSamples samples } := by
    induction samples generalizing watch with
    | nil => exact holds
    | cons first rest inductionHypothesis =>
      exact inductionHypothesis _ (sampled watch first holds)
  have kept (watch : Watch) (event : MonitorEvent) (holds : Invariant watch) :
      Invariant (watch.step options platform registry event) := by
    cases event with
    | check requestId start encounter samples =>
      have used : (watch.monitor.addSamples samples).used = watch.monitor.used := by
        rw [Monitor.addSamples_eq]
        rfl
      have made := checked _ requestId start encounter (afterSamples samples watch holds)
      rw [← Monitor.checkAmid_eq, record, used] at made
      exact made
    | sample duration => exact sampled watch duration holds
    | disconnect => exact disconnected watch holds
  unfold run
  generalize ({ monitor := { address } } : Watch) = watch at start
  induction events generalizing watch with
  | nil => exact start
  | cons first rest inductionHypothesis => exact inductionHypothesis _ (kept watch first start)

/-- If an invariant says enough about the checks so far to tell something of the next one, this can be
told of every check of a run. -/
theorem visits_induction (Invariant : Watch → Prop) (Allowed : Visit → List Visit → Prop)
    (address : ServerAddress) (start : Invariant { monitor := { address } })
    (checked : ∀ watch requestId start encounter, Invariant watch →
      let made := watch.monitor.check options platform registry requestId start encounter
      Invariant (watch.record made) ∧ Allowed ⟨watch.monitor.used.number, made⟩ watch.visits)
    (sampled : ∀ watch duration, Invariant watch →
      Invariant { watch with monitor := watch.monitor.addSample duration })
    (disconnected : ∀ watch, Invariant watch →
      Invariant { watch with monitor := watch.monitor.disconnect })
    (events : List MonitorEvent) (visit : Visit) (earlier : List Visit)
    (made : visit :: earlier <:+ (run options platform registry address events).visits) :
    Allowed visit earlier := by
  have both := run_induction options platform registry
    (fun watch => Invariant watch ∧ ∀ visit earlier, visit :: earlier <:+ watch.visits →
      Allowed visit earlier) address ⟨start, ?_⟩ ?_ ?_ ?_ events
  · exact both.2 visit earlier made
  · exact fun visit earlier none => absurd (List.suffix_nil.1 none) (List.cons_ne_nil _ _)
  · rintro watch requestId start encounter ⟨holds, before⟩
    obtain ⟨kept, allowed⟩ := checked watch requestId start encounter holds
    refine ⟨kept, fun visit earlier made => ?_⟩
    rcases List.suffix_cons_iff.1 made with same | older
    · obtain ⟨rfl, rfl⟩ := List.cons.inj same
      exact allowed
    · exact before visit earlier older
  · exact fun watch duration holds => ⟨sampled watch duration holds.1, holds.2⟩
  · exact fun watch holds => ⟨disconnected watch holds.1, holds.2⟩

end Watch

end DocumentDriver
