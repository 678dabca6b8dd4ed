/-
This file proves that no server is taken for known before its round-trip time has been measured. A
monitor publishes a description without an average only of a server that it could not reach, although
the answers that a server may wait with give no sample and a failed check drops the average: it drops
the connection too, and a server is asked to wait only over a connection on which it has answered
before. All that a deployment is known to hold comes from such descriptions, so the time that the
selection of a server goes by is always a measured one: the average of the samples since the last check
that failed.
-/

import Mathlib.Data.List.Induction
import DocumentDriver.Proofs.Monitor.Run
import DocumentDriver.Proofs.Selection.Available
import DocumentDriver.Proofs.Topology.Provenance

namespace DocumentDriver

namespace ServerDescription

/-- A server that has told of its part has a measured round-trip time. -/
def IsMeasured (description : ServerDescription) : Prop :=
  description.type ≠ .unknown → description.roundTripTime.isSome = true

theorem isMeasured_of_unknown {description : ServerDescription}
    (unknown : description.type = .unknown) : description.IsMeasured :=
  fun known => absurd unknown known

theorem isMeasured_ofReply (address : ServerAddress) (reply : Document)
    {average : Option Duration} (moment : Duration) (measured : average.isSome = true) :
    (ofReply address reply average moment).IsMeasured := by
  unfold ofReply
  split
  · exact fun _ => measured
  · exact isMeasured_of_unknown rfl

theorem roundTripTime_ofReply {address : ServerAddress} {reply : Document}
    {average : Option Duration} {moment : Duration}
    (known : (ofReply address reply average moment).type ≠ .unknown) :
    (ofReply address reply average moment).roundTripTime = average := by
  unfold ofReply at known ⊢
  split
  · rfl
  · next failed =>
    rw [if_neg failed] at known
    exact absurd rfl known

end ServerDescription

/-! ### The samples that count -/

namespace RoundTripTime

/-- The average of some samples, the latest one first. The first sample is the average as long as it is
the only one. Each later one counts for a fifth, and the average before it for four fifths. -/
def averageOf : List Duration → Option Duration
  | [] => none
  | sample :: earlier =>
    match averageOf earlier with
    | none => some sample
    | some average => some (weighted sample sampleWeight + weighted average averageWeight)

theorem averageOf_cons (sample : Duration) (earlier : List Duration) :
    averageOf (sample :: earlier) = some (next (averageOf earlier) sample) := by
  rw [averageOf]
  cases averageOf earlier <;> rfl

end RoundTripTime

open RoundTripTime

/-- Samples that come in one after the other are averaged with those before them. -/
theorem Monitor.average_addSamples (monitor : Monitor) (arrived samples : List Duration)
    (averaged : monitor.average = averageOf samples) :
    (monitor.addSamples arrived).average = averageOf (arrived.reverse ++ samples) := by
  induction arrived generalizing monitor samples with
  | nil => exact averaged
  | cons first rest inductionHypothesis =>
    rw [List.reverse_cons, List.append_assoc]
    refine inductionHypothesis (monitor.addSample first) (first :: samples) ?_
    rw [averageOf_cons, ← averaged]
    rfl

namespace Watch

section

variable (options : ClientOptions) (platform : Platform) (registry : CompressorRegistry)

/-- The samples that count after one more event, the latest one first. Those that came in during a check
count, and so does the time that the check took, unless the server may have waited. A check that fails
drops all of them. -/
def samplesAfter (watch : Watch) (samples : List Duration) : MonitorEvent → List Duration
  | .check requestId start encounter arrived =>
    let checked :=
      watch.monitor.checkAmid options platform registry requestId start encounter arrived
    match checked.talk.reply with
    | .error _ => []
    | .ok _ =>
      if checked.plan.isAwaitable then arrived.reverse ++ samples
      else checked.talk.elapsed :: (arrived.reverse ++ samples)
  | .sample duration => duration :: samples
  | .disconnect => samples

/-- The samples that were taken since the last check that failed, the latest one first. -/
def taken (address : ServerAddress) (events : List MonitorEvent) : List Duration :=
  (events.foldl
    (fun (watch, samples) event =>
      (step options platform registry watch event,
        samplesAfter options platform registry watch samples event))
    (({ monitor := { address } }, []) : Watch × List Duration)).2

/-- The last one of some events is a check, and this is it. -/
def EndsWith (address : ServerAddress) (events : List MonitorEvent) (visit : Visit) : Prop :=
  ∃ earlier requestId start encounter arrived,
    events = earlier ++ [.check requestId start encounter arrived] ∧
      (run options platform registry address events).visits.head? = some visit

variable (address : ServerAddress) (events : List MonitorEvent) (event : MonitorEvent)

theorem run_concat :
    run options platform registry address (events ++ [event]) =
      step options platform registry (run options platform registry address events) event := by
  unfold run
  rw [List.foldl_append]
  rfl

theorem taken_concat :
    taken options platform registry address (events ++ [event]) =
      samplesAfter options platform registry (run options platform registry address events)
        (taken options platform registry address events) event := by
  have follows (pair : Watch × List Duration) :
      (events.foldl
        (fun (watch, samples) event =>
          (step options platform registry watch event,
            samplesAfter options platform registry watch samples event)) pair).1 =
        events.foldl (step options platform registry) pair.1 := by
    induction events generalizing pair with
    | nil => rfl
    | cons first rest inductionHypothesis => exact inductionHypothesis _
  unfold taken
  rw [List.foldl_append]
  dsimp only [List.foldl_cons, List.foldl_nil]
  rw [follows]
  rfl

/-- One event keeps the average that of the samples that count. -/
theorem average_step (watch : Watch) (samples : List Duration)
    (averaged : watch.monitor.average = averageOf samples) :
    (step options platform registry watch event).monitor.average =
      averageOf (samplesAfter options platform registry watch samples event) := by
  cases event with
  | sample duration =>
    rw [samplesAfter, averageOf_cons, ← averaged]
    rfl
  | disconnect => exact averaged
  | check requestId start encounter arrived =>
    have sampled := watch.monitor.average_addSamples arrived samples averaged
    rw [step, record, samplesAfter, Monitor.checkAmid_eq]
    dsimp only
    rcases (watch.monitor.addSamples arrived).ends_check options platform registry requestId start
      encounter with ⟨error, failed, -, -, dropped⟩ | ⟨document, moment, answered, -, -, average⟩
    · rw [failed, dropped]
      rfl
    · rw [answered, average]
      dsimp only
      split
      · exact sampled
      · rw [averageOf_cons, ← sampled]
        rfl

/-- The average of a monitor is always that of the samples since the last check that failed. -/
theorem average_run :
    (run options platform registry address events).monitor.average =
      averageOf (taken options platform registry address events) := by
  induction events using List.reverseRec with
  | nil => rfl
  | append_singleton earlier event inductionHypothesis =>
    rw [run_concat, taken_concat]
    exact average_step options platform registry event _ _ inductionHypothesis

/-- Every check of a run is the last event of a part of it. -/
theorem exists_endsWith {visit : Visit}
    (made : visit ∈ (run options platform registry address events).visits) :
    ∃ front later, events = front ++ later ∧
      EndsWith options platform registry address front visit := by
  induction events using List.reverseRec with
  | nil => cases made
  | append_singleton earlier event inductionHypothesis =>
    have before (known : visit ∈ (run options platform registry address earlier).visits) :
        ∃ front later, earlier ++ [event] = front ++ later ∧
          EndsWith options platform registry address front visit := by
      obtain ⟨front, later, same, ends⟩ := inductionHypothesis known
      exact ⟨front, later ++ [event], by rw [same, List.append_assoc], ends⟩
    have stepped := run_concat options platform registry address earlier event
    rw [stepped] at made
    cases event with
    | sample duration => exact before made
    | disconnect => exact before made
    | check requestId start encounter arrived =>
      rcases List.mem_cons.1 made with rfl | known
      · refine ⟨_, [], (List.append_nil _).symm, earlier, requestId, start, encounter, arrived, rfl, ?_⟩
        rw [stepped]
        rfl
      · exact before known

end

end Watch

/-! ### What a monitor publishes -/

namespace Watch

/-- A monitor has an average as long as it keeps a connection. -/
def Measures (watch : Watch) : Prop :=
  watch.monitor.connection.isSome = true → watch.monitor.average.isSome = true

variable {options : ClientOptions} {platform : Platform} {registry : CompressorRegistry}
variable {watch : Watch}

/-- A server is asked to wait only over a connection that is kept. -/
theorem Measures.average_of_awaitable (holds : watch.Measures) {requestId : Int32}
    (awaitable : (watch.monitor.plan options platform requestId).isAwaitable = true) :
    watch.monitor.average.isSome = true := by
  refine holds ?_
  have still := (Bool.and_eq_true_iff.1 awaitable).1
  rw [Bool.not_eq_true', Option.isNone_eq_false_iff] at still
  exact Option.isSome_of_isSome_filter _ _ still

theorem Measures.record (holds : watch.Measures) (requestId : Int32) (start : Duration)
    (encounter : Encounter) :
    let made := watch.monitor.check options platform registry requestId start encounter
    Measures (watch.record made) ∧ made.description.IsMeasured := by
  rcases watch.monitor.ends_check options platform registry requestId start encounter with
    ⟨error, -, description, dropped, -⟩ | ⟨document, moment, -, description, -, average⟩
  · refine ⟨fun connected => absurd (dropped ▸ connected) (by simp), ?_⟩
    rw [description]
    exact ServerDescription.isMeasured_of_unknown rfl
  · have measured : (watch.monitor.check options platform registry requestId start
        encounter).monitor.average.isSome = true := by
      rw [average]
      split
      · next awaitable => exact holds.average_of_awaitable awaitable
      · rfl
    refine ⟨fun _ => measured, ?_⟩
    rw [description]
    exact ServerDescription.isMeasured_ofReply _ _ _ measured

theorem isMeasured_of_made {address : ServerAddress} {events : List MonitorEvent} {visit : Visit}
    (made : visit ∈ (run options platform registry address events).visits) :
    visit.checked.description.IsMeasured := by
  obtain ⟨later, earlier, split⟩ := List.append_of_mem made
  refine visits_induction options platform registry Measures
    (fun visit _ => visit.checked.description.IsMeasured) address ?_ ?_ ?_ ?_ events visit earlier
    ⟨later, split.symm⟩
  · exact (absurd · Bool.false_ne_true)
  · exact fun watch requestId start encounter holds => holds.record requestId start encounter
  · exact fun watch duration _ _ => rfl
  · intro watch holds connected
    rw [Monitor.disconnect, Option.isSome_map] at connected
    exact holds connected

/-- A description of a known server carries the average that the monitor has after the check. -/
theorem roundTripTime_of_endsWith {address : ServerAddress} {events : List MonitorEvent}
    {visit : Visit} (ends : EndsWith options platform registry address events visit)
    (known : visit.checked.description.type ≠ .unknown) :
    visit.checked.description.roundTripTime =
      averageOf (taken options platform registry address events) := by
  obtain ⟨earlier, requestId, start, encounter, arrived, rfl, latest⟩ := ends
  rw [← average_run, run_concat]
  rw [run_concat] at latest
  cases latest
  rw [step, record, Monitor.checkAmid_eq] at *
  dsimp only at known ⊢
  rcases Monitor.ends_check _ options platform registry requestId start encounter with
    ⟨error, -, description, -, -⟩ | ⟨document, moment, -, description, -, -⟩
  · rw [description] at known
    exact absurd rfl known
  · rw [description] at known ⊢
    exact ServerDescription.roundTripTime_ofReply known

end Watch

/-! ### What a client chooses between -/

/-- What the monitors of a deployment tell of its servers, and what a client notes that has lost
one. -/
inductive ServerDescription.Published : ServerDescription → Prop
  | checked (options : ClientOptions) (platform : Platform) (registry : CompressorRegistry)
      (address : ServerAddress) (events : List MonitorEvent) (visit : Visit)
      (made : visit ∈ (Watch.run options platform registry address events).visits) :
      Published visit.checked.description
  | lost (address : ServerAddress) (error : Error) : Published (.ofError address error)

theorem ServerDescription.Published.isMeasured {description : ServerDescription}
    (published : description.Published) : description.IsMeasured := by
  cases published with
  | checked options platform registry address events visit made =>
    exact Watch.isMeasured_of_made made
  | lost => exact isMeasured_of_unknown rfl

/-- Whatever happens to a monitor, a description that it publishes carries a round-trip time unless
its server is unknown, and this time is the average of the samples that were taken since the last check
that failed. So if all that a deployment is known to hold was published by monitors, the latency of every
server that an operation may choose between was measured. -/
theorem known_servers_are_measured :
    (∀ options platform registry address events visit,
      visit ∈ (Watch.run options platform registry address events).visits →
      visit.checked.description.type ≠ .unknown →
      ∃ front later average, events = front ++ later ∧
        Watch.EndsWith options platform registry address front visit ∧
        visit.checked.description.roundTripTime = some average ∧
        RoundTripTime.averageOf (Watch.taken options platform registry address front) =
          some average) ∧
    ∀ (options : ClientOptions) (start : Topology) (descriptions : List ServerDescription)
      (criteria : SelectionCriteria) (servers : List ServerDescription),
      Topology.ofOptions options = .ok start →
      (∀ description ∈ descriptions, description.Published) →
      Selection.suitable (start.applyAll descriptions) criteria = .ok servers →
      ∀ server ∈ servers, server.roundTripTime = some (Selection.latency server) := by
  refine ⟨fun options platform registry address events visit made known => ?_, ?_⟩
  · obtain ⟨front, later, split, ends⟩ :=
      Watch.exists_endsWith options platform registry address events made
    obtain ⟨average, measured⟩ :=
      Option.isSome_iff_exists.1 (Watch.isMeasured_of_made made known)
    exact ⟨front, later, average, split, ends, measured,
      (Watch.roundTripTime_of_endsWith ends known).symm.trans measured⟩
  · intro options start descriptions criteria servers started published found server member
    obtain ⟨-, rfl⟩ := (Topology.ofOptions_eq_ok_iff options start).1 started
    obtain ⟨tracked, available⟩ :=
      List.mem_filter.1 ((Selection.suitable_sublist _ found).subset member)
    have known := ServerType.isAvailable_iff.1 available
    obtain ⟨address, stored⟩ := (AddressMap.mem_values_iff _).1 tracked
    have told := (Topology.describedBy_applyAll options descriptions address server stored).resolve_right
      known
    obtain ⟨average, measured⟩ := Option.isSome_iff_exists.1 ((published server told).isMeasured known)
    rw [Selection.latency, measured]
    rfl

/-- A standalone server that can wait for news, and answers the check of a number after so many
milliseconds. -/
def lonePeer (requestId : Int32) (milliseconds : Nat) : Peer where
  send _ := .ok ()
  receive _ := (Message.reply {
    requestId := 1
    responseTo := requestId
    documents := [[("ok", .int32 1), ("helloOk", .boolean true), ("maxWireVersion", .int32 17),
      ("topologyVersion", .document (TopologyVersion.toDocument ⟨⟨.replicate 12 1⟩, 1⟩))]] }).serialize
  delay := .ofMilliseconds milliseconds

/-- Two checks of that server. The second time it waits for eight seconds before it answers. -/
def loneEvents : List MonitorEvent :=
  [.check 1 .zero { peer := lonePeer 1 2 } [], .check 2 .zero { peer := lonePeer 2 8000 } []]

/-- The second one of these checks. -/
def loneVisit : Visit :=
  let first := Watch.run {} {} .default ⟨"left", 27017⟩
    [.check 1 .zero { peer := lonePeer 1 2 } []]
  ⟨first.monitor.used.number,
    first.monitor.checkAmid {} {} .default 2 .zero { peer := lonePeer 2 8000 } []⟩

/-- The second check gives no sample, and its description carries the two milliseconds of the first. -/
theorem known_servers_are_measured_lone :
    loneVisit.checked.plan.isAwaitable = true ∧
      loneVisit.checked.description.roundTripTime = some (.ofMilliseconds 2) ∧
      (∃ front later average, loneEvents = front ++ later ∧
        Watch.EndsWith {} {} .default ⟨"left", 27017⟩ front loneVisit ∧
        loneVisit.checked.description.roundTripTime = some average ∧
        RoundTripTime.averageOf (Watch.taken {} {} .default ⟨"left", 27017⟩ front) =
          some average) ∧
      ∃ servers, Selection.suitable
          ((Topology.initial { hosts := [⟨"left", 27017⟩] }).applyAll
            [loneVisit.checked.description]) .write = .ok servers ∧ servers ≠ [] ∧
        ∀ server ∈ servers, server.roundTripTime = some (Selection.latency server) := by
  obtain ⟨published, chosen⟩ := known_servers_are_measured
  have made : loneVisit ∈ (Watch.run {} {} .default ⟨"left", 27017⟩ loneEvents).visits :=
    List.mem_cons_self
  have serves : (Selection.suitable ((Topology.initial { hosts := [⟨"left", 27017⟩] }).applyAll
      [loneVisit.checked.description]) .write).toOption.any (!·.isEmpty) = true := by
    decide +kernel
  refine ⟨by decide +kernel, by decide +kernel,
    published _ _ _ _ _ loneVisit made (by decide +kernel), ?_⟩
  cases found : Selection.suitable ((Topology.initial { hosts := [⟨"left", 27017⟩] }).applyAll
      [loneVisit.checked.description]) .write with
  | error cause =>
    rw [found] at serves
    cases serves
  | ok servers =>
    rw [found] at serves
    refine ⟨servers, rfl, fun empty => ?_, chosen { hosts := [⟨"left", 27017⟩] } _ _ _ _ rfl
      (List.forall_mem_singleton.2 (.checked _ _ _ _ _ loneVisit made)) found⟩
    rw [empty] at serves
    cases serves

end DocumentDriver
