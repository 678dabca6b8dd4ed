/-
This file proves which of the servers that suit an operation it may go to: all of them where the
deployment is a single server, and else those whose round trips take at most so much longer than the
shortest one as the client admits. The order in which they are offered is left to chance, so everything
is said of each order. There is an answer whenever the servers that suit the operation can be computed.
-/

import DocumentDriver.Proofs.Selection.Routing
import Mathlib.Data.List.Perm.Subperm

namespace DocumentDriver

namespace Selection

variable {topology : Topology} {criteria : SelectionCriteria} {server : ServerDescription}
  {servers suited : List ServerDescription}

/-! ### The shortest round trip -/

/-- A length of time is that of the shortest round trip to some servers. -/
structure IsShortestTrip (servers : List ServerDescription) (best : Duration) : Prop where
  attained : ∃ server ∈ servers, latency server = best
  least : ∀ server ∈ servers, best ≤ latency server

theorem foldl_latency_le (servers : List ServerDescription) (start : Duration) :
    servers.foldl (fun best server => min best (latency server)) start ≤ start ∧
      ∀ server ∈ servers,
        servers.foldl (fun best server => min best (latency server)) start ≤ latency server := by
  induction servers generalizing start with
  | nil => exact ⟨Nat.le_refl _, fun _ member => by cases member⟩
  | cons first rest inductionHypothesis =>
    obtain ⟨below, least⟩ := inductionHypothesis (min start (latency first))
    rw [List.foldl_cons]
    refine ⟨Nat.le_trans below (Nat.min_le_left _ _), List.forall_mem_cons.2 ⟨?_, least⟩⟩
    exact Nat.le_trans below (Nat.min_le_right _ _)

theorem isShortestTrip_of_fastest? {best : Duration} (fastest : fastest? servers = some best) :
    IsShortestTrip servers best := by
  refine ⟨fastest?_attained fastest, ?_⟩
  cases servers with
  | nil => cases fastest
  | cons first rest =>
    cases fastest
    exact List.forall_mem_cons.2 (foldl_latency_le rest (latency first))

/-- A server is no slower than the shortest round trip and some more exactly if it is no slower than
any server and as much more. -/
theorem le_shortest_add_iff {best threshold time : Duration}
    (shortest : IsShortestTrip servers best) :
    time ≤ best + threshold ↔ ∀ other ∈ servers, time ≤ latency other + threshold := by
  constructor
  · intro within other member
    exact Nat.le_trans within (Nat.add_le_add_right (shortest.least other member) _)
  · intro within
    obtain ⟨other, member, attained⟩ := shortest.attained
    exact attained ▸ within other member

theorem inLatencyWindow_sublist (threshold : Duration) (servers : List ServerDescription) :
    (inLatencyWindow threshold servers).Sublist servers := by
  unfold inLatencyWindow
  split
  · exact List.nil_sublist servers
  · exact List.filter_sublist

theorem mem_inLatencyWindow_iff {threshold : Duration} :
    server ∈ inLatencyWindow threshold servers ↔
      server ∈ servers ∧
        ∃ best, IsShortestTrip servers best ∧ latency server ≤ best + threshold := by
  unfold inLatencyWindow
  cases servers with
  | nil => simp [fastest?]
  | cons first rest =>
    obtain ⟨best, fastest⟩ : ∃ best, fastest? (first :: rest) = some best := ⟨_, rfl⟩
    have shortest := isShortestTrip_of_fastest? fastest
    rw [fastest]
    dsimp only
    rw [List.mem_filter, decide_eq_true_iff]
    refine and_congr_right fun _ => ⟨fun within => ⟨best, shortest, within⟩, ?_⟩
    rintro ⟨other, otherShortest, within⟩
    exact (le_shortest_add_iff shortest).2 ((le_shortest_add_iff otherShortest).1 within)

/-! ### The servers that are offered -/

/-- The driver can talk to the deployment, and what is asked for makes sense. -/
structure IsAnswerable (topology : Topology) (criteria : SelectionCriteria) : Prop where
  compatible : topology.incompatibility = none
  valid : ∀ preference, criteria = .read preference →
    preference.validate topology.heartbeatFrequency = .ok ()

/-- Of the servers that suit an operation, it may go to all if the deployment is a single server, and
else to those whose round trips take at most so much longer than the shortest one. -/
def MayServe (topology : Topology) (suited : List ServerDescription) (server : ServerDescription) :
    Prop :=
  server ∈ suited ∧
    (topology.type ≠ .single → ∃ best, IsShortestTrip suited best ∧
      latency server ≤ best + topology.localThreshold)

theorem check_of_isAnswerable (answerable : IsAnswerable topology criteria) :
    check topology criteria = .ok () := by
  unfold check Topology.checkCompatible
  rw [answerable.compatible]
  cases criteria with
  | read preference => exact answerable.valid preference rfl
  | write | predicate => rfl

theorem select_of_suitable (answerable : IsAnswerable topology criteria)
    (found : suitable topology criteria = .ok suited) :
    select topology criteria = .ok (.ok (window topology suited)) := by
  unfold select
  rw [check_of_isAnswerable answerable, found]
  rfl

/-- A selection does not get past an accident. -/
theorem select_of_accident {cause : Accident} (answerable : IsAnswerable topology criteria)
    (failed : suitable topology criteria = .error cause) :
    select topology criteria = .error cause := by
  unfold select
  rw [check_of_isAnswerable answerable, failed]
  rfl

theorem mem_window_iff : server ∈ window topology suited ↔ MayServe topology suited server := by
  unfold window MayServe
  by_cases single : topology.type = .single
  · rw [if_pos single]
    exact (and_iff_left fun several => absurd single several).symm
  · rw [if_neg single, mem_inLatencyWindow_iff]
    exact and_congr_right fun _ => ⟨fun within _ => within, fun within => within single⟩

theorem window_sublist (topology : Topology) (suited : List ServerDescription) :
    (window topology suited).Sublist suited := by
  unfold window
  split
  · exact List.Sublist.refl suited
  · exact inLatencyWindow_sublist _ _

theorem window_eq_nil_iff : window topology suited = [] ↔ suited = [] := by
  unfold window
  split
  · exact Iff.rfl
  · exact inLatencyWindow_eq_nil_iff _ _

/-- A server to which no round trip is shorter is never left out. -/
theorem mayServe_of_fastest (suits : server ∈ suited)
    (fastest : ∀ other ∈ suited, latency server ≤ latency other) :
    MayServe topology suited server :=
  ⟨suits, fun _ => ⟨latency server, ⟨⟨server, suits, rfl⟩, fastest⟩, Nat.le_add_right _ _⟩⟩

/-- Only the kind of the deployment, the tolerance and the servers that suit decide. -/
theorem mayServe_mono {other : Topology} {others : List ServerDescription}
    (type : other.type = topology.type)
    (wider : topology.localThreshold ≤ other.localThreshold)
    (same : ∀ server, server ∈ others ↔ server ∈ suited)
    (serves : MayServe topology suited server) : MayServe other others server := by
  obtain ⟨suits, within⟩ := serves
  refine ⟨(same server).2 suits, fun several => ?_⟩
  obtain ⟨best, shortest, close⟩ := within (type ▸ several)
  refine ⟨best, ⟨?_, fun candidate member => shortest.least candidate ((same candidate).1 member)⟩,
    Nat.le_trans close (Nat.add_le_add_left wider _)⟩
  obtain ⟨fastest, member, attained⟩ := shortest.attained
  exact ⟨fastest, (same fastest).2 member, attained⟩

/-- Which servers an operation is offered, if the driver can talk to the deployment and what is asked for
makes sense. There is an answer exactly if the servers that suit the operation can be computed, which
they can unless a lag that it asks for leaves the 64 bits. However the answer is put in order, it holds
no server twice and exactly the servers that may serve: those that suit, and in a deployment that is not a
single server only as far as their round trips take at most so much longer than the shortest one as the
client admits. So it is empty only if no server suits, a fastest one is always in it, admitting more loses
no server, and nothing else than the kind of the deployment and the servers that suit matters, least of
all how far away the others are. -/
theorem offers_window (topology : Topology) (criteria : SelectionCriteria)
    (answerable : IsAnswerable topology criteria) :
    ((∃ servers, select topology criteria = .ok (.ok servers)) ↔ StaysInRange topology criteria) ∧
    ((∃ suited, suitable topology criteria = .ok suited) ↔ StaysInRange topology criteria) ∧
    ∀ suited, suitable topology criteria = .ok suited →
      ∃ servers, select topology criteria = .ok (.ok servers) ∧
        ∀ answer, answer.Perm servers →
          (answer.Subperm topology.descriptions ∧ (topology.Keyed → answer.Nodup)) ∧
          (∀ server, server ∈ answer ↔ MayServe topology suited server) ∧
          (answer = [] ↔ suited = []) ∧
          (∀ server ∈ suited, (∀ other ∈ suited, latency server ≤ latency other) →
            server ∈ answer) ∧
          (∀ threshold, topology.localThreshold ≤ threshold →
            ∃ more, select { topology with localThreshold := threshold } criteria = .ok (.ok more) ∧
              ∀ server ∈ answer, server ∈ more) ∧
          ∀ other : Topology, IsAnswerable other criteria → other.type = topology.type →
            other.localThreshold = topology.localThreshold →
            ∀ others, suitable other criteria = .ok others →
              (∀ server, server ∈ others ↔ server ∈ suited) →
              ∃ same, select other criteria = .ok (.ok same) ∧
                ∀ server, server ∈ same ↔ server ∈ answer := by
  refine ⟨⟨?_, ?_⟩, exists_suitable_iff, fun suited found =>
    ⟨window topology suited, select_of_suitable answerable found, fun answer shuffled => ?_⟩⟩
  · rintro ⟨servers, selected⟩
    refine exists_suitable_iff.1 ?_
    cases found : suitable topology criteria with
    | ok suited => exact ⟨suited, rfl⟩
    | error cause =>
      rw [select_of_accident answerable found] at selected
      cases selected
  · intro inRange
    obtain ⟨suited, found⟩ := exists_suitable_iff.2 inRange
    exact ⟨_, select_of_suitable answerable found⟩
  have members (server : ServerDescription) :
      server ∈ answer ↔ MayServe topology suited server :=
    shuffled.mem_iff.trans mem_window_iff
  refine ⟨⟨?_, fun keyed => ?_⟩, members, ?_, ?_, fun threshold wider => ?_, ?_⟩
  · exact ⟨window topology suited, shuffled.symm, (window_sublist topology suited).trans
      ((suitable_sublist topology found).trans List.filter_sublist)⟩
  · exact shuffled.nodup_iff.2 ((window_sublist topology suited).nodup (nodup_suitable keyed found))
  · rw [← @window_eq_nil_iff topology suited]
    exact ⟨fun empty => (empty ▸ shuffled).symm.eq_nil, fun empty => (empty ▸ shuffled).eq_nil⟩
  · exact fun server suits fastest => (members server).2 (mayServe_of_fastest suits fastest)
  · have stillAnswerable :
        IsAnswerable { topology with localThreshold := threshold } criteria :=
      ⟨answerable.compatible, answerable.valid⟩
    -- How much the client admits does not matter for which servers suit.
    have stillFound : suitable { topology with localThreshold := threshold } criteria = .ok suited :=
      found
    refine ⟨_, select_of_suitable stillAnswerable stillFound, fun server member =>
      mem_window_iff.2 ?_⟩
    refine mayServe_mono ?_ wider (fun _ => Iff.rfl) ((members server).1 member)
    rfl
  · intro other otherAnswerable type threshold others otherFound same
    refine ⟨_, select_of_suitable otherAnswerable otherFound, fun server => mem_window_iff.trans ?_⟩
    rw [members]
    constructor
    · exact mayServe_mono type.symm (Nat.le_of_eq (congrArg Duration.nanoseconds threshold))
        fun candidate => (same candidate).symm
    · exact mayServe_mono type (Nat.le_of_eq (congrArg Duration.nanoseconds threshold.symm)) same

/-- The answer of either server of the pair as a secondary, after a round trip of some milliseconds. -/
def pairTimed (host : String) (milliseconds : Nat) : ServerDescription :=
  .ofReply ⟨host, 27017⟩
    [("ok", .int32 1), ("secondary", .boolean true), ("setName", .string "pair"),
      ("maxWireVersion", .int32 17), ("hosts", .array [.string "left", .string "right"])]
    (some (.ofMilliseconds milliseconds)) .zero

/-- The picture of a pair of which one server is twenty milliseconds farther away than the other. -/
def pairTimes : Topology :=
  (Topology.initial Topology.pairOptions).applyAll [pairTimed "left" 5, pairTimed "right" 25]

/-- A client that admits fifteen milliseconds more goes to the near server only, in whatever order the
servers are offered. -/
theorem offers_window_pair :
    IsAnswerable pairTimes (.read { mode := .nearest }) ∧
      suitable pairTimes (.read { mode := .nearest }) =
        .ok [pairTimed "left" 5, pairTimed "right" 25] ∧
      ∃ servers, select pairTimes (.read { mode := .nearest }) = .ok (.ok servers) ∧
        pairTimed "left" 5 ∈ servers.reverse ∧ pairTimed "right" 25 ∉ servers.reverse := by
  have answerable : IsAnswerable pairTimes (.read { mode := .nearest }) := by
    refine ⟨by decide +kernel, fun preference same => ?_⟩
    cases same
    rfl
  have suits : suitable pairTimes (.read { mode := .nearest }) =
      .ok [pairTimed "left" 5, pairTimed "right" 25] := rfl
  obtain ⟨-, -, offers⟩ := offers_window pairTimes _ answerable
  obtain ⟨servers, selected, offered⟩ := offers _ suits
  obtain ⟨-, members, -, fastest, -⟩ := offered servers.reverse (List.reverse_perm servers)
  refine ⟨answerable, suits, servers, selected, fastest _ List.mem_cons_self ?_, fun member => ?_⟩
  · simp only [List.forall_mem_cons, List.not_mem_nil, false_implies, implies_true, and_true]
    exact ⟨by decide +kernel, by decide +kernel⟩
  · obtain ⟨best, shortest, close⟩ := ((members _).1 member).2 (by decide +kernel)
    have near := shortest.least (pairTimed "left" 5) List.mem_cons_self
    have far : ¬ latency (pairTimed "right" 25) ≤
        latency (pairTimed "left" 5) + pairTimes.localThreshold := by decide +kernel
    exact far (Nat.le_trans close (Nat.add_le_add_right near _))

/-- A selection can come to an accident although the driver can talk to the deployment and the read makes
sense. Both members of the pair would suit it, but the dates that they report are too far apart. -/
theorem distant_dates_stop_selection :
    Topology.Reachable Topology.pairOptions (Staleness.pairWrites Int64.maxValue (-1)) ∧
      IsAnswerable (Staleness.pairWrites Int64.maxValue (-1)) (.read { mode := .nearest }) ∧
      ¬ StaysInRange (Staleness.pairWrites Int64.maxValue (-1)) (.read { mode := .nearest }) ∧
      select (Staleness.pairWrites Int64.maxValue (-1)) (.read { mode := .nearest }) =
        .error .overflow := by
  have failed : suitable (Staleness.pairWrites Int64.maxValue (-1)) (.read { mode := .nearest }) =
      .error .overflow := rfl
  have answerable :
      IsAnswerable (Staleness.pairWrites Int64.maxValue (-1)) (.read { mode := .nearest }) := by
    refine ⟨by decide +kernel, fun preference same => ?_⟩
    cases same
    rfl
  refine ⟨Staleness.reachable_pairWrites _ _, answerable, fun inRange => ?_,
    select_of_accident answerable failed⟩
  obtain ⟨suited, found⟩ := exists_suitable_iff.2 inRange
  rw [failed] at found
  cases found

end Selection

end DocumentDriver
