/-
This file proves that what a picture says of the deployment as a whole never goes out of date. Whether
the driver can talk to the deployment, and how long a session lasts, follows from the servers that are
tracked now, however the picture came about.
-/

import DocumentDriver.Proofs.Topology.Primary

namespace DocumentDriver

/-- A server is incompatible exactly if it has answered, and the versions that it speaks lie on one side
of those from 6 to 21. -/
theorem ServerDescription.incompatibility?_isSome_iff (server : ServerDescription) :
    server.incompatibility?.isSome = true ↔
      server.type ≠ .unknown ∧ (21 < server.minWireVersion ∨ server.maxWireVersion < 6) := by
  unfold incompatibility? maxSupportedWireVersion minSupportedWireVersion isAvailable
  rw [← ServerType.isAvailable_iff]
  cases server.type.isAvailable with
  | false => simp
  | true =>
    by_cases tooNew : 21 < server.minWireVersion
    · simp [tooNew]
    · by_cases tooOld : server.maxWireVersion < 6 <;> simp [tooNew, tooOld]

namespace Topology

/-! ### The shortest session -/

/-- A length of time is the length of the shortest session of some servers, which all tell theirs. -/
structure IsShortestSession (servers : List ServerDescription) (bound : Duration) : Prop where
  attained : ∃ server ∈ servers, server.logicalSessionTimeout = some bound
  least : ∀ server ∈ servers, ∃ timeout,
    server.logicalSessionTimeout = some timeout ∧ bound ≤ timeout

theorem shortestSession_cons (first second : ServerDescription) (rest : List ServerDescription) :
    shortestSession (first :: second :: rest) =
      first.logicalSessionTimeout.bind fun timeout =>
        (shortestSession (second :: rest)).map (min timeout) := by
  rw [shortestSession]
  · cases first.logicalSessionTimeout with
    | none => rfl
    | some timeout => cases shortestSession (second :: rest) <;> rfl
  · exact List.cons_ne_nil second rest

/-- Of servers that all tell how long a session lasts, the shortest one counts. -/
theorem isShortestSession_of_shortestSession (servers : List ServerDescription) (bound : Duration)
    (shortest : shortestSession servers = some bound) : IsShortestSession servers bound := by
  induction servers generalizing bound with
  | nil => cases shortest
  | cons first rest inductionHypothesis =>
    cases rest with
    | nil =>
      refine ⟨⟨first, List.mem_cons_self, shortest⟩, fun server member => ?_⟩
      rw [List.mem_singleton.1 member]
      exact ⟨bound, shortest, Nat.le_refl _⟩
    | cons second others =>
      rw [shortestSession_cons, Option.bind_eq_some_iff] at shortest
      obtain ⟨timeout, told, shortest⟩ := shortest
      obtain ⟨restBound, restShortest, rfl⟩ := Option.map_eq_some_iff.1 shortest
      obtain ⟨⟨server, member, attained⟩, least⟩ := inductionHypothesis restBound restShortest
      refine ⟨?_, fun other otherMember => ?_⟩
      · rcases Duration.min_eq_or timeout restBound with same | same
        · exact ⟨first, List.mem_cons_self, told.trans (congrArg some same.symm)⟩
        · exact ⟨server, List.mem_cons_of_mem _ member,
            attained.trans (congrArg some same.symm)⟩
      · rcases List.mem_cons.1 otherMember with rfl | inRest
        · exact ⟨timeout, told, Nat.min_le_left _ _⟩
        · obtain ⟨otherTimeout, otherTold, longer⟩ := least other inRest
          exact ⟨otherTimeout, otherTold, Nat.le_trans (Nat.min_le_right _ _) longer⟩

/-- There is a shortest session exactly if there are servers and all tell theirs. -/
theorem shortestSession_isSome_iff (servers : List ServerDescription) :
    (shortestSession servers).isSome = true ↔
      (∃ server, server ∈ servers) ∧
        ∀ server ∈ servers, server.logicalSessionTimeout.isSome = true := by
  induction servers with
  | nil => simp [shortestSession]
  | cons first rest inductionHypothesis =>
    cases rest with
    | nil => simp [shortestSession]
    | cons second others =>
      rw [shortestSession_cons]
      cases told : first.logicalSessionTimeout with
      | none => simp [told]
      | some timeout =>
        rw [Option.bind_some, Option.isSome_map, inductionHypothesis]
        simp [told]

theorem eq_of_isShortestSession {servers : List ServerDescription} {first second : Duration}
    (isFirst : IsShortestSession servers first) (isSecond : IsShortestSession servers second) :
    first = second := by
  have below {left right : Duration} (isLeft : IsShortestSession servers left)
      (isRight : IsShortestSession servers right) : left.nanoseconds ≤ right.nanoseconds := by
    obtain ⟨server, member, attained⟩ := isRight.attained
    obtain ⟨timeout, told, longer⟩ := isLeft.least server member
    rw [attained] at told
    cases told
    exact longer
  exact congrArg Duration.mk (Nat.le_antisymm (below isFirst isSecond) (below isSecond isFirst))

theorem shortestSession_eq_some_iff (servers : List ServerDescription) (bound : Duration) :
    shortestSession servers = some bound ↔ IsShortestSession servers bound := by
  refine ⟨isShortestSession_of_shortestSession servers bound, fun isShortest => ?_⟩
  obtain ⟨server, member, -⟩ := isShortest.attained
  have told : (shortestSession servers).isSome = true := by
    refine (shortestSession_isSome_iff servers).2 ⟨⟨server, member⟩, fun other inList => ?_⟩
    obtain ⟨timeout, tells, -⟩ := isShortest.least other inList
    exact tells ▸ rfl
  obtain ⟨found, shortest⟩ := Option.isSome_iff_exists.1 told
  rw [shortest, eq_of_isShortestSession isShortest
    (isShortestSession_of_shortestSession servers found shortest)]

/-! ### Pictures that are up to date -/

/-- What follows from the servers for the whole deployment has been found out anew. -/
def IsUpToDate (topology : Topology) : Prop := topology.refresh = topology

theorem type_of_mem_initial (options : ClientOptions) (server : ServerDescription)
    (member : server ∈ (initial options).descriptions) : server.type = .unknown := by
  obtain ⟨address, found⟩ := (mem_descriptions_iff _ server).1 member
  rw [eq_unknown_of_initial options address server found]
  rfl

/-- At the start nothing follows from the servers, because none has answered. -/
theorem isUpToDate_initial (options : ClientOptions) : (initial options).IsUpToDate := by
  have compatible : (initial options).descriptions.findSome?
      ServerDescription.incompatibility? = none := by
    refine List.findSome?_eq_none_iff.2 fun server member => ?_
    rw [← Option.not_isSome_iff_eq_none, ServerDescription.incompatibility?_isSome_iff]
    exact fun ⟨answered, _⟩ => answered (type_of_mem_initial options server member)
  have silent : (initial options).descriptions.filter (·.isDataBearing) = [] := by
    refine List.filter_eq_nil_iff.2 fun server member bearing => ?_
    unfold ServerDescription.isDataBearing at bearing
    rw [type_of_mem_initial options server member] at bearing
    cases bearing
  unfold IsUpToDate refresh
  rw [compatible, silent]
  rfl

theorem isUpToDate_of_reachable (options : ClientOptions) (topology : Topology)
    (reached : Reachable options topology) : topology.IsUpToDate :=
  reachable_induction options IsUpToDate (fun _ => isUpToDate_initial options)
    (fun _ _ _ _ _ => rfl) topology reached

/-! ### The servers that count -/

/-- A server holds data exactly if it is found among those that do. -/
theorem mem_dataBearing_iff (topology : Topology) (server : ServerDescription) :
    server ∈ topology.descriptions.filter (·.isDataBearing) ↔
      ∃ address, topology.server? address = some server ∧ server.isDataBearing = true := by
  rw [List.mem_filter, mem_descriptions_iff]
  exact exists_and_right.symm

theorem forall_dataBearing_iff (topology : Topology) (holds : ServerDescription → Prop) :
    (∀ server ∈ topology.descriptions.filter (·.isDataBearing), holds server) ↔
      ∀ address server, topology.server? address = some server → server.isDataBearing = true →
        holds server := by
  simp only [mem_dataBearing_iff]
  exact ⟨fun all address server found bearing => all server ⟨address, found, bearing⟩,
    fun all server ⟨address, found, bearing⟩ => all address server found bearing⟩

theorem incompatibility_isSome_iff (topology : Topology) (current : topology.IsUpToDate) :
    topology.incompatibility.isSome = true ↔
      ∃ address server, topology.server? address = some server ∧ server.type ≠ .unknown ∧
        (21 < server.minWireVersion ∨ server.maxWireVersion < 6) := by
  have found : topology.incompatibility =
      topology.descriptions.findSome? ServerDescription.incompatibility? :=
    (congrArg Topology.incompatibility current).symm
  rw [found, List.findSome?_isSome_iff]
  simp only [ServerDescription.incompatibility?_isSome_iff, mem_descriptions_iff]
  constructor
  · rintro ⟨server, ⟨address, known⟩, outside⟩
    exact ⟨address, server, known, outside⟩
  · rintro ⟨address, server, known, outside⟩
    exact ⟨server, ⟨address, known⟩, outside⟩

theorem sessionTimeout_eq_of_isUpToDate (topology : Topology) (current : topology.IsUpToDate) :
    topology.sessionTimeout =
      shortestSession (topology.descriptions.filter (·.isDataBearing)) :=
  (congrArg Topology.sessionTimeout current).symm

theorem sessionTimeout_eq_some_iff (topology : Topology) (current : topology.IsUpToDate)
    (bound : Duration) :
    topology.sessionTimeout = some bound ↔
      (∃ address server, topology.server? address = some server ∧
        server.isDataBearing = true ∧ server.logicalSessionTimeout = some bound) ∧
      ∀ address server, topology.server? address = some server → server.isDataBearing = true →
        ∃ timeout, server.logicalSessionTimeout = some timeout ∧ bound ≤ timeout := by
  rw [sessionTimeout_eq_of_isUpToDate topology current, shortestSession_eq_some_iff,
    ← forall_dataBearing_iff]
  constructor
  · rintro ⟨⟨server, member, attained⟩, least⟩
    obtain ⟨address, found, bearing⟩ := (mem_dataBearing_iff topology server).1 member
    exact ⟨⟨address, server, found, bearing, attained⟩, least⟩
  · rintro ⟨⟨address, server, found, bearing, attained⟩, least⟩
    have member := (mem_dataBearing_iff topology server).2 ⟨address, found, bearing⟩
    exact ⟨⟨server, member, attained⟩, least⟩

theorem sessionTimeout_isSome_iff (topology : Topology) (current : topology.IsUpToDate) :
    topology.sessionTimeout.isSome = true ↔
      (∃ address server, topology.server? address = some server ∧
        server.isDataBearing = true) ∧
      ∀ address server, topology.server? address = some server → server.isDataBearing = true →
        server.logicalSessionTimeout.isSome = true := by
  rw [sessionTimeout_eq_of_isUpToDate topology current, shortestSession_isSome_iff,
    forall_dataBearing_iff, exists_comm]
  simp only [mem_dataBearing_iff]

/-- Pictures of the same servers that are up to date say the same of the deployment as a whole. -/
theorem derived_eq_of_servers_eq (topology other : Topology) (current : topology.IsUpToDate)
    (otherCurrent : other.IsUpToDate) (same : other.servers = topology.servers) :
    other.incompatibility = topology.incompatibility ∧
      other.sessionTimeout = topology.sessionTimeout := by
  have descriptions : other.descriptions = topology.descriptions :=
    congrArg AddressMap.values same
  constructor
  · rw [← otherCurrent, ← current]
    exact congrArg (List.findSome? ServerDescription.incompatibility?) descriptions
  · rw [sessionTimeout_eq_of_isUpToDate topology current,
      sessionTimeout_eq_of_isUpToDate other otherCurrent, descriptions]

/-- What is said of the deployment as a whole follows from the servers that are tracked. It is
incompatible exactly if a server is that has answered. A session lasts as long as the shortest one of
the servers that hold data, if there is such a server and all of them tell theirs, and else its length
is not known. Two pictures of the same servers agree on both. -/
theorem derived_from_servers (options : ClientOptions) (topology : Topology)
    (reached : Reachable options topology) :
    (topology.incompatibility.isSome = true ↔
      ∃ address server, topology.server? address = some server ∧ server.type ≠ .unknown ∧
        (21 < server.minWireVersion ∨ server.maxWireVersion < 6)) ∧
      (∀ bound, topology.sessionTimeout = some bound ↔
        (∃ address server, topology.server? address = some server ∧
          server.isDataBearing = true ∧ server.logicalSessionTimeout = some bound) ∧
        ∀ address server, topology.server? address = some server → server.isDataBearing = true →
          ∃ timeout, server.logicalSessionTimeout = some timeout ∧ bound ≤ timeout) ∧
      (topology.sessionTimeout.isSome = true ↔
        (∃ address server, topology.server? address = some server ∧
          server.isDataBearing = true) ∧
        ∀ address server, topology.server? address = some server → server.isDataBearing = true →
          server.logicalSessionTimeout.isSome = true) ∧
      ∀ otherOptions other, Reachable otherOptions other → other.servers = topology.servers →
        other.incompatibility = topology.incompatibility ∧
          other.sessionTimeout = topology.sessionTimeout := by
  have current := isUpToDate_of_reachable options topology reached
  refine ⟨incompatibility_isSome_iff topology current, sessionTimeout_eq_some_iff topology current,
    sessionTimeout_isSome_iff topology current, fun otherOptions other otherReached same => ?_⟩
  exact derived_eq_of_servers_eq topology other current
    (isUpToDate_of_reachable otherOptions other otherReached) same

/-- The answer of either server of the pair as a secondary whose sessions last some minutes, and which
speaks some newest version of the protocol. -/
def pairSession (host : String) (minutes newest : Int32) : ServerDescription :=
  .ofReply ⟨host, 27017⟩
    [("ok", .int32 1), ("secondary", .boolean true), ("setName", .string "pair"),
      ("logicalSessionTimeoutMinutes", .int32 minutes), ("maxWireVersion", .int32 newest),
      ("hosts", .array [.string "left", .string "right"])] none .zero

/-- The picture once both servers of the pair have told how long their sessions last. One of them is
too old for the driver. -/
def pairSessions : Topology :=
  (initial pairOptions).applyAll [pairSession "left" 30 17, pairSession "right" 10 5]

theorem derived_from_servers_pair :
    Reachable pairOptions pairSessions ∧ pairSessions.incompatibility.isSome = true ∧
      pairSessions.sessionTimeout = some (.ofSeconds 600) := by
  have reached : Reachable pairOptions pairSessions := by
    refine reachable_applyAll pairOptions _ (.start _ rfl) _ fun description member => ?_
    simp only [List.mem_cons, List.not_mem_nil, or_false] at member
    rcases member with rfl | rfl <;> exact .replied _ _ _ _
  have left : pairSessions.server? ⟨"left", 27017⟩ = some (pairSession "left" 30 17) := rfl
  have right : pairSessions.server? ⟨"right", 27017⟩ = some (pairSession "right" 10 5) := rfl
  obtain ⟨incompatible, session, -⟩ := derived_from_servers pairOptions pairSessions reached
  refine ⟨reached, incompatible.2 ⟨_, _, right, by decide +kernel, .inr (by decide +kernel)⟩,
    (session _).2 ⟨⟨_, _, right, by decide +kernel, by decide +kernel⟩, ?_⟩⟩
  intro address server found _
  have listed : (address, server) ∈ pairSessions.servers.entries :=
    (AddressMap.get?_eq_some_iff _).1 found
  have entries : pairSessions.servers.entries =
      [(⟨"left", 27017⟩, pairSession "left" 30 17),
        (⟨"right", 27017⟩, pairSession "right" 10 5)] := rfl
  rw [entries] at listed
  simp only [List.mem_cons, Prod.mk.injEq, List.not_mem_nil, or_false] at listed
  rcases listed with ⟨-, rfl⟩ | ⟨-, rfl⟩
  · exact ⟨.ofSeconds 1800, by decide +kernel, by decide +kernel⟩
  · exact ⟨.ofSeconds 600, by decide +kernel, by decide +kernel⟩

end Topology

end DocumentDriver
