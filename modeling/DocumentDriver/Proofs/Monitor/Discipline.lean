/-
This file proves how a monitor treats its connections. The first handshake on a connection is a query
in the old form that introduces the client. Another one follows only if the last one was answered with
a document, and it takes the new form only if this document was a success that showed that the server
knows the new form. So a connection on which an exchange failed, or took too long, is never used again,
and no late reply can be taken for the answer to another check.

What carries this from check to check is `Disciplined`: the connection that a monitor keeps is the one
of its last check, and what the monitor remembers of that check is the answer that came over it.
-/

import DocumentDriver.Proofs.Connection.Pairing
import DocumentDriver.Proofs.Monitor.Run

namespace DocumentDriver

/-! ### What one check meets with -/

namespace CheckPlan

/-- The document of an exchange is that of the message which came back. -/
theorem answered_of_replyOf {plan : CheckPlan} {address : ServerAddress} {exchange : Exchange}
    {duration : Duration} {document : Document}
    (answered : plan.replyOf address exchange duration = .ok document) :
    ∃ reply, exchange.result = .ok (some reply) ∧ reply.replyDocument = .ok document := by
  unfold replyOf at answered
  split at answered
  · cases answered
  · obtain ⟨reply, result, document⟩ := bind_eq_ok_iff.1 answered
    cases reply with
    | none => cases document
    | some reply => exact ⟨reply, result, document⟩

/-- Either no connection could be opened, or there is one exchange with the peer. -/
theorem talk_cases (plan : CheckPlan) (address : ServerAddress) (options : ClientOptions)
    (registry : CompressorRegistry) (encounter : Encounter) :
    let talk := plan.talk address options registry encounter
    let exchange := Exchange.run plan.message registry options.maxMessageSize encounter.peer
    (talk.exchange = none ∧ ∃ error, talk.reply = .error error) ∨
      talk.exchange = some exchange ∧
        ∃ duration, talk.reply = plan.replyOf address exchange duration := by
  unfold talk
  split
  · cases opened : connect address options encounter with
    | error error => exact .inl ⟨rfl, error, rfl⟩
    | ok => exact .inr ⟨rfl, _, rfl⟩
  · exact .inr ⟨rfl, _, rfl⟩

end CheckPlan

/-! ### What is known of the checks that were made -/

/-- A document says who a client is: the driver and its version, the system that it runs on, and the
application if this has a name. -/
structure Handshake.Describes (options : ClientOptions) (platform : Platform) (metadata : Document) :
    Prop where
  keys : metadata.keys.Sublist ["driver", "os", "application"]
  driver : metadata.get? "driver" =
    some (.document [("name", .string "mongo-core"), ("version", .string "0.1.0")])
  system : metadata.get? "os" = some (.document
    [("type", .string platform.system), ("architecture", .string platform.architecture)])
  application : metadata.get? "application" =
    options.appName.map fun name => .document [("name", .string name)]

/-- A first handshake in the old form, with what the client tells of itself. -/
def Handshake.Introduces (options : ClientOptions) (platform : Platform) (message : Message) : Prop :=
  ∃ query, message = .query query ∧ query.collection = Handshake.database ++ ".$cmd" ∧
    query.query.keys.head? = some "isMaster" ∧
    query.query.get? "client" = some (.document (clientMetadata platform options.appName)) ∧
    Describes options platform (clientMetadata platform options.appName)

/-- A reply that was a success and showed that the server knows the new form. -/
def Handshake.ShowsMsg (reply : Document) : Prop :=
  ServerDescription.flag reply "ok" = true ∧
    (ServerDescription.flag reply "helloOk" = true ∨
      ∃ version, ServerDescription.smallInteger? reply "maxWireVersion" = some version ∧ 6 ≤ version)

namespace Visit

/-- A check exchanged a message over the connection of a number. -/
def Uses (visit : Visit) (number : Nat) : Prop :=
  visit.checked.talk.exchange.isSome = true ∧ visit.number = number

/-- A check was answered in time with a document, by a message that answers its handshake. -/
def Receives (visit : Visit) (document : Document) : Prop :=
  visit.checked.talk.reply = .ok document ∧
    ∃ exchange reply, visit.checked.talk.exchange = some exchange ∧
      exchange.result = .ok (some reply) ∧
      reply.responseTo = visit.checked.plan.message.requestId ∧ reply.replyDocument = .ok document

/-- A check keeps to the discipline, given the checks before it, the latest first. -/
structure Follows (options : ClientOptions) (platform : Platform) (registry : CompressorRegistry)
    (visit : Visit) (exchange : Exchange) (earlier : List Visit) : Prop where
  /-- What goes over the connection is the handshake of the check. -/
  exchanges : ∃ peer, exchange =
    Exchange.run visit.checked.plan.message registry options.maxMessageSize peer
  /-- The first handshake on a connection introduces the client. -/
  introduces : (∀ other ∈ earlier, ¬other.Uses visit.number) →
    Handshake.Introduces options platform visit.checked.plan.message
  /-- A later one is sent only if all earlier ones were answered. -/
  answered : ∀ other ∈ earlier, other.Uses visit.number → ∃ document, other.Receives document
  /-- It takes the new form only if the last answer showed that the server knows it. -/
  shown : visit.checked.plan.message.kind = .msg → ∀ between other older,
    earlier = between ++ other :: older → other.Uses visit.number →
    (∀ one ∈ between, ¬one.Uses visit.number) →
    ∃ document, other.Receives document ∧ Handshake.ShowsMsg document

end Visit

/-- What a check took for the answer of the server came over its connection. -/
theorem Visit.receives_of_reply {monitor : Monitor} {options : ClientOptions} {platform : Platform}
    {registry : CompressorRegistry} {requestId : Int32} {start : Duration} {encounter : Encounter}
    {document : Document} (number : Nat)
    (reply : (monitor.check options platform registry requestId start encounter).talk.reply =
      .ok document) :
    Visit.Receives ⟨number, monitor.check options platform registry requestId start encounter⟩
      document := by
  refine ⟨reply, ?_⟩
  rcases CheckPlan.talk_cases (monitor.plan options platform requestId) monitor.address options
    registry encounter with ⟨-, error, failed⟩ | ⟨exchanged, duration, answered⟩
  · exact absurd (failed.symm.trans reply) (by simp)
  · obtain ⟨message, replied, holds⟩ := CheckPlan.answered_of_replyOf (answered.symm.trans reply)
    exact ⟨_, message, exchanged, replied, Exchange.responseTo_of_run replied, holds⟩

/-! ### The handshakes -/

theorem Handshake.describes_clientMetadata (options : ClientOptions) (platform : Platform) :
    Describes options platform (clientMetadata platform options.appName) := by
  refine ⟨?_, rfl, rfl, ?_⟩
  · cases options.appName with
    | none => exact List.sublist_append_left ["driver", "os"] ["application"]
    | some name => exact List.Sublist.refl _
  · cases options.appName <;> rfl

theorem Handshake.introduces_introduction (options : ClientOptions) (platform : Platform)
    (requestId : Int32) :
    Introduces options platform (.query (.command requestId database
      (introduction platform options.appName options.compressors))) :=
  ⟨_, rfl, rfl, rfl, rfl, describes_clientMetadata options platform⟩

/-- A server is known to know the new form by its last answer. -/
theorem Handshake.shows_of_knows {address : ServerAddress} {document : Document}
    {average : Option Duration} {moment : Duration} {known : ServerDescription}
    (usable : (usable? (some (.ofReply address document average moment))).filter knowsMsg =
      some known) : ShowsMsg document := by
  obtain ⟨answered, knows⟩ := Option.filter_eq_some_iff.1 usable
  obtain ⟨same, well⟩ := Option.filter_eq_some_iff.1 answered
  cases same
  unfold ServerDescription.ofReply at well knows
  split at well
  · next success =>
    refine ⟨success, ?_⟩
    rw [if_pos success, knowsMsg, Bool.or_eq_true, decide_eq_true_iff] at knows
    rcases knows with hello | version
    · exact .inl hello
    · refine .inr ?_
      change msgWireVersion ≤ (ServerDescription.smallInteger? document _).getD 0 at version
      cases found : ServerDescription.smallInteger? document "maxWireVersion" with
      | none =>
        rw [found] at version
        exact absurd version (by decide)
      | some newest =>
        rw [found] at version
        exact ⟨newest, rfl, version⟩
  · cases well

namespace Monitor

variable {monitor : Monitor} {options : ClientOptions} {platform : Platform} {requestId : Int32}

theorem number_used_of_closed (closed : monitor.openConnection? = none) :
    monitor.used.number = monitor.opened + 1 := by
  rw [used, closed]
  rfl

theorem used_of_open {connection : Connection}
    (still : monitor.openConnection? = some connection) : monitor.used = connection := by
  rw [used, still]
  rfl

/-- The first handshake on a new connection. -/
theorem introduces_of_fresh (closed : monitor.openConnection? = none) :
    Handshake.Introduces options platform (monitor.plan options platform requestId).message := by
  unfold plan handshake
  rw [closed]
  exact Handshake.introduces_introduction options platform requestId

/-- A handshake in the new form goes to a server that showed that it knows this form. -/
theorem shows_of_msg {connection : Connection} {address : ServerAddress} {document : Document}
    {average : Option Duration} {moment : Duration}
    (still : monitor.openConnection? = some connection)
    (previous : monitor.previous = some (.ofReply address document average moment))
    (modern : (monitor.plan options platform requestId).message.kind = .msg) :
    Handshake.ShowsMsg document := by
  unfold plan handshake at modern
  rw [still, previous] at modern
  simp only [Option.isNone_some, Bool.false_eq_true, if_false] at modern
  split at modern
  · cases modern
  · next known => exact Handshake.shows_of_knows known

end Monitor

/-! ### The invariant -/

namespace Watch

variable {options : ClientOptions} {platform : Platform} {registry : CompressorRegistry}
variable {watch : Watch}

/-- The connection of a number carried the last check, and what the monitor remembers is the answer
that came over it. -/
def Remembers (watch : Watch) (number : Nat) : Prop :=
  ∃ last earlier document, watch.visits = last :: earlier ∧ last.Uses number ∧
    last.Receives document ∧ ∃ address average moment,
      watch.monitor.previous = some (.ofReply address document average moment)

/-- Connections that were used have been opened, and all went well on the one that is kept. -/
structure Disciplined (watch : Watch) : Prop where
  numbered : ∀ visit ∈ watch.visits, ∀ number, visit.Uses number → number ≤ watch.monitor.opened
  kept : ∀ connection, watch.monitor.connection = some connection →
    watch.Remembers connection.number ∧
      ∀ visit ∈ watch.visits, visit.Uses connection.number → ∃ document, visit.Receives document

namespace Disciplined

/-- No check has used a connection that is yet to be opened. -/
theorem not_uses_next (holds : watch.Disciplined) (visit : Visit)
    (known : visit ∈ watch.visits) : ¬visit.Uses (watch.monitor.opened + 1) :=
  fun uses => absurd (holds.numbered visit known _ uses) (by omega)

theorem kept_of_open (holds : watch.Disciplined) {connection : Connection}
    (still : watch.monitor.openConnection? = some connection) :
    watch.Remembers connection.number ∧
      ∀ visit ∈ watch.visits, visit.Uses connection.number → ∃ document, visit.Receives document :=
  holds.kept connection (Option.filter_eq_some_iff.1 still).1

/-- A check keeps to the discipline, on a new connection as on the one that was kept. -/
theorem follows_next (holds : watch.Disciplined) (requestId : Int32)
    (start : Duration) (encounter : Encounter) {exchange : Exchange}
    (exchanged : (watch.monitor.check options platform registry requestId start
      encounter).talk.exchange = some exchange) :
    Visit.Follows options platform registry ⟨watch.monitor.used.number,
      watch.monitor.check options platform registry requestId start encounter⟩ exchange
      watch.visits := by
  have peer : ∃ peer, exchange = Exchange.run (watch.monitor.plan options platform requestId).message
      registry options.maxMessageSize peer := by
    rcases CheckPlan.talk_cases (watch.monitor.plan options platform requestId)
      watch.monitor.address options registry encounter with ⟨absent, -⟩ | ⟨present, -⟩
    · exact absurd (absent.symm.trans exchanged) (by simp)
    · exact ⟨encounter.peer, Option.some.inj (exchanged.symm.trans present)⟩
  cases still : watch.monitor.openConnection? with
  | none =>
    have number := Monitor.number_used_of_closed still
    refine ⟨peer, fun _ => Monitor.introduces_of_fresh still, ?_, ?_⟩
    · intro other known uses
      exact absurd (number ▸ uses) (holds.not_uses_next other known)
    · rintro - between other older split uses -
      exact absurd (number ▸ uses) (holds.not_uses_next other (split ▸ by simp))
  | some connection =>
    have number := congrArg Connection.number (Monitor.used_of_open still)
    obtain ⟨⟨last, earlier, document, latest, used, received, _, _, _, previous⟩, answered⟩ :=
      holds.kept_of_open still
    refine ⟨peer, ?_, fun other known uses => answered other known (number ▸ uses), ?_⟩
    · intro unused
      exact absurd (number ▸ used) (unused last (latest ▸ List.mem_cons_self))
    · intro modern between other older split uses unused
      -- The last check is the latest one on this connection, so nothing lies in between.
      have same : last = other := by
        cases between with
        | nil => exact (List.cons.inj (latest.symm.trans split)).1
        | cons first rest =>
          have first : last = first := (List.cons.inj (latest.symm.trans split)).1
          exact absurd (number ▸ used) (unused last (first ▸ List.mem_cons_self))
      exact ⟨document, same ▸ received, Monitor.shows_of_msg still previous modern⟩

/-- The connection of a check is open when the check has used it. -/
theorem numbered_check (holds : watch.Disciplined) (requestId : Int32)
    (start : Duration) (encounter : Encounter) (number : Nat)
    (uses : Visit.Uses ⟨watch.monitor.used.number,
      watch.monitor.check options platform registry requestId start encounter⟩ number) :
    number ≤
      (watch.monitor.check options platform registry requestId start encounter).monitor.opened := by
  obtain ⟨exchanged, rfl⟩ := uses
  dsimp only at exchanged ⊢
  rw [Monitor.opened_check, exchanged]
  cases still : watch.monitor.openConnection? with
  | none =>
    have fresh : (watch.monitor.check options platform registry requestId start
        encounter).plan.isFresh = true := Option.isNone_iff_eq_none.2 still
    rw [if_pos (Bool.and_eq_true_iff.2 ⟨fresh, rfl⟩)]
    exact Nat.le_of_eq (Monitor.number_used_of_closed still)
  | some connection =>
    obtain ⟨⟨last, earlier, -, latest, used, -⟩, -⟩ := holds.kept_of_open still
    have known := holds.numbered last (latest ▸ List.mem_cons_self) _ used
    rw [Monitor.used_of_open still]
    split
    · exact Nat.le_succ_of_le known
    · exact known

/-- What comes back over the connection of a check is remembered with it. -/
theorem kept_check (holds : watch.Disciplined) (requestId : Int32)
    (start : Duration) (encounter : Encounter) (connection : Connection)
    (keeps : (watch.monitor.check options platform registry requestId start
      encounter).monitor.connection = some connection) :
    let next := watch.record
      (watch.monitor.check options platform registry requestId start encounter)
    next.Remembers connection.number ∧
      ∀ visit ∈ next.visits, visit.Uses connection.number → ∃ document, visit.Receives document := by
  rcases watch.monitor.ends_check options platform registry requestId start encounter with
    ⟨error, -, -, dropped, -⟩ | ⟨document, moment, reply, description, connected, -⟩
  · exact absurd (dropped.symm.trans keeps) (by simp)
  · have number : watch.monitor.used.number = connection.number := by
      rw [← Option.some.inj (connected.symm.trans keeps)]
    have received := Visit.receives_of_reply watch.monitor.used.number reply
    obtain ⟨-, exchange, -, exchanged, -⟩ := id received
    have uses := Option.isSome_of_eq_some exchanged
    have previous := (watch.monitor.previous_check options platform registry requestId start
      encounter).trans (congrArg some description)
    refine ⟨⟨_, _, document, rfl, ⟨uses, number⟩, received, _, _, _, previous⟩, ?_⟩
    · intro visit known uses
      rcases List.mem_cons.1 known with rfl | before
      · exact ⟨document, received⟩
      · rw [← number] at uses
        cases still : watch.monitor.openConnection? with
        | none =>
          rw [Monitor.number_used_of_closed still] at uses
          exact absurd uses (holds.not_uses_next visit before)
        | some kept =>
          rw [Monitor.used_of_open still] at uses
          exact (holds.kept_of_open still).2 visit before uses

theorem record (holds : watch.Disciplined) (requestId : Int32) (start : Duration)
    (encounter : Encounter) :
    Disciplined (watch.record
      (watch.monitor.check options platform registry requestId start encounter)) := by
  refine ⟨?_, holds.kept_check requestId start encounter⟩
  intro visit known number uses
  rcases List.mem_cons.1 known with rfl | before
  · exact holds.numbered_check requestId start encounter number uses
  · refine Nat.le_trans (holds.numbered visit before number uses) ?_
    rw [Watch.record, Monitor.opened_check]
    split <;> omega

/-- A new monitor has not done anything. -/
theorem start (address : ServerAddress) : Disciplined { monitor := { address } } := by
  refine ⟨fun visit known => absurd known List.not_mem_nil, fun connection keeps => ?_⟩
  cases keeps

/-- That the connection which is kept has failed does not change what came over it. -/
theorem disconnect (holds : watch.Disciplined) :
    Disciplined { watch with monitor := watch.monitor.disconnect } := by
  refine ⟨holds.numbered, fun connection keeps => ?_⟩
  obtain ⟨kept, found, rfl⟩ := Option.map_eq_some_iff.1 keeps
  exact holds.kept kept found

end Disciplined

/-- Whatever happens to a monitor, each check that exchanges a message keeps to the discipline: it
introduces the client if it is the first one on its connection, it comes after answers only, and it
takes the new form only if the last of them allows it. -/
theorem checks_follow_discipline (options : ClientOptions) (platform : Platform)
    (registry : CompressorRegistry) (address : ServerAddress) (events : List MonitorEvent)
    (visit : Visit) (earlier : List Visit) (exchange : Exchange)
    (made : visit :: earlier <:+ (run options platform registry address events).visits)
    (exchanged : visit.checked.talk.exchange = some exchange) :
    visit.Follows options platform registry exchange earlier := by
  refine visits_induction options platform registry Disciplined
    (fun visit earlier => ∀ exchange, visit.checked.talk.exchange = some exchange →
      visit.Follows options platform registry exchange earlier)
    address (.start address) ?_ ?_ ?_ events visit earlier made exchange exchanged
  · exact fun watch requestId start encounter holds =>
      ⟨holds.record requestId start encounter,
        fun _ exchanged => holds.follows_next requestId start encounter exchanged⟩
  · exact fun watch duration holds => ⟨holds.numbered, holds.kept⟩
  · exact fun watch holds => holds.disconnect

/-- A server that answers the handshake of a number and knows the new form. -/
def knowingPeer (requestId : Int32) : Peer where
  send _ := .ok ()
  receive _ := (Message.reply {
    requestId := 1
    responseTo := requestId
    documents := [[("ok", .int32 1), ("helloOk", .boolean true)]] }).serialize

/-- Two checks of a server that answers both. -/
def answeredTwice : List MonitorEvent :=
  [.check 1 .zero { peer := knowingPeer 1 } [], .check 2 .zero { peer := knowingPeer 2 } []]

theorem checks_follow_discipline_answeredTwice :
    ∃ visit earlier exchange,
      visit :: earlier <:+ (run {} {} .default ⟨"left", 27017⟩ answeredTwice).visits ∧
      visit.checked.talk.exchange = some exchange ∧ visit.checked.plan.message.kind = .msg ∧
      visit.Follows {} {} .default exchange earlier := by
  have exchanged : ((run {} {} .default ⟨"left", 27017⟩ answeredTwice).visits.head?.bind
      (·.checked.talk.exchange)).isSome = true := by
    decide +kernel
  obtain ⟨exchange, exchanged⟩ := Option.isSome_iff_exists.1 exchanged
  refine ⟨_, _, exchange, List.suffix_refl _, exchanged, by decide +kernel, ?_⟩
  exact checks_follow_discipline {} {} .default ⟨"left", 27017⟩ answeredTwice _ _ exchange
    (List.suffix_refl _) exchanged

end Watch

end DocumentDriver
