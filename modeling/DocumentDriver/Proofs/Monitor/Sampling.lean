/-
This file proves when a check gives a sample of the round-trip time. An answer that the server may
have waited with gives none, and the exchange may take longer then. Whether the monitor waits is
decided by the last description alone, whether it asks the server to wait also by the form of the
handshake. The two agree but for one kind of server: one that tells a version of its view and does not
show that it knows the new form. It is asked in the old form, which cannot ask for a wait, and still
the check is taken for one that did.
-/

import DocumentDriver.Proofs.Monitor.Run

namespace DocumentDriver

/-! ### Asking a server to wait -/

/-- The document with which a message asks something of a server. -/
def Message.question? : Message → Option Document
  | query message => some message.query
  | msg message => some message.command
  | _ => none

/-- A message asks the server to wait until it has news: it tells the version of the view that is
known, and how long the server may wait for another. -/
def Message.asksToWait (message : Message) : Bool :=
  message.question?.any fun question =>
    (question.get? "topologyVersion").isSome && (question.get? "maxAwaitTimeMS").isSome

namespace Handshake

/-- The first handshake on a connection asks for no wait. -/
theorem asksToWait_introduction (options : ClientOptions) (platform : Platform) (requestId : Int32) :
    (Message.query (.command requestId database
      (introduction platform options.appName options.compressors))).asksToWait = false := rfl

/-- The old form cannot ask for a wait. -/
theorem asksToWait_legacy (requestId : Int32) :
    (Message.query (.command requestId database legacy)).asksToWait = false := rfl

/-- The new form asks for a wait if it is to and the server has told a version. -/
theorem asksToWait_modern (description : ServerDescription) (isAwaitable : Bool) (heartbeat : Nat)
    (requestId : Int32) :
    (Message.msg (.addressed requestId database
      (modern description isAwaitable heartbeat))).asksToWait =
      (isAwaitable && description.topologyVersion.isSome) := by
  unfold modern
  cases description.helloOk <;> cases description.topologyVersion <;> cases isAwaitable <;> rfl

end Handshake

/-! ### What a check gives -/

theorem exists_eq_ok_of_isSome {Failure Result : Type} {outcome : Except Failure Result}
    (found : outcome.toOption.isSome = true) : ∃ result, outcome = .ok result := by
  cases outcome with
  | error failure => cases found
  | ok result => exact ⟨result, rfl⟩

/-- The sample of the round-trip time that an answered check gives, if it gives one. -/
def Checked.sample? (checked : Checked) : Option Duration :=
  checked.talk.reply.toOption.bind fun _ =>
    if checked.plan.isAwaitable then none else some checked.talk.elapsed

namespace Monitor

/-- Over the connection that is still open the server told a version of its view, and showed that it
knows the new form or did not show it. -/
def VersionTold (monitor : Monitor) (knows : Bool) : Prop :=
  monitor.openConnection?.isSome = true ∧ ∃ description, monitor.previous = some description ∧
    description.topologyVersion.isSome = true ∧ Handshake.knowsMsg description = knows

/-- A server that has told a version of its view has answered well. -/
def IsTruthful (monitor : Monitor) : Prop :=
  ∀ description, monitor.previous = some description →
    description.topologyVersion.isSome = true → description.error = none

variable {monitor : Monitor} {options : ClientOptions} {platform : Platform} {requestId : Int32}

theorem VersionTold.unique {first second : Bool} (told : monitor.VersionTold first)
    (again : monitor.VersionTold second) : first = second := by
  obtain ⟨-, description, found, -, rfl⟩ := told
  obtain ⟨-, other, same, -, rfl⟩ := again
  rw [Option.some.inj (found.symm.trans same)]

/-- The monitor waits for a server that told a version, whichever form the server knows. -/
theorem isAwaitable_plan_iff :
    (monitor.plan options platform requestId).isAwaitable = true ↔
      ∃ knows, monitor.VersionTold knows := by
  unfold plan hasVersion
  rw [Bool.and_eq_true, Bool.not_eq_true', Option.isNone_eq_false_iff]
  constructor
  · rintro ⟨still, version⟩
    obtain ⟨remembered, told⟩ := (Option.any_eq_true_iff_get _ _).1 version
    exact ⟨_, still, _, (Option.some_get remembered).symm, told, rfl⟩
  · rintro ⟨_, still, description, found, told, -⟩
    exact ⟨still, by rw [found]; exact told⟩

/-- A handshake asks for a wait if the server told a version and knows the new form. -/
theorem asksToWait_plan_iff (truthful : monitor.IsTruthful) :
    (monitor.plan options platform requestId).message.asksToWait = true ↔
      monitor.VersionTold true := by
  unfold plan handshake
  cases still : monitor.openConnection? with
  | none =>
    refine iff_of_false ?_ fun told => ?_
    · exact Bool.not_eq_true _ ▸ Handshake.asksToWait_introduction options platform requestId
    · exact absurd (still ▸ told.1) (by simp)
  | some connection =>
    dsimp only [Option.isNone_some]
    rw [if_neg Bool.false_ne_true]
    cases usable : (Handshake.usable? monitor.previous).filter Handshake.knowsMsg with
    | none =>
      refine iff_of_false (Bool.not_eq_true _ ▸ Handshake.asksToWait_legacy requestId) ?_
      rintro ⟨-, description, found, told, knows⟩
      have well := truthful description found told
      simp [found, Handshake.usable?, well, knows] at usable
    | some known =>
      obtain ⟨answered, knows⟩ := Option.filter_eq_some_iff.1 usable
      obtain ⟨found, -⟩ := Option.filter_eq_some_iff.1 answered
      dsimp only
      rw [Handshake.asksToWait_modern, hasVersion, found]
      constructor
      · intro asks
        exact ⟨Option.isSome_of_eq_some still, known, found, (Bool.and_eq_true_iff.1 asks).2, knows⟩
      · rintro ⟨-, other, same, told, -⟩
        have told : known.topologyVersion.isSome = true :=
          Option.some.inj (same.symm.trans found) ▸ told
        simp [told]

section

variable {registry : CompressorRegistry} {start : Duration} {encounter : Encounter}
variable {samples : List Duration} {document : Document}

theorem plan_checkAmid :
    (monitor.checkAmid options platform registry requestId start encounter samples).plan =
      monitor.plan options platform requestId := by
  unfold checkAmid
  dsimp only

/-- The average takes in what comes in during a check, and then the sample of the check. -/
theorem average_checkAmid
    (answered : (monitor.checkAmid options platform registry requestId start encounter
      samples).talk.reply = .ok document) :
    let made := monitor.checkAmid options platform registry requestId start encounter samples
    made.monitor.average = (monitor.addSamples (samples ++ made.sample?.toList)).average := by
  dsimp only
  rw [checkAmid_eq] at answered ⊢
  rcases (monitor.addSamples samples).ends_check options platform registry requestId start encounter
    with ⟨error, failed, -, -, -⟩ | ⟨document, moment, reply, -, -, average⟩
  · exact absurd (failed.symm.trans answered) (by simp)
  · rw [average, Checked.sample?, reply, addSamples, addSamples, List.foldl_append]
    dsimp only [Except.toOption, Option.bind_some]
    split <;> rfl

end

end Monitor

/-! ### Whole runs -/

/-- What tells a version comes from a reply with success. -/
theorem ServerDescription.error_of_version {address : ServerAddress} {reply : Document}
    {average : Option Duration} {moment : Duration}
    (told : (ofReply address reply average moment).topologyVersion.isSome = true) :
    (ofReply address reply average moment).error = none := by
  unfold ofReply at told ⊢
  split at told
  · next success =>
    rw [if_pos success]
    rfl
  · cases told

namespace Watch

variable (options : ClientOptions) (platform : Platform) (registry : CompressorRegistry)

theorem isTruthful_run (address : ServerAddress) (events : List MonitorEvent) :
    (run options platform registry address events).monitor.IsTruthful := by
  refine run_induction options platform registry (·.monitor.IsTruthful) address ?_ ?_ ?_ ?_ events
  · exact fun description absent => by cases absent
  · intro watch requestId start encounter _ description found told
    have previous := watch.monitor.previous_check options platform registry requestId start encounter
    rw [← Option.some.inj (previous.symm.trans found)] at told ⊢
    rcases watch.monitor.ends_check options platform registry requestId start encounter with
      ⟨error, -, failed, -, -⟩ | ⟨document, moment, -, answered, -, -⟩
    · rw [failed] at told
      cases told
    · rw [answered] at told ⊢
      exact ServerDescription.error_of_version told
  · exact fun watch duration holds => holds
  · exact fun watch holds => holds

variable {options platform registry}

/-- An answered check of any run gives a sample unless its handshake asked the server to wait, or the
server told a version of its view on the same connection and did not show that it knows the new form.
These do not come together. The exchange may take longer exactly if there is no sample, and the average
takes in the samples that there are. -/
theorem sample_withheld_iff {address : ServerAddress} {events : List MonitorEvent} {before : Monitor}
    (reached : (run options platform registry address events).monitor = before) {requestId : Int32}
    {start : Duration} {encounter : Encounter} {samples : List Duration} {made : Checked}
    (makes : before.checkAmid options platform registry requestId start encounter samples = made)
    {document : Document} (answered : made.talk.reply = .ok document) :
    (made.sample? = none ↔ made.plan.message.asksToWait = true ∨ before.VersionTold false) ∧
      (made.plan.message.asksToWait = true → ¬before.VersionTold false) ∧
      made.plan.limit =
        (if made.sample?.isNone then
          .ofMilliseconds options.connectTimeout + .ofMilliseconds options.heartbeatFrequency
        else .ofMilliseconds options.connectTimeout) ∧
      made.monitor.average = (before.addSamples (samples ++ made.sample?.toList)).average := by
  have truthful : before.IsTruthful :=
    reached ▸ isTruthful_run options platform registry address events
  have plan : made.plan = before.plan options platform requestId := makes ▸ Monitor.plan_checkAmid
  have asks : made.plan.message.asksToWait = true ↔ before.VersionTold true :=
    plan ▸ Monitor.asksToWait_plan_iff truthful
  have sample : made.sample? = if made.plan.isAwaitable then none else some made.talk.elapsed := by
    rw [Checked.sample?, answered]
    rfl
  have withheld : made.sample? = none ↔ made.plan.isAwaitable = true := by
    rw [sample]
    split <;> simp_all
  refine ⟨?_, ?_, ?_, ?_⟩
  · rw [withheld, asks, plan, Monitor.isAwaitable_plan_iff, Bool.exists_bool, or_comm]
  · exact fun asked told => Bool.false_ne_true (told.unique (asks.1 asked))
  · have limit : made.plan.limit = Monitor.limit options made.plan.isAwaitable := by
      rw [plan]
      rfl
    rw [limit, Monitor.limit, sample]
    cases made.plan.isAwaitable <;> rfl
  · subst makes
    exact Monitor.average_checkAmid answered

/-- A server that answers the handshake of a number after some time, and tells a version of its view
beside other things. -/
def versionPeer (requestId : Int32) (rest : Document) (delay : Duration) : Peer where
  send _ := .ok ()
  receive _ :=
    let version : Document := [("processId", .objectId ⟨.replicate 12 1⟩), ("counter", .int64 1)]
    let reply : Document := ("ok", .int32 1) :: ("topologyVersion", .document version) :: rest
    (Message.reply { requestId := 1, responseTo := requestId, documents := [reply] }).serialize
  delay

/-- The first check of such a server. -/
def toldOnce (rest : Document) : List MonitorEvent :=
  [.check 1 .zero { peer := versionPeer 1 rest (.ofMilliseconds 2) } []]

/-- What the second check meets with. -/
def toldAgain (rest : Document) : Encounter where
  peer := versionPeer 2 rest (.ofMilliseconds 4)

theorem sample_withheld_iff_knowing :
    ∃ before made document,
      (run {} {} .default ⟨"left", 27017⟩ (toldOnce [("helloOk", .boolean true)])).monitor = before ∧
      before.checkAmid {} {} .default 2 .zero (toldAgain [("helloOk", .boolean true)]) [] = made ∧
      made.talk.reply = .ok document ∧ made.plan.message.asksToWait = true ∧
      made.sample? = none ∧ ¬before.VersionTold false ∧
      made.plan.limit = .ofMilliseconds 10000 + .ofMilliseconds 10000 ∧
      made.monitor.average = before.average := by
  obtain ⟨before, reached⟩ : ∃ before, (run {} {} .default ⟨"left", 27017⟩
    (toldOnce [("helloOk", .boolean true)])).monitor = before := ⟨_, rfl⟩
  obtain ⟨made, makes⟩ : ∃ made, before.checkAmid {} {} .default 2 .zero
    (toldAgain [("helloOk", .boolean true)]) [] = made := ⟨_, rfl⟩
  obtain ⟨document, answered⟩ : ∃ document, made.talk.reply = .ok document := by
    refine exists_eq_ok_of_isSome ?_
    rw [← makes, ← reached]
    decide +kernel
  have asks : made.plan.message.asksToWait = true := by
    rw [← makes, ← reached]
    decide +kernel
  obtain ⟨withheld, apart, limit, average⟩ := sample_withheld_iff reached makes answered
  have none : made.sample? = none := withheld.2 (.inl asks)
  rw [none] at limit average
  exact ⟨before, made, document, reached, makes, answered, asks, none, apart asks, limit, average⟩

/-- That no sample is given, and that the exchange may take longer, does not mean that the server was
asked to wait. -/
theorem unasked_wait_withholds_sample :
    ¬∀ (options : ClientOptions) (platform : Platform) (registry : CompressorRegistry)
      (address : ServerAddress) (events : List MonitorEvent) (requestId : Int32) (start : Duration)
      (encounter : Encounter) (samples : List Duration) (before : Monitor) (made : Checked)
      (document : Document), (run options platform registry address events).monitor = before →
      before.checkAmid options platform registry requestId start encounter samples = made →
      made.talk.reply = .ok document →
        (made.sample? = none ↔ made.plan.message.asksToWait = true) ∧
        (made.plan.limit =
          .ofMilliseconds options.connectTimeout + .ofMilliseconds options.heartbeatFrequency ↔
          made.plan.message.asksToWait = true) := by
  intro claimed
  obtain ⟨before, reached⟩ : ∃ before,
    (run {} {} .default ⟨"left", 27017⟩ (toldOnce [])).monitor = before := ⟨_, rfl⟩
  obtain ⟨made, makes⟩ : ∃ made,
    before.checkAmid {} {} .default 2 .zero (toldAgain []) [] = made := ⟨_, rfl⟩
  obtain ⟨document, answered⟩ : ∃ document, made.talk.reply = .ok document := by
    refine exists_eq_ok_of_isSome ?_
    rw [← makes, ← reached]
    decide +kernel
  have withheld : made.sample? = none := by
    rw [← makes, ← reached]
    decide +kernel
  have unasked : made.plan.message.asksToWait = false := by
    rw [← makes, ← reached]
    decide +kernel
  obtain ⟨sampled, -⟩ := claimed {} {} .default ⟨"left", 27017⟩ (toldOnce []) 2 .zero (toldAgain []) []
    before made document reached makes answered
  exact absurd (sampled.1 withheld) (Bool.not_eq_true _ ▸ unasked)

end Watch

end DocumentDriver
