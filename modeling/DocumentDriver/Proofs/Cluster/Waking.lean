/-
This file proves which selections learn that a cluster is closed. Closing ends with a new version, so
whoever has seen an older one is woken, looks whether the cluster is closed, and ends. There is one
gap. A selection that found the cluster open, and reads the published picture only after the new
version is there, takes that version for one it has seen. As all handles are gone it finds no server,
and it waits for yet another version, which nobody will publish, until its time is up.
-/

import DocumentDriver.Proofs.Accident
import DocumentDriver.Proofs.Cluster.Closing

namespace DocumentDriver

/-! ### What a selection has seen -/

namespace Selecting

variable {criteria : SelectionCriteria} {cluster : Cluster} {stage : Selecting}
  {draw seen version : Nat}

/-- The version of the picture that a selection goes by, once it has read one. -/
def seen? : Selecting → Option Nat
  | choosing seen _ | waiting seen => some seen
  | testing | reading | done _ | broken _ => none

theorem seen?_read (sees : (read cluster criteria draw).seen? = some seen) :
    seen = cluster.version := by
  unfold read at sees
  split at sees
  · cases sees
  · cases sees
  · exact (Option.some.inj sees).symm

/-- A selection goes by the same version until it reads the picture anew. -/
theorem seen?_step (sees : (step criteria draw cluster stage).2.seen? = some seen) :
    stage.seen? = some seen ∨ stage = .reading ∧ seen = cluster.version := by
  cases stage with
  | testing =>
    unfold step at sees
    dsimp only at sees
    split at sees <;> cases sees
  | reading => exact .inr ⟨rfl, seen?_read sees⟩
  | choosing version chosen =>
    unfold step at sees
    dsimp only at sees
    split at sees
    · cases sees
    · exact .inl sees
  | waiting version =>
    unfold step at sees
    dsimp only at sees
    split at sees
    · cases sees
    · exact .inl sees
  | done | broken => cases sees

theorem seen?_expire (sees : (stage.expire criteria cluster).seen? = some seen) :
    stage.seen? = some seen := by
  cases stage with
  | waiting => cases sees
  | testing | reading | choosing | done | broken => exact sees

/-- Nobody who looks whether a closed cluster is closed goes on to read its picture. -/
theorem ne_reading_of_step (closed : cluster.isClosed = true) :
    (step criteria draw cluster stage).2 ≠ .reading := by
  intro reads
  cases stage with
  | testing =>
    unfold step at reads
    rw [if_pos closed] at reads
    cases reads
  | reading =>
    change read cluster criteria draw = .reading at reads
    unfold read at reads
    split at reads <;> cases reads
  | choosing | waiting =>
    unfold step at reads
    dsimp only at reads
    split at reads <;> cases reads
  | done | broken => cases reads

theorem eq_reading_of_expire (reads : stage.expire criteria cluster = .reading) :
    stage = .reading := by
  cases stage with
  | waiting => cases reads
  | testing | reading | choosing | done | broken => exact reads

/-- A selection from a closed cluster that has been woken, is about to look whether the cluster is
closed, or has been told so. -/
inductive HasBeenWoken (version : Nat) : Selecting → Prop
  | waiting (seen : Nat) (older : seen < version) : HasBeenWoken version (.waiting seen)
  | testing : HasBeenWoken version .testing
  | told : HasBeenWoken version (.done (.error .shutdown))

theorem HasBeenWoken.later {later : Nat} (woken : stage.HasBeenWoken version)
    (grows : version ≤ later) : stage.HasBeenWoken later := by
  cases woken with
  | waiting seen older => exact .waiting seen (Nat.lt_of_lt_of_le older grows)
  | testing => exact .testing
  | told => exact .told

theorem step_testing_of_closed (closed : cluster.isClosed = true) :
    step criteria draw cluster .testing = (cluster, .done (.error .shutdown)) :=
  congrArg (Prod.mk cluster) (if_pos closed)

theorem step_waiting_of_lt (older : seen < cluster.version) :
    step criteria draw cluster (.waiting seen) = (cluster, .testing) :=
  congrArg (Prod.mk cluster) (if_pos older)

theorem HasBeenWoken.step (woken : stage.HasBeenWoken cluster.version)
    (closed : cluster.isClosed = true) :
    (step criteria draw cluster stage).2.HasBeenWoken cluster.version := by
  cases woken with
  | waiting seen older =>
    rw [step_waiting_of_lt older]
    exact .testing
  | testing =>
    rw [step_testing_of_closed closed]
    exact .told
  | told => exact .told

/-- It takes at most two steps to hear that the cluster is closed. -/
theorem HasBeenWoken.step_step (woken : stage.HasBeenWoken cluster.version)
    (closed : cluster.isClosed = true) {other : Nat} :
    (Selecting.step criteria other (Selecting.step criteria draw cluster stage).1
      (Selecting.step criteria draw cluster stage).2).2 = .done (.error .shutdown) := by
  cases woken with
  | waiting seen older => rw [step_waiting_of_lt older, step_testing_of_closed closed]
  | testing =>
    rw [step_testing_of_closed closed]
    rfl
  | told => rfl

/-! ### Selections that have been passed over -/

/-- A selection that takes the version of a closed cluster for one it has seen, or is about to, or has
ended without being told that the cluster is closed, be it by an accident. -/
inductive IsPassedOver (version : Nat) : Selecting → Prop
  | reading : IsPassedOver version .reading
  | choosing (chosen : Option SelectedServer) : IsPassedOver version (.choosing version chosen)
  | waiting : IsPassedOver version (.waiting version)
  | failed (error : Error) (other : error ≠ .shutdown) : IsPassedOver version (.done (.error error))
  | broken (cause : Accident) : IsPassedOver version (.broken cause)

/-- What is wrong with a picture or a preference has nothing to do with closing. -/
theorem ne_shutdown_of_check {topology : Topology} {error : Error}
    (failed : Selection.check topology criteria = .error error) : error ≠ .shutdown := by
  unfold Selection.check Topology.checkCompatible at failed
  cases incompatible : topology.incompatibility with
  | some cause =>
    rw [incompatible] at failed
    cases failed
    exact Error.noConfusion
  | none =>
    rw [incompatible] at failed
    cases criteria with
    | write | predicate => cases failed
    | read preference =>
      change (preference.check _).mapError ReadPreference.Fault.toError = _ at failed
      cases checked : preference.check topology.heartbeatFrequency with
      | ok =>
        rw [checked] at failed
        cases failed
      | error fault =>
        rw [checked] at failed
        cases failed
        cases fault <;> exact Error.noConfusion

theorem ne_shutdown_of_select {topology : Topology} {error : Error}
    (failed : Selection.select topology criteria = .ok (.error error)) : error ≠ .shutdown := by
  unfold Selection.select at failed
  cases checked : Selection.check topology criteria with
  | error fault =>
    rw [checked] at failed
    cases failed
    exact ne_shutdown_of_check checked
  | ok =>
    rw [checked] at failed
    obtain ⟨servers, -, same⟩ := bind_eq_ok_iff.1 failed
    cases same

theorem isPassedOver_read : (read cluster criteria draw).IsPassedOver cluster.version := by
  unfold read
  split
  · next cause _ => exact .broken cause
  · next error failed => exact .failed error (ne_shutdown_of_select failed)
  · exact .choosing _

theorem IsPassedOver.step (passed : stage.IsPassedOver cluster.version)
    (drained : cluster.IsDrained) :
    (step criteria draw cluster stage).2.IsPassedOver cluster.version := by
  cases passed with
  | reading => exact isPassedOver_read
  | choosing chosen =>
    have nothing : chosen.filter (fun server =>
        cluster.handles.contains server.description.address) = none := by
      rw [drained.handles]
      exact Option.filter_eq_none_iff.2 fun _ _ => Bool.false_ne_true
    unfold Selecting.step
    dsimp only
    rw [nothing]
    exact .waiting
  | waiting =>
    have waits : Selecting.step criteria draw cluster (.waiting cluster.version) =
        (cluster, .waiting cluster.version) :=
      congrArg (Prod.mk cluster) (if_neg (Nat.lt_irrefl _))
    rw [waits]
    exact .waiting
  | failed error other => exact .failed error other
  | broken cause => exact .broken cause

theorem IsPassedOver.expire (passed : stage.IsPassedOver version) :
    (stage.expire criteria cluster).IsPassedOver version := by
  cases passed with
  | reading => exact .reading
  | choosing chosen => exact .choosing chosen
  | waiting => exact .failed _ Error.noConfusion
  | failed error other => exact .failed error other
  | broken cause => exact .broken cause

end Selecting

namespace ClusterTask

variable {cluster : Cluster} {moment : Moment}

/-- A client has marked the cluster closed and is not done with closing it. -/
def hasMarked : ClusterTask → Bool
  | draining | waking => true
  | _ => false

/-- Whoever has marked the cluster closed did so before, or does so now, when nobody else has. -/
theorem hasMarked_of_advance (task : ClusterTask)
    (marked : (task.advance cluster moment).2.hasMarked = true) :
    task.hasMarked = true ∨
      cluster.isClosed = false ∧ (task.advance cluster moment).1.isClosed = true := by
  cases task with
  | closing =>
    rw [advance] at marked ⊢
    split at marked
    · cases marked
    · next isOpen => exact .inr ⟨Bool.eq_false_iff.2 isOpen, by rw [if_neg isOpen]; rfl⟩
  | applying =>
    rw [advance] at marked
    dsimp only at marked
    split at marked <;> cases marked
  | draining | waking => exact .inl rfl
  | resting | passed | selecting => cases marked

theorem version_requestScans (cluster : Cluster) : cluster.requestScans.version = cluster.version :=
  (Cluster.sameButHandles_requestScans cluster).version

theorem version_selecting (criteria : SelectionCriteria) (draw : Nat) (stage : Selecting) :
    (Selecting.step criteria draw cluster stage).1.version = cluster.version := by
  rcases Selecting.step_cases criteria draw cluster stage with same | scans
  · rw [same]
  · rw [scans, version_requestScans]

/-- A version is never taken back. -/
theorem version_le_advance (task : ClusterTask) :
    cluster.version ≤ (task.advance cluster moment).1.version := by
  cases task with
  | passed description =>
    exact (Cluster.sameButHandles_clearFailed cluster description).version ▸ Nat.le_succ _
  | waking => exact Nat.le_succ _
  | closing =>
    rw [advance]
    split <;> exact Nat.le_refl _
  | selecting criteria stage => exact Nat.le_of_eq (version_selecting criteria moment.draw stage).symm
  | resting | applying | draining => exact Nat.le_refl _

/-- A new version comes of a description under the lock, or at the end of closing. -/
theorem version_advance (task : ClusterTask)
    (outside : ∀ description, task ≠ .passed description) (unmarked : task.hasMarked = false) :
    (task.advance cluster moment).1.version = cluster.version := by
  cases task with
  | passed description => exact absurd rfl (outside description)
  | draining | waking => cases unmarked
  | closing =>
    rw [advance]
    split <;> rfl
  | selecting criteria stage => exact version_selecting criteria moment.draw stage
  | resting | applying => rfl

end ClusterTask

namespace ClusterScene

variable {Client : Type} [DecidableEq Client] {start scene next later : ClusterScene Client}
  {client : Client} {criteria : SelectionCriteria} {stage : Selecting}

/-! ### One step of a selection -/

/-- A selection has just begun, or it has taken a step of its own, or its time is up, or it stands
where it stood. -/
theorem Step.selecting_before (step : Step scene next)
    (selects : next.task client = .selecting criteria stage) :
    stage = .testing ∨ ∃ before, scene.task client = .selecting criteria before ∧
      (stage = before ∨ (∃ draw, stage = (Selecting.step criteria draw scene.cluster before).2) ∨
        stage = before.expire criteria scene.cluster) := by
  cases step.turn client with
  | stays same => exact .inr ⟨stage, same.symm.trans selects, .inl rfl⟩
  | begins begins =>
    rw [selects] at begins
    cases begins
    exact .inl rfl
  | advances moment same =>
    rw [same, go, task_put_self] at selects
    cases before : scene.task client with
    | selecting other stood =>
      rw [before] at selects
      cases selects
      exact .inr ⟨stood, rfl, .inr (.inl ⟨moment.draw, rfl⟩)⟩
    | applying =>
      rw [before, ClusterTask.advance] at selects
      dsimp only at selects
      split at selects <;> cases selects
    | closing =>
      rw [before, ClusterTask.advance] at selects
      split at selects <;> cases selects
    | resting | passed | draining | waking =>
      rw [before] at selects
      cases selects
  | expires other stood before ends =>
    rw [selects] at ends
    cases ends
    exact .inr ⟨stood, before, .inr (.inr rfl)⟩

theorem Step.selecting_after (step : Step scene next)
    (selects : scene.task client = .selecting criteria stage) :
    ∃ after, next.task client = .selecting criteria after ∧
      (after = stage ∨ (∃ draw, after = (Selecting.step criteria draw scene.cluster stage).2) ∨
        after = stage.expire criteria scene.cluster) := by
  cases step.turn client with
  | stays same => exact ⟨stage, same.trans selects, .inl rfl⟩
  | begins _ ready =>
    rw [selects] at ready
    cases ready
  | advances moment same =>
    refine ⟨_, ?_, .inr (.inl ⟨moment.draw, rfl⟩)⟩
    rw [same, go, task_put_self, selects]
    rfl
  | expires other stood before ends =>
    rw [selects] at before
    cases before
    exact ⟨_, ends, .inr (.inr rfl)⟩

theorem Step.version_le (step : Step scene next) : scene.cluster.version ≤ next.cluster.version := by
  cases step with
  | advance client moment => exact ClusterTask.version_le_advance _
  | touch address change =>
    exact Nat.le_of_eq
      (Cluster.sameButHandles_modifyHandle scene.cluster address change).version.symm
  | begin | expire => exact Nat.le_refl _

/-- Nobody has seen a version that is still to come. -/
def SeesWhatIsThere (scene : ClusterScene Client) : Prop :=
  ∀ client criteria stage seen, scene.task client = .selecting criteria stage →
    stage.seen? = some seen → seen ≤ scene.cluster.version

theorem SeesWhatIsThere.step (holds : scene.SeesWhatIsThere) (step : Step scene next) :
    next.SeesWhatIsThere := by
  intro client criteria stage seen selects sees
  refine Nat.le_trans ?_ step.version_le
  rcases step.selecting_before selects with rfl | ⟨before, stood, rfl | ⟨draw, rfl⟩ | rfl⟩
  · cases sees
  · exact holds client criteria _ seen stood sees
  · rcases Selecting.seen?_step sees with same | ⟨-, rfl⟩
    · exact holds client criteria before seen stood same
    · exact Nat.le_refl _
  · exact holds client criteria before seen stood (Selecting.seen?_expire sees)

/-- A client is the only one that is in the middle of closing the cluster, which is marked closed. -/
def ClosesAlone (scene : ClusterScene Client) : Prop :=
  ∀ client, (scene.task client).hasMarked = true → scene.cluster.isClosed = true ∧
    ∀ other, (scene.task other).hasMarked = true → other = client

theorem Step.hasMarked_before (step : Step scene next)
    (marked : (next.task client).hasMarked = true) :
    (scene.task client).hasMarked = true ∨
      scene.cluster.isClosed = false ∧ next.cluster.isClosed = true ∧
        ∀ other, other ≠ client → next.task other = scene.task other := by
  cases step.turn client with
  | stays same => exact .inl (same ▸ marked)
  | begins begins =>
    cases task : next.task client with
    | draining | waking =>
      rw [task] at begins
      cases begins
    | resting | applying | passed | closing | selecting =>
      rw [task] at marked
      cases marked
  | advances moment same =>
    rw [same, go, task_put_self] at marked
    rcases ClusterTask.hasMarked_of_advance _ marked with before | ⟨isOpen, closes⟩
    · exact .inl before
    · exact .inr ⟨isOpen, same ▸ closes,
        fun other differs => same ▸ task_put_of_ne _ _ _ _ differs⟩
  | expires other stage _ ends =>
    rw [ends] at marked
    cases marked

theorem ClosesAlone.step (holds : scene.ClosesAlone) (step : Step scene next) :
    next.ClosesAlone := by
  intro client marked
  rcases step.hasMarked_before marked with before | ⟨isOpen, closed, others⟩
  · obtain ⟨closed, alone⟩ := holds client before
    refine ⟨step.isClosed closed, fun other marks => ?_⟩
    rcases step.hasMarked_before marks with earlier | ⟨isOpen, -⟩
    · exact alone other earlier
    · rw [closed] at isOpen
      cases isOpen
  · refine ⟨closed, fun other marks => ?_⟩
    by_contra differs
    rw [others other differs] at marks
    rw [(holds other marks).1] at isOpen
    cases isOpen

/-- No selection runs out of time in a step if it has been woken. It looks at the cluster first. -/
structure Attentive (scene next : ClusterScene Client) : Prop where
  step : Step scene next
  looks : ∀ client criteria seen, scene.task client = .selecting criteria (.waiting seen) →
    seen < scene.cluster.version →
      next.task client = .selecting criteria (.waiting seen) ∨
        next.task client = .selecting criteria .testing

/-- A selection is bound to hear that the cluster is closed. Whatever happens before it takes its next
two steps, it ends with them, and it does not end in any other way. -/
def IsBoundToHear (scene : ClusterScene Client) (client : Client) (criteria : SelectionCriteria) :
    Prop :=
  ∀ later, Relation.ReflTransGen Attentive scene later → ∀ moment next,
    ((later.go client moment).go client next).task client =
      .selecting criteria (.done (.error .shutdown))

/-! ### Any number of steps -/

theorem seesWhatIsThere_run (rests : ∀ client, start.task client = .resting)
    (run : Run start scene) : scene.SeesWhatIsThere := by
  refine run.preserves SeesWhatIsThere.step fun client criteria stage seen selects => ?_
  rw [rests client] at selects
  cases selects

theorem closesAlone_run (rests : ∀ client, start.task client = .resting) (run : Run start scene) :
    scene.ClosesAlone := by
  refine run.preserves ClosesAlone.step fun client marked => ?_
  rw [rests client] at marked
  cases marked

/-- A selection that is about to read the picture of a closed cluster was so when the cluster was
marked closed. -/
theorem Run.reading_before (run : Run scene later) (closed : scene.cluster.isClosed = true)
    (reads : later.task client = .selecting criteria .reading) :
    scene.task client = .selecting criteria .reading := by
  induction run with
  | refl => exact reads
  | tail before step inductionHypothesis =>
    refine inductionHypothesis ?_
    rcases step.selecting_before reads with tests | ⟨earlier, stood, rfl | ⟨draw, moved⟩ | expired⟩
    · cases tests
    · exact stood
    · exact absurd moved.symm
        (Selecting.ne_reading_of_step (Run.passed_before before closed).1)
    · rwa [Selecting.eq_reading_of_expire expired.symm] at stood

/-- Once the cluster is closed, a version that a selection has seen is older than the current one, if
nobody is about to read the picture and this is so already. -/
theorem Run.seen_lt (run : Run scene later) (closed : scene.cluster.isClosed = true)
    (elsewhere : scene.task client ≠ .selecting criteria .reading)
    (older : ∀ stage seen, scene.task client = .selecting criteria stage →
      stage.seen? = some seen → seen < scene.cluster.version) :
    ∀ stage seen, later.task client = .selecting criteria stage →
      stage.seen? = some seen → seen < later.cluster.version := by
  induction run with
  | refl => exact older
  | tail before step inductionHypothesis =>
    intro stage seen selects sees
    refine Nat.lt_of_lt_of_le ?_ step.version_le
    rcases step.selecting_before selects with rfl | ⟨earlier, stood, rfl | ⟨draw, rfl⟩ | rfl⟩
    · cases sees
    · exact inductionHypothesis _ seen stood sees
    · rcases Selecting.seen?_step sees with same | ⟨rfl, -⟩
      · exact inductionHypothesis earlier seen stood same
      · exact absurd (Run.reading_before before closed stood) elsewhere
    · exact inductionHypothesis earlier seen stood (Selecting.seen?_expire sees)

/-- A selection from a closed cluster that has been woken stays so, and is told. -/
theorem hasBeenWoken_run (closed : scene.cluster.isClosed = true)
    (selects : scene.task client = .selecting criteria stage)
    (woken : stage.HasBeenWoken scene.cluster.version)
    (run : Relation.ReflTransGen Attentive scene later) :
    later.cluster.isClosed = true ∧ ∃ after, later.task client = .selecting criteria after ∧
      after.HasBeenWoken later.cluster.version := by
  induction run with
  | refl => exact ⟨closed, stage, selects, woken⟩
  | tail _ attentive inductionHypothesis =>
    obtain ⟨closed, before, stood, woken⟩ := inductionHypothesis
    have grows := attentive.step.version_le
    refine ⟨attentive.step.isClosed closed, ?_⟩
    obtain ⟨after, stands, same | ⟨draw, moved⟩ | expired⟩ := attentive.step.selecting_after stood
    · exact ⟨after, stands, same ▸ woken.later grows⟩
    · exact ⟨after, stands, moved ▸ (woken.step closed).later grows⟩
    · cases woken with
      | waiting seen older =>
        rcases attentive.looks client criteria seen stood older with waits | tests
        · exact ⟨_, waits, .waiting seen (Nat.lt_of_lt_of_le older grows)⟩
        · exact ⟨_, tests, .testing⟩
      | testing => exact ⟨after, stands, expired ▸ .testing⟩
      | told => exact ⟨after, stands, expired ▸ .told⟩

theorem isBoundToHear_of_hasBeenWoken (closed : scene.cluster.isClosed = true)
    (selects : scene.task client = .selecting criteria stage)
    (woken : stage.HasBeenWoken scene.cluster.version) : scene.IsBoundToHear client criteria := by
  intro later run moment next
  obtain ⟨closed, after, stands, still⟩ := hasBeenWoken_run closed selects woken run
  have moved : (later.go client moment).task client =
      .selecting criteria (Selecting.step criteria moment.draw later.cluster after).2 := by
    rw [go, task_put_self, stands]
    rfl
  have left : (later.go client moment).cluster =
      (Selecting.step criteria moment.draw later.cluster after).1 := by
    rw [go, stands]
    rfl
  rw [go, task_put_self, moved, left]
  exact congrArg (ClusterTask.selecting criteria) (still.step_step closed)

/-! ### The end of closing -/

section

variable {closer : Client} {moment : Moment} (wakes : scene.task closer = .waking)
include wakes

/-- The last step of closing publishes a new version. -/
theorem cluster_go_of_waking : (scene.go closer moment).cluster = scene.cluster.wakeWaiting := by
  rw [go, wakes]
  rfl

/-- With it the client that closes is at rest, and nobody else has moved. -/
theorem task_go_of_waking (client : Client) :
    client = closer ∧ (scene.go closer moment).task client = .resting ∨
      client ≠ closer ∧ (scene.go closer moment).task client = scene.task client := by
  by_cases same : client = closer
  · refine .inl ⟨same, ?_⟩
    rw [same, go, task_put_self, wakes]
    rfl
  · exact .inr ⟨same, task_put_of_ne _ _ _ _ same⟩

/-- Whatever has been seen before the end of closing is older than the version published there. -/
theorem seen_lt_of_waking (sees : scene.SeesWhatIsThere) (stage : Selecting) (seen : Nat)
    (selects : (scene.go closer moment).task client = .selecting criteria stage)
    (saw : stage.seen? = some seen) : seen < (scene.go closer moment).cluster.version := by
  rcases task_go_of_waking wakes client with ⟨-, rests⟩ | ⟨-, stays⟩
  · rw [rests] at selects
    cases selects
  · rw [stays] at selects
    rw [cluster_go_of_waking wakes]
    exact Nat.lt_succ_of_le (sees client criteria stage seen selects saw)

/-- After the end of closing nobody is in the middle of it. -/
theorem hasMarked_go_of_waking (alone : scene.ClosesAlone) (client : Client) :
    ((scene.go closer moment).task client).hasMarked = false := by
  rcases task_go_of_waking wakes client with ⟨-, rests⟩ | ⟨differs, stays⟩
  · rw [rests]
    rfl
  · rw [stays]
    exact Bool.eq_false_iff.2 fun marked =>
      differs ((alone closer (wakes ▸ rfl)).2 client marked)

end

/-! ### After closing -/

/-- A closed cluster has no handles, and nobody is about to change it. -/
structure IsQuiet (scene : ClusterScene Client) : Prop where
  drained : scene.cluster.IsDrained
  settled : scene.IsSettled
  finished : ∀ client, (scene.task client).hasMarked = false

theorem IsQuiet.step (quiet : scene.IsQuiet) (step : Step scene next) :
    next.IsQuiet ∧ next.cluster.version = scene.cluster.version := by
  refine ⟨⟨(step.staysClosed quiet.drained quiet.settled).drained, ?_, ?_⟩, ?_⟩
  · exact Run.isSettled (.single step) quiet.drained.isClosed quiet.settled
  · intro client
    refine Bool.eq_false_iff.2 fun marked => ?_
    rcases step.hasMarked_before marked with before | ⟨isOpen, -⟩
    · rw [quiet.finished client] at before
      cases before
    · rw [quiet.drained.isClosed] at isOpen
      cases isOpen
  · cases step with
    | advance client moment =>
      exact ClusterTask.version_advance _ (quiet.settled client) (quiet.finished client)
    | touch address change =>
      exact (Cluster.sameButHandles_modifyHandle scene.cluster address change).version
    | begin | expire => rfl

/-- Nobody is ever told that the cluster is closed who takes its version for one it has seen. -/
theorem isPassedOver_run (quiet : scene.IsQuiet)
    (selects : scene.task client = .selecting criteria stage)
    (passed : stage.IsPassedOver scene.cluster.version) (run : Run scene later) :
    later.IsQuiet ∧ ∃ after, later.task client = .selecting criteria after ∧
      after.IsPassedOver later.cluster.version := by
  induction run with
  | refl => exact ⟨quiet, stage, selects, passed⟩
  | tail _ step inductionHypothesis =>
    obtain ⟨quiet, before, stood, passed⟩ := inductionHypothesis
    obtain ⟨stillQuiet, version⟩ := quiet.step step
    refine ⟨stillQuiet, ?_⟩
    obtain ⟨after, stands, same | ⟨draw, moved⟩ | expired⟩ := step.selecting_after stood
    · exact ⟨after, stands, version ▸ same ▸ passed⟩
    · exact ⟨after, stands, version ▸ moved ▸ passed.step quiet.drained⟩
    · exact ⟨after, stands, version ▸ expired ▸ passed.expire⟩

/-- In whatever order clients work on a cluster: once closing has come to its end, whoever waits has
seen a version that is no longer the current one, and is bound to hear that the cluster is closed,
unless it is one of those that were about to read the picture when closing came to its end. These had
found the cluster open before it was marked closed. If nobody is under way with a description and the
handles are gone, they are never told. -/
theorem closing_wakes_selections (start scene : ClusterScene Client)
    (rests : ∀ client, start.task client = .resting) (run : Run start scene) (closer : Client)
    (wakes : scene.task closer = .waking) (moment : Moment) :
    let woken := scene.go closer moment
    woken.cluster.isClosed = true ∧
      (∀ later, Run woken later → ∀ client criteria seen,
        later.task client = .selecting criteria (.waiting seen) →
        seen < later.cluster.version ∧ later.IsBoundToHear client criteria ∨
          woken.task client = .selecting criteria .reading) ∧
      ∀ client criteria, woken.task client = .selecting criteria .reading →
        (∀ marked, marked.cluster.isClosed = true → Run marked woken →
          marked.task client = .selecting criteria .reading) ∧
        (woken.IsSettled → woken.cluster.handles = .empty → ∀ later, Run woken later →
          ∃ stage, later.task client = .selecting criteria stage ∧
            stage.IsPassedOver later.cluster.version) := by
  have sees := seesWhatIsThere_run rests run
  have alone := closesAlone_run rests run
  have closed : (scene.go closer moment).cluster.isClosed = true := by
    rw [cluster_go_of_waking wakes]
    exact (alone closer (wakes ▸ rfl)).1
  refine ⟨closed, ?_, ?_⟩
  · intro later run client criteria seen waits
    by_cases reads : (scene.go closer moment).task client = .selecting criteria .reading
    · exact .inr reads
    · have older := Run.seen_lt run closed reads (seen_lt_of_waking wakes sees) _ seen waits rfl
      exact .inl ⟨older, isBoundToHear_of_hasBeenWoken (Run.passed_before run closed).1 waits
        (.waiting seen older)⟩
  · intro client criteria reads
    refine ⟨fun marked markedClosed run => Run.reading_before run markedClosed reads, ?_⟩
    intro settled empty later run
    have quiet : (scene.go closer moment).IsQuiet :=
      ⟨⟨closed, empty⟩, settled, hasMarked_go_of_waking wakes alone⟩
    exact (isPassedOver_run quiet reads .reading run).2

/-- One of two clients selects a server of the pair, of which nothing is known, up to the point where it
waits. The other one closes the cluster up to the point where it wakes those who wait. -/
def pairAwaited : ClusterScene Bool :=
  let start : ClusterScene Bool := { cluster := Cluster.pairCluster }
  let begun := start.put false start.cluster (.selecting .write .testing)
  let waits := ((begun.go false .zero).go false .zero).go false .zero
  ((waits.put true waits.cluster .closing).go true .zero).go true .zero

theorem closing_wakes_selections_pair :
    Run { cluster := Cluster.pairCluster } pairAwaited ∧ pairAwaited.task true = .waking ∧
      (pairAwaited.go true .zero).task false = .selecting .write (.waiting 0) ∧
      (pairAwaited.go true .zero).IsBoundToHear false .write := by
  have run : Run { cluster := Cluster.pairCluster } pairAwaited :=
    .tail (.tail (.tail (.tail (.tail (.tail (.tail .refl
      (.begin false (.selecting .write .testing) rfl (.select .write)))
      (.advance false .zero)) (.advance false .zero)) (.advance false .zero))
      (.begin true .closing rfl .close)) (.advance true .zero)) (.advance true .zero)
  have waits : (pairAwaited.go true .zero).task false = .selecting .write (.waiting 0) := rfl
  obtain ⟨-, wakes, -⟩ :=
    closing_wakes_selections _ pairAwaited (fun _ => rfl) run true rfl .zero
  refine ⟨run, rfl, waits, ?_⟩
  rcases wakes _ .refl false .write 0 waits with ⟨-, bound⟩ | reads
  · exact bound
  · rw [waits] at reads
    cases reads

/-- One of two clients finds the cluster of the pair open, and before it reads the picture, the other
one closes the cluster up to the point where it wakes those who wait. -/
def pairOverlooked : ClusterScene Bool :=
  let start : ClusterScene Bool := { cluster := Cluster.pairCluster }
  let looked := (start.put false start.cluster (.selecting .write .testing)).go false .zero
  ((looked.put true looked.cluster .closing).go true .zero).go true .zero

/-- Closing has come to its end, and the selection waits for a version newer than the current one. It is
never told that the cluster is closed, and ends when its time is up. -/
theorem selection_overlooks_closing :
    let woken := pairOverlooked.go true .zero
    let missed := (woken.go false .zero).go false .zero
    Run { cluster := Cluster.pairCluster } missed ∧ pairOverlooked.task true = .waking ∧
      missed.cluster.isClosed = true ∧ missed.task true = .resting ∧
      missed.task false = .selecting .write (.waiting missed.cluster.version) ∧
      (∀ later, Run missed later →
        later.task false ≠ .selecting .write (.done (.error .shutdown))) ∧
      ∃ expired, Step missed expired ∧ expired.task false =
        .selecting .write (.done (.error (Selecting.timeout missed.cluster .write))) := by
  have run : Run { cluster := Cluster.pairCluster }
      (((pairOverlooked.go true .zero).go false .zero).go false .zero) :=
    .tail (.tail (.tail (.tail (.tail (.tail (.tail (.tail .refl
      (.begin false (.selecting .write .testing) rfl (.select .write)))
      (.advance false .zero)) (.begin true .closing rfl .close)) (.advance true .zero))
      (.advance true .zero)) (.advance true .zero)) (.advance false .zero)) (.advance false .zero)
  have quiet : (((pairOverlooked.go true .zero).go false .zero).go false .zero).IsQuiet := by
    refine ⟨⟨rfl, rfl⟩, ?_, ?_⟩
    · rintro (_ | _) description <;> exact ClusterTask.noConfusion
    · rintro (_ | _) <;> rfl
  have waits : (((pairOverlooked.go true .zero).go false .zero).go false .zero).task false =
      .selecting .write (.waiting 1) := rfl
  refine ⟨run, rfl, rfl, rfl, waits, fun later goesOn told => ?_, _,
    .expire false .write _ waits, rfl⟩
  obtain ⟨-, stage, stands, passed⟩ := isPassedOver_run quiet waits .waiting goesOn
  rw [told] at stands
  cases stands
  cases passed with
  | failed _ other => exact other rfl

end ClusterScene

end DocumentDriver
