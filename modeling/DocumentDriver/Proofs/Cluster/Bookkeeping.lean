/-
This file proves that the parts of a cluster agree along every run. As long as the cluster is open,
exactly the tracked servers have handles, and selections see the current picture. A server that
stays tracked keeps its handle, and the generation of its pool counts how often its network has
failed since it joined. Once the cluster is closed, it has no handles and nothing changes any more.
-/

import DocumentDriver.Cluster.Selecting
import DocumentDriver.Proofs.Cluster.Handles
import DocumentDriver.Proofs.Topology.Primary
import Mathlib.Data.List.Induction

namespace DocumentDriver

/-- Something that happens to a cluster. -/
inductive ClusterStep where
  /-- A check or an operation has described a server. -/
  | describe (description : ServerDescription) (now : Duration)
  /-- An operation has met with an error of a server. -/
  | fail (address : ServerAddress) (error : Error) (now : Duration)
  | scan (address : ServerAddress)
  | scanAll
  /-- Clients and the monitor of a server use what its handle holds. They open, take and give back
  connections, but begin no generation of the pool. -/
  | use (address : ServerAddress) (change : ServerHandle → ServerHandle)
      (keeps : ∀ handle, (change handle).pool.generation = handle.pool.generation)
  | close

namespace ClusterStep

/-- The description that a step has the cluster apply. -/
def description? : ClusterStep → Option ServerDescription
  | describe description _ => some description
  | fail address error _ => some (.ofError address error)
  | scan _ | scanAll | use _ _ _ | close => none

/-- A step tells that the network of a server has failed. -/
def breaks (step : ClusterStep) (address : ServerAddress) : Bool :=
  step.description?.any fun description =>
    description.address == address && description.error.any Error.isNetwork

/-- The handle of a server that stays tracked, after a step. -/
def treat (step : ClusterStep) (options : ClientOptions) (address : ServerAddress)
    (handle : ServerHandle) : ServerHandle :=
  match step with
  | describe description _ => handle.told address description
  | fail other error _ => handle.told address (.ofError other error)
  | scan other => if address = other then handle.asked options else handle
  | scanAll => handle.asked options
  | use other change _ => if address = other then change handle else handle
  | close => handle

theorem generation_told (handle : ServerHandle) (address : ServerAddress)
    (description : ServerDescription) :
    (handle.told address description).pool.generation =
      handle.pool.generation +
        if description.address == address && description.error.any Error.isNetwork then 1
        else 0 := by
  unfold ServerHandle.told
  by_cases failed : description.address = address ∧ description.error.any Error.isNetwork = true
  · simp [failed, Pool.clear, Pool.bump, Pool.dropIdle]
  · rw [if_neg failed, if_neg (by simpa using failed), UInt32.add_zero]

/-- A step begins a new generation of a pool exactly if it tells that the network has failed. -/
theorem generation_treat (step : ClusterStep) (options : ClientOptions) (address : ServerAddress)
    (handle : ServerHandle) :
    (step.treat options address handle).pool.generation =
      handle.pool.generation + if step.breaks address then 1 else 0 := by
  cases step with
  | describe description => exact generation_told handle address description
  | fail other error => exact generation_told handle address (.ofError other error)
  | scan other =>
    unfold treat
    dsimp only
    split <;> exact (UInt32.add_zero _).symm
  | scanAll | close => exact (UInt32.add_zero _).symm
  | use other change keeps =>
    unfold treat
    dsimp only
    split
    · exact (keeps handle).trans (UInt32.add_zero _).symm
    · exact (UInt32.add_zero _).symm

end ClusterStep

namespace Cluster

/-- The effect of a step on a cluster. -/
def step (cluster : Cluster) : ClusterStep → Cluster
  | .describe description now => (cluster.apply description now).1
  | .fail address error now => (cluster.markUnknown address error now).1
  | .scan address => cluster.requestScan address
  | .scanAll => cluster.requestScans
  | .use address change _ => cluster.modifyHandle address change
  | .close => cluster.close.1

/-- The cluster after some steps. -/
def run (cluster : Cluster) (steps : List ClusterStep) : Cluster := steps.foldl step cluster

theorem run_concat (cluster : Cluster) (steps : List ClusterStep) (last : ClusterStep) :
    cluster.run (steps ++ [last]) = (cluster.run steps).step last :=
  List.foldl_append

/-! ### As long as the cluster is open -/

/-- The parts of an open cluster agree. -/
structure Agrees (cluster : Cluster) : Prop where
  isOpen : cluster.isClosed = false
  published : cluster.published = cluster.topology
  handles : ∀ address, cluster.handles.contains address = cluster.topology.tracks address

/-- At its start a cluster is open, and every seed has a new handle. -/
theorem get?_start (options : ClientOptions) (now : Duration) (cluster : Cluster)
    (started : start options now = .ok cluster) :
    cluster.isClosed = false ∧ cluster.published = cluster.topology ∧
      ∀ address, cluster.handles.get? address =
        if cluster.topology.tracks address = true then some (newHandle address now) else none := by
  unfold start at started
  cases described : Topology.ofOptions options with
  | error error =>
    rw [described] at started
    cases started
  | ok topology =>
    rw [described] at started
    cases started
    refine ⟨rfl, rfl, fun address => ?_⟩
    have listed : address ∈ topology.addresses ↔ topology.tracks address = true :=
      (AddressMap.contains_iff _).symm
    rw [AddressMap.get?_ofAddresses]
    simp only [listed]

theorem agrees_start (options : ClientOptions) (now : Duration) (cluster : Cluster)
    (started : start options now = .ok cluster) : cluster.Agrees := by
  obtain ⟨isOpen, published, handles⟩ := get?_start options now cluster started
  refine ⟨isOpen, published, fun address => ?_⟩
  unfold AddressMap.contains
  rw [handles]
  cases cluster.topology.tracks address <;> rfl

theorem fresh_start (options : ClientOptions) (now : Duration) (cluster : Cluster)
    (started : start options now = .ok cluster) (address : ServerAddress) (handle : ServerHandle)
    (found : cluster.handles.get? address = some handle) : handle.pool.generation = 0 := by
  rw [(get?_start options now cluster started).2.2] at found
  split at found <;> cases found
  rfl

/-- A server is tracked if it has a handle. -/
theorem Agrees.tracks_of_get? {cluster : Cluster} (agrees : cluster.Agrees)
    {address : ServerAddress} {handle : ServerHandle}
    (found : cluster.handles.get? address = some handle) :
    cluster.topology.tracks address = true := by
  rw [← agrees.handles]
  exact Option.isSome_iff_exists.2 ⟨handle, found⟩

/-- A server is not tracked if it has no handle. -/
theorem Agrees.tracks_of_absent {cluster : Cluster} (agrees : cluster.Agrees)
    {address : ServerAddress} (absent : cluster.handles.get? address = none) :
    cluster.topology.tracks address = false := by
  rw [← agrees.handles]
  unfold AddressMap.contains
  rw [absent, Option.isSome_none]

theorem Agrees.absent_of_untracked {cluster : Cluster} (agrees : cluster.Agrees)
    {address : ServerAddress} (untracked : cluster.topology.tracks address = false) :
    cluster.handles.get? address = none := by
  rw [← agrees.handles] at untracked
  simpa [AddressMap.contains] using untracked

/-- What a step does to the parts of an open cluster, unless it closes the cluster: the picture that
selections see follows the current one, the servers that stay tracked have their handles treated,
and the others that are tracked get new ones. -/
structure Proceeds (cluster : Cluster) (step : ClusterStep) (next : Cluster) : Prop where
  isOpen : next.isClosed = false
  published : next.published = next.topology
  handles : ∃ now, ∀ address, next.handles.get? address =
    if next.topology.tracks address = true then
      some (((cluster.handles.get? address).map (step.treat cluster.options address)).getD
        (newHandle address now))
    else none

/-- A step that changes handles one by one proceeds. -/
theorem proceeds_of_sameButHandles (cluster : Cluster) (agrees : cluster.Agrees)
    (step : ClusterStep) (next : Cluster) (same : cluster.SameButHandles next)
    (treated : ∀ address, next.handles.get? address =
      (cluster.handles.get? address).map (step.treat cluster.options address)) :
    cluster.Proceeds step next := by
  refine ⟨same.isClosed.trans agrees.isOpen, ?_, .zero, fun address => ?_⟩
  · rw [same.published, same.topology, agrees.published]
  · rw [treated, same.topology]
    cases found : cluster.handles.get? address with
    | none =>
      rw [agrees.tracks_of_absent found, if_neg Bool.false_ne_true, Option.map_none]
    | some handle =>
      rw [agrees.tracks_of_get? found, if_pos rfl, Option.map_some, Option.getD_some]

/-- Applying a description proceeds, whatever step it is part of. -/
theorem proceeds_apply (cluster : Cluster) (agrees : cluster.Agrees) (step : ClusterStep)
    (description : ServerDescription) (now : Duration)
    (treats : ∀ address handle,
      step.treat cluster.options address handle = handle.told address description) :
    cluster.Proceeds step (cluster.apply description now).1 := by
  rw [apply_of_open cluster agrees.isOpen]
  refine ⟨?_, rfl, now, fun address => ?_⟩
  · exact (sameButHandles_clearFailed cluster description).isClosed.trans agrees.isOpen
  · rw [get?_applyLocked, topology_applyLocked, funext (treats address)]

theorem proceeds_step (cluster : Cluster) (agrees : cluster.Agrees) (step : ClusterStep)
    (other : step ≠ .close) : cluster.Proceeds step (cluster.step step) := by
  have one (address other : ServerAddress) (change : ServerHandle → ServerHandle) :
      (cluster.modifyHandle address change).handles.get? other =
        (cluster.handles.get? other).map fun handle =>
          if other = address then change handle else handle := by
    rw [get?_modifyHandle]
    split
    · rfl
    · exact Option.map_id'.symm
  cases step with
  | describe description now =>
    exact proceeds_apply cluster agrees _ description now fun _ _ => rfl
  | fail address error now =>
    exact proceeds_apply cluster agrees _ (.ofError address error) now fun _ _ => rfl
  | scan address =>
    exact proceeds_of_sameButHandles cluster agrees _ _ (sameButHandles_modifyHandle cluster _ _)
      fun other => one address other _
  | scanAll =>
    exact proceeds_of_sameButHandles cluster agrees _ _ (sameButHandles_requestScans cluster)
      (get?_requestScans cluster)
  | use address change =>
    exact proceeds_of_sameButHandles cluster agrees _ _ (sameButHandles_modifyHandle cluster _ _)
      fun other => one address other change
  | close => exact absurd rfl other

theorem Proceeds.agrees {cluster next : Cluster} {step : ClusterStep}
    (proceeds : cluster.Proceeds step next) : next.Agrees := by
  obtain ⟨isOpen, published, now, handles⟩ := proceeds
  refine ⟨isOpen, published, fun address => ?_⟩
  unfold AddressMap.contains
  rw [handles]
  cases next.topology.tracks address <;> rfl

/-- A server that stays tracked keeps its handle. -/
theorem Proceeds.kept {cluster next : Cluster} {step : ClusterStep}
    (proceeds : cluster.Proceeds step next) {address : ServerAddress} {handle : ServerHandle}
    (found : cluster.handles.get? address = some handle)
    (stays : next.topology.tracks address = true) :
    next.handles.get? address = some (step.treat cluster.options address handle) := by
  obtain ⟨now, handles⟩ := proceeds.handles
  rw [handles, if_pos stays, found]
  rfl

/-- A server that joins gets a new handle. -/
theorem Proceeds.joined {cluster next : Cluster} {step : ClusterStep}
    (proceeds : cluster.Proceeds step next) {address : ServerAddress}
    (absent : cluster.handles.get? address = none)
    (joins : next.topology.tracks address = true) :
    ∃ now, next.handles.get? address = some (newHandle address now) := by
  obtain ⟨now, handles⟩ := proceeds.handles
  refine ⟨now, ?_⟩
  rw [handles, if_pos joins, absent]
  rfl

/-! ### Once the cluster is closed -/

/-- The cluster has been closed, and its handles are gone. -/
structure IsDrained (cluster : Cluster) : Prop where
  isClosed : cluster.isClosed = true
  handles : cluster.handles = .empty

theorem isDrained_close (cluster : Cluster) (isOpen : cluster.isClosed = false) :
    cluster.close.1.IsDrained := by
  unfold close
  rw [isOpen, if_neg Bool.false_ne_true]
  exact ⟨rfl, rfl⟩

/-- Nothing happens to a closed cluster. -/
theorem IsDrained.step_eq {cluster : Cluster} (drained : cluster.IsDrained)
    (step : ClusterStep) : cluster.step step = cluster := by
  have absent (address : ServerAddress) : cluster.handles.get? address = none := by
    rw [drained.handles]
    rfl
  have unchanged (address : ServerAddress) (change : ServerHandle → ServerHandle) :
      cluster.modifyHandle address change = cluster := by
    unfold modifyHandle
    rw [absent]
  cases step with
  | describe description now =>
    exact congrArg Prod.fst (apply_of_closed cluster drained.isClosed description now)
  | fail address error now =>
    exact congrArg Prod.fst (apply_of_closed cluster drained.isClosed (.ofError address error) now)
  | scan address => exact unchanged address _
  | scanAll =>
    show cluster.handles.addresses.foldl requestScan cluster = cluster
    rw [drained.handles]
    rfl
  | use address change => exact unchanged address change
  | close =>
    show cluster.close.1 = cluster
    unfold close
    rw [drained.isClosed, if_pos rfl]

/-- A selection on a closed cluster ends at once. -/
theorem select_of_closed (cluster : Cluster) (closed : cluster.isClosed = true)
    (criteria : SelectionCriteria) (draw : Nat) :
    Selecting.step criteria draw cluster .testing = (cluster, .done (.error .shutdown)) ∧
      cluster.select criteria draw = .ok (cluster, .zero, .error .shutdown) := by
  have tested : Selecting.step criteria draw cluster .testing =
      (cluster, .done (.error .shutdown)) := by
    unfold Selecting.step
    dsimp only
    rw [closed, if_pos rfl]
  refine ⟨tested, ?_⟩
  unfold select trySelect
  rw [tested]
  rfl

/-! ### Whole runs -/

/-- A run without closing leaves the parts in agreement, and one with closing leaves nothing. -/
theorem agrees_or_isDrained_run (cluster : Cluster) (agrees : cluster.Agrees)
    (steps : List ClusterStep) :
    (.close ∉ steps → (cluster.run steps).Agrees) ∧
      (.close ∈ steps → (cluster.run steps).IsDrained) := by
  induction steps using List.reverseRecOn with
  | nil => exact ⟨fun _ => agrees, fun member => nomatch member⟩
  | append_singleton earlier last inductionHypothesis =>
    obtain ⟨whenOpen, whenClosed⟩ := inductionHypothesis
    rw [run_concat]
    by_cases before : .close ∈ earlier
    · have drained := whenClosed before
      rw [drained.step_eq]
      exact ⟨fun absent => absurd (List.mem_append_left _ before) absent, fun _ => drained⟩
    · have agreed := whenOpen before
      by_cases closes : last = .close
      · subst closes
        exact ⟨fun absent => absurd (List.mem_append_right _ List.mem_cons_self) absent,
          fun _ => isDrained_close _ agreed.isOpen⟩
      · refine ⟨fun _ => (proceeds_step _ agreed last closes).agrees, fun member => ?_⟩
        rcases List.mem_append.1 member with inEarlier | inLast
        · exact absurd inEarlier before
        · exact absurd (List.mem_singleton.1 inLast).symm closes

/-- A server is tracked from the end of a run on, and not before: either it has joined with the last
step, or it is a seed and there has been no step. -/
structure JoinsWith (cluster : Cluster) (address : ServerAddress) (steps : List ClusterStep) :
    Prop where
  now : (cluster.run steps).topology.tracks address = true
  before : ∀ earlier last, steps = earlier ++ [last] →
    (cluster.run earlier).topology.tracks address = false

/-- The generation of a pool counts the failures of the network since the server has joined. -/
theorem exists_generation_eq (cluster : Cluster) (agrees : cluster.Agrees)
    (fresh : ∀ address handle, cluster.handles.get? address = some handle →
      handle.pool.generation = 0)
    (steps : List ClusterStep) (isOpen : .close ∉ steps) (address : ServerAddress)
    (handle : ServerHandle) (found : (cluster.run steps).handles.get? address = some handle) :
    ∃ before since, steps = before ++ since ∧ cluster.JoinsWith address before ∧
      (∀ part, part <+: since → (cluster.run (before ++ part)).topology.tracks address = true) ∧
      handle.pool.generation = .ofNat (since.countP (·.breaks address)) := by
  induction steps using List.reverseRecOn generalizing handle with
  | nil =>
    have tracked := agrees.tracks_of_get? found
    refine ⟨[], [], rfl, ⟨tracked, fun _ _ empty => by simp at empty⟩, fun part empty => ?_,
      fresh address handle found⟩
    rw [List.prefix_nil.1 empty]
    exact tracked
  | append_singleton earlier last inductionHypothesis =>
    have openBefore : .close ∉ earlier := fun member => isOpen (List.mem_append_left _ member)
    have openLast : last ≠ .close := fun closes =>
      isOpen (List.mem_append_right _ (closes ▸ List.mem_cons_self))
    have agreed := (agrees_or_isDrained_run cluster agrees earlier).1 openBefore
    have proceeds := proceeds_step _ agreed last openLast
    rw [run_concat] at found
    have tracked := proceeds.agrees.tracks_of_get? found
    cases known : (cluster.run earlier).handles.get? address with
    | none =>
      obtain ⟨now, new⟩ := proceeds.joined known tracked
      rw [new] at found
      cases found
      refine ⟨earlier ++ [last], [], (List.append_nil _).symm, ⟨run_concat .. ▸ tracked, ?_⟩,
        fun part empty => ?_, rfl⟩
      · intro start final same
        obtain ⟨rfl, -⟩ := List.append_inj' same rfl
        exact agreed.tracks_of_absent known
      · rw [List.prefix_nil.1 empty, List.append_nil, run_concat]
        exact tracked
    | some old =>
      obtain ⟨before, since, rfl, joins, stays, counted⟩ := inductionHypothesis openBefore old known
      have kept := proceeds.kept known tracked
      rw [kept] at found
      cases found
      refine ⟨before, since ++ [last], (List.append_assoc ..).symm ▸ rfl, joins, fun part some => ?_,
        ?_⟩
      · rcases List.prefix_concat_iff.1 some with rfl | earlierPart
        · rw [← List.append_assoc, run_concat]
          exact tracked
        · exact stays part earlierPart
      · rw [ClusterStep.generation_treat, counted, List.countP_append, List.countP_singleton,
          UInt32.ofNat_add]
        split <;> rfl

/-- Along every run the parts of a cluster agree. As long as it is open, exactly the tracked servers
have handles, and selections see the current picture; a server that stays tracked keeps its handle,
one that joins gets an empty pool of generation 0, and the generation of a pool counts the failures
of the network since its server has joined. Once the cluster is closed, it has no handles, nothing
changes it, and every selection ends at once. -/
theorem parts_agree (options : ClientOptions) (now : Duration) (cluster : Cluster)
    (started : start options now = .ok cluster) (steps : List ClusterStep) :
    let reached := cluster.run steps
    (.close ∉ steps →
      reached.isClosed = false ∧ reached.published = reached.topology ∧
        (∀ address, reached.handles.contains address = reached.topology.tracks address) ∧
        (∀ address handle, reached.handles.get? address = some handle →
          ∃ before since, steps = before ++ since ∧ cluster.JoinsWith address before ∧
            (∀ part, part <+: since →
              (cluster.run (before ++ part)).topology.tracks address = true) ∧
            handle.pool.generation = .ofNat (since.countP (·.breaks address))) ∧
        ∀ step, step ≠ .close → ∀ address,
          (reached.step step).topology.tracks address = true →
          (∀ handle, reached.handles.get? address = some handle →
            (reached.step step).handles.get? address =
              some (step.treat reached.options address handle)) ∧
          (reached.topology.tracks address = false →
            ∃ handle, (reached.step step).handles.get? address = some handle ∧
              handle.pool = { generation := 0, idle := [] })) ∧
    (.close ∈ steps →
      reached.isClosed = true ∧ reached.handles = .empty ∧
        (∀ step, reached.step step = reached) ∧
        ∀ criteria draw, Selecting.step criteria draw reached .testing =
            (reached, .done (.error .shutdown)) ∧
          reached.select criteria draw = .ok (reached, .zero, .error .shutdown)) := by
  have agrees := agrees_start options now cluster started
  obtain ⟨whenOpen, whenClosed⟩ := agrees_or_isDrained_run cluster agrees steps
  refine ⟨fun isOpen => ?_, fun closes => ?_⟩
  · have agreed := whenOpen isOpen
    refine ⟨agreed.isOpen, agreed.published, agreed.handles, ?_, ?_⟩
    · exact exists_generation_eq cluster agrees (fresh_start options now cluster started) steps isOpen
    · intro step other address stays
      have proceeds := proceeds_step _ agreed step other
      refine ⟨fun handle found => proceeds.kept found stays, fun untracked => ?_⟩
      obtain ⟨moment, new⟩ := proceeds.joined (agreed.absent_of_untracked untracked) stays
      exact ⟨_, new, rfl⟩
  · have drained := whenClosed closes
    exact ⟨drained.isClosed, drained.handles, drained.step_eq, select_of_closed _ drained.isClosed⟩

/-- The cluster of the pair at its start. -/
def pairCluster : Cluster where
  options := Topology.pairOptions
  topology := .initial Topology.pairOptions
  published := .initial Topology.pairOptions
  handles := .ofAddresses (Topology.initial Topology.pairOptions).addresses (newHandle · .zero)

/-- The network of the first server of the pair fails, the server answers as primary, and its
network fails again. -/
def pairFailures : List ClusterStep :=
  [.fail ⟨"left", 27017⟩ (.network "reset") .zero, .describe (Topology.pairReport "left" 1) .zero,
    .fail ⟨"left", 27017⟩ .connectionClosed .zero]

theorem parts_agree_pair :
    start Topology.pairOptions .zero = .ok pairCluster ∧ .close ∉ pairFailures ∧
      (∀ address, (pairCluster.run pairFailures).handles.contains address =
        (pairCluster.run pairFailures).topology.tracks address) ∧
      ((pairCluster.run pairFailures).handles.get? ⟨"left", 27017⟩).map (·.pool.generation) =
        some 2 ∧
      (pairCluster.run (pairFailures ++ [.close])).handles = .empty := by
  have started : start Topology.pairOptions .zero = .ok pairCluster := rfl
  have isOpen : .close ∉ pairFailures := by simp [pairFailures]
  have counted : ((pairCluster.run pairFailures).handles.get? ⟨"left", 27017⟩).map
      (·.pool.generation) = some 2 := by
    decide +kernel
  have agree := parts_agree Topology.pairOptions .zero pairCluster started
  have whenOpen := (agree pairFailures).1 isOpen
  have whenClosed := (agree (pairFailures ++ [.close])).2 (List.mem_append_right _ List.mem_cons_self)
  exact ⟨started, isOpen, whenOpen.2.2.1, counted, whenClosed.2.1⟩

end Cluster

end DocumentDriver
