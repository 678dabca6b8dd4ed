/-
This file says what the operations of a cluster do to the handles of its servers. Scans and the use
of a pool change one handle and nothing else. A description that is applied clears the pool of its
server if it tells of a failed network, and then lets go of the handles of servers that are tracked
no more and makes new ones for those that have joined; every other handle is the one of before.
-/

import DocumentDriver.Cluster.Basic
import DocumentDriver.Proofs.Topology.Servers

namespace DocumentDriver

namespace ServerHandle

/-- The handle of a server after a description has been taken into account. -/
def told (handle : ServerHandle) (address : ServerAddress) (description : ServerDescription) :
    ServerHandle :=
  if description.address = address ∧ description.error.any Error.isNetwork = true then
    { handle with pool := handle.pool.clear }
  else handle

/-- The handle of a server after a scan has been asked for. -/
def asked (handle : ServerHandle) (options : ClientOptions) : ServerHandle :=
  { handle with schedule := handle.schedule.step options .request }

@[simp] theorem asked_asked (handle : ServerHandle) (options : ClientOptions) :
    (handle.asked options).asked options = handle.asked options := rfl

end ServerHandle

namespace Cluster

/-! ### Operations that change handles only -/

/-- A cluster is the same as another one but for its handles. -/
structure SameButHandles (cluster next : Cluster) : Prop where
  options : next.options = cluster.options
  topology : next.topology = cluster.topology
  published : next.published = cluster.published
  version : next.version = cluster.version
  isClosed : next.isClosed = cluster.isClosed

theorem sameButHandles_refl (cluster : Cluster) : cluster.SameButHandles cluster :=
  ⟨rfl, rfl, rfl, rfl, rfl⟩

theorem SameButHandles.trans {cluster middle next : Cluster}
    (first : cluster.SameButHandles middle) (second : middle.SameButHandles next) :
    cluster.SameButHandles next where
  options := second.options.trans first.options
  topology := second.topology.trans first.topology
  published := second.published.trans first.published
  version := second.version.trans first.version
  isClosed := second.isClosed.trans first.isClosed

theorem sameButHandles_modifyHandle (cluster : Cluster) (address : ServerAddress)
    (change : ServerHandle → ServerHandle) :
    cluster.SameButHandles (cluster.modifyHandle address change) := by
  unfold modifyHandle
  split
  · exact sameButHandles_refl cluster
  · exact ⟨rfl, rfl, rfl, rfl, rfl⟩

theorem sameButHandles_clearFailed (cluster : Cluster) (description : ServerDescription) :
    cluster.SameButHandles (cluster.clearFailed description) := by
  unfold clearFailed
  split
  · exact sameButHandles_modifyHandle cluster _ _
  · exact sameButHandles_refl cluster

theorem get?_modifyHandle (cluster : Cluster) (address other : ServerAddress)
    (change : ServerHandle → ServerHandle) :
    (cluster.modifyHandle address change).handles.get? other =
      if other = address then (cluster.handles.get? other).map change
      else cluster.handles.get? other := by
  unfold modifyHandle
  split
  · next absent =>
    split
    · next same => rw [same, absent, Option.map_none]
    · rfl
  · next handle present =>
    dsimp only
    rw [AddressMap.get?_insert]
    split
    · next same => rw [same, present, Option.map_some]
    · rfl

theorem get?_clearFailed (cluster : Cluster) (description : ServerDescription)
    (address : ServerAddress) :
    (cluster.clearFailed description).handles.get? address =
      (cluster.handles.get? address).map (·.told address description) := by
  unfold clearFailed ServerHandle.told
  by_cases failed : description.error.any Error.isNetwork = true
  · rw [if_pos failed, get?_modifyHandle]
    by_cases own : description.address = address
    · simp only [own, failed, and_self, if_true]
    · simp only [own, Ne.symm own, false_and, if_false, Option.map_id']
  · simp [failed]

/-! ### Scans -/

theorem get?_requestScan (cluster : Cluster) (address other : ServerAddress) :
    (cluster.requestScan address).handles.get? other =
      if other = address then (cluster.handles.get? other).map (·.asked cluster.options)
      else cluster.handles.get? other :=
  get?_modifyHandle cluster address other _

theorem sameButHandles_requestScan (cluster : Cluster) (address : ServerAddress) :
    cluster.SameButHandles (cluster.requestScan address) :=
  sameButHandles_modifyHandle cluster address _

theorem sameButHandles_requestScans (cluster : Cluster) :
    cluster.SameButHandles cluster.requestScans := by
  unfold requestScans
  induction cluster.handles.addresses generalizing cluster with
  | nil => exact sameButHandles_refl cluster
  | cons first rest inductionHypothesis =>
    exact (sameButHandles_requestScan cluster first).trans (inductionHypothesis _)

/-- Asking twice is asking once, so it does not matter whether an address is listed twice. -/
theorem get?_requestAll (cluster : Cluster) (addresses : List ServerAddress)
    (address : ServerAddress) :
    (addresses.foldl requestScan cluster).handles.get? address =
      if address ∈ addresses then (cluster.handles.get? address).map (·.asked cluster.options)
      else cluster.handles.get? address := by
  induction addresses generalizing cluster with
  | nil => rfl
  | cons first rest inductionHypothesis =>
    have options : (cluster.requestScan first).options = cluster.options :=
      (sameButHandles_requestScan cluster first).options
    rw [List.foldl_cons, inductionHypothesis, get?_requestScan, options]
    by_cases same : address = first
    · simp [same, Function.comp_def]
    · simp [same]

theorem get?_requestScans (cluster : Cluster) (address : ServerAddress) :
    cluster.requestScans.handles.get? address =
      (cluster.handles.get? address).map (·.asked cluster.options) := by
  unfold requestScans
  rw [get?_requestAll]
  split
  · rfl
  · next absent =>
    have unknown : cluster.handles.get? address = none := by
      rw [← AddressMap.contains_iff] at absent
      simpa [AddressMap.contains] using absent
    rw [unknown, Option.map_none]

/-! ### Descriptions -/

/-- A picture keeps the handles of its servers and makes new ones for those that have none. -/
theorem get?_handlesFor (cluster : Cluster) (topology : Topology) (now : Duration)
    (address : ServerAddress) :
    (cluster.handlesFor topology now).get? address =
      if topology.tracks address = true then
        some ((cluster.handles.get? address).getD (newHandle address now))
      else none := by
  unfold handlesFor
  dsimp only
  rw [AddressMap.get?_foldl_addMissing (newHandle · now), AddressMap.get?_filter]
  have listed : address ∈ topology.addresses ↔ topology.tracks address = true :=
    (AddressMap.contains_iff _).symm
  by_cases tracked : topology.tracks address = true
  · rw [if_pos tracked, if_pos (listed.2 tracked)]
    cases cluster.handles.get? address with
    | none => rfl
    | some handle => simp [Option.filter, tracked]
  · rw [if_neg tracked, if_neg (mt listed.1 tracked), Option.or_none,
      Option.filter_eq_none_iff]
    exact fun _ _ => tracked

theorem topology_applyLocked (cluster : Cluster) (description : ServerDescription)
    (now : Duration) :
    (cluster.applyLocked description now).1.topology = cluster.topology.apply description :=
  congrArg (·.apply description) (sameButHandles_clearFailed cluster description).topology

theorem get?_applyLocked (cluster : Cluster) (description : ServerDescription) (now : Duration)
    (address : ServerAddress) :
    (cluster.applyLocked description now).1.handles.get? address =
      if (cluster.topology.apply description).tracks address = true then
        some (((cluster.handles.get? address).map (·.told address description)).getD
          (newHandle address now))
      else none := by
  have handles : (cluster.applyLocked description now).1.handles =
      (cluster.clearFailed description).handlesFor (cluster.topology.apply description) now := by
    rw [← topology_applyLocked cluster description now]
    rfl
  rw [handles, get?_handlesFor, get?_clearFailed]

theorem apply_of_open (cluster : Cluster) (isOpen : cluster.isClosed = false)
    (description : ServerDescription) (now : Duration) :
    cluster.apply description now = cluster.applyLocked description now := by
  unfold apply
  rw [isOpen, if_neg Bool.false_ne_true]

theorem apply_of_closed (cluster : Cluster) (closed : cluster.isClosed = true)
    (description : ServerDescription) (now : Duration) :
    cluster.apply description now = (cluster, []) := by
  unfold apply
  rw [closed, if_pos rfl]

end Cluster

end DocumentDriver
