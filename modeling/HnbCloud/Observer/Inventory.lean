import HnbCloud.Observer.Sequence

set_option autoImplicit false

/-! # What is reported about a target

The Kubernetes version that `GetRuntimeTarget` reports. It is read from a column of the capability
snapshots that the projector does not write. -/

namespace HnbCloud.Observer

open List DB Write

variable {db db' : DB} {o : Observation} {target : TargetKey} {hash : Content → String}

/-- The version that `GetRuntimeTarget` reports for a target: `kube_version` of the newest snapshot. -/
def Projection.kubernetesVersion (db : Projection) (target : TargetKey) : String :=
  let newest := (db.capabilities.rows.filter fun row => row.key.target == target).mergeSort
    fun a b => decide (b.observedAt ≤ a.observedAt)
  (newest.head?.bind CapabilityRow.kubeVersion).getD ""

/-- The capability in the last observation of the target that was accepted with one. -/
def lastCapability (target : TargetKey) (trace : List (Machine.Entry DB Message Answer)) :
    Option Capability :=
  trace.reverse.findSome? fun entry =>
    if entry.result = .accepted then
      (entry.call.observed.filter fun o => decide (o.targetKey = target)).bind Observation.capability
    else none

def Unversioned (db : DB) : Prop := ∀ row ∈ db.capabilities.rows, row.kubeVersion = none

theorem Unversioned.perform? {write : Write} (h : Unversioned db)
    (hrow : ∀ row, write = .insertCapabilitySnapshot row → row.kubeVersion = none)
    (hperform : write.perform? db db = some db') : Unversioned db' := by
  by_cases hkeeps : write.keepsCapabilities = true
  · rwa [Unversioned, (perform?_frame hperform).2.2 hkeeps]
  cases write with
  | insertCapabilitySnapshot row =>
    obtain ⟨rows, rfl, hrows⟩ := insertCapability?_eq_some hperform
    intro row' hrow'
    rcases hrows row' hrow' with hold | rfl
    · exact h row' hold
    · exact hrow row' rfl
  | _ => exact absurd rfl hkeeps

theorem Unversioned.saveObservation {now : Int} {digest : String} (h : Unversioned db)
    (hsaved : Observer.saveObservation now o digest db = .ok db') : Unversioned db' := by
  obtain ⟨head, hhead, hsaved⟩ := except_bind_eq_ok hsaved
  obtain ⟨nodes, hnodes, hsaved⟩ := except_bind_eq_ok hsaved
  obtain ⟨storage, hstorage, hsaved⟩ := except_bind_eq_ok hsaved
  have hversions : Unversioned head := by
    refine issue_related (R := fun a b => Unversioned a → Unversioned b) (fun _ => id)
      (fun _ _ _ hab hbc ha => hbc (hab ha)) (fun statement hmem a b hperform ha => ?_) hhead h
    refine ha.perform? (fun row hrow => ?_) hperform
    simp only [targetStatements, capabilityStatements, mem_append] at hmem
    split at hmem <;> split at hmem <;> simp at hmem
    all_goals rcases hmem with rfl | rfl <;> cases hrow <;> rfl
  have hkept : nodes.capabilities = head.capabilities := by
    unfold projectNodes at hnodes
    split at hnodes
    · rw [← Except.ok.inj hnodes]
    · exact issue_related (R := fun a b => b.capabilities = a.capabilities) (fun _ => rfl)
        (fun _ _ _ hab hbc => hbc.trans hab) (fun statement hs _ _ hperform =>
          (perform?_frame hperform).2.2 (nodeStatements_keep o _ statement hs).2) hnodes
  have hprojection := issue_projection (by simp [cursorStatements]; exact ⟨rfl, rfl⟩) hsaved
  rwa [Unversioned, hprojection, (projectStorageInventory_same hstorage).2.2, hkept]

theorem Does.unversioned {sent : Message} {answer : Answer} (hdoes : Does hash db sent answer db')
    (h : Unversioned db) : Unversioned db' := by
  cases hdoes with
  | saved _ _ _ _ _ _ hsaved => exact h.saveObservation hsaved
  | raised _ _ _ _ _ _ _ hprojection => rwa [Unversioned, hprojection]
  | refused _ _ _ _ hprojection => rwa [Unversioned, hprojection]

/-- **The reported version.** Whatever is observed, the version that is reported for a target is that of
    the last capability that was accepted only if that has none. -/
theorem reported_version_iff (hdb : db.capabilities.rows = []) (messages : List Message) :
    (∀ capability ∈ lastCapability target ((projector hash).trace db messages),
        ((projector hash).run db messages).kubernetesVersion target = capability.kubernetesVersion)
      ↔ ∀ capability ∈ lastCapability target ((projector hash).trace db messages),
        capability.kubernetesVersion = "" := by
  have hrun : Unversioned ((projector hash).run db messages) :=
    (projector hash).run_induction (fun db message h => (projector_does hash db message).unversioned h)
      (by simp [Unversioned, hdb]) messages
  have hempty : ((projector hash).run db messages).kubernetesVersion target = "" := by
    unfold Projection.kubernetesVersion
    dsimp only
    rcases hnewest : head? _ with _ | row
    · rfl
    · have hrow := (mem_filter.1 (mem_mergeSort.1 (mem_of_mem_head? hnewest))).1
      rw [Option.bind_some, hrun row hrow]
      rfl
  simp only [hempty, eq_comm]

def withVersion (version : String) : Message :=
  { plainWire .kubernetesTarget "Agent" "5d0f7c1a-3b7e-4c55-8f0e-7a9e6a1c2b01" 1 1 with
    capability := some
      { snapshotId := "", digest := "", kubernetesVersion := version, runtimeVersion := ""
        architectures := [], resources := { cpuMillis := 0, memoryBytes := 0 } } }.message

/-- A cluster reports its version, and none is shown. -/
theorem version_not_reported :
    (lastCapability agentCursor.target ((projector fun _ => "").trace registered
        [withVersion "v1.31.0"])).map Capability.kubernetesVersion = some "v1.31.0"
      ∧ ((projector fun _ => "").run registered
        [withVersion "v1.31.0"]).kubernetesVersion agentCursor.target = "" := by
  decide +kernel

theorem no_version_reported : registered.capabilities.rows = []
    ∧ ∀ capability ∈ lastCapability agentCursor.target ((projector fun _ => "").trace registered
        [withVersion ""]),
      ((projector fun _ => "").run registered [withVersion ""]).kubernetesVersion agentCursor.target
        = capability.kubernetesVersion :=
  ⟨rfl, (reported_version_iff rfl _).2 (by decide +kernel)⟩

end HnbCloud.Observer
