import HnbCloud.Operation.System

set_option autoImplicit false

/-! # Progress of an operation

An operation carries two counters and a status that repeat what its steps say, and the read model
repeats them once more. No statement recomputes them: the worker's commit adds one blindly, in the
transaction that moves the step, and each service copies what it has just written into the
projection.

`Tally` is the agreement of one operation with its steps, `OperationRow.Phase` what each status
means for the counters. `ProgressInv` holds them for every operation, with the foreign key of the
steps and the projection, and every effect of the engine preserves it. -/

namespace HnbCloud.Operation

open Messaging List Table OperationRow DB

/-! ## Counting steps -/

def DB.stepsOf (db : DB) (operationId : String) : List StepRow :=
  db.steps.rows.filter fun step => decide (step.operationId = operationId)

/-- How many steps of an operation satisfy a condition. -/
def DB.countSteps (db : DB) (operationId : String) (p : StepRow → Bool) : Nat :=
  db.steps.rows.countP fun step => decide (step.operationId = operationId) && p step

def StepRow.hasStatus (status : StepStatus) (step : StepRow) : Bool :=
  decide (step.status = status)

open StepRow

theorem DB.countSteps_eq (db : DB) (operationId : String) (p : StepRow → Bool) :
    db.countSteps operationId p = (db.stepsOf operationId).countP p := by
  rw [countSteps, stepsOf, countP_filter]
  refine countP_congr fun step _ => ?_
  simp [and_comm]

/-- What the counters of an operation are when it has this status. The three statuses no
    transaction of the engine writes do not occur. -/
def OperationRow.Phase (op : OperationRow) : Prop :=
  match op.status with
  | .pendingApproval | .queued | .queuedOffline | .cancelled =>
    op.completedSteps = 0 ∧ op.failedSteps = 0
  | .inProgress => op.completedSteps < op.totalSteps ∧ op.failedSteps = 0
  | .succeeded => op.completedSteps = op.totalSteps ∧ op.failedSteps = 0
  | .failed => op.completedSteps < op.totalSteps ∧ op.failedSteps = 1
  | .pending | .paused | .compensating => False

open OperationRow

/-- The counters of an operation are the numbers of its steps. -/
structure Tally (db : DB) (op : OperationRow) : Prop where
  total : op.totalSteps = db.countSteps op.id (fun _ => true)
  completed : op.completedSteps = db.countSteps op.id (hasStatus .succeeded)
  failed : op.failedSteps = db.countSteps op.id (hasStatus .failed)
  phase : op.Phase

variable {db : DB} {op : OperationRow} {stepId operationId key ownerId : String}
  {steps : List StepRow} {lease : Lease} {expected : Int}

/-- The tally of an operation depends on the database through the numbers of its steps only. -/
theorem Tally.congr {db' : DB} (h : Tally db op)
    (hcount : ∀ p ∈ [fun _ => true, hasStatus .succeeded, hasStatus .failed],
      db'.countSteps op.id p = db.countSteps op.id p) : Tally db' op := by
  refine ⟨?_, ?_, ?_, h.phase⟩
  · rw [hcount _ (by simp)]
    exact h.total
  · rw [hcount _ (by simp)]
    exact h.completed
  · rw [hcount _ (by simp)]
    exact h.failed

/-- What holds of all operations. -/
structure ProgressInv (db : DB) : Prop where
  tally : ∀ op ∈ db.operations.rows, Tally db op
  /-- The foreign key of `operation_steps`. -/
  owner : ∀ step ∈ db.steps.rows, ∃ op, db.operations.get? step.operationId = some op
  mirrored : ∀ op ∈ db.operations.rows, ∃ row, db.readModel.get? op.id = some row ∧ row.Mirrors op

theorem progressInv_empty (now : Int) : ProgressInv (empty now) := by
  refine ⟨?_, ?_, ?_⟩ <;> simp [DB.empty]

/-! ## The effects, one by one -/

section Effects

variable {db db' : DB}

theorem ProgressInv.frame (h : ProgressInv db) (hsteps : db'.steps = db.steps)
    (hoperations : db'.operations = db.operations) (hreadModel : db'.readModel = db.readModel) :
    ProgressInv db' := by
  refine ⟨?_, ?_, ?_⟩
  · intro op hop
    rw [hoperations] at hop
    refine (h.tally op hop).congr fun p _ => ?_
    rw [countSteps, hsteps, countSteps]
  · rw [hsteps, hoperations]
    exact h.owner
  · rw [hoperations, hreadModel]
    exact h.mirrored

theorem ProgressInv.updateStep (h : ProgressInv db) (f : StepRow → StepRow)
    (hf : ∀ r, (f r).id = r.id) {target : StepRow} (htarget : db.steps.get? stepId = some target)
    (hoperation : ∀ r, (f r).operationId = r.operationId)
    (hstatus : ∀ status, status = .succeeded ∨ status = .failed →
      (f target).hasStatus status = target.hasStatus status)
    (hsteps : db'.steps = db.steps.update stepId f hf)
    (hoperations : db'.operations = db.operations) (hreadModel : db'.readModel = db.readModel) :
    ProgressInv db' := by
  refine ⟨?_, ?_, ?_⟩
  · intro op hop
    rw [hoperations] at hop
    refine (h.tally op hop).congr fun p hp => ?_
    rw [countSteps, hsteps]
    refine db.steps.countP_update_of_eq stepId f hf _ htarget ?_
    rw [hoperation]
    congr 1
    simp only [mem_cons, not_mem_nil, or_false] at hp
    rcases hp with rfl | rfl | rfl
    · rfl
    · exact hstatus _ (.inl rfl)
    · exact hstatus _ (.inr rfl)
  · intro step hstep
    rw [hsteps] at hstep
    rw [hoperations]
    obtain ⟨step₀, hstep₀, rfl⟩ := (db.steps.mem_update stepId f hf step).1 hstep
    have howner := h.owner step₀ hstep₀
    split
    · rwa [hoperation]
    · exact howner
  · rw [hoperations, hreadModel]
    exact h.mirrored

theorem ProgressInv.countSteps_eq_zero (h : ProgressInv db)
    (hnew : operationId ∉ db.operations.rows.map OperationRow.id) (p : StepRow → Bool) :
    db.countSteps operationId p = 0 := by
  rw [countSteps, countP_eq_zero]
  intro step hstep hcounted
  simp only [Bool.and_eq_true, decide_eq_true_eq] at hcounted
  obtain ⟨op, hop⟩ := h.owner step hstep
  have hid : op.id = operationId := (key_of_get? hop).trans hcounted.1
  exact hnew (mem_map.2 ⟨op, mem_of_get? hop, hid⟩)

theorem Submission.countP_eq (h : Submission op steps) (operationId : String) (p : StepRow → Bool) :
    steps.countP (fun step => decide (step.operationId = operationId) && p step)
      = if op.id = operationId then steps.countP p else 0 := by
  split
  · next hid =>
    refine countP_congr fun step hstep => ?_
    simp [h.ofOperation step hstep, hid]
  · next hid =>
    rw [countP_eq_zero]
    intro step hstep
    simp [h.ofOperation step hstep, hid]

theorem Submission.tally (h : Submission op steps)
    (hcount : ∀ p, db.countSteps op.id p = steps.countP p) : Tally db op := by
  have hnone : ∀ status, status ≠ .pending → steps.countP (hasStatus status) = 0 := by
    intro status hstatus
    rw [countP_eq_zero]
    intro step hstep
    simp [hasStatus, h.pending step hstep, Ne.symm hstatus]
  refine ⟨?_, ?_, ?_, ?_⟩
  · rw [hcount, h.totalSteps, countP_true]
  · rw [hcount, h.completedSteps, hnone .succeeded (by simp)]
  · rw [hcount, h.failedSteps, hnone .failed (by simp)]
  · unfold OperationRow.Phase
    rcases h.status with hs | hs | hs <;> simp [hs, h.completedSteps, h.failedSteps]

theorem ProgressInv.created (h : ProgressInv db)
    {ids : FreshIds} {extra : List (String × Json)} (hc : Created db db' op steps ids extra) :
    ProgressInv db' := by
  have hnew := (insert?_eq_some_iff.1 hc.operations).1
  have hcount : ∀ operationId p, db'.countSteps operationId p
      = db.countSteps operationId p + if op.id = operationId then steps.countP p else 0 := by
    intro operationId p
    rw [countSteps, hc.stepRows, countP_append, hc.submission.countP_eq, countSteps]
  have hold : ∀ op' ∈ db.operations.rows, op'.id ≠ op.id := by
    intro op' hop' hid
    exact hnew (mem_map.2 ⟨op', hop', hid⟩)
  obtain ⟨intentId, hreadModel⟩ := hc.readModel
  refine ⟨?_, ?_, ?_⟩
  · intro op' hop'
    rcases (mem_insert? hc.operations).1 hop' with hop' | rfl
    · refine (h.tally op' hop').congr fun p _ => ?_
      rw [hcount, if_neg (hold op' hop').symm, Nat.add_zero]
    · refine hc.submission.tally fun p => ?_
      rw [hcount, if_pos rfl, h.countSteps_eq_zero hnew, Nat.zero_add]
  · intro step hstep
    rw [hc.stepRows, mem_append] at hstep
    rcases hstep with hstep | hstep
    · obtain ⟨op', hop'⟩ := h.owner step hstep
      exact ⟨op', get?_of_insert? hc.operations hop'⟩
    · refine ⟨op, ?_⟩
      rw [get?_insert? hc.operations, hc.submission.ofOperation step hstep, if_pos rfl]
  · intro op' hop'
    rw [hreadModel]
    rcases (mem_insert? hc.operations).1 hop' with hop' | rfl
    · rw [get?_upsertReadModel_of_ne _ _ _ _ (hold op' hop')]
      exact h.mirrored op' hop'
    · exact get?_upsertReadModel_self _ _ _ _

/-- An operation is updated and copied into the projection, and the numbers of the other
    operations' steps stay. -/
theorem ProgressInv.updateOperation (h : ProgressInv db) {view : OperationRow}
    {intentId : String} (hop : db.operations.get? op.id = some op)
    (f : OperationRow → OperationRow) (hf : ∀ r, (f r).id = r.id)
    (hoperations : db'.operations = db.operations.update op.id f hf)
    (hreadModel : db'.readModel = upsertReadModel db.readModel db.now view intentId)
    (hview : view.id = op.id) (hmirrors : ∀ row : ReadModelRow, row.Mirrors view → row.Mirrors (f op))
    (htally : Tally db' (f op)) (hothers : ∀ operationId, operationId ≠ op.id → ∀ p,
      db'.countSteps operationId p = db.countSteps operationId p)
    (howner : ∀ step ∈ db'.steps.rows, ∃ op', db.operations.get? step.operationId = some op') :
    ProgressInv db' := by
  -- An operation afterwards is the updated one, or another one as it was.
  have hcases : ∀ op' ∈ db'.operations.rows,
      op' = f op ∨ (op' ∈ db.operations.rows ∧ op'.id ≠ op.id) := by
    intro op' hop'
    rw [hoperations] at hop'
    exact mem_update_cases hop' hop
  refine ⟨?_, ?_, ?_⟩
  · intro op' hop'
    rcases hcases op' hop' with rfl | ⟨hop', hid⟩
    · exact htally
    · exact (h.tally op' hop').congr fun p _ => hothers op'.id hid p
  · intro step hstep
    obtain ⟨op', hop'⟩ := howner step hstep
    rw [hoperations, get?_update]
    split
    · exact ⟨f op, by rw [hop, Option.map_some]⟩
    · exact ⟨op', hop'⟩
  · intro op' hop'
    rw [hreadModel]
    rcases hcases op' hop' with rfl | ⟨hop', hid⟩
    · rw [hf, ← hview]
      obtain ⟨row, hrow, hmirrors'⟩ := get?_upsertReadModel_self db.readModel db.now view intentId
      exact ⟨row, hrow, hmirrors row hmirrors'⟩
    · rw [get?_upsertReadModel_of_ne _ _ _ _ (hview ▸ hid)]
      exact h.mirrored op' hop'

theorem ProgressInv.decided (h : ProgressInv db)
    (hop : db.operations.get? op.id = some op) (hd : Decided db op db') : ProgressInv db' := by
  have htally := h.tally op (mem_of_get? hop)
  cases hd with
  | approved actorId reason _ _ waiting =>
    refine h.updateOperation hop (transition db.now .queued (some actorId) reason)
      (fun _ => rfl) rfl rfl rfl (fun row hrow => ⟨hrow.1, hrow.2, hrow.3⟩) ?_
      (fun _ _ _ => rfl) h.owner
    refine ⟨htally.total, htally.completed, htally.failed, ?_⟩
    simpa [OperationRow.Phase, waiting, transition] using htally.phase
  | ended approver _ _ reason allowed =>
    refine h.updateOperation hop (transition db.now .cancelled approver reason)
      (fun _ => rfl) rfl rfl rfl (fun row hrow => ⟨hrow.1, hrow.2, hrow.3⟩) ?_
      (fun _ _ _ => rfl) h.owner
    refine ⟨htally.total, htally.completed, htally.failed, ?_⟩
    have hphase := htally.phase
    rw [OperationStatus.canTransition_cancelled_iff] at allowed
    rcases allowed with hs | hs | hs | hs | hs <;>
      simp_all [OperationRow.Phase, transition]

theorem OperationRow.phase_recordStep (hphase : op.Phase)
    (hrun : op.status.isRunnable = true) (hlt : op.completedSteps < op.totalSteps)
    (outcome : StepOutcome) (result : StepResult) : (op.recordStep outcome result).Phase := by
  have hstatus : op.status = .queued ∨ op.status = .inProgress := by
    cases hs : op.status <;> simp_all [OperationStatus.isRunnable]
  have hfailed : op.failedSteps = 0 := by
    rcases hstatus with hs | hs <;> simp [Phase, hs] at hphase <;> exact hphase.2
  cases outcome with
  | failed => simp [Phase, recordStep, hlt, hfailed]
  | succeeded =>
    by_cases hlast : op.totalSteps ≤ op.completedSteps + 1
    · have : op.completedSteps + 1 = op.totalSteps := by omega
      simp [Phase, recordStep, this, hfailed]
    · have : op.completedSteps + 1 < op.totalSteps := by omega
      rcases hstatus with hs | hs <;>
        simp [Phase, recordStep, hlast, hs, this, hfailed]

section CommitStep

variable {step : StepRow}
  (hcommit : Committable db operationId stepId key ownerId lease expected op step)

include hcommit

variable (outcome : StepOutcome) (result : StepResult) (outbox : Outbox)

/-- How a commit changes the number of steps of its operation that satisfy a condition. -/
theorem countSteps_commitStep (p : StepRow → Bool) :
    (db.commitStep op stepId ownerId lease outcome result outbox).countSteps operationId p
        + (if p step then 1 else 0)
      = db.countSteps operationId p + (if p (step.finish outcome result) then 1 else 0) := by
  obtain ⟨hstep, hoperation⟩ := stepOf_eq_some_iff.1 hcommit.stored
  have := db.steps.countP_update stepId (finish outcome result) (fun _ => rfl)
    (fun step => decide (step.operationId = operationId) && p step) hstep
  have hoperation' : (step.finish outcome result).operationId = operationId := hoperation
  simpa [countSteps, commitStep, hoperation, hoperation'] using this

theorem countSteps_commitStep_of_ne {other : String} (hother : other ≠ operationId)
    (p : StepRow → Bool) :
    (db.commitStep op stepId ownerId lease outcome result outbox).countSteps other p
      = db.countSteps other p := by
  obtain ⟨hstep, hoperation⟩ := stepOf_eq_some_iff.1 hcommit.stored
  refine db.steps.countP_update_of_eq stepId (finish outcome result) (fun _ => rfl) _ hstep ?_
  simp [finish, hoperation, Ne.symm hother]

/-- A step that can be committed is not counted as succeeded or failed. -/
theorem Committable.hasStatus_eq_false {status : StepStatus} (hstatus : status.isActive = false) :
    step.hasStatus status = false := by
  have hactive := ((db.fenced_iff step ownerId lease).1 hcommit.fenced).1
  unfold hasStatus
  rw [decide_eq_false_iff_not]
  rintro rfl
  rw [hactive] at hstatus
  simp at hstatus

/-- As long as a step can be committed, not all steps have succeeded. -/
theorem Tally.completedSteps_lt (h : Tally db op) : op.completedSteps < op.totalSteps := by
  obtain ⟨hstep, hoperation⟩ := stepOf_eq_some_iff.1 hcommit.stored
  obtain rfl : op.id = operationId := key_of_get? hcommit.operation
  rw [h.completed, h.total, db.countSteps_eq, db.countSteps_eq, countP_true]
  refine countP_lt_length_iff.2 ⟨step, ?_, hcommit.hasStatus_eq_false rfl⟩
  exact mem_filter.2 ⟨mem_of_get? hstep, by simp [hoperation]⟩

theorem Tally.commitStep (h : Tally db op) :
    Tally (db.commitStep op stepId ownerId lease outcome result outbox)
      (op.recordStep outcome result) := by
  have hlt := h.completedSteps_lt hcommit
  obtain rfl : op.id = operationId := key_of_get? hcommit.operation
  have hcount := countSteps_commitStep hcommit outcome result outbox
  have htotal := hcount fun _ => true
  have hsucceeded := hcount (hasStatus .succeeded)
  have hfailed := hcount (hasStatus .failed)
  rw [hcommit.hasStatus_eq_false rfl, ← h.completed] at hsucceeded
  rw [hcommit.hasStatus_eq_false rfl, ← h.failed] at hfailed
  rw [← h.total] at htotal
  refine ⟨?_, ?_, ?_, op.phase_recordStep h.phase hcommit.runnable hlt outcome result⟩
  · exact (Nat.add_right_cancel htotal).symm
  · cases outcome <;>
      simpa [recordStep, hasStatus, finish, StepOutcome.status] using hsucceeded.symm
  · cases outcome <;>
      simpa [recordStep, hasStatus, finish, StepOutcome.status] using hfailed.symm

theorem ProgressInv.committed (h : ProgressInv db) :
    ProgressInv (db.commitStep op stepId ownerId lease outcome result outbox) := by
  obtain rfl : op.id = operationId := key_of_get? hcommit.operation
  have htally := h.tally op (mem_of_get? hcommit.operation)
  refine h.updateOperation hcommit.operation (recordStep outcome result)
    (fun _ => rfl) rfl rfl rfl (fun row hrow => ⟨hrow.1, hrow.2, hrow.3⟩)
    (htally.commitStep hcommit outcome result outbox)
    (fun other hother p => countSteps_commitStep_of_ne hcommit outcome result outbox hother p) ?_
  intro step' hstep'
  obtain ⟨step₀, hstep₀, rfl⟩ := (db.steps.mem_update stepId (finish outcome result)
    (fun _ => rfl) step').1 hstep'
  split
  · exact h.owner step₀ hstep₀
  · exact h.owner step₀ hstep₀

end CommitStep

theorem ProgressInv.step (h : ProgressInv db) (heffect : Effect db db') : ProgressInv db' := by
  cases heffect with
  | none | ticked | observed | renewed => exact h.frame rfl rfl rfl
  | created _ _ _ _ hcreated => exact h.created hcreated
  | decided _ stored hdecided => exact h.decided stored hdecided
  | granted _ _ _ _ _ lease _ _ hgrant =>
    have htarget := (stepOf_eq_some_iff.1 hgrant.stored).1
    exact h.updateStep (retain lease) (fun _ => rfl) htarget (fun _ => rfl)
      (fun _ _ => rfl) rfl rfl rfl
  | retried _ _ ownerId lease result target stored fenced =>
    have htarget := (stepOf_eq_some_iff.1 stored).1
    have hactive := ((db.fenced_iff target ownerId lease).1 fenced).1
    refine h.updateStep (retry result) (fun _ => rfl) htarget (fun _ => rfl) ?_ rfl rfl rfl
    rintro status (rfl | rfl) <;> cases hs : target.status <;>
      simp_all [hasStatus, retry, StepStatus.isActive]
  | committed _ _ _ _ _ _ outcome result _ _ _ outbox hcommit =>
    exact h.committed hcommit outcome result outbox

end Effects

/-! ## Reachable states -/

theorem progressInv_run (sha : Sha256) (now : Int) (requests : List Request) :
    ProgressInv ((engine sha).run (empty now) requests) :=
  engine_run_induction (fun _ _ heffect h => h.step heffect) sha (progressInv_empty now) requests

theorem Tally.succeeded_iff (h : Tally db op) (hsteps : 1 ≤ op.totalSteps) :
    op.status = .succeeded ↔ ∀ step ∈ db.stepsOf op.id, step.status = .succeeded := by
  have hall : op.completedSteps = op.totalSteps
      ↔ ∀ step ∈ db.stepsOf op.id, step.status = .succeeded := by
    rw [h.completed, h.total, db.countSteps_eq, db.countSteps_eq, countP_true, countP_eq_length]
    simp [hasStatus]
  rw [← hall]
  have hphase := h.phase
  unfold OperationRow.Phase at hphase
  cases hs : op.status <;> simp only [hs, reduceCtorEq, false_iff, true_iff] at hphase ⊢ <;> omega

theorem Tally.failed_iff (h : Tally db op) :
    op.status = .failed ↔ ∃ step ∈ db.stepsOf op.id, step.status = .failed := by
  have hsome : 0 < op.failedSteps ↔ ∃ step ∈ db.stepsOf op.id, step.status = .failed := by
    rw [h.failed, db.countSteps_eq, countP_pos_iff]
    simp [hasStatus]
  rw [← hsome]
  have hphase := h.phase
  unfold OperationRow.Phase at hphase
  cases hs : op.status <;> simp only [hs, reduceCtorEq, false_iff, true_iff] at hphase ⊢ <;> omega

theorem Tally.failedSteps_le_one (h : Tally db op) : op.failedSteps ≤ 1 := by
  have hphase := h.phase
  unfold OperationRow.Phase at hphase
  cases hs : op.status <;> simp only [hs] at hphase <;> omega

/-- An operation agrees with its steps and with its row of the read model. -/
structure OperationAgrees (db : DB) (op : OperationRow) : Prop where
  steps : (db.stepsOf op.id).length = op.totalSteps
  completed : op.completedSteps = (db.stepsOf op.id).countP (hasStatus .succeeded)
  failed : op.failedSteps = (db.stepsOf op.id).countP (hasStatus .failed)
  failed_le_one : op.failedSteps ≤ 1
  succeeded_iff : op.status = .succeeded ↔ ∀ step ∈ db.stepsOf op.id, step.status = .succeeded
  failed_iff : op.status = .failed ↔ ∃ step ∈ db.stepsOf op.id, step.status = .failed
  readModel : ∃ row, db.readModel.get? op.id = some row ∧ row.status = op.status
    ∧ row.completedSteps = op.completedSteps ∧ row.failedSteps = op.failedSteps

/-- **Progress.** In every reachable state, an operation submitted with at least one step agrees
    with its steps and with its row of the read model. -/
theorem operation_agrees_with_steps (sha : Sha256) (now : Int) (requests : List Request)
    (op : OperationRow)
    (hop : op ∈ ((engine sha).run (empty now) requests).operations.rows)
    (hsteps : 1 ≤ op.totalSteps) :
    OperationAgrees ((engine sha).run (empty now) requests) op := by
  have hinv := progressInv_run sha now requests
  generalize (engine sha).run (empty now) requests = db at hop hinv
  have htally := hinv.tally op hop
  obtain ⟨row, hrow, hmirrors⟩ := hinv.mirrored op hop
  refine ⟨?_, ?_, ?_, htally.failedSteps_le_one, htally.succeeded_iff hsteps, htally.failed_iff,
    ⟨row, hrow, hmirrors.status, hmirrors.completedSteps, hmirrors.failedSteps⟩⟩
  · rw [htally.total, db.countSteps_eq, countP_true]
  · rw [htally.completed, db.countSteps_eq]
  · rw [htally.failed, db.countSteps_eq]

/-- A deployment with these independent steps. -/
def deployRequest (steps : List String) : Request where
  call := .submitOperation
    { tenantId := "t1", projectId := "", environmentId := "", namespaceId := "",
      releaseId := "r1", operationType := .deploy, idempotencyKey := "k1", initiatedBy := "alice",
      correlationId := "c1", targetClusterIds := [], tags := [],
      steps := steps.map fun name =>
        { planStepId := name, name := name, stepType := "helm", providerId := "",
          dependsOn := [], optional := false, inputs := [], secretReference := "",
          maxRetries := 0, timeoutSeconds := 0 } }
    { plan := "p1", operation := "op1", intent := "", correlation := "",
      step := fun n => ["s1", "s2"].getD n "", message := fun n => ["m1", "m2"].getD n "" }
  fate := .answered

/-- A result with nothing in it. -/
def emptyResult : StepResult where
  outputs := .obj []
  checkpoint := ""
  errorMessage := ""
  startedAt := 0
  completedAt := 0

/-- The deployment is submitted. A worker leases its step `install` and commits its success. -/
def deploying (steps : List String) : List Request :=
  [deployRequest steps, ⟨.acquireLease "op1" "s1" "w1" 0 60 "l1" 0, .answered⟩,
    ⟨.commitStepSuccess "op1" "s1" "k1:install" "w1" ⟨"l1", 1⟩ 0 emptyResult
      { messageId := "m3", messageType := "hnb.event.operation.step-completed.v1",
        schemaVersion := "1.0.0", subject := "hnb.event.operation.step-completed.v1",
        occurredAt := 0, tenantId := "t1", projectId := "", environmentId := "",
        actorId := "w1", correlationId := "c1", causationId := "", idempotencyKey := "k1:done",
        aggregateId := "op1", aggregateVersion := none, operationId := "op1", stepId := "s1",
        expectedVersion := some 0, payload := .obj [] }, .answered⟩]

/-- One of two steps has succeeded. -/
theorem operation_agrees_with_steps_of_deploy :
    let db := (engine ⟨fun _ => "digest", fun _ => "digest"⟩).run (empty 0)
      (deploying ["install", "verify"])
    ∃ op ∈ db.operations.rows, op.totalSteps = 2 ∧ op.completedSteps = 1 ∧ OperationAgrees db op :=
  ⟨_, mem_cons_self, by decide, by decide,
    operation_agrees_with_steps _ 0 (deploying ["install", "verify"]) _ mem_cons_self (by decide)⟩

end HnbCloud.Operation
