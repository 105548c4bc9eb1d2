import Mathlib.Data.Fintype.EquivFin
import HnbCloud.Operation.Progress

set_option autoImplicit false

/-! # Dispatch of steps

A worker starts a step when it receives the step-requested command that platform-api puts into the
outbox. platform-api writes such a command in two places, both for steps that depend on nothing:
when an operation is submitted as `queued`, and when it is approved. The commit of a step result,
which is where a dependent step becomes ready, writes none.

So the steps of the first layer of a plan always have their command, and an operation all of whose
steps are in that layer can run to its end. A step that depends on another never gets one:
`dependent_step_not_dispatched` runs the plan of an installation into that state. -/

namespace HnbCloud.Operation

open Messaging List Table Machine OperationStatus OperationRow StepStatus OutboxRow DB

/-- The row is the command to run this step, and the relay has not given it up. -/
structure StepCommand (step : StepRow) (row : OutboxRow) : Prop where
  messageType : row.event.messageType = stepRequestedSubject
  operationId : row.event.operationId = step.operationId
  stepId : row.event.stepId = step.id
  idempotencyKey : row.event.idempotencyKey = step.idempotencyKey
  expectedVersion : row.event.expectedVersion = some step.version
  status : row.status = .pending ∨ row.status = .published

/-- Every step of the operation that is ready to run has its command in the outbox. -/
def ReadyStepsDispatched (db : DB) (op : OperationRow) : Prop :=
  op.status.isRunnable = true → ∀ step ∈ db.stepsOf op.id, step.status = .pending →
    db.dependenciesSatisfied op.id step.dependsOn = true →
    ∃ row ∈ db.outbox.rows, StepCommand step row

/-! ## Where rows come from -/

variable {db db' : DB} {step' : StepRow} {op : OperationRow}

/-- A step of the database after an effect was there before, or has just been submitted. -/
theorem Effect.step_origin (h : Effect db db') (hstep' : step' ∈ db'.steps.rows) :
    (∃ step ∈ db.steps.rows, step.id = step'.id ∧ step.Becomes db' step')
    ∨ ∃ op steps ids extra, Created db db' op steps ids extra ∧ step' ∈ steps := by
  obtain ⟨more, hbecomes, hmore⟩ := h.steps_become
  refine (hbecomes.mem hstep').imp_right fun hnew => ?_
  rcases hmore with rfl | ⟨op, ids, extra, hcreated⟩
  · exact absurd hnew not_mem_nil
  · exact ⟨op, more, ids, extra, hcreated, hnew⟩

theorem Effect.outbox_append (h : Effect db db') :
    ∃ more, db'.outbox.rows = db.outbox.rows ++ more := by
  cases h with
  | none | ticked | observed | renewed | granted | retried => exact ⟨[], (append_nil _).symm⟩
  | created _ _ _ _ hcreated => exact ⟨_, hcreated.outbox⟩
  | decided _ _ hdecided =>
    cases hdecided with
    | approved _ _ _ _ _ dispatched => exact ⟨_, dispatched⟩
    | ended => exact ⟨[], (append_nil _).symm⟩
  | committed _ _ _ _ _ _ _ _ _ _ _ _ _ sent => exact ⟨_, rows_insertOutboxEvents sent⟩

/-- A runnable operation was runnable before, has just been approved or has just been submitted. -/
theorem Effect.runnable_origin (h : Effect db db') {op' : OperationRow}
    (hop' : op' ∈ db'.operations.rows) (hrun : op'.status.isRunnable = true) :
    (∃ op ∈ db.operations.rows, op.id = op'.id ∧ op.status.isRunnable = true)
    ∨ (∃ op actorId reason ids outbox, db.operations.get? op.id = some op ∧ op.id = op'.id
        ∧ outbox.rows = db.outbox.rows
          ++ (readyStepEvents db.now (op.transition db.now .queued (some actorId) reason)
            (db.readySteps op.id) actorId ids []).map (new db.now)
        ∧ db' = db.applyDecision op .queued (some actorId) .approved actorId reason outbox)
    ∨ ∃ steps ids extra, Created db db' op' steps ids extra := by
  obtain ⟨more, hbecomes, hmore⟩ := h.operations_become
  rcases hbecomes.mem hop' with ⟨op, hop, hid, hop'⟩ | hnew
  · cases hop' with
    | same => exact .inl ⟨_, hop, rfl, hrun⟩
    | approved actorId reason ids outbox _ dispatched heq =>
      exact .inr (.inl ⟨op, actorId, reason, ids, outbox, get?_of_mem hop, rfl, dispatched, heq⟩)
    | ended => simp [transition, isRunnable] at hrun
    | recorded _ _ runnable => exact .inl ⟨op, hop, rfl, runnable⟩
  · rcases hmore with rfl | ⟨op, steps, ids, extra, rfl, hcreated⟩
    · exact absurd hnew not_mem_nil
    · obtain rfl := mem_singleton.1 hnew
      exact .inr (.inr ⟨steps, ids, extra, hcreated⟩)

/-! ## The first layer is dispatched -/

/-- A step without dependencies of these is in the commands that are made for them. -/
theorem exists_readyStepEvents (now : Int) {steps : List StepRow}
    {step : StepRow} (hstep : step ∈ steps) (hready : step.dependsOn = [])
    (hoperation : step.operationId = op.id) (actorId : String) (ids : FreshIds)
    (extra : List (String × Json)) :
    ∃ row ∈ (readyStepEvents now op steps actorId ids extra).map (new now),
      StepCommand step row := by
  obtain ⟨index, hindex, hget⟩ := mem_iff_getElem.1 hstep
  have hmem : (step, index) ∈ steps.zipIdx := by
    rw [mem_zipIdx_iff_getElem?]
    simp [hindex, hget]
  refine ⟨new now (stepRequestedEvent now op step actorId (ids.message index) extra), ?_, ?_⟩
  · refine mem_map.2 ⟨_, mem_map.2 ⟨(step, index), ?_, rfl⟩, rfl⟩
    exact mem_filter.2 ⟨hmem, by simp [hready]⟩
  · exact ⟨rfl, hoperation.symm, rfl, rfl, rfl, .inl rfl⟩

/-- What holds of all steps: a step is pending until it has its result, it retains a generation that
    was drawn, and in a runnable operation a pending step that depends on nothing has its
    command. -/
structure DispatchInv (db : DB) : Prop where
  progress : ProgressInv db
  generations : ∀ step ∈ db.steps.rows, step.fencingGeneration ≤ db.fencingSeq
  statuses : ∀ step ∈ db.steps.rows,
    step.status = .pending ∨ step.status = .succeeded ∨ step.status = .failed
  commanded : ∀ op ∈ db.operations.rows, op.status.isRunnable = true →
    ∀ step ∈ db.steps.rows, step.operationId = op.id → step.status = .pending →
      step.dependsOn = [] → ∃ row ∈ db.outbox.rows, StepCommand step row

theorem dispatchInv_empty (now : Int) : DispatchInv (empty now) := by
  refine ⟨progressInv_empty now, ?_, ?_, ?_⟩ <;> simp [DB.empty]

/-- A step retains a drawn generation: its own from before, or the one just granted. -/
theorem Effect.generations (h : Effect db db')
    (hinv : ∀ step ∈ db.steps.rows, step.fencingGeneration ≤ db.fencingSeq) :
    ∀ step ∈ db'.steps.rows, step.fencingGeneration ≤ db'.fencingSeq := by
  intro step' hstep'
  rcases h.step_origin hstep' with ⟨step, hstep, -, hbecomes⟩ | ⟨op, steps, ids, extra, hcreated, hnew⟩
  · have hold := Nat.le_trans (hinv step hstep) h.fencingSeq_le
    cases hbecomes with
    | retained _ _ _ drawn => exact Nat.le_of_eq drawn.symm
    | same | retried | finished => exact hold
  · rw [hcreated.submission.unleased step' hnew]
    exact Nat.zero_le _

theorem Effect.statuses (h : Effect db db') (hinv : DispatchInv db) : ∀ step ∈ db'.steps.rows,
      step.status = .pending ∨ step.status = .succeeded ∨ step.status = .failed := by
  intro step' hstep'
  rcases h.step_origin hstep' with ⟨step, hstep, -, hbecomes⟩ | ⟨op, steps, ids, extra, hcreated, hnew⟩
  · have hold := hinv.statuses step hstep
    cases hbecomes with
    | same | retained => exact hold
    | retried => exact .inl rfl
    | finished outcome =>
      cases outcome with
      | succeeded => exact .inr (.inl rfl)
      | failed => exact .inr (.inr rfl)
  · exact .inl (hcreated.submission.pending step' hnew)

/-- The command of a step is the command of what the step evolves into, as long as it is
    pending. -/
theorem StepCommand.evolves {step : StepRow} {row : OutboxRow} (h : StepCommand step row)
    (hid : step.id = step'.id) (hevolves : step.Evolves step') (hpending : step'.status = .pending) :
    StepCommand step' row where
  messageType := h.messageType
  operationId := h.operationId.trans hevolves.operationId.symm
  stepId := h.stepId.trans hid
  idempotencyKey := h.idempotencyKey.trans hevolves.idempotencyKey.symm
  expectedVersion := by
    rw [hevolves.version (by simp [hpending, isActive])]
    exact h.expectedVersion
  status := h.status

theorem DispatchInv.pending_before (hinv : DispatchInv db) {step : StepRow}
    (hstep : step ∈ db.steps.rows) (hevolves : step.Evolves step')
    (hpending : step'.status = .pending) : step.status = .pending := by
  have hactive : step.status.isActive = true := by
    by_contra hdone
    rw [Bool.not_eq_true] at hdone
    rw [hevolves.frozen hdone] at hpending
    simp [hpending, isActive] at hdone
  rcases hinv.statuses step hstep with hs | hs | hs
  · exact hs
  · simp [hs, isActive] at hactive
  · simp [hs, isActive] at hactive

theorem DispatchInv.step (hinv : DispatchInv db) (h : Effect db db') : DispatchInv db' := by
  refine ⟨hinv.progress.step h, h.generations hinv.generations, h.statuses hinv, ?_⟩
  intro op' hop' hrun step' hstep' hoperation hpending hready
  rcases h.step_origin hstep' with ⟨step, hstep, hid, hbecomes⟩ | ⟨op, steps, ids, extra, hc, hnew⟩
  · have hevolves := hbecomes.evolves
    have hpending₀ := hinv.pending_before hstep hevolves hpending
    have hoperation₀ : step.operationId = op'.id := hevolves.operationId.symm.trans hoperation
    have hready₀ : step.dependsOn = [] := hevolves.dependsOn.symm.trans hready
    obtain ⟨more, hmore⟩ := h.outbox_append
    rcases h.runnable_origin hop' hrun with ⟨op, hop, hopid, hoprun⟩
      | ⟨op, actorId, reason, ids, outbox, hop, hopid, houtbox, rfl⟩ | ⟨steps, ids, extra, hc⟩
    · -- The operation was runnable before: the command is already there.
      obtain ⟨row, hrow, hcommand⟩ := hinv.commanded op hop hoprun step hstep
        (hoperation₀.trans hopid.symm) hpending₀ hready₀
      exact ⟨row, by rw [hmore]; exact mem_append_left more hrow,
        hcommand.evolves hid hevolves hpending⟩
    · -- The operation is approved: its ready steps are selected under the same conditions.
      have hselected : step ∈ db.readySteps op.id :=
        mem_filter.2 ⟨hstep, by simp [hoperation₀, hopid, hpending₀, hready₀]⟩
      obtain ⟨row, hrow, hcommand⟩ := exists_readyStepEvents db.now hselected hready₀
        (hoperation₀.trans hopid.symm) actorId ids []
      exact ⟨row, by show row ∈ outbox.rows; rw [houtbox]; exact mem_append_right _ hrow,
        hcommand.evolves hid hevolves hpending⟩
    · -- A submitted operation has no steps from before.
      have hzero := hinv.progress.owner step hstep
      obtain ⟨op, hop⟩ := hzero
      simp [hoperation₀, get?_eq_none_of_insert? hc.operations] at hop
  · -- The step is submitted with its operation, which is runnable if it starts queued.
    have hopid : op.id = op'.id := (hc.submission.ofOperation step' hnew).symm.trans hoperation
    have hmem : op ∈ db'.operations.rows := (mem_insert? hc.operations).2 (.inr rfl)
    obtain rfl := db'.operations.eq_of_key_eq hmem hop' hopid
    have hqueued : op.status = .queued := by
      rcases hc.submission.status with hs | hs | hs
      · exact hs
      · simp [hs, isRunnable] at hrun
      · simp [hs, isRunnable] at hrun
    obtain ⟨row, hrow, hcommand⟩ := exists_readyStepEvents db.now hnew hready
      (hc.submission.ofOperation step' hnew) op.initiatedBy ids extra
    refine ⟨row, ?_, hcommand⟩
    rw [hc.outbox, if_pos hqueued]
    exact mem_append_right _ hrow

variable (sha : Sha256)

theorem dispatchInv_run (now : Int) (requests : List Request) :
    DispatchInv ((engine sha).run (empty now) requests) :=
  engine_run_induction (fun _ _ heffect h => h.step heffect) sha (dispatchInv_empty now) requests

/-! ## Running the dispatched steps -/

/-- What a worker does that runs commands of the outbox and succeeds with each: it waits, it takes
    the lease of a step whose command it has, and it commits the success. -/
def WorkerEntry (entry : Machine.Entry DB Request (Except StoreError Answer)) : Prop :=
  match entry.call.call with
  | .tick _ => True
  | .acquireLease operationId stepId _ expectedVersion _ _ _ =>
    ∃ row ∈ entry.pre.outbox.rows, row.event.messageType = stepRequestedSubject
      ∧ row.event.operationId = operationId ∧ row.event.stepId = stepId
      ∧ row.event.expectedVersion = some expectedVersion
      ∧ (row.status = .pending ∨ row.status = .published)
  | .commitStepSuccess .. => True
  | _ => False

/-- The operation is there, and none of its steps depends on another. -/
structure FirstLayer (db : DB) (operationId : String) : Prop where
  stored : ∃ op, db.operations.get? operationId = some op
  independent : ∀ step ∈ db.steps.rows, step.operationId = operationId → step.dependsOn = []

theorem FirstLayer.step {operationId : String} (h : FirstLayer db operationId)
    (heffect : Effect db db') : FirstLayer db' operationId := by
  obtain ⟨op₀, hop₀⟩ := h.stored
  obtain ⟨op₁, hop₁, -⟩ := heffect.operation_evolves hop₀
  refine ⟨⟨op₁, hop₁⟩, ?_⟩
  intro step' hstep' hoperation
  rcases heffect.step_origin hstep' with ⟨step, hstep, -, hbecomes⟩ | ⟨op, steps, ids, extra, hc, hnew⟩
  · rw [hbecomes.evolves.dependsOn]
    exact h.independent step hstep (hbecomes.evolves.operationId.symm.trans hoperation)
  -- A submission takes an id that is free.
  rw [← hoperation, hc.submission.ofOperation step' hnew,
    get?_eq_none_of_insert? hc.operations] at hop₀
  simp at hop₀

theorem exists_fresh (xs : List String) : ∃ name, name ∉ xs := by
  simpa using Infinite.exists_notMem_finset xs.toFinset

/-- The event a worker reports a success with, under a message id and a key of its own. -/
def completedEvent (op : OperationRow) (step : StepRow) (messageId key : String) : OutboxEvent where
  messageId := messageId
  messageType := "hnb.event.operation.step-completed.v1"
  schemaVersion := schemaVersion
  subject := "hnb.event.operation.step-completed.v1"
  occurredAt := 0
  tenantId := op.tenantId
  projectId := op.projectId
  environmentId := op.environmentId
  actorId := "worker"
  correlationId := op.correlationId
  causationId := ""
  idempotencyKey := key
  aggregateId := op.id
  aggregateVersion := none
  operationId := op.id
  stepId := step.id
  expectedVersion := some step.version
  payload := .obj []

theorem committable_grantLease {step : StepRow} {ownerId : String}
    {lease : Lease} {duration : Int} (hduration : 0 < duration)
    (h : Grantable db op.id step.id step.version lease op step) :
    Committable (db.grantLease step.id ownerId lease duration) op.id step.id step.idempotencyKey
      ownerId lease step.version op (step.retain lease) := by
  obtain ⟨hstep, hoperation⟩ := stepOf_eq_some_iff.1 h.stored
  refine ⟨h.operation, h.runnable, ?_, rfl, rfl, ?_⟩
  · rw [stepOf_eq_some_iff]
    exact ⟨db.steps.get?_update_self step.id (StepRow.retain lease) (fun _ => rfl) hstep, hoperation⟩
  rw [fenced_iff, StepRow.fencedBy_iff, leaseHeld_iff]
  refine ⟨h.active, ⟨rfl, rfl⟩, ?_⟩
  have hrow := db.leases.get?_upsert_self (LeaseRow.new db step.id ownerId lease duration)
    (LeaseRow.new db step.id ownerId lease duration).takeOver (fun _ => rfl)
  refine ⟨_, hrow, ?_⟩
  have hlive : db.now < db.now + duration := by omega
  rcases db.leases.get? (LeaseRow.new db step.id ownerId lease duration).stepId with _ | row
  · exact ⟨rfl, rfl, rfl, hlive⟩
  · exact ⟨rfl, rfl, rfl, hlive⟩

/-- A worker can bring a pending step of a runnable operation to its success. -/
theorem exists_run_finishing_step (hinv : DispatchInv db) (hop : db.operations.get? op.id = some op)
    (hrun : op.status.isRunnable = true) {step : StepRow} (hstep : step ∈ db.steps.rows)
    (hoperation : step.operationId = op.id) (hpending : step.status = .pending)
    (hready : step.dependsOn = []) :
    ∃ requests, (∀ entry ∈ (engine sha).trace db requests, WorkerEntry entry)
      ∧ ((engine sha).run db requests).operations.get? op.id
        = some (op.recordStep .succeeded emptyResult) := by
  -- Wait until no lease of the step is live.
  obtain ⟨elapsed, hexpired⟩ : ∃ elapsed : Nat, ∀ row, db.leases.get? step.id = some row →
      row.expiresAt ≤ db.now + elapsed := by
    rcases db.leases.get? step.id with _ | row
    · exact ⟨0, by simp⟩
    · refine ⟨(row.expiresAt - db.now).toNat, ?_⟩
      rintro row' ⟨⟩
      omega
  let db₁ : DB := { db with now := db.now + elapsed }
  let lease : Lease := { id := "lease", generation := db.fencingSeq + 1 + 0 }
  have hgenerations := hinv.generations step hstep
  have hgrant : Grantable db₁ op.id step.id step.version lease op step := by
    refine ⟨hop, hrun, ?_, by simp [hpending, isActive], rfl, ?_, ?_, hexpired⟩
    · exact stepOf_eq_some_iff.2 ⟨get?_of_mem hstep, hoperation⟩
    · show db.fencingSeq < db.fencingSeq + 1 + 0
      omega
    · show step.fencingGeneration < db.fencingSeq + 1 + 0
      omega
  let db₂ := db₁.grantLease step.id "worker" lease 1
  have hcommit : Committable db₂ op.id step.id step.idempotencyKey "worker" lease step.version op
      (step.retain lease) := committable_grantLease (by omega) hgrant
  -- The completion event is new to the outbox.
  obtain ⟨messageId, hmessageId⟩ := exists_fresh (db.outbox.rows.map fun row => row.event.messageId)
  obtain ⟨key, hkey⟩ := exists_fresh (db.outbox.rows.map fun row => row.event.idempotencyKey)
  let event := completedEvent op step messageId key
  obtain ⟨outbox, houtbox⟩ : ∃ outbox, insertOutboxEvents db₂.outbox db₂.now
      (stampedEvents op .succeeded emptyResult [event]) = some outbox := by
    obtain ⟨outbox, hinsert⟩ := insertOutboxEvent_of_fresh db.outbox db₂.now
      { event with aggregateVersion := some (op.recordStep .succeeded emptyResult).version }
      (fun row hrow hid => hmessageId (mem_map.2 ⟨row, hrow, hid⟩))
      (fun row hrow hid => hkey (mem_map.2 ⟨row, hrow, hid⟩))
    refine ⟨outbox, ?_⟩
    show insertOutboxEvents db.outbox db₂.now [_] = some outbox
    simp only [insertOutboxEvents, hinsert]
  obtain ⟨row, hrow, hcommand⟩ := hinv.commanded op (mem_of_get? hop) hrun step hstep
    hoperation hpending hready
  have hnext₁ : (engine sha).next db ⟨.tick elapsed, .answered⟩ = db₁ := rfl
  have hnext₂ : (engine sha).next db₁
      ⟨.acquireLease op.id step.id "worker" step.version 1 "lease" 0, .answered⟩ = db₂ := by
    show (Operation.acquireLease db₁ op.id step.id "worker" step.version 1 "lease" 0).1 = db₂
    rw [acquireLease_of_grantable "worker" 1 hgrant]
  have hnext₃ : (engine sha).next db₂
      ⟨.commitStepSuccess op.id step.id step.idempotencyKey "worker" lease step.version emptyResult
        event, .answered⟩
      = db₂.commitStep op step.id "worker" lease .succeeded emptyResult outbox := by
    show (commitStepResult db₂ op.id step.id step.idempotencyKey "worker" lease step.version
      .succeeded emptyResult [event]).1 = _
    rw [commitStepResult_ok hcommit houtbox]
  refine ⟨[⟨.tick elapsed, .answered⟩,
    ⟨.acquireLease op.id step.id "worker" step.version 1 "lease" 0, .answered⟩,
    ⟨.commitStepSuccess op.id step.id step.idempotencyKey "worker" lease step.version emptyResult
      event, .answered⟩], ?_, ?_⟩
  · simp only [trace_cons, trace_nil, hnext₁, hnext₂, mem_cons, not_mem_nil, or_false]
    rintro entry (rfl | rfl | rfl)
    · trivial
    · exact ⟨row, hrow, hcommand.messageType, hcommand.operationId.trans hoperation,
        hcommand.stepId, hcommand.expectedVersion, hcommand.status⟩
    · trivial
  · simp only [run_cons, run_nil, hnext₁, hnext₂, hnext₃]
    exact db.operations.get?_update_self op.id (recordStep .succeeded emptyResult)
      (fun _ => rfl) hop

theorem DispatchInv.exists_pending (hinv : DispatchInv db)
    (hop : op ∈ db.operations.rows) (hrun : op.status.isRunnable = true)
    (hsteps : 1 ≤ op.totalSteps) :
    ∃ step ∈ db.stepsOf op.id, step.status = .pending := by
  have htally := hinv.progress.tally op hop
  have hopen : ¬ ∀ step ∈ db.stepsOf op.id, step.status = .succeeded := by
    rw [← htally.succeeded_iff hsteps]
    intro hs
    simp [hs, isRunnable] at hrun
  push Not at hopen
  obtain ⟨step, hstep, hne⟩ := hopen
  refine ⟨step, hstep, ?_⟩
  rcases hinv.statuses step (mem_filter.1 hstep).1 with hs | hs | hs
  · exact hs
  · exact absurd hs hne
  · have hfailed := htally.failed_iff.2 ⟨step, hstep, hs⟩
    simp [hfailed, isRunnable] at hrun

/-- Workers can bring an operation of the first layer to its success. -/
theorem exists_run_succeeding (left : Nat) :
    ∀ (db : DB) (op : OperationRow), DispatchInv db → FirstLayer db op.id →
      db.operations.get? op.id = some op → op.status.isRunnable = true → 1 ≤ op.totalSteps →
      op.totalSteps ≤ op.completedSteps + left →
      ∃ requests, (∀ entry ∈ (engine sha).trace db requests, WorkerEntry entry)
        ∧ ∃ op', ((engine sha).run db requests).operations.get? op.id = some op'
          ∧ op'.status = .succeeded := by
  -- The induction is on the number of steps that have not succeeded.
  induction left with
  | zero =>
    intro db op hinv _ hop hrun hsteps hleft
    have hphase := (hinv.progress.tally op (mem_of_get? hop)).phase
    unfold OperationRow.Phase at hphase
    cases hs : op.status <;>
      simp only [hs, isRunnable, Bool.false_eq_true] at hrun hphase
    · omega
    · omega
  | succ left ih =>
    intro db op hinv hlayer hop hrun hsteps hleft
    obtain ⟨step, hstep, hpending⟩ := hinv.exists_pending (mem_of_get? hop) hrun hsteps
    obtain ⟨hmem, hoperation⟩ := mem_filter.1 hstep
    have hoperation : step.operationId = op.id := by simpa using hoperation
    obtain ⟨requests, hworker, hfinished⟩ := exists_run_finishing_step sha hinv hop hrun hmem
      hoperation hpending (hlayer.independent step hmem hoperation)
    by_cases hlast : op.totalSteps ≤ op.completedSteps + 1
    · refine ⟨requests, hworker, _, hfinished, ?_⟩
      simp [recordStep, hlast]
    -- One step fewer is left, and the operation is still running.
    have hrun' : (op.recordStep .succeeded emptyResult).status.isRunnable = true := by
      by_cases hqueued : op.status = .queued
      · simp [recordStep, hlast, hqueued, isRunnable]
      · simp [recordStep, hlast, hqueued, hrun]
    have hinv' : DispatchInv ((engine sha).run db requests) :=
      engine_run_induction (fun _ _ heffect h => h.step heffect) sha hinv requests
    have hlayer' : FirstLayer ((engine sha).run db requests) op.id :=
      engine_run_induction (P := fun db => FirstLayer db op.id)
        (fun _ _ heffect h => h.step heffect) sha hlayer requests
    obtain ⟨more, hmore, op', hop', hsucceeded⟩ := ih _
      (op.recordStep .succeeded emptyResult) hinv' hlayer' hfinished hrun' hsteps
      (by simp [recordStep]; omega)
    refine ⟨requests ++ more, ?_, op', ?_, hsucceeded⟩
    · intro entry hentry
      rw [trace_append, mem_append] at hentry
      exact hentry.elim (hworker entry) (hmore entry)
    · rw [run_append]
      exact hop'

/-- **Dispatch, first layer.** In every reachable state, for every operation none of whose steps
    declares a dependency: each of its ready steps has its command, and while it is runnable workers
    that only run dispatched steps can bring it to `succeeded`. -/
theorem independent_steps_dispatched (sha : Sha256) (now : Int) (requests : List Request)
    (op : OperationRow)
    (hop : op ∈ ((engine sha).run (empty now) requests).operations.rows)
    (hindependent : ∀ step ∈ ((engine sha).run (empty now) requests).stepsOf op.id,
      step.dependsOn = []) :
    ReadyStepsDispatched ((engine sha).run (empty now) requests) op
    ∧ (op.status.isRunnable = true → 1 ≤ op.totalSteps → ∃ more,
        (∀ entry ∈ (engine sha).trace ((engine sha).run (empty now) requests) more,
          WorkerEntry entry)
        ∧ ∃ op', ((engine sha).run (empty now) (requests ++ more)).operations.get? op.id
            = some op' ∧ op'.status = .succeeded) := by
  have hinv := dispatchInv_run sha now requests
  simp only [run_append]
  generalize (engine sha).run (empty now) requests = db at hop hindependent hinv
  refine ⟨?_, ?_⟩
  · intro hrun step hstep hpending _
    obtain ⟨hmem, hoperation⟩ := mem_filter.1 hstep
    exact hinv.commanded op hop hrun step hmem (by simpa using hoperation) hpending
      (hindependent step hstep)
  intro hrun hsteps
  have hlayer : FirstLayer db op.id := by
    refine ⟨⟨op, get?_of_mem hop⟩, ?_⟩
    intro step hstep hoperation
    exact hindependent step (mem_filter.2 ⟨hstep, by simp [hoperation]⟩)
  exact exists_run_succeeding sha op.totalSteps db op hinv hlayer (get?_of_mem hop) hrun
    hsteps (Nat.le_add_left _ _)

/-- The deployment of two independent steps is such an operation, also when one of them has
    succeeded. -/
theorem independent_steps_dispatched_of_deploy :
    let sha : Sha256 := ⟨fun _ => "digest", fun _ => "digest"⟩
    let requests := deploying ["install", "verify"]
    let db := (engine sha).run (empty 0) requests
    ∃ op ∈ db.operations.rows, (∀ step ∈ db.stepsOf op.id, step.dependsOn = [])
      ∧ op.status = .inProgress ∧ ReadyStepsDispatched db op
      ∧ ∃ more op', ((engine sha).run (empty 0) (requests ++ more)).operations.get? op.id
          = some op' ∧ op'.status = .succeeded := by
  intro sha requests db
  have h := independent_steps_dispatched sha 0 requests _ mem_cons_self (by decide)
  obtain ⟨more, -, op', hop', hsucceeded⟩ := h.2 (by decide) (by decide)
  exact ⟨_, mem_cons_self, by decide, by decide, h.1, more, op', hop', hsucceeded⟩

/-! ## The second layer is not -/

/-- `stepsForInstall`: the plan of an installation has three layers of one step. -/
def stepsForInstall : List PlanStep :=
  [("install.validate", "validate", []), ("install.deploy", "helm", ["install.validate"]),
    ("install.verify", "verify", ["install.deploy"])].map fun x =>
      { stepId := x.1, stepType := x.2.1, providerId := "", providerVersion := "",
        providerDigest := "", dependsOn := x.2.2, inputs := .obj [], maxAttempts := none,
        timeoutSeconds := 0 }

/-- An installation is submitted, and a worker runs its first step to success. -/
def installRequests : List Request :=
  [{ call := .submitIntent
      { kind := .installRelease, idempotencyKey := "k1", intentDigest := "d1", targetKind := "",
        storage :=
          { bindingId := "", bindingVersion := 0, offeringId := "", offeringVersion := 0,
            targetId := "", storageClassName := "", storageClassUid := "",
            storageClassResourceVersion := "" },
        planSemanticDigest := "d2", releaseRef := "r1", steps := stepsForInstall,
        tenantId := "t1", subjectId := "alice", correlationId := "c1", initiatedBy := "alice",
        runtimeTargetId := "", expectedTargetVersion := 0, stalePolicy := none,
        commitmentAction := "create", provisionTarget := none }
      { plan := "p1", operation := "op1", intent := "i1", correlation := "",
        step := fun n => ["s1", "s2", "s3"].getD n "", message := fun _ => "m1" }
     fate := .answered },
    { call := .acquireLease "op1" "s1" "worker" 0 30 "l1" 0, fate := .answered },
    { call := .commitStepSuccess "op1" "s1" "t1:InstallRelease:create:k1:install.validate" "worker"
        { id := "l1", generation := 1 } 0 emptyResult
        { messageId := "m2", messageType := "hnb.event.operation.step-completed.v1",
          schemaVersion := schemaVersion, subject := "hnb.event.operation.step-completed.v1",
          occurredAt := 0, tenantId := "t1", projectId := "", environmentId := "",
          actorId := "worker", correlationId := "c1", causationId := "",
          idempotencyKey := "step-completed:s1", aggregateId := "op1", aggregateVersion := none,
          operationId := "op1", stepId := "s1", expectedVersion := some 0, payload := .obj [] }
      fate := .answered }]

/-- After the first step of an installation has succeeded, the second is pending with all its
    dependencies satisfied in an operation that is in progress, and no command for it exists. -/
theorem dependent_step_not_dispatched :
    let db := (engine ⟨fun _ => "digest", fun _ => "digest"⟩).run (empty 0) installRequests
    ∃ op ∈ db.operations.rows, op.status = .inProgress ∧ ¬ ReadyStepsDispatched db op := by
  intro db
  have hnone : ∀ row ∈ db.outbox.rows, row.event.stepId ≠ "s2" := by decide
  refine ⟨_, mem_cons_self, by decide, ?_⟩
  intro hdispatched
  obtain ⟨row, hrow, hcommand⟩ := hdispatched (by decide) _
    (mem_cons_of_mem _ mem_cons_self) (by decide) (by decide)
  exact hnone row hrow hcommand.stepId

end HnbCloud.Operation
