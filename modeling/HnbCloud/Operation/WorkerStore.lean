import HnbCloud.Operation.Schema

set_option autoImplicit false

/-! # The store of operation-worker

The transactions a worker runs on a step (`operation-worker/internal/store/operations.go`): taking
a lease, renewing it, putting a step back for a retry, and committing its result. A transaction is
a function of the database that returns the database after it and the answer to the caller. One
that returns an error is rolled back, so it returns the database it started from, with one
exception: the fencing generation it has drawn is gone.

A lease is a token `(lease id, fencing generation)` that a worker presents with every later write.
The write is fenced: the token must be the one the step retains and the one in an unexpired row of
`worker_leases` that the worker owns. -/

namespace HnbCloud.Operation

open Messaging

/-- `Lease`: the token of a granted lease. -/
structure Lease where
  id : String
  generation : Nat
deriving DecidableEq, Repr

/-- The two results a worker commits (`result.Status`). -/
inductive StepOutcome where
  | succeeded
  | failed
deriving DecidableEq, Repr

/-- The status a committed step gets. -/
def StepOutcome.status : StepOutcome → StepStatus
  | succeeded => .succeeded
  | failed => .failed

/-- `StepResult`: what the execution of a step leaves behind. -/
structure StepResult where
  outputs : Json
  (checkpoint errorMessage : String)
  (startedAt completedAt : Int)

namespace DB

variable (db : DB)

/-! ## Reading -/

/-- The step with this id in this operation: `WHERE id = $1 AND operation_id = $2`. -/
def stepOf (operationId stepId : String) : Option StepRow :=
  (db.steps.get? stepId).filter (fun step => step.operationId == operationId)

def getOperation (id : String) : Except StoreError OperationRow :=
  match db.operations.get? id with
  | some op => .ok op
  | none => .error (.database "sql: no rows in result set")

def getStepState (operationId stepId : String) : Except StoreError StepRow :=
  match db.stepOf operationId stepId with
  | some step => .ok step
  | none => .error (.database "sql: no rows in result set")

/-- `DependenciesSatisfied`: every dependency names a succeeded step of the operation, by the id of
    the plan or by the id of the row. -/
def dependenciesSatisfied (operationId : String) (dependsOn : List String) : Bool :=
  dependsOn.all fun dependency =>
    db.steps.rows.any fun step =>
      step.operationId == operationId && (step.planStepId == dependency || step.id == dependency)
        && decide (step.status = .succeeded)

/-- The row of `worker_leases` under which the owner may still write with this token. -/
def leaseHeld (stepId ownerId : String) (lease : Lease) : Bool :=
  match db.leases.get? stepId with
  | none => false
  | some row =>
    row.ownerId == ownerId && row.leaseId == lease.id
      && row.fencingGeneration == lease.generation && decide (db.now < row.expiresAt)

end DB

/-- The step retains this token. -/
def StepRow.fencedBy (step : StepRow) (lease : Lease) : Bool :=
  step.lastLeaseId == some lease.id && step.fencingGeneration == lease.generation

open StepRow

section Transactions

variable (db : DB) (op : OperationRow) (operationId stepId idempotencyKey ownerId : String)
  (lease : Lease) (expectedVersion duration : Int) (outcome : StepOutcome) (result : StepResult)

/-! ## AcquireLease -/

/-- The row an acquired lease inserts. -/
def LeaseRow.new : LeaseRow where
  stepId := stepId
  ownerId := ownerId
  leaseId := lease.id
  fencingGeneration := lease.generation
  acquiredAt := db.now
  expiresAt := db.now + duration
  version := 1

/-- The `DO UPDATE` that takes over an expired row. -/
def LeaseRow.takeOver (new row : LeaseRow) : LeaseRow :=
  { row with
    ownerId := new.ownerId
    leaseId := new.leaseId
    fencingGeneration := new.fencingGeneration
    acquiredAt := new.acquiredAt
    expiresAt := new.expiresAt
    version := row.version + 1 }

/-- The step keeps the token of its last lease after the lease row is gone. -/
def StepRow.retain (step : StepRow) : StepRow :=
  { step with lastLeaseId := some lease.id, fencingGeneration := lease.generation }

/-- The writes of an acquisition that goes through. -/
def DB.grantLease : DB :=
  let row := LeaseRow.new db stepId ownerId lease duration
  { db with
    fencingSeq := lease.generation
    leases := db.leases.upsert row row.takeOver (fun _ => rfl)
    steps := db.steps.update stepId (retain lease) (fun _ => rfl) }

/-- `AcquireLease`. The database draws the lease id (`gen_random_uuid()`) and the generation; other
    sessions may have drawn `skipped` generations since the last one this model saw. -/
def acquireLease (leaseId : String) (skipped : Nat) : DB × Except StoreError Lease :=
  match db.operations.get? operationId with
  | none => (db, .error (.database "lock operation: sql: no rows in result set"))
  | some op =>
  if op.status.isRunnable = false then (db, .error .operationNotRunnable) else
  match db.stepOf operationId stepId with
  | none => (db, .error (.database "lock step for lease acquisition: sql: no rows in result set"))
  | some step =>
  if step.status.isActive = false then (db, .error .stepAlreadyCompleted) else
  if (step.version : Int) ≠ expectedVersion then (db, .error .stepVersionMismatch) else
  let lease : Lease := { id := leaseId, generation := db.fencingSeq + 1 + skipped }
  let drawn := { db with fencingSeq := lease.generation }
  if lease.generation ≤ step.fencingGeneration then
    (drawn, .error (.generationNotAbove lease.generation step.fencingGeneration)) else
  -- `ON CONFLICT … WHERE worker_leases.expires_at <= now()`: a live row gives no row back.
  if (db.leases.get? stepId).any (fun row => decide (db.now < row.expiresAt)) then
    (drawn, .error .leaseNotAcquired) else
  (db.grantLease stepId ownerId lease duration, .ok lease)

/-! ## RenewLease -/

/-- The new expiry of a renewed lease. -/
def LeaseRow.renew (expiresAt : Int) (row : LeaseRow) : LeaseRow :=
  { row with expiresAt := expiresAt, version := row.version + 1 }

/-- The writes of a renewal that goes through. -/
def DB.extendLease : DB :=
  { db with
    leases := db.leases.update stepId (LeaseRow.renew (db.now + duration)) (fun _ => rfl) }

def renewLease : DB × Except StoreError Unit :=
  if db.leaseHeld stepId ownerId lease
      && (db.steps.get? stepId).any (fun step => step.fencedBy lease) then
    (db.extendLease stepId duration, .ok ())
  else (db, .error .leaseLost)

/-! ## SaveStepRetry -/

/-- The step goes back to `pending`, with one more retry on its count. -/
def StepRow.retry (step : StepRow) : StepRow :=
  { step with
    status := .pending
    stepOutput := result.outputs
    checkpoint := result.checkpoint
    errorMessage := result.errorMessage
    retryCount := step.retryCount + 1
    startedAt := step.startedAt.orElse (fun _ => some result.startedAt) }

/-- `DELETE FROM worker_leases` of exactly the lease that was presented. -/
def DB.releaseLease : Table LeaseRow String LeaseRow.stepId :=
  db.leases.deleteWhere fun row =>
    row.stepId == stepId && row.ownerId == ownerId && row.leaseId == lease.id
      && row.fencingGeneration == lease.generation

def retryAudit : AuditRow where
  operationId := operationId
  eventType := .stepFailed
  actorId := ownerId
  previousState := none
  newState := none
  detail := .obj [("step_id", .str stepId), ("retryable", .bool true),
    ("error", .str result.errorMessage), ("lease_id", .str lease.id),
    ("fencing_generation", .num lease.generation)]
  occurredAt := db.now

/-- The writes of a retry that goes through. -/
def DB.retryStep : DB :=
  { db with
    steps := db.steps.update stepId (retry result) (fun _ => rfl)
    audit := db.audit ++ [retryAudit db operationId stepId ownerId lease result]
    leases := db.releaseLease stepId ownerId lease }

/-- The condition of the fenced updates of a step: it is still active, and the token presented is
    the retained one and the one of an unexpired lease of the owner. -/
def DB.fenced (step : StepRow) (ownerId : String) (lease : Lease) : Bool :=
  step.status.isActive && step.fencedBy lease && db.leaseHeld step.id ownerId lease

/-- `SaveStepRetry`. It tests the version in the update itself, and not the operation's status. -/
def saveStepRetry : DB × Except StoreError Unit :=
  match db.stepOf operationId stepId with
  | none => (db, .error .leaseLost)
  | some step =>
  if (step.version : Int) = expectedVersion ∧ db.fenced step ownerId lease = true then
    (db.retryStep operationId stepId ownerId lease result, .ok ())
  else (db, .error .leaseLost)

/-! ## CommitStepSuccess and CommitStepFailure -/

def StepRow.finish (step : StepRow) : StepRow :=
  { step with
    status := outcome.status
    stepOutput := result.outputs
    checkpoint := result.checkpoint
    errorMessage := result.errorMessage
    startedAt := step.startedAt.orElse (fun _ => some result.startedAt)
    completedAt := some result.completedAt
    version := step.version + 1 }

/-- The operation counts the step and moves on: a failed step fails it, the last success ends it,
    the first result of a queued operation starts it. -/
def OperationRow.recordStep (op : OperationRow) : OperationRow :=
  { op with
    completedSteps := op.completedSteps + (if outcome = .succeeded then 1 else 0)
    failedSteps := op.failedSteps + (if outcome = .failed then 1 else 0)
    status :=
      if outcome = .failed then .failed
      else if op.totalSteps ≤ op.completedSteps + 1 then .succeeded
      else if op.status = .queued then .inProgress
      else op.status
    startedAt := op.startedAt.orElse (fun _ => some result.startedAt)
    completedAt :=
      if outcome = .failed ∨ op.totalSteps ≤ op.completedSteps + 1 then some result.completedAt
      else op.completedAt
    version := op.version + 1 }

def commitAudit (op op' : OperationRow) (stepId ownerId : String) (lease : Lease)
    (outcome : StepOutcome) (result : StepResult) : AuditRow where
  operationId := op.id
  eventType := if outcome = .failed then .stepFailed else .stepCompleted
  actorId := ownerId
  previousState := some op.status
  newState := some op'.status
  detail := .obj [("step_id", .str stepId), ("status", .str outcome.status.text),
    ("lease_id", .str lease.id), ("fencing_generation", .num lease.generation),
    ("error", .str result.errorMessage)]
  occurredAt := db.now

/-- The writes of a commit that goes through, given the outbox with its events. -/
def DB.commitStep (outbox : Outbox) : DB :=
  let op' := op.recordStep outcome result
  { db with
    steps := db.steps.update stepId (finish outcome result) (fun _ => rfl)
    operations := db.operations.update op.id (OperationRow.recordStep outcome result) (fun _ => rfl)
    audit := db.audit ++ [commitAudit db op op' stepId ownerId lease outcome result]
    -- The worker's statement does not write `target_cluster_ids`.
    readModel := upsertReadModel db.readModel db.now { op' with targetClusterIds := [] } ""
    outbox := outbox
    leases := db.releaseLease stepId ownerId lease }

/-- The events of a commit, stamped with the version of the operation after it. -/
def stampedEvents (events : List OutboxEvent) : List OutboxEvent :=
  events.map fun event =>
    { event with aggregateVersion := some (op.recordStep outcome result).version }

def commitStepResult (events : List OutboxEvent) : DB × Except StoreError Unit :=
  match db.operations.get? operationId with
  | none => (db, .error (.database "lock operation: sql: no rows in result set"))
  | some op =>
  if op.status.isTerminal = true ∨ op.status.isRunnable = false then
    (db, .error .operationNotRunnable) else
  match db.stepOf operationId stepId with
  | none => (db, .error (.database "lock step: sql: no rows in result set"))
  | some step =>
  if step.status = .succeeded ∨ step.status = .failed then
    (db, .error .stepAlreadyCompleted) else
  if step.idempotencyKey ≠ idempotencyKey ∨ (step.version : Int) ≠ expectedVersion then
    (db, .error .stepVersionMismatch) else
  if db.fenced step ownerId lease = false then (db, .error .leaseLost) else
  match insertOutboxEvents db.outbox db.now (stampedEvents op outcome result events) with
  | none => (db, .error (.database "insert outbox event"))
  | some outbox => (db.commitStep op stepId ownerId lease outcome result outbox, .ok ())

def commitStepSuccess (event : OutboxEvent) : DB × Except StoreError Unit :=
  commitStepResult db operationId stepId idempotencyKey ownerId lease expectedVersion .succeeded
    result [event]

def commitStepFailure (event failedEvent : OutboxEvent) : DB × Except StoreError Unit :=
  commitStepResult db operationId stepId idempotencyKey ownerId lease expectedVersion .failed
    result [event, failedEvent]

end Transactions

/-! ## What the transactions do

One lemma for each transaction says when it goes through and what it then writes, and one that an
error writes nothing. Later proofs use these and do not unfold the transactions. -/

section Specs

variable {db db' : DB} {operationId stepId ownerId : String} {lease : Lease} {step : StepRow}

theorem DB.stepOf_eq_some_iff : db.stepOf operationId stepId = some step
      ↔ db.steps.get? stepId = some step ∧ step.operationId = operationId := by
  simp [DB.stepOf, Option.filter_eq_some_iff]

theorem DB.leaseHeld_iff (db : DB) (stepId ownerId : String) (lease : Lease) :
    db.leaseHeld stepId ownerId lease = true
      ↔ ∃ row, db.leases.get? stepId = some row ∧ row.ownerId = ownerId ∧ row.leaseId = lease.id
        ∧ row.fencingGeneration = lease.generation ∧ db.now < row.expiresAt := by
  unfold DB.leaseHeld
  rcases db.leases.get? stepId with _ | row
  · simp
  · simp [and_assoc]

theorem StepRow.fencedBy_iff (step : StepRow) (lease : Lease) : step.fencedBy lease = true
      ↔ step.lastLeaseId = some lease.id ∧ step.fencingGeneration = lease.generation := by
  simp [fencedBy]

theorem DB.fenced_iff (db : DB) (step : StepRow) (ownerId : String) (lease : Lease) :
    db.fenced step ownerId lease = true ↔ step.status.isActive = true ∧ step.fencedBy lease = true
        ∧ db.leaseHeld step.id ownerId lease = true := by
  simp [DB.fenced, and_assoc]

/-- What has to hold for a lease to be granted. -/
structure Grantable (db : DB) (operationId stepId : String) (expectedVersion : Int) (lease : Lease)
    (op : OperationRow) (step : StepRow) : Prop where
  operation : db.operations.get? operationId = some op
  runnable : op.status.isRunnable = true
  stored : db.stepOf operationId stepId = some step
  active : step.status.isActive = true
  version : (step.version : Int) = expectedVersion
  drawn : db.fencingSeq < lease.generation
  above : step.fencingGeneration < lease.generation
  /-- No row of the step is live. -/
  free : ∀ row, db.leases.get? stepId = some row → row.expiresAt ≤ db.now

variable {expectedVersion : Int} {leaseId : String} {skipped : Nat}

theorem acquireLease_ok {duration : Int}
    (h : acquireLease db operationId stepId ownerId expectedVersion duration leaseId skipped
      = (db', .ok lease)) :
    ∃ op step, Grantable db operationId stepId expectedVersion lease op step
      ∧ db' = db.grantLease stepId ownerId lease duration := by
  unfold acquireLease at h
  split at h
  · simp at h
  next op hop =>
  split at h
  · simp at h
  next hrun =>
  split at h
  · simp at h
  next step hstep =>
  split at h
  · simp at h
  next hactive =>
  split at h
  · simp at h
  next hversion =>
  simp only at h
  split at h
  · simp at h
  next habove =>
  split at h
  · simp at h
  next hfree =>
  obtain ⟨rfl, rfl⟩ := h
  refine ⟨op, step, ⟨hop, by simpa using hrun, hstep, by simpa using hactive, by simpa using hversion,
    by simp only; omega, by simpa using habove, ?_⟩, rfl⟩
  intro row hrow
  simpa [hrow] using hfree

theorem acquireLease_of_grantable {op : OperationRow} {step : StepRow}
    (ownerId : String) (duration : Int) {leaseId : String} {skipped : Nat}
    (h : Grantable db operationId stepId expectedVersion
      { id := leaseId, generation := db.fencingSeq + 1 + skipped } op step) :
    acquireLease db operationId stepId ownerId expectedVersion duration leaseId skipped
      = (db.grantLease stepId ownerId { id := leaseId, generation := db.fencingSeq + 1 + skipped }
          duration,
        .ok { id := leaseId, generation := db.fencingSeq + 1 + skipped }) := by
  have hfree : (db.leases.get? stepId).any (fun row => decide (db.now < row.expiresAt)) = false := by
    rcases hrow : db.leases.get? stepId with _ | row
    · rfl
    · simpa [hrow] using h.free row hrow
  have habove : ¬ db.fencingSeq + 1 + skipped ≤ step.fencingGeneration := by
    have := h.above
    simp only at this
    omega
  simp [acquireLease, h.operation, h.runnable, h.stored, h.active, h.version, hfree, habove]

theorem acquireLease_error {duration : Int} {err : StoreError}
    (h : acquireLease db operationId stepId ownerId expectedVersion duration leaseId skipped
      = (db', .error err)) :
    ∃ seq, db.fencingSeq ≤ seq ∧ db' = { db with fencingSeq := seq } := by
  have hself : ∀ r : Except StoreError Lease, (db, r) = (db', .error err) →
      ∃ seq, db.fencingSeq ≤ seq ∧ db' = { db with fencingSeq := seq } := by
    intro r hr
    exact ⟨db.fencingSeq, Nat.le_refl _, (Prod.mk.inj hr).1.symm⟩
  have hdrawn : ∀ r : Except StoreError Lease,
      (({ db with fencingSeq := db.fencingSeq + 1 + skipped } : DB), r) = (db', .error err) →
      ∃ seq, db.fencingSeq ≤ seq ∧ db' = { db with fencingSeq := seq } := by
    intro r hr
    exact ⟨_, by omega, (Prod.mk.inj hr).1.symm⟩
  unfold acquireLease at h
  split at h
  · exact hself _ h
  split at h
  · exact hself _ h
  split at h
  · exact hself _ h
  split at h
  · exact hself _ h
  split at h
  · exact hself _ h
  simp only at h
  split at h
  · exact hdrawn _ h
  split at h
  · exact hdrawn _ h
  simp at h

/-- A renewal goes through exactly for the token the step retains in an unexpired row of the
    owner. -/
theorem renewLease_cases (db : DB) (stepId ownerId : String) (lease : Lease) (duration : Int) :
    (∃ step, db.steps.get? stepId = some step ∧ step.fencedBy lease = true
        ∧ db.leaseHeld stepId ownerId lease = true
        ∧ renewLease db stepId ownerId lease duration = (db.extendLease stepId duration, .ok ()))
    ∨ ((∀ step, db.steps.get? stepId = some step → step.fencedBy lease = true →
          db.leaseHeld stepId ownerId lease = false)
        ∧ renewLease db stepId ownerId lease duration = (db, .error .leaseLost)) := by
  unfold renewLease
  split
  · next h =>
    simp only [Bool.and_eq_true, Option.any_eq_true] at h
    obtain ⟨hheld, step, hstep, hfenced⟩ := h
    exact .inl ⟨step, hstep, hfenced, hheld, rfl⟩
  · next h =>
    refine .inr ⟨?_, rfl⟩
    intro step hstep hfenced
    simpa [hstep, hfenced] using h

/-- A retry goes through exactly for a fenced write on the expected version. -/
theorem saveStepRetry_cases (db : DB) (operationId stepId ownerId : String) (lease : Lease)
    (expectedVersion : Int) (result : StepResult) :
    (∃ step, db.stepOf operationId stepId = some step ∧ (step.version : Int) = expectedVersion
        ∧ db.fenced step ownerId lease = true
        ∧ saveStepRetry db operationId stepId ownerId lease expectedVersion result
          = (db.retryStep operationId stepId ownerId lease result, .ok ()))
    ∨ ((∀ step, db.stepOf operationId stepId = some step → (step.version : Int) = expectedVersion →
          db.fenced step ownerId lease = false)
        ∧ saveStepRetry db operationId stepId ownerId lease expectedVersion result
          = (db, .error .leaseLost)) := by
  unfold saveStepRetry
  split
  · next hnone =>
    refine .inr ⟨?_, rfl⟩
    intro step hstep
    rw [hnone] at hstep
    simp at hstep
  next step hstep =>
  split
  · next h => exact .inl ⟨step, hstep, h.1, h.2, rfl⟩
  next h =>
  refine .inr ⟨?_, rfl⟩
  intro step' hstep' hversion
  obtain rfl : step = step' := by simpa [hstep] using hstep'
  simpa [hversion] using h

/-- What has to hold for a result to be committed. -/
structure Committable (db : DB) (operationId stepId idempotencyKey ownerId : String) (lease : Lease)
    (expectedVersion : Int) (op : OperationRow) (step : StepRow) : Prop where
  operation : db.operations.get? operationId = some op
  runnable : op.status.isRunnable = true
  stored : db.stepOf operationId stepId = some step
  key : step.idempotencyKey = idempotencyKey
  version : (step.version : Int) = expectedVersion
  fenced : db.fenced step ownerId lease = true

section CommitCases

variable (db : DB) (operationId stepId idempotencyKey ownerId : String) (lease : Lease)
  (expectedVersion : Int) (outcome : StepOutcome) (result : StepResult) (events : List OutboxEvent)

theorem commitStepResult_cases :
    (∃ op step outbox,
        Committable db operationId stepId idempotencyKey ownerId lease expectedVersion op step
        ∧ insertOutboxEvents db.outbox db.now (stampedEvents op outcome result events) = some outbox
        ∧ commitStepResult db operationId stepId idempotencyKey ownerId lease expectedVersion
            outcome result events
          = (db.commitStep op stepId ownerId lease outcome result outbox, .ok ()))
    ∨ (∃ err, commitStepResult db operationId stepId idempotencyKey ownerId lease expectedVersion
          outcome result events = (db, .error err)) := by
  unfold commitStepResult
  split
  · exact .inr ⟨_, rfl⟩
  next op hop =>
  split
  · exact .inr ⟨_, rfl⟩
  next hrun =>
  split
  · exact .inr ⟨_, rfl⟩
  next step hstep =>
  split
  · exact .inr ⟨_, rfl⟩
  split
  · exact .inr ⟨_, rfl⟩
  next hmatch =>
  split
  · exact .inr ⟨_, rfl⟩
  next hfenced =>
  split
  · exact .inr ⟨_, rfl⟩
  next outbox houtbox =>
  simp only [not_or, not_not] at hmatch
  have hrunnable : op.status.isRunnable = true := by simpa using fun h => hrun (Or.inr h)
  exact .inl ⟨op, step, outbox, ⟨hop, hrunnable, hstep, hmatch.1, hmatch.2, by simpa using hfenced⟩,
    houtbox, rfl⟩

/-- What three of the answers of a commit say about the step: it has its result, it had one before,
    or the key or the version is not the one presented. -/
theorem commitStepResult_answer :
    let r := commitStepResult db operationId stepId idempotencyKey ownerId lease expectedVersion
      outcome result events
    (r.2 = .ok () → ∃ step, r.1.stepOf operationId stepId = some step
      ∧ step.status.isActive = false)
    ∧ (r.2 = .error .stepAlreadyCompleted → ∃ step, r.1.stepOf operationId stepId = some step
      ∧ step.status.isActive = false)
    ∧ (r.2 = .error .stepVersionMismatch → ∃ step, r.1.stepOf operationId stepId = some step
      ∧ (step.idempotencyKey ≠ idempotencyKey ∨ (step.version : Int) ≠ expectedVersion)) := by
  unfold commitStepResult
  split
  · simp
  next op hop =>
  split
  · simp
  split
  · simp
  next step hstep =>
  split
  · next hdone =>
    have hleft : step.status.isActive = false := by
      rcases hdone with h | h <;> rw [h] <;> rfl
    simpa using ⟨step, hstep, hleft⟩
  split
  · next hmatch => simpa using ⟨step, hstep, hmatch⟩
  split
  · simp
  split
  · simp
  next outbox houtbox =>
  have hget := (DB.stepOf_eq_some_iff.1 hstep)
  have hget' := db.steps.get?_update_self stepId (finish outcome result) (fun _ => rfl) hget.1
  have hstep' : (db.commitStep op stepId ownerId lease outcome result outbox).stepOf operationId
      stepId = some (step.finish outcome result) :=
    DB.stepOf_eq_some_iff.2 ⟨hget', hget.2⟩
  have hleft : (step.finish outcome result).status.isActive = false := by
    cases outcome <;> rfl
  simpa using ⟨_, hstep', hleft⟩

end CommitCases

/-- A commit goes through when its conditions hold and the outbox takes its events. -/
theorem commitStepResult_ok {idempotencyKey : String}
    {outcome : StepOutcome} {result : StepResult} {events : List OutboxEvent} {op : OperationRow}
    {outbox : Outbox}
    (h : Committable db operationId stepId idempotencyKey ownerId lease expectedVersion op step)
    (houtbox : insertOutboxEvents db.outbox db.now (stampedEvents op outcome result events)
      = some outbox) :
    commitStepResult db operationId stepId idempotencyKey ownerId lease expectedVersion outcome
        result events
      = (db.commitStep op stepId ownerId lease outcome result outbox, .ok ()) := by
  have hactive := ((db.fenced_iff step ownerId lease).1 h.fenced).1
  have hopen : ¬ (step.status = .succeeded ∨ step.status = .failed) := by
    rintro (hs | hs) <;> simp [hs, StepStatus.isActive] at hactive
  have hterminal := OperationStatus.not_isTerminal_of_isRunnable h.runnable
  simp [commitStepResult, h.operation, h.runnable, hterminal, h.stored, hopen, h.key, h.version,
    h.fenced, houtbox]

end Specs

end HnbCloud.Operation
