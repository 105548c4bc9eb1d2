import HnbCloud.Messaging.Outbox
import HnbCloud.Operation.Status

set_option autoImplicit false

/-! # The tables of the operation engine

The part of the database that platform-api and operation-worker share: the operations and their
steps, the leases of the workers, the audit trail, the read model and the outbox, with the plans
and the runtime intents a submission writes. Rows carry the columns that one of the modelled
functions reads or writes; a nullable text column is a `String` whose empty value stands for `NULL`
(writers use `NULLIF(…, '')`, readers `COALESCE(…, '')`).

`now` is the clock that `now()` and `time.Now()` read, in microseconds. `fencingSeq` is the last
value of `operation_fencing_generation_seq`. Like every sequence it is not transactional: a rolled
back transaction keeps what it has drawn. Ids are taken as the database writes them. -/

namespace HnbCloud.Operation

open Messaging

/-! ## Rows -/

/-- A row of `operations`. -/
structure OperationRow where
  (id tenantId projectId environmentId namespaceId planId : String)
  operationType : OperationType
  status : OperationStatus
  (initiatedBy approvedBy correlationId idempotencyKey planDigest statusReason : String)
  (totalSteps completedSteps failedSteps version : Nat)
  targetClusterIds : List String
  tags : List (String × String)
  runtimeIntentId : String
  createdAt : Int
  (startedAt completedAt : Option Int)

/-- A row of `operation_steps`. -/
structure StepRow where
  (id operationId planStepId stepName stepType providerId providerVersion providerDigest : String)
  status : StepStatus
  idempotencyKey : String
  dependsOn : List String
  optional : Bool
  (retryCount maxRetries timeoutSeconds version : Nat)
  checkpoint : String
  (stepInput stepOutput : Json)
  errorMessage : String
  lastLeaseId : Option String
  fencingGeneration : Nat
  (startedAt completedAt : Option Int)

/-- A row of `worker_leases`. -/
structure LeaseRow where
  (stepId ownerId leaseId : String)
  fencingGeneration : Nat
  (acquiredAt expiresAt : Int)
  version : Nat
deriving DecidableEq

/-- `operation_audit.event_type`, the values the modelled functions write. -/
inductive AuditEventType where
  | created
  | approved
  | rejected
  | cancelled
  | stepCompleted
  | stepFailed
deriving DecidableEq, Repr

/-- A row of `operation_audit`. -/
structure AuditRow where
  operationId : String
  eventType : AuditEventType
  actorId : String
  (previousState newState : Option OperationStatus)
  detail : Json
  occurredAt : Int

/-- A row of `operation_read_model`. -/
structure ReadModelRow where
  (operationId tenantId projectId environmentId namespaceId planId : String)
  operationType : OperationType
  status : OperationStatus
  (totalSteps completedSteps failedSteps : Nat)
  (initiatedBy approvedBy summary : String)
  targetClusterIds : List String
  tags : List (String × String)
  intentId : String
  createdAt : Int
  (startedAt completedAt : Option Int)
  lastStateChangedAt : Int

open ReadModelRow

/-- A row of `execution_plans`. -/
structure PlanRow where
  (id releaseId tenantId projectId environmentId planDigest runtimeIntentId : String)

/-- A row of `runtime_intents`: the commitment an accepted intent leaves behind. -/
structure IntentRow where
  (id tenantId subjectId : String)
  intentKind : IntentKind
  (commitmentAction idempotencyKey semanticDigest executionPlanId operationId correlationId : String)
  runtimeTargetId : String
  acceptedStatus : OperationStatus
  createdAt : Int

/-- The columns of `runtime_targets` that a submission rechecks, with the tenants that hold an
    active allocation of the target. -/
structure RuntimeTargetRow where
  (id tenantId : String)
  isActive : Bool
  projectionVersion : Int
  allocations : List String
  lifecycleState : String

/-- The columns of `storage_class_bindings` that a submission rechecks. -/
structure StorageBindingRow where
  (id tenantId : String)
  version : Int
  offeringId : String
  offeringVersion : Int
  (targetId storageClassName storageClassUid storageClassResourceVersion freshness : String)
deriving DecidableEq

/-! ## The database -/

/-- The state of the database. -/
structure DB where
  now : Int
  fencingSeq : Nat
  operations : Table OperationRow String OperationRow.id
  steps : Table StepRow String StepRow.id
  leases : Table LeaseRow String LeaseRow.stepId
  audit : List AuditRow
  readModel : Table ReadModelRow String operationId
  outbox : Outbox
  plans : Table PlanRow String PlanRow.id
  intents : Table IntentRow String IntentRow.id
  targets : Table RuntimeTargetRow String RuntimeTargetRow.id
  bindings : Table StorageBindingRow String StorageBindingRow.id

/-- The database after the migrations, before any submission. -/
def DB.empty (now : Int) : DB where
  now := now
  fencingSeq := 0
  operations := .empty
  steps := .empty
  leases := .empty
  audit := []
  readModel := .empty
  outbox := .empty
  plans := .empty
  intents := .empty
  targets := .empty
  bindings := .empty

/-! ## Errors -/

/-- The errors of the two stores. `database` is any other error of the driver: a lost connection, a
    violated constraint, a row that is not there where the code does not test for it. -/
inductive StoreError where
  | leaseNotAcquired
  | leaseLost
  | stepAlreadyCompleted
  | stepVersionMismatch
  | operationNotRunnable
  | generationNotAbove (generation retained : Nat)
  | notFound
  | invalidState (text : String)
  | idempotencyConflict (key : String)
  | targetNotFound
  | targetVersionConflict
  | storageBindingConflict
  | storageObservationConflict
  | database (text : String)
deriving DecidableEq, Repr

/-- The text of an error. -/
def StoreError.message : StoreError → String
  | leaseNotAcquired => "step lease is held by another worker"
  | leaseLost => "step lease is no longer valid"
  | stepAlreadyCompleted => "step is already completed"
  | stepVersionMismatch => "step version does not match command"
  | operationNotRunnable => "operation is not runnable"
  | generationNotAbove generation retained =>
    "allocated fencing generation " ++ toString generation
      ++ " does not exceed retained generation " ++ toString retained
  | notFound => "operation not found"
  | invalidState text => "operation state does not allow this action: " ++ text
  | idempotencyConflict key =>
    "idempotency key conflict: same key with different payload: idempotency key " ++ key
  | targetNotFound => "runtime target not found"
  | targetVersionConflict => "runtime target version conflict"
  | storageBindingConflict => "storage binding version or identity conflict"
  | storageObservationConflict => "storage class observation is stale"
  | database text => text

/-! ## The read model -/

/-- The read-model row of an operation, as a first insert writes it. -/
def ReadModelRow.ofOperation (now : Int) (op : OperationRow) (intentId : String) :
    ReadModelRow where
  operationId := op.id
  tenantId := op.tenantId
  projectId := op.projectId
  environmentId := op.environmentId
  namespaceId := op.namespaceId
  planId := op.planId
  operationType := op.operationType
  status := op.status
  totalSteps := op.totalSteps
  completedSteps := op.completedSteps
  failedSteps := op.failedSteps
  initiatedBy := op.initiatedBy
  approvedBy := op.approvedBy
  summary := op.operationType.text ++ " " ++ op.id ++ ": " ++ op.status.text
  targetClusterIds := op.targetClusterIds
  tags := op.tags
  intentId := intentId
  createdAt := op.createdAt
  startedAt := op.startedAt
  completedAt := op.completedAt
  lastStateChangedAt := now

/-- The `DO UPDATE` of the upsert: it overwrites the columns that change and keeps the others, the
    summary among them. -/
def ReadModelRow.refresh (now : Int) (op : OperationRow) (intentId : String) (row : ReadModelRow) :
    ReadModelRow :=
  { row with
    status := op.status
    completedSteps := op.completedSteps
    failedSteps := op.failedSteps
    approvedBy := op.approvedBy
    startedAt := op.startedAt.orElse (fun _ => row.startedAt)
    completedAt := op.completedAt.orElse (fun _ => row.completedAt)
    intentId := if intentId = "" then row.intentId else intentId
    lastStateChangedAt := now }

/-- `upsertReadModel`. Both services write this statement; platform-api's also carries the intent,
    the worker's leaves the column as it is (`intentId` is empty). -/
def upsertReadModel (readModel : Table ReadModelRow String operationId) (now : Int)
    (op : OperationRow) (intentId : String) : Table ReadModelRow String operationId :=
  readModel.upsert (.ofOperation now op intentId) (.refresh now op intentId) (fun _ => rfl)

/-- The row of the projection repeats the status and the counters of the operation. -/
structure ReadModelRow.Mirrors (row : ReadModelRow) (op : OperationRow) : Prop where
  status : row.status = op.status
  completedSteps : row.completedSteps = op.completedSteps
  failedSteps : row.failedSteps = op.failedSteps

section Upsert

variable (readModel : Table ReadModelRow String operationId) (now : Int)
  (op : OperationRow) (intentId : String)

theorem get?_upsertReadModel_self :
    ∃ row, (upsertReadModel readModel now op intentId).get? op.id = some row ∧ row.Mirrors op := by
  have hget := readModel.get?_upsert_self (.ofOperation now op intentId) (.refresh now op intentId)
    (fun _ => rfl)
  refine ⟨_, hget, ?_⟩
  rcases readModel.get? (ofOperation now op intentId).operationId with _ | row
  · exact ⟨rfl, rfl, rfl⟩
  · exact ⟨rfl, rfl, rfl⟩

theorem get?_upsertReadModel_of_ne {id : String} (hne : id ≠ op.id) :
    (upsertReadModel readModel now op intentId).get? id = readModel.get? id :=
  readModel.get?_upsert_of_ne (.ofOperation now op intentId) (.refresh now op intentId)
    (fun _ => rfl) hne

end Upsert

end HnbCloud.Operation
