import HnbCloud.Operation.Schema

set_option autoImplicit false

/-! # The store of platform-api

Submission, approval, rejection and cancellation of operations
(`platform-api/internal/store/operations.go`). As in the worker's store, a transaction maps the
database to the database after it and the answer; an error rolls everything back.

Identifiers that the code draws (`uuid.NewString()`, `gen_random_uuid()`) come from the caller as
`FreshIds`. Nothing is assumed about them: a clash violates a unique index and the transaction
fails, as in the database. -/

namespace HnbCloud.Operation

open Messaging List OutboxRow StepRow

def stepRequestedSubject : String := "hnb.command.operation.step-requested.v1"

def schemaVersion : String := "1.0.0"

/-- SHA-256 of a text and of the canonical encoding of a document, in hexadecimal. The results hold
    for any function in its place. -/
structure Sha256 where
  text : String → String
  document : Json → String

/-- The identifiers one transaction draws. -/
structure FreshIds where
  (plan operation intent correlation : String)
  (step message : Nat → String)

/-! ## Commands -/

structure StepInput where
  (planStepId name stepType providerId : String)
  dependsOn : List String
  optional : Bool
  inputs : List (String × String)
  secretReference : String
  (maxRetries timeoutSeconds : Int)

structure SubmitCommand where
  (tenantId projectId environmentId namespaceId releaseId : String)
  operationType : OperationType
  (idempotencyKey initiatedBy correlationId : String)
  targetClusterIds : List String
  tags : List (String × String)
  steps : List StepInput

/-- `planStepID`: a step without an id of its own is numbered, from one. -/
def StepInput.planStepIdAt (step : StepInput) (index : Nat) : String :=
  if step.planStepId ≠ "" then step.planStepId else "step-" ++ toString (index + 1)

/-- `StepIdempotencyKey` and `intentIdemKey`. -/
def stepIdempotencyKey (operationKey planStepId : String) : String :=
  operationKey ++ ":" ++ planStepId

/-- `marshalStepInputs`. -/
def StepInput.marshalInputs (step : StepInput) : Json :=
  if step.secretReference ≠ "" then
    .stringMap ((step.inputs.filter fun x => x.1 != "secretReference")
      ++ [("secretReference", step.secretReference)])
  else .stringMap step.inputs

/-- A step in the document the digest is taken of. -/
def StepInput.document (step : StepInput) (index : Nat) : Json :=
  .obj [("id", .str (step.planStepIdAt index)), ("name", .str step.name),
    ("step_type", .str step.stepType), ("provider_id", .str step.providerId),
    ("depends_on", .strings step.dependsOn), ("optional", .bool step.optional),
    ("inputs", .stringMap step.inputs), ("secret_reference", .str step.secretReference),
    ("max_retries", .num step.maxRetries), ("timeout_seconds", .num step.timeoutSeconds)]

/-- `buildPlan`: the digest of the plan document. -/
def buildPlan (sha : Sha256) (cmd : SubmitCommand) : String :=
  sha.document (.obj [("release_id", .str cmd.releaseId), ("tenant_id", .str cmd.tenantId),
    ("project_id", .str cmd.projectId), ("environment_id", .str cmd.environmentId),
    ("steps", .arr (cmd.steps.zipIdx.map fun x => x.1.document x.2))])

/-! ## Statements the transactions share -/

/-- `INSERT INTO execution_plans … ON CONFLICT (tenant_id, plan_digest) DO NOTHING`, and the id the
    plan has afterwards. -/
def persistPlan (plans : Table PlanRow String PlanRow.id) (plan : PlanRow) :
    Option (Table PlanRow String PlanRow.id × String) :=
  match plans.rows.find? (fun row => row.tenantId == plan.tenantId
      && row.planDigest == plan.planDigest) with
  | some row => some (plans, row.id)
  | none => (plans.insert? plan).map fun plans' => (plans', plan.id)

/-- `INSERT INTO operation_steps`, with the two unique indexes of the table beside its key and the
    checks of its columns. -/
def insertStep (steps : Table StepRow String id) (row : StepRow) :
    Option (Table StepRow String id) :=
  if steps.rows.any (fun other => other.operationId == row.operationId
      && (other.idempotencyKey == row.idempotencyKey || other.planStepId == row.planStepId)) then
    none
  else if row.maxRetries ≤ 9 ∧ 0 < row.timeoutSeconds then steps.insert? row
  else none

/-- The loop over the steps of a submission. -/
def insertSteps (steps : Table StepRow String id) :
    List StepRow → Option (Table StepRow String id)
  | [] => some steps
  | row :: rest =>
    match insertStep steps row with
    | none => none
    | some steps' => insertSteps steps' rest

def stepRequestedEvent (now : Int) (op : OperationRow) (step : StepRow) (actorId messageId : String)
    (extra : List (String × Json)) : OutboxEvent where
  messageId := messageId
  messageType := stepRequestedSubject
  schemaVersion := schemaVersion
  subject := stepRequestedSubject
  occurredAt := now
  tenantId := op.tenantId
  projectId := op.projectId
  environmentId := op.environmentId
  actorId := actorId
  correlationId := op.correlationId
  causationId := ""
  idempotencyKey := step.idempotencyKey
  aggregateId := op.id
  aggregateVersion := none
  operationId := op.id
  stepId := step.id
  expectedVersion := some step.version
  payload := .obj (extra ++ [("expectedVersion", .num step.version),
    ("idempotencyKey", .str step.idempotencyKey), ("operationId", .str op.id),
    ("stepId", .str step.id), ("stepType", .str step.stepType)])

/-- One command for each of these steps that depends on nothing. -/
def readyStepEvents (now : Int) (op : OperationRow) (steps : List StepRow) (actorId : String)
    (ids : FreshIds) (extra : List (String × Json)) : List OutboxEvent :=
  (steps.zipIdx.filter fun x => x.1.dependsOn.isEmpty).map fun x =>
    stepRequestedEvent now op x.1 actorId (ids.message x.2) extra

/-- `getByIdempotencyKey`, the row of `operations` it finds. -/
def DB.getByIdempotencyKey (db : DB) (tenantId key : String) : Option OperationRow :=
  db.operations.rows.find? fun op => op.tenantId == tenantId && op.idempotencyKey == key

/-- `GetOperation`: the row of the read model. -/
def DB.getOperationView (db : DB) (id tenantId : String) : Except StoreError ReadModelRow :=
  match (db.readModel.get? id).filter (fun row => row.tenantId == tenantId) with
  | some row => .ok row
  | none => .error .notFound

/-- `insertAudit`. -/
def auditRow (db : DB) (operationId : String) (eventType : AuditEventType) (actorId : String)
    (previousState newState : Option OperationStatus) (detail : Json) : AuditRow where
  operationId := operationId
  eventType := eventType
  actorId := actorId
  previousState := previousState
  newState := newState
  detail := detail
  occurredAt := db.now

/-! ## SubmitOperation -/

/-- The row of a submitted step; limits that are not positive take their defaults. -/
def StepRow.ofInput (operationId stepId operationKey : String) (step : StepInput) (index : Nat) :
    StepRow where
  id := stepId
  operationId := operationId
  planStepId := step.planStepIdAt index
  stepName := step.name
  stepType := step.stepType
  providerId := step.providerId
  providerVersion := ""
  providerDigest := ""
  status := .pending
  idempotencyKey := stepIdempotencyKey operationKey (step.planStepIdAt index)
  dependsOn := step.dependsOn
  optional := step.optional
  retryCount := 0
  maxRetries := if step.maxRetries ≤ 0 then 3 else step.maxRetries.toNat
  timeoutSeconds := if step.timeoutSeconds ≤ 0 then 300 else step.timeoutSeconds.toNat
  version := 0
  checkpoint := ""
  stepInput := step.marshalInputs
  stepOutput := .obj []
  errorMessage := ""
  lastLeaseId := none
  fencingGeneration := 0
  startedAt := none
  completedAt := none

open StepRow

def OperationRow.ofCommand (db : DB) (cmd : SubmitCommand) (ids : FreshIds)
    (planId planDigest : String) : OperationRow where
  id := ids.operation
  tenantId := cmd.tenantId
  projectId := cmd.projectId
  environmentId := cmd.environmentId
  namespaceId := cmd.namespaceId
  planId := planId
  operationType := cmd.operationType
  status := cmd.operationType.initialStatus
  initiatedBy := cmd.initiatedBy
  approvedBy := ""
  correlationId := if cmd.correlationId = "" then ids.correlation else cmd.correlationId
  idempotencyKey := cmd.idempotencyKey
  planDigest := planDigest
  statusReason := ""
  totalSteps := cmd.steps.length
  completedSteps := 0
  failedSteps := 0
  version := 0
  targetClusterIds := cmd.targetClusterIds
  tags := cmd.tags
  runtimeIntentId := ""
  createdAt := db.now
  startedAt := none
  completedAt := none

open OperationRow

/-- The writes of a submission to the tables of the operation engine: the operation, its steps, the
    audit row, the read model and, if the operation starts `queued`, the commands of the steps that
    depend on nothing. -/
def DB.createOperation (db : DB) (op : OperationRow) (steps : List StepRow) (ids : FreshIds)
    (auditDetail : Json) (intentId : String) (extra : List (String × Json)) :
    Except StoreError DB :=
  match db.operations.insert? op with
  | none => .error (.database "insert operation")
  | some operations =>
  match insertSteps db.steps steps with
  | none => .error (.database "insert operation step")
  | some stepTable =>
  let events :=
    if op.status = .queued then readyStepEvents db.now op steps op.initiatedBy ids extra else []
  match insertOutboxEvents db.outbox db.now events with
  | none => .error (.database "insert step-requested outbox event")
  | some outbox => .ok { db with
        operations := operations
        steps := stepTable
        audit := db.audit ++ [auditRow db op.id .created op.initiatedBy none (some op.status)
          auditDetail]
        readModel := upsertReadModel db.readModel db.now op intentId
        outbox := outbox }

/-- `SubmitOperation`: the operation, and whether this call created it. -/
def submitOperation (sha : Sha256) (db : DB) (cmd : SubmitCommand) (ids : FreshIds) :
    DB × Except StoreError (ReadModelRow × Bool) :=
  let planDigest := buildPlan sha cmd
  let plan : PlanRow :=
    { id := ids.plan, releaseId := cmd.releaseId, tenantId := cmd.tenantId,
      projectId := cmd.projectId, environmentId := cmd.environmentId, planDigest := planDigest,
      runtimeIntentId := "" }
  match persistPlan db.plans plan with
  | none => (db, .error (.database "persist execution plan"))
  | some (plans, planId) =>
  match db.getByIdempotencyKey cmd.tenantId cmd.idempotencyKey with
  | some existing =>
    (db,
      match db.getOperationView existing.id cmd.tenantId with
      | .error err => .error err
      | .ok view =>
        if existing.planDigest ≠ "" ∧ existing.planDigest ≠ planDigest then
          .error (.idempotencyConflict cmd.idempotencyKey)
        else .ok (view, false))
  | none =>
  let op := ofCommand db cmd ids planId planDigest
  let steps := cmd.steps.zipIdx.map fun x =>
    ofInput op.id (ids.step x.2) cmd.idempotencyKey x.1 x.2
  let detail := Json.obj [("operation_type", .str cmd.operationType.text),
    ("plan_digest", .str planDigest), ("release_id", .str cmd.releaseId)]
  match { db with plans := plans }.createOperation op steps ids detail "" [] with
  | .error err => (db, .error err)
  | .ok db' => (db', (db'.getOperationView op.id cmd.tenantId).map fun view => (view, true))

/-! ## SubmitIntent -/

/-- The columns of `Step` (of an `ExecutionPlan`) that a submission persists and the worker reads. -/
structure PlanStep where
  (stepId stepType providerId providerVersion providerDigest : String)
  dependsOn : List String
  inputs : Json
  /-- `RetryPolicy.MaxAttempts`, if the step has a policy. -/
  maxAttempts : Option Int
  timeoutSeconds : Int

/-- The fields of `intent.Spec` that are compared with the stored binding. -/
structure StorageSpec where
  bindingId : String
  bindingVersion : Int
  offeringId : String
  offeringVersion : Int
  (targetId storageClassName storageClassUid storageClassResourceVersion : String)

/-- `ProvisionRuntimeTarget`, what of it the recheck of a later submission reads. -/
structure ProvisionTarget where
  (targetId lifecycleState : String)

/-- `IntentSubmitCommand`, with the intent and the plan it carries. -/
structure IntentSubmitCommand where
  kind : IntentKind
  (idempotencyKey intentDigest targetKind : String)
  storage : StorageSpec
  (planSemanticDigest releaseRef : String)
  steps : List PlanStep
  (tenantId subjectId correlationId initiatedBy runtimeTargetId : String)
  expectedTargetVersion : Int
  stalePolicy : Option StalePolicyOutcome
  commitmentAction : String
  provisionTarget : Option ProvisionTarget

/-- What `SubmitIntent` returns of the operation. -/
structure IntentReceipt where
  (intentId operationId planId : String)
  operationType : OperationType
  status : OperationStatus
  correlationId : String
deriving DecidableEq

namespace IntentSubmitCommand

variable (cmd : IntentSubmitCommand)

/-- `idempotencyKey`: the key of the operation an intent becomes. -/
def lookupKey : String :=
  cmd.tenantId ++ ":" ++ cmd.kind.text ++ ":" ++ cmd.commitmentAction ++ ":" ++ cmd.idempotencyKey

/-- The status the operation starts in: the stale policy's, if it decided, or its type's own. -/
def initialStatus : OperationStatus :=
  match cmd.stalePolicy with
  | some outcome => outcome.initialStatus
  | none => cmd.kind.toOperationType.initialStatus

end IntentSubmitCommand

section Intents

variable (sha : Sha256) (db : DB) (cmd : IntentSubmitCommand) (ids : FreshIds)

/-- `getIntentCommitmentTx`. -/
def DB.getIntentCommitment (tenantId : String) (kind : IntentKind)
    (action idempotencyKey : String) : Option IntentRow :=
  db.intents.rows.find? fun row => row.tenantId == tenantId && decide (row.intentKind = kind)
    && row.commitmentAction == action && row.idempotencyKey == idempotencyKey

/-- The recheck of the runtime target: it is active, of the tenant or allocated to it, and at the
    version the plan was made for. -/
def DB.recheckTarget : Except StoreError Unit :=
  if cmd.runtimeTargetId = "" then .ok () else
  match (db.targets.get? cmd.runtimeTargetId).filter (fun row => row.isActive
      && (row.tenantId == cmd.tenantId || row.allocations.contains cmd.tenantId)) with
  | none => .error .targetNotFound
  | some row =>
    if row.projectionVersion ≠ cmd.expectedTargetVersion then .error .targetVersionConflict
    else .ok ()

/-- `recheckStorageReconcile`, run for `ReconcileStorageClassBinding` only. -/
def DB.recheckStorageReconcile : Except StoreError Unit :=
  if cmd.kind ≠ .reconcileStorageClassBinding then .ok () else
  match (db.bindings.get? cmd.storage.bindingId).filter
      (fun row => row.tenantId == cmd.tenantId) with
  | none => .error .storageBindingConflict
  | some row =>
    if row.version ≠ cmd.storage.bindingVersion ∨ row.offeringId ≠ cmd.storage.offeringId
        ∨ row.offeringVersion ≠ cmd.storage.offeringVersion
        ∨ row.targetId ≠ cmd.storage.targetId
        ∨ row.storageClassName ≠ cmd.storage.storageClassName
        ∨ row.storageClassUid ≠ cmd.storage.storageClassUid
        ∨ row.storageClassResourceVersion ≠ cmd.storage.storageClassResourceVersion then
      .error .storageBindingConflict
    else if row.freshness ≠ "Fresh" then .error .storageObservationConflict
    else .ok ()

def scopedPlanDigest (planDigest lookupKey : String) : String :=
  "sha256:" ++ sha.text (planDigest ++ "\x00" ++ lookupKey)

/-- The row of a step of an intent's plan. -/
def StepRow.ofPlanStep (operationId stepId lookupKey : String) (step : PlanStep) : StepRow where
  id := stepId
  operationId := operationId
  planStepId := step.stepId
  stepName := step.stepId
  stepType := step.stepType
  providerId := step.providerId
  providerVersion := step.providerVersion
  providerDigest := step.providerDigest
  status := .pending
  idempotencyKey := stepIdempotencyKey lookupKey step.stepId
  dependsOn := step.dependsOn
  optional := false
  retryCount := 0
  maxRetries :=
    match step.maxAttempts with
    | some attempts => if 0 < attempts then attempts.toNat else 3
    | none => 3
  timeoutSeconds := if 0 < step.timeoutSeconds then step.timeoutSeconds.toNat else 300
  version := 0
  checkpoint := ""
  stepInput := step.inputs
  stepOutput := .obj []
  errorMessage := ""
  lastLeaseId := none
  fencingGeneration := 0
  startedAt := none
  completedAt := none

def OperationRow.ofIntent (planId planDigest correlationId : String) : OperationRow where
  id := ids.operation
  tenantId := cmd.tenantId
  projectId := ""
  environmentId := ""
  namespaceId := ""
  planId := planId
  operationType := cmd.kind.toOperationType
  status := cmd.initialStatus
  initiatedBy := cmd.initiatedBy
  approvedBy := ""
  correlationId := correlationId
  idempotencyKey := cmd.lookupKey
  planDigest := planDigest
  statusReason := ""
  totalSteps := cmd.steps.length
  completedSteps := 0
  failedSteps := 0
  version := 0
  targetClusterIds := []
  tags := [("intent_kind", cmd.kind.text), ("correlation", correlationId),
    ("target_id", cmd.runtimeTargetId), ("target_kind", cmd.targetKind)]
  runtimeIntentId := ids.intent
  createdAt := db.now
  startedAt := none
  completedAt := none

/-- `provisionRuntimeTargetTx`: `ON CONFLICT (id) DO NOTHING`. -/
def provisionRuntimeTarget (targets : Table RuntimeTargetRow String RuntimeTargetRow.id)
    (cmd : IntentSubmitCommand) : Table RuntimeTargetRow String RuntimeTargetRow.id :=
  match cmd.provisionTarget with
  | none => targets
  | some target =>
    let row : RuntimeTargetRow :=
      { id := target.targetId, tenantId := cmd.tenantId, isActive := true,
        projectionVersion := 0, allocations := [], lifecycleState := target.lifecycleState }
    if target.targetId = "" then targets else (targets.insert? row).getD targets

/-- `insertRuntimeIntent`, with the unique indexes of the table beside its key. The index on the
    idempotency key does not have the action in it. -/
def insertRuntimeIntent (intents : Table IntentRow String IntentRow.id) (row : IntentRow) :
    Option (Table IntentRow String IntentRow.id) :=
  if intents.rows.any (fun other =>
      (other.tenantId == row.tenantId && decide (other.intentKind = row.intentKind)
        && other.idempotencyKey == row.idempotencyKey)
      || other.executionPlanId == row.executionPlanId
      || other.operationId == row.operationId) then none
  else intents.insert? row

/-- The receipt a repeated intent gets: the commitment of the first. -/
def replayIntent (commitment : IntentRow) : Except StoreError (IntentReceipt × Bool) :=
  let receipt : IntentReceipt :=
    { intentId := commitment.id, operationId := commitment.operationId,
      planId := commitment.executionPlanId, operationType := cmd.kind.toOperationType,
      status := commitment.acceptedStatus, correlationId := commitment.correlationId }
  if commitment.semanticDigest ≠ cmd.intentDigest then
    .error (.idempotencyConflict cmd.lookupKey)
  else .ok (receipt, false)

/-- `SubmitIntent`: the receipt, and whether this call created the operation. -/
def submitIntent : DB × Except StoreError (IntentReceipt × Bool) :=
  let commitment := db.getIntentCommitment cmd.tenantId cmd.kind cmd.commitmentAction
    cmd.idempotencyKey
  match commitment with
  | some row => (db, replayIntent cmd row)
  | none =>
  match db.recheckTarget cmd with
  | .error err => (db, .error err)
  | .ok () =>
  match db.recheckStorageReconcile cmd with
  | .error err => (db, .error err)
  | .ok () =>
  let planDigest := scopedPlanDigest sha cmd.planSemanticDigest cmd.lookupKey
  let plan : PlanRow :=
    { id := ids.plan, releaseId := cmd.releaseRef, tenantId := cmd.tenantId, projectId := "",
      environmentId := "", planDigest := planDigest, runtimeIntentId := ids.intent }
  match persistPlan db.plans plan with
  | none => (db, .error (.database "persist execution plan"))
  | some (plans, planId) =>
  match db.getByIdempotencyKey cmd.tenantId cmd.lookupKey with
  -- The commitment was looked up at the start of the transaction and is not there.
  | some _ => (db, .error .notFound)
  | none =>
  let correlationId := if cmd.correlationId = "" then ids.correlation else cmd.correlationId
  let op := ofIntent db cmd ids planId planDigest correlationId
  let steps := cmd.steps.zipIdx.map fun x =>
    ofPlanStep op.id (ids.step x.2) cmd.lookupKey x.1
  let detail := Json.obj [("intent_kind", .str cmd.kind.text),
    ("operation_type", .str op.operationType.text), ("plan_digest", .str planDigest),
    ("release_id", .str cmd.releaseRef)]
  let intent : IntentRow :=
    { id := ids.intent, tenantId := cmd.tenantId, subjectId := cmd.subjectId,
      intentKind := cmd.kind, commitmentAction := cmd.commitmentAction,
      idempotencyKey := cmd.idempotencyKey, semanticDigest := cmd.intentDigest,
      executionPlanId := planId, operationId := op.id, correlationId := cmd.correlationId,
      runtimeTargetId := cmd.runtimeTargetId, acceptedStatus := op.status, createdAt := db.now }
  match insertRuntimeIntent db.intents intent with
  | none => (db, .error (.database "insert runtime intent"))
  | some intents =>
  let staged := { db with
    plans := plans
    intents := intents
    targets := provisionRuntimeTarget db.targets cmd }
  let receipt : IntentReceipt :=
    { intentId := ids.intent, operationId := op.id, planId := planId,
      operationType := op.operationType, status := op.status, correlationId := correlationId }
  match staged.createOperation op steps ids detail ids.intent
      [("correlationId", .str correlationId)] with
  | .error err => (db, .error err)
  | .ok db' => (db', .ok (receipt, true))

end Intents

section Decisions

variable (db : DB) (id tenantId actorId reason : String)

/-! ## Approval, rejection and cancellation -/

def DB.lockOperation : Except StoreError OperationRow :=
  match (db.operations.get? id).filter (fun op => op.tenantId == tenantId) with
  | some op => .ok op
  | none => .error .notFound

/-- `transitionOperation`: the row after the move. Its guard on the status read under the row lock
    always holds within one transaction. -/
def OperationRow.transition (now : Int) (target : OperationStatus) (approver : Option String)
    (reason : String) (op : OperationRow) : OperationRow :=
  { op with
    status := target
    statusReason := reason
    approvedBy := approver.getD op.approvedBy
    version := op.version + 1
    completedAt := if target.isTerminal then some now else op.completedAt }

/-- The writes that the three decisions share: the move, its audit row and the read model. -/
def DB.applyDecision (op : OperationRow) (target : OperationStatus) (approver : Option String)
    (eventType : AuditEventType) (actorId reason : String) (outbox : Outbox) : DB :=
  { db with
    operations := db.operations.update op.id (transition db.now target approver reason)
      (fun _ => rfl)
    audit := db.audit ++ [auditRow db op.id eventType actorId (some op.status) (some target)
      (.obj [("reason", .str reason)])]
    -- `lockOperation` reads neither the intent nor the target clusters.
    readModel := upsertReadModel db.readModel db.now
      { op.transition db.now target approver reason with targetClusterIds := [] } ""
    outbox := outbox }

/-- The steps `dispatchReadySteps` selects: pending, without a dependency. -/
def DB.readySteps (operationId : String) : List StepRow :=
  db.steps.rows.filter fun step => step.operationId == operationId
    && decide (step.status = .pending) && step.dependsOn.isEmpty

def approveOperation (ids : FreshIds) : DB × Except StoreError ReadModelRow :=
  match db.lockOperation id tenantId with
  | .error err => (db, .error err)
  | .ok op =>
  if op.status ≠ .pendingApproval then
    (db, .error (.invalidState ("cannot approve operation in " ++ op.status.text ++ " state")))
  else
  let op' := op.transition db.now .queued (some actorId) reason
  match insertOutboxEvents db.outbox db.now
      (readyStepEvents db.now op' (db.readySteps op.id) actorId ids []) with
  | none => (db, .error (.database "insert step-requested outbox event"))
  | some outbox =>
    let db' := db.applyDecision op .queued (some actorId) .approved actorId reason outbox
    (db', db'.getOperationView id tenantId)

def rejectOperation : DB × Except StoreError ReadModelRow :=
  match db.lockOperation id tenantId with
  | .error err => (db, .error err)
  | .ok op =>
  if op.status ≠ .pendingApproval then
    (db, .error (.invalidState ("cannot reject operation in " ++ op.status.text ++ " state")))
  else
  let db' := db.applyDecision op .cancelled (some actorId) .rejected actorId reason db.outbox
  (db', db'.getOperationView id tenantId)

def cancelOperation : DB × Except StoreError ReadModelRow :=
  match db.lockOperation id tenantId with
  | .error err => (db, .error err)
  | .ok op =>
  if op.status.canTransition .cancelled = false then
    (db, .error (.invalidState ("cannot cancel operation in " ++ op.status.text ++ " state")))
  else
  let db' := db.applyDecision op .cancelled none .cancelled actorId reason db.outbox
  (db', db'.getOperationView id tenantId)

end Decisions

/-! ## What the transactions do -/

/-- A step that is inserted comes after the stored ones, which stay as they are. -/
theorem rows_insertStep {steps steps' : Table StepRow String id} {row : StepRow}
    (h : insertStep steps row = some steps') : steps'.rows = steps.rows ++ [row] := by
  unfold insertStep at h
  split at h
  · simp at h
  split_ifs at h
  exact Table.rows_insert? h

theorem rows_insertSteps {steps steps' : Table StepRow String id} {rows : List StepRow}
    (h : insertSteps steps rows = some steps') : steps'.rows = steps.rows ++ rows := by
  induction rows generalizing steps with
  | nil =>
    simp only [insertSteps, Option.some.injEq] at h
    simp [h]
  | cons _ _ ih =>
    unfold insertSteps at h
    split at h
    · simp at h
    next steps₁ hins =>
    rw [ih h, rows_insertStep hins, append_assoc, singleton_append]

/-- The rows of a submission: an operation that has not started, with the steps it counts. -/
structure Submission (op : OperationRow) (steps : List StepRow) : Prop where
  status : op.status = .queued ∨ op.status = .pendingApproval ∨ op.status = .queuedOffline
  totalSteps : op.totalSteps = steps.length
  completedSteps : op.completedSteps = 0
  failedSteps : op.failedSteps = 0
  ofOperation : ∀ step ∈ steps, step.operationId = op.id
  pending : ∀ step ∈ steps, step.status = .pending
  unleased : ∀ step ∈ steps, step.fencingGeneration = 0

theorem OperationType.initialStatus_cases (t : OperationType) :
    t.initialStatus = .queued ∨ t.initialStatus = .pendingApproval := by
  unfold OperationType.initialStatus
  split
  · exact .inr rfl
  · exact .inl rfl

theorem IntentSubmitCommand.initialStatus_cases (cmd : IntentSubmitCommand) :
    cmd.initialStatus = .queued ∨ cmd.initialStatus = .pendingApproval
      ∨ cmd.initialStatus = .queuedOffline := by
  unfold IntentSubmitCommand.initialStatus
  split
  · next outcome _ => cases outcome <;> simp [StalePolicyOutcome.initialStatus]
  · exact cmd.kind.toOperationType.initialStatus_cases.imp_right .inl

variable (db : DB)

theorem submission_ofCommand (cmd : SubmitCommand) (ids : FreshIds) (planId planDigest : String) :
    Submission (ofCommand db cmd ids planId planDigest) (cmd.steps.zipIdx.map fun x =>
        ofInput ids.operation (ids.step x.2) cmd.idempotencyKey x.1 x.2) where
  status := cmd.operationType.initialStatus_cases.imp_right .inl
  totalSteps := by simp [ofCommand]
  completedSteps := rfl
  failedSteps := rfl
  ofOperation := forall_mem_map.2 fun _ _ => rfl
  pending := forall_mem_map.2 fun _ _ => rfl
  unleased := forall_mem_map.2 fun _ _ => rfl

theorem submission_ofIntent (cmd : IntentSubmitCommand) (ids : FreshIds)
    (planId planDigest correlationId : String) :
    Submission (ofIntent db cmd ids planId planDigest correlationId) (cmd.steps.zipIdx.map fun x =>
        ofPlanStep ids.operation (ids.step x.2) cmd.lookupKey x.1) where
  status := cmd.initialStatus_cases
  totalSteps := by simp [ofIntent]
  completedSteps := rfl
  failedSteps := rfl
  ofOperation := forall_mem_map.2 fun _ _ => rfl
  pending := forall_mem_map.2 fun _ _ => rfl
  unleased := forall_mem_map.2 fun _ _ => rfl

/-- `db'` is `db` after the submission of these rows. -/
structure Created (db db' : DB) (op : OperationRow) (steps : List StepRow) (ids : FreshIds)
    (extra : List (String × Json)) : Prop where
  submission : Submission op steps
  now : db'.now = db.now
  fencingSeq : db'.fencingSeq = db.fencingSeq
  leases : db'.leases = db.leases
  operations : db.operations.insert? op = some db'.operations
  stepRows : db'.steps.rows = db.steps.rows ++ steps
  readModel : ∃ intentId, db'.readModel = upsertReadModel db.readModel db.now op intentId
  outbox : db'.outbox.rows = db.outbox.rows ++ (if op.status = .queued then
    readyStepEvents db.now op steps op.initiatedBy ids extra else []).map (new db.now)

theorem created_of_createOperation {db staged db' : DB} {op : OperationRow} {steps : List StepRow}
    {ids : FreshIds} {detail : Json} {intentId : String} {extra : List (String × Json)}
    (hstaged : ∃ plans intents targets,
      staged = { db with plans := plans, intents := intents, targets := targets })
    (hsub : Submission op steps)
    (h : staged.createOperation op steps ids detail intentId extra = .ok db') :
    Created db db' op steps ids extra := by
  obtain ⟨plans, intents, targets, rfl⟩ := hstaged
  unfold DB.createOperation at h
  split at h
  · simp at h
  next operations hoperations =>
  split at h
  · simp at h
  next stepTable hsteps =>
  simp only at h
  split at h
  · simp at h
  next outbox houtbox =>
  cases h
  exact ⟨hsub, rfl, rfl, rfl, hoperations, rows_insertSteps hsteps, ⟨intentId, rfl⟩,
    rows_insertOutboxEvents houtbox⟩

/-- A submission either leaves the database alone or creates one operation with its steps. -/
theorem submitOperation_cases (sha : Sha256) (db : DB) (cmd : SubmitCommand) (ids : FreshIds) :
    (submitOperation sha db cmd ids).1 = db
    ∨ ∃ planId planDigest, Created db (submitOperation sha db cmd ids).1
        (ofCommand db cmd ids planId planDigest)
        (cmd.steps.zipIdx.map fun x =>
          ofInput ids.operation (ids.step x.2) cmd.idempotencyKey x.1 x.2) ids [] := by
  unfold submitOperation
  simp only
  split
  · exact .inl rfl
  next plans planId _ =>
  split
  · exact .inl rfl
  split
  · exact .inl rfl
  next db' h =>
  exact .inr ⟨planId, buildPlan sha cmd, created_of_createOperation
    ⟨plans, db.intents, db.targets, rfl⟩ (submission_ofCommand db cmd ids planId _) h⟩

theorem submitIntent_cases (sha : Sha256) (db : DB) (cmd : IntentSubmitCommand) (ids : FreshIds) :
    (submitIntent sha db cmd ids).1 = db
    ∨ ∃ planId planDigest correlationId,
      correlationId = (if cmd.correlationId = "" then ids.correlation else cmd.correlationId)
      ∧ Created db (submitIntent sha db cmd ids).1
        (ofIntent db cmd ids planId planDigest correlationId)
        (cmd.steps.zipIdx.map fun x =>
          ofPlanStep ids.operation (ids.step x.2) cmd.lookupKey x.1) ids
        [("correlationId", .str correlationId)] := by
  unfold submitIntent
  simp only
  split
  · exact .inl rfl
  split
  · exact .inl rfl
  split
  · exact .inl rfl
  split
  · exact .inl rfl
  next plans planId _ =>
  split
  · exact .inl rfl
  split
  · exact .inl rfl
  next intents _ =>
  split
  · exact .inl rfl
  next db' h =>
  exact .inr ⟨planId, _, _, rfl, created_of_createOperation ⟨plans, intents, _, rfl⟩
    (submission_ofIntent db cmd ids planId _ _) h⟩

variable {op : OperationRow}

theorem DB.lockOperation_eq_ok {db : DB} {id tenantId : String}
    (h : db.lockOperation id tenantId = .ok op) :
    db.operations.get? id = some op ∧ op.tenantId = tenantId := by
  unfold DB.lockOperation at h
  split at h
  · next op' hop =>
    cases h
    simpa using Option.filter_eq_some_iff.1 hop
  · simp at h

/-- `db'` is `db` after the decision on an operation. -/
inductive Decided (db : DB) (op : OperationRow) : DB → Prop where
  /-- An approval dispatches the steps that are ready. -/
  | approved (actorId reason : String) (ids : FreshIds) (outbox : Outbox)
      (waiting : op.status = .pendingApproval)
      (dispatched : outbox.rows = db.outbox.rows
        ++ (readyStepEvents db.now (op.transition db.now .queued (some actorId) reason)
          (db.readySteps op.id) actorId ids []).map (new db.now)) :
      Decided db op (db.applyDecision op .queued (some actorId) .approved actorId reason outbox)
  /-- A rejection or a cancellation ends an operation that has not started to run. -/
  | ended (approver : Option String) (eventType : AuditEventType) (actorId reason : String)
      (allowed : op.status.canTransition .cancelled = true) :
      Decided db op (db.applyDecision op .cancelled approver eventType actorId reason db.outbox)

/-- The writes of an approval that goes through. -/
structure Approved (id tenantId actorId reason : String) (ids : FreshIds) (op : OperationRow)
    (outbox : Outbox) : Prop where
  stored : db.operations.get? id = some op
  tenantId : op.tenantId = tenantId
  waiting : op.status = .pendingApproval
  dispatched : outbox.rows = db.outbox.rows
    ++ (readyStepEvents db.now (op.transition db.now .queued (some actorId) reason)
      (db.readySteps op.id) actorId ids []).map (new db.now)

theorem approveOperation_cases (id tenantId actorId reason : String) (ids : FreshIds) :
    (approveOperation db id tenantId actorId reason ids).1 = db
    ∨ ∃ op outbox, Approved db id tenantId actorId reason ids op outbox
        ∧ (approveOperation db id tenantId actorId reason ids).1
          = db.applyDecision op .queued (some actorId) .approved actorId reason outbox := by
  unfold approveOperation
  split
  · exact .inl rfl
  next op hop =>
  split
  · exact .inl rfl
  next hwaiting =>
  simp only
  split
  · exact .inl rfl
  next outbox houtbox =>
  obtain ⟨hstored, htenant⟩ := DB.lockOperation_eq_ok hop
  exact .inr ⟨op, outbox, ⟨hstored, htenant, by simpa using hwaiting,
    rows_insertOutboxEvents houtbox⟩, rfl⟩

theorem rejectOperation_cases (id tenantId actorId reason : String) :
    (rejectOperation db id tenantId actorId reason).1 = db
    ∨ ∃ op, db.operations.get? id = some op ∧ op.status.canTransition .cancelled = true
        ∧ (rejectOperation db id tenantId actorId reason).1
          = db.applyDecision op .cancelled (some actorId) .rejected actorId reason db.outbox := by
  unfold rejectOperation
  split
  · exact .inl rfl
  next op hop =>
  split
  · exact .inl rfl
  next hwaiting =>
  have hallowed : op.status.canTransition .cancelled = true := by
    rw [OperationStatus.canTransition_cancelled_iff]
    exact .inr (.inl (by simpa using hwaiting))
  exact .inr ⟨op, (DB.lockOperation_eq_ok hop).1, hallowed, rfl⟩

theorem cancelOperation_cases (id tenantId actorId reason : String) :
    (cancelOperation db id tenantId actorId reason).1 = db
    ∨ ∃ op, db.operations.get? id = some op ∧ op.status.canTransition .cancelled = true
        ∧ (cancelOperation db id tenantId actorId reason).1
          = db.applyDecision op .cancelled none .cancelled actorId reason db.outbox := by
  unfold cancelOperation
  split
  · exact .inl rfl
  next op hop =>
  split
  · exact .inl rfl
  next hallowed =>
  exact .inr ⟨op, (DB.lockOperation_eq_ok hop).1, by simpa using hallowed, rfl⟩

end HnbCloud.Operation
