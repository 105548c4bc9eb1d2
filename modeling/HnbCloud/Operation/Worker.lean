import HnbCloud.Lib.Program
import HnbCloud.Lib.Uuid
import HnbCloud.Messaging.Envelope
import HnbCloud.Operation.System

set_option autoImplicit false

/-! # The handler of step commands

`handleMessage` of operation-worker (`operation-worker/internal/nats/worker.go`) takes one delivery
of a step command: it decodes and checks the command, loads the operation and the step, takes the
lease, runs the step and commits the result. It ends by telling the broker what to do with the
message.

The handler talks to the database, the runner, the clock and the broker in several separate calls,
so it is a program over `WorkerOp`: between two calls the other workers and platform-api go on. -/

namespace HnbCloud.Operation

open Messaging Json

def maxDeliveries : Nat := 10

def consumerMaxDeliveries : Nat := maxDeliveries + 1

def stepCompletedSubject : String := "hnb.event.operation.step-completed.v1"

/-! ## The command -/

/-- `stepRequestMessage`. -/
structure StepRequest where
  (operationId stepId stepType idempotencyKey : String)
  expectedVersion : Int
  executionContext : String

/-- `json.Unmarshal(envelope.Payload, &request)`; an empty payload is no document. -/
def StepRequest.unmarshal (payload : Option Json) : Option StepRequest := do
  let data ← payload
  let fields ← data.fields?
  let operationId ← decodeText "operationId" fields
  let stepId ← decodeText "stepId" fields
  let stepType ← decodeText "stepType" fields
  let idempotencyKey ← decodeText "idempotencyKey" fields
  let expectedVersion ← decodeInt "expectedVersion" fields
  let executionContext ← decodeText "executionContext" fields
  return ⟨operationId, stepId, stepType, idempotencyKey, expectedVersion, executionContext⟩

/-- `validateStepRequest`: the error, if there is one. The source ranges over a map of the four ids,
    so which of several bad ids it names is open; the model names the first. -/
def validateStepRequest (envelope : Envelope) (request : StepRequest) : Option String :=
  if envelope.messageType ≠ stepRequestedSubject then
    some ("unexpected message type \"" ++ envelope.messageType ++ "\"")
  else if envelope.schemaVersion ≠ "1.0.0" then
    some ("unsupported schema version \"" ++ envelope.schemaVersion ++ "\"")
  else if isUuid envelope.messageId = false then some "messageId must be a UUID"
  else if isUuid envelope.correlationId = false then some "correlationId must be a UUID"
  else if isUuid request.operationId = false then some "operationId must be a UUID"
  else if isUuid request.stepId = false then some "stepId must be a UUID"
  else if envelope.tenantId = "" ∨ request.stepType = "" ∨ request.idempotencyKey = "" then
    some "tenantId, stepType, and idempotencyKey are required"
  else if envelope.occurredAt = zeroTime then some "occurredAt is required"
  else if 128 < request.idempotencyKey.utf8ByteSize then
    some "idempotencyKey exceeds 128 characters"
  else if request.expectedVersion < 0 then some "expectedVersion cannot be negative"
  else if envelope.operationId ≠ "" ∧ envelope.operationId ≠ request.operationId then
    some "envelope and payload operationId differ"
  else if envelope.stepId ≠ "" ∧ envelope.stepId ≠ request.stepId then
    some "envelope and payload stepId differ"
  else if envelope.idempotencyKey ≠ request.idempotencyKey then
    some "envelope and payload idempotencyKey differ"
  else none

/-- The command in a message, or why it is malformed. -/
def decodeCommand (data : Json) : Except String (Envelope × StepRequest) :=
  match Envelope.unmarshal data with
  | none => .error "invalid envelope JSON"
  | some envelope =>
  match StepRequest.unmarshal envelope.payload with
  | none => .error "invalid StepRequested payload"
  | some request =>
  match validateStepRequest envelope request with
  | some reason => .error reason
  | none => .ok (envelope, request)

/-- The scope of the message is the one of the operation; an empty project or environment is not
    compared. -/
def inScope (envelope : Envelope) (op : OperationRow) : Bool :=
  envelope.tenantId == op.tenantId
    && (envelope.projectId == "" || envelope.projectId == op.projectId)
    && (envelope.environmentId == "" || envelope.environmentId == op.environmentId)

/-! ## The calls of the handler -/

/-- `ExecutionContext`, without the node groups of the plan. -/
structure ExecutionContext where
  (stepId operationId tenantId projectId environmentId stepType : String)
  inputs : Json
  (providerId providerVersion providerDigest checkpoint idempotencyKey executionAttemptId : String)
  fencingGeneration : Nat
  targetClusterIds : List String

inductive ErrorCode where
  | invalidRequest
  | scopeDenied
  | unsupportedAction
  | resourceConflict
  | fenced
  | targetUnavailable
  | cancelled
  | internal
deriving DecidableEq, Repr

/-- What `executeStep` can fail with. -/
inductive ExecutionError where
  /-- A renewal of the lease found it lost. -/
  | leaseLost
  /-- A `ProviderError`, with its text. -/
  | provider (code : ErrorCode) (retryable : Bool) (text : String)
  /-- Any other error: a timeout, an error of the broker, a renewal that failed. -/
  | other (text : String)

/-- `err.Error()`. -/
def ExecutionError.text : ExecutionError → String
  | leaseLost => StoreError.leaseLost.message
  | provider _ _ text => text
  | other text => text

/-- `classifyExecutionError`: permanent, and fenced. -/
def classifyExecutionError : ExecutionError → Bool × Bool
  | .leaseLost => (false, true)
  | .provider code retryable _ => if code = .fenced then (false, true) else (!retryable, false)
  | .other _ => (false, false)

/-- What `executeStep` returns. -/
structure Execution where
  outputs : Option (List (String × String))
  checkpoint : String
  error : Option ExecutionError

/-- The outputs in the result of a step: no map is `null`. -/
def Execution.outputsJson (outputs : Option (List (String × String))) : Json :=
  match outputs with
  | none => .null
  | some outputs => stringMap outputs

/-- The calls of the handler. The renewals of the lease while a step runs are requests of the
    worker like any other and not part of the handler's own sequence. -/
inductive WorkerOp where
  | getOperation (id : String)
  | getStepState (operationId stepId : String)
  | dependenciesSatisfied (operationId : String) (dependsOn : List String)
  | acquireLease (operationId stepId ownerId : String) (expectedVersion duration : Int)
  | execute (context : ExecutionContext)
  | saveStepRetry (operationId stepId ownerId : String) (lease : Lease) (expectedVersion : Int)
      (result : StepResult)
  | commitStepSuccess (operationId stepId idempotencyKey ownerId : String) (lease : Lease)
      (expectedVersion : Int) (result : StepResult) (event : OutboxEvent)
  | commitStepFailure (operationId stepId idempotencyKey ownerId : String) (lease : Lease)
      (expectedVersion : Int) (result : StepResult) (event failedEvent : OutboxEvent)
  /-- `time.Now()`. -/
  | now
  /-- `uuid.NewString()`. -/
  | newUuid
  /-- Publish on the failed subject. -/
  | publishFailed (message : Message)

/-- What a call answers. -/
abbrev WorkerOp.Reply : WorkerOp → Type
  | getOperation .. => Except StoreError OperationRow
  | getStepState .. => Except StoreError StepRow
  | dependenciesSatisfied .. => Except StoreError Bool
  | acquireLease .. => Except StoreError Lease
  | execute .. => Execution
  | saveStepRetry .. => Except StoreError Unit
  | commitStepSuccess .. => Except StoreError Unit
  | commitStepFailure .. => Except StoreError Unit
  | now => Int
  | newUuid => String
  | publishFailed .. => Bool

/-- What the handler tells the broker about the message. -/
inductive Disposition where
  | ack
  | nak (delay : Int)
  | term (reason : String)
deriving DecidableEq, Repr

/-- The message leaves the queue. -/
def Disposition.removes : Disposition → Bool
  | ack => true
  | nak _ => false
  | term _ => true

abbrev HandlerProgram := Program WorkerOp WorkerOp.Reply Disposition

/-! ## handleMessage -/

/-- One delivery of a message. -/
structure Delivery where
  stream : String
  /-- The sequence of the message in the stream. -/
  seq : Nat
  subject : String
  data : Json
  /-- `metadata.NumDelivered`, when the delivery has metadata. -/
  numDelivered : Option Nat

structure Worker where
  workerId : String
  leaseDur : Int
  hasRunner : Bool

/-- The encodings the handler uses: base64 of the message, and the name-based UUID of a text. -/
structure Encoding where
  base64 : Json → String
  uuidSha1 : String → String

section Handler

variable (enc : Encoding) (worker : Worker) (delivery : Delivery)

/-- `failedMessageIdentity`: the id of the failed message, and how often this one was delivered. -/
def failedMessageIdentity : String × Nat :=
  match delivery.numDelivered with
  | none => (enc.uuidSha1 (delivery.subject ++ ":" ++ enc.base64 delivery.data), 1)
  | some n => (enc.uuidSha1 (delivery.stream ++ ":" ++ toString delivery.seq), n)

/-- `"hnb.failed." + strings.TrimPrefix(subject, "hnb.")`. -/
def failedSubject (subject : String) : String :=
  if "hnb.".toList.isPrefixOf subject.toList then
    "hnb.failed." ++ String.ofList (subject.toList.drop 4)
  else "hnb.failed." ++ subject

/-- The message that isolates a delivery on the failed subject. -/
def failedMessage (failedAt : Int) (reason : String) : Message :=
  let identity := failedMessageIdentity enc delivery
  { subject := failedSubject delivery.subject
    msgId := identity.1
    data := .obj [("failedMessageId", .str identity.1), ("originalSubject", .str delivery.subject),
      ("failedAt", .str (toString failedAt)), ("failureReason", .str reason),
      ("deliveryAttempts", .num identity.2), ("messageBase64", .str (enc.base64 delivery.data))] }

def failPermanently (reason : String) : HandlerProgram :=
  .call .now fun failedAt =>
  .call (.publishFailed (failedMessage enc delivery failedAt reason)) fun published =>
  if published then .done (.term "published to failed subject") else .done (.nak 0)

def retryOrFailAfter (cause : String) (delay : Int) : HandlerProgram :=
  if delivery.numDelivered.any (maxDeliveries ≤ ·) then failPermanently enc delivery cause
  else .done (.nak delay)

def retryOrFail (cause : String) : HandlerProgram := retryOrFailAfter enc delivery cause 0

variable (op : OperationRow) (step : StepRow) (envelope : Envelope) (request : StepRequest)
  (lease : Lease)

/-- The two events of a terminal failure have these columns in common with the event of a
    success. -/
def completionEvent (messageId messageType idempotencyKey : String) (occurredAt : Int)
    (payload : Json) : OutboxEvent where
  messageId := messageId
  messageType := messageType
  schemaVersion := "1.0.0"
  subject := messageType
  occurredAt := occurredAt
  tenantId := op.tenantId
  projectId := op.projectId
  environmentId := op.environmentId
  actorId := worker.workerId
  correlationId := envelope.correlationId
  causationId := envelope.messageId
  idempotencyKey := idempotencyKey
  aggregateId := request.operationId
  aggregateVersion := none
  operationId := request.operationId
  stepId := request.stepId
  expectedVersion := some (request.expectedVersion + 1)
  payload := payload

/-- The `SaveStepRetry` of a failed execution that has retries left. -/
def saveRetry (result : StepResult) : HandlerProgram :=
  .call (.saveStepRetry request.operationId request.stepId worker.workerId lease
    request.expectedVersion result) fun
  | .error err =>
    retryOrFailAfter enc delivery ("persist step retry: " ++ err.message) worker.leaseDur
  | .ok () => .done (.nak 0)

/-- The `CommitStepFailure` of an execution that has failed for good. -/
def commitFailure (completedAt : Int) (cause : String) (result : StepResult) : HandlerProgram :=
  let identity := failedMessageIdentity enc delivery
  .call .newUuid fun eventId =>
  .call (.commitStepFailure request.operationId request.stepId request.idempotencyKey
    worker.workerId lease request.expectedVersion result
    (completionEvent worker op envelope request eventId stepCompletedSubject
      ("step-failed:" ++ request.stepId) completedAt
      (.obj [("operationId", .str request.operationId), ("stepId", .str request.stepId),
        ("status", .str StepStatus.failed.text), ("error", .str cause)]))
    (completionEvent worker op envelope request identity.1 (failedSubject delivery.subject)
      ("failed-message:" ++ identity.1) completedAt
      (.obj [("originalSubject", .str delivery.subject), ("failedAt", .str (toString completedAt)),
        ("failureReason", .str cause), ("deliveryAttempts", .num identity.2),
        ("messageBase64", .str (enc.base64 delivery.data))]))) fun
  | .ok () => .done (.term "terminal failure persisted to outbox")
  | .error .stepAlreadyCompleted => .done .ack
  | .error err =>
    if consumerMaxDeliveries ≤ identity.2 then
      failPermanently enc delivery ("persist terminal step failure: " ++ err.message)
    else .done (.nak worker.leaseDur)

/-- `failStepExecution`: a retry as long as the error is not permanent, the step has retries left
    and the message deliveries, and a terminal failure otherwise. -/
def failStepExecution (startedAt : Int) (outputs : Option (List (String × String)))
    (checkpoint cause : String) (permanent : Bool) : HandlerProgram :=
  .call .now fun completedAt =>
  let result : StepResult :=
    { outputs := Execution.outputsJson outputs, checkpoint := checkpoint, errorMessage := cause,
      startedAt := startedAt, completedAt := completedAt }
  if permanent = false ∧ step.retryCount < step.maxRetries
      ∧ (failedMessageIdentity enc delivery).2 < maxDeliveries then
    saveRetry enc worker delivery request lease result
  else commitFailure enc worker delivery op envelope request lease completedAt cause result

/-- The end of an execution that has succeeded. -/
def commitSuccess (startedAt : Int) (execution : Execution) : HandlerProgram :=
  .call .now fun completedAt =>
  .call .newUuid fun eventId =>
  .call (.commitStepSuccess request.operationId request.stepId request.idempotencyKey
    worker.workerId lease request.expectedVersion
    { outputs := Execution.outputsJson execution.outputs, checkpoint := execution.checkpoint,
      errorMessage := "", startedAt := startedAt, completedAt := completedAt }
    (completionEvent worker op envelope request eventId stepCompletedSubject
      ("step-completed:" ++ request.stepId) completedAt
      (.obj [("operationId", .str request.operationId), ("stepId", .str request.stepId),
        ("status", .str StepStatus.succeeded.text)]))) fun
  | .ok () => .done .ack
  | .error .stepAlreadyCompleted => .done .ack
  | .error .stepVersionMismatch => .done .ack
  | .error err => retryOrFail enc delivery err.message

def executionContext : ExecutionContext where
  stepId := request.stepId
  operationId := request.operationId
  tenantId := op.tenantId
  projectId := op.projectId
  environmentId := op.environmentId
  stepType := step.stepType
  inputs := step.stepInput
  providerId := step.providerId
  providerVersion := step.providerVersion
  providerDigest := step.providerDigest
  checkpoint := step.checkpoint
  idempotencyKey := request.idempotencyKey
  executionAttemptId := lease.id
  fencingGeneration := lease.generation
  targetClusterIds := op.targetClusterIds

def runStep (dependenciesSatisfied : Bool) (lease : Lease) : HandlerProgram :=
  .call .now fun startedAt =>
  if dependenciesSatisfied = false then
    failStepExecution enc worker delivery op step envelope request lease startedAt none ""
      "step was dispatched before its prerequisites succeeded" true
  else if worker.hasRunner = false then
    failStepExecution enc worker delivery op step envelope request lease startedAt none ""
      "no runtime step runner is configured" true
  else
  .call (.execute (executionContext op step request lease)) fun execution =>
  match execution.error with
  | none => commitSuccess enc worker delivery op envelope request lease startedAt execution
  | some err =>
    let (permanent, fenced) := classifyExecutionError err
    if fenced then retryOrFailAfter enc delivery err.text worker.leaseDur
    else failStepExecution enc worker delivery op step envelope request lease startedAt
      execution.outputs execution.checkpoint err.text permanent

/-- The step of a command, once the operation has been found runnable and in scope. -/
def handleStep : HandlerProgram :=
  .call (.getStepState request.operationId request.stepId) fun
  | .error err => retryOrFail enc delivery ("load step: " ++ err.message)
  | .ok step =>
  if step.status = .succeeded then .done .ack
  else if step.idempotencyKey ≠ request.idempotencyKey
      ∨ (step.version : Int) ≠ request.expectedVersion then .done .ack
  else if step.stepType ≠ request.stepType then
    failPermanently enc delivery "message stepType does not match authoritative step type"
  else
  .call (.dependenciesSatisfied request.operationId step.dependsOn) fun
  | .error err => retryOrFail enc delivery err.message
  | .ok satisfied =>
  .call (.acquireLease request.operationId request.stepId worker.workerId request.expectedVersion
    worker.leaseDur) fun
  | .ok lease => runStep enc worker delivery op step envelope request satisfied lease
  | .error .leaseNotAcquired =>
    retryOrFailAfter enc delivery StoreError.leaseNotAcquired.message worker.leaseDur
  | .error err => retryOrFail enc delivery err.message

def handleMessage : HandlerProgram :=
  match decodeCommand delivery.data with
  | .error reason => failPermanently enc delivery reason
  | .ok (envelope, request) =>
  .call (.getOperation request.operationId) fun
  | .error err => retryOrFail enc delivery ("load operation: " ++ err.message)
  | .ok op =>
  if op.status.isTerminal then .done .ack
  else if op.status.isRunnable = false then
    retryOrFail enc delivery
      ("operation " ++ op.id ++ " is not runnable in state " ++ op.status.text)
  else if inScope envelope op = false then
    failPermanently enc delivery "message scope does not match authoritative operation scope"
  else handleStep enc worker delivery op envelope request

end Handler

end HnbCloud.Operation
