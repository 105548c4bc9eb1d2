import HnbCloud.Gslb.Plan
import HnbCloud.Iam.Authorization
import HnbCloud.Lib.Program
import HnbCloud.Messaging.Outbox

set_option autoImplicit false

/-! # The traffic service of the API server

`apiserver/internal/application/gslb/service.go`: the submission of an intent and the decision on the
switch request it creates. Each call of the repository is a query or a transaction of its own, so
the service is a program over `RepoOp`: other requests go on between two of its calls. -/

namespace HnbCloud.Gslb

open Messaging Iam

/-! ## What is stored -/

/-- `gslb_switch_requests.status`. -/
inductive RequestStatus where
  | pendingApproval
  | approved
  | rejected
  | dispatched
  | succeeded
  | failed
  | drillCompleted
deriving DecidableEq, Repr

def RequestStatus.text : RequestStatus → String
  | pendingApproval => "PendingApproval"
  | approved => "Approved"
  | rejected => "Rejected"
  | dispatched => "Dispatched"
  | succeeded => "Succeeded"
  | failed => "Failed"
  | drillCompleted => "DrillCompleted"

/-- `Service`, without its name, mode and life cycle. -/
structure Service where
  (id tenantId domain activePoolId : String)
  requireApproval : Bool

structure SwitchRequest where
  (id tenantId serviceId intentKind intentDigest : String)
  planSnapshot : Json
  (idempotencyKey correlationId : String)
  requireApproval : Bool
  status : RequestStatus
  (operationId drGroupRef actorId approvedBy : String)
  approvedAt : Option Int
  (reason error : String)
  (createdAt updatedAt : Int)

/-- The conclusion of a drill. -/
inductive DrillVerdict where
  | ready
  | degraded
  | blocked
deriving DecidableEq, Repr

/-- `DrillCheck`, without its detail. -/
structure DrillCheck where
  name : String
  passed : Bool

/-- `DrillReport` with its payload. -/
structure DrillReport where
  (id tenantId serviceId requestId domain activePoolId targetPoolId : String)
  (currentTargets projectedTargets : List String)
  projectedWeights : List (String × Int)
  healthyPools : List String
  checks : List DrillCheck
  verdict : DrillVerdict
  createdAt : Int

/-! ## Events -/

def eventIntentSubmitted : String := "hnb.event.gslb.intent-submitted.v1"

def eventStatusChanged : String := "hnb.event.gslb.status-changed.v1"

def commandStepRequested : String := "hnb.event.gslb.step-requested.v1"

/-- `OutboxEvent` of the service. Its subject is its type. -/
structure Event where
  (messageId messageType tenantId actorId correlationId idempotencyKey aggregateId : String)
  payload : Json

/-- The row that `insertOutboxEvent` writes. -/
def Event.toOutbox (now : Int) (event : Event) : OutboxEvent where
  messageId := event.messageId
  messageType := event.messageType
  schemaVersion := "v1"
  subject := event.messageType
  occurredAt := now
  tenantId := event.tenantId
  projectId := ""
  environmentId := ""
  actorId := event.actorId
  correlationId := event.correlationId
  causationId := ""
  idempotencyKey := event.idempotencyKey
  aggregateId := event.aggregateId
  aggregateVersion := some 0
  operationId := ""
  stepId := ""
  expectedVersion := none
  payload := event.payload

def submittedEvent (sha : String → String) (messageId : String) (intent : Intent)
    (trusted : TrustedContext) (requestId : String) : Event where
  messageId := messageId
  messageType := eventIntentSubmitted
  tenantId := trusted.tenantId
  actorId := trusted.subjectId
  correlationId := intent.correlationId
  idempotencyKey := "gslb-submit-" ++ intent.idempotencyKey
  aggregateId := intent.serviceId
  payload := .obj [("requestId", .str requestId), ("serviceId", .str intent.serviceId),
    ("kind", .str intent.kind.text), ("digest", .str (intent.semanticDigest sha)),
    ("tenantId", .str trusted.tenantId), ("drGroupRef", .str intent.drGroupRef)]

def statusChangedEvent (messageId : String) (request : SwitchRequest) (toStatus : RequestStatus)
    (trusted : TrustedContext) : Event where
  messageId := messageId
  messageType := eventStatusChanged
  tenantId := request.tenantId
  actorId := trusted.subjectId
  correlationId := request.correlationId
  idempotencyKey := "gslb-status-" ++ request.id ++ "-" ++ toStatus.text
  aggregateId := request.serviceId
  payload := .obj [("requestId", .str request.id), ("serviceId", .str request.serviceId),
    ("status", .str toStatus.text), ("intentKind", .str request.intentKind),
    ("operationId", .str request.operationId), ("drGroupRef", .str request.drGroupRef)]

/-- `stepRequestedEvent`: the command to execute a plan. With an intent, its correlation and key are
    used, and those of the request otherwise. -/
def stepRequestedEvent (messageId : String) (plan : Json) (intent : Option Intent)
    (trusted : TrustedContext) (request : SwitchRequest) : Event where
  messageId := messageId
  messageType := commandStepRequested
  tenantId := request.tenantId
  actorId := trusted.subjectId
  correlationId := (intent.map Intent.correlationId).getD request.correlationId
  idempotencyKey :=
    "gslb-dispatch-" ++ (intent.map Intent.idempotencyKey).getD request.idempotencyKey
  aggregateId := request.serviceId
  payload := .obj [("requestId", .str request.id), ("serviceId", .str request.serviceId),
    ("operationId", .str request.operationId), ("plan", plan),
    ("intentKind", .str request.intentKind)]

/-! ## The calls of the service -/

/-- The calls of the repository, the clock and the UUID generator. -/
inductive RepoOp where
  | getService (id tenantId : String)
  | getPoolMemberClusterIds (poolId : String)
  | getSwitchRequestByKey (tenantId serviceId idempotencyKey : String)
  | getSwitchRequest (id tenantId : String)
  /-- `GetReadModel`, of which the healthy pools are used. -/
  | getReadModel (id tenantId : String)
  | createSwitchRequest (request : SwitchRequest) (drill : Option DrillReport) (events : List Event)
  /-- `UpdateSwitchRequestStatus`, with the two fields that the service sets. -/
  | updateSwitchRequestStatus (id : String) (status : RequestStatus) (approvedBy : String)
      (approvedAt : Int) (events : List Event)
  | now
  | newUuid

/-- What a call answers; an error is its text. -/
abbrev RepoOp.Reply : RepoOp → Type
  | getService .. => Except String (Option Service)
  | getPoolMemberClusterIds .. => Except String (List String)
  | getSwitchRequestByKey .. => Except String (Option SwitchRequest)
  | getSwitchRequest .. => Except String (Option SwitchRequest)
  | getReadModel .. => Except String (Option (List String))
  | createSwitchRequest .. => Except String Unit
  | updateSwitchRequestStatus .. => Except String Unit
  | now => Int
  | newUuid => String

/-- The errors of the service. -/
inductive AppError where
  | notFound
  | forbidden
  | invalid (text : String)
  | planning (text : String)
  | repository (text : String)
deriving DecidableEq, Repr

def AppError.text : AppError → String
  | notFound => "gslb service not found"
  | forbidden => "gslb forbidden"
  | invalid text => "gslb invalid: " ++ text
  | planning text => text
  | repository text => text

/-- A program of the service. -/
abbrev AppProgram := Program RepoOp RepoOp.Reply (Except AppError SwitchRequest)

def hasPermission (trusted : TrustedContext) (resource : String) (action : Action) : Bool :=
  trusted.scopedPermissions.any fun permission =>
    permission.tenantId == trusted.tenantId && permission.action == action
      && (permission.resourceKind == resource || permission.resourceKind == "*")

def resourceGslb : String := "gslb"

section Submit

variable (sha : String → String) (intent : Intent) (service : Service) (trusted : TrustedContext)

/-! ## SubmitIntent -/

/-- The members of a pool that is named, and of no pool otherwise. -/
def poolMembers (wanted : Bool) (poolId : String) (next : List String → AppProgram) : AppProgram :=
  if wanted then
    .call (.getPoolMemberClusterIds poolId) fun
    | .error err => .done (.error (.repository err))
    | .ok targets => next targets
  else next []

/-- `buildPlan`: the members of the target pool are the targets, those of the active pool the
    targets to go back to. -/
def buildPlan (next : Plan → AppProgram) : AppProgram :=
  poolMembers (intent.targetPoolId != "") intent.targetPoolId fun targets =>
  poolMembers (service.activePoolId != "" && service.activePoolId != intent.targetPoolId)
    service.activePoolId fun previous =>
  match intent.buildPlan sha
      { serviceId := intent.serviceId, tenantId := intent.tenantId, domain := service.domain,
        targetPoolId := intent.targetPoolId, targets := targets, weights := intent.weights,
        previousTargets := previous } with
  | .error err => .done (.error (.planning err))
  | .ok plan => next plan

/-- The checks and the verdict of a drill. -/
def drillConclusion (currentTargets projectedTargets healthyPools : List String) :
    List DrillCheck × DrillVerdict :=
  let checks : List DrillCheck :=
    [{ name := "target-pool-selected", passed := intent.targetPoolId != "" },
     { name := "target-pool-has-members"
       passed := intent.targetPoolId == "" || !projectedTargets.isEmpty },
     { name := "current-targets-known"
       passed := service.activePoolId == "" || !currentTargets.isEmpty }]
  if checks.all DrillCheck.passed = false then (checks, .blocked)
  else if intent.targetPoolId ≠ "" ∧ healthyPools ≠ [] ∧ intent.targetPoolId ∉ healthyPools then
    (checks ++ [{ name := "target-pool-healthy", passed := false }], .degraded)
  else (checks, .ready)

def buildDrillReport (requestId : String) (now : Int) (next : DrillReport → AppProgram) :
    AppProgram :=
  poolMembers (service.activePoolId != "") service.activePoolId fun currentTargets =>
  poolMembers (intent.targetPoolId != "") intent.targetPoolId fun projectedTargets =>
  .call (.getReadModel service.id service.tenantId) fun
  | .error err => .done (.error (.repository err))
  | .ok model =>
  let healthyPools := model.getD []
  let (checks, verdict) :=
    drillConclusion intent service currentTargets projectedTargets healthyPools
  .call .newUuid fun id =>
  next
    { id := id, tenantId := service.tenantId, serviceId := service.id, requestId := requestId,
      domain := service.domain, activePoolId := service.activePoolId,
      targetPoolId := intent.targetPoolId, currentTargets := currentTargets,
      projectedTargets := projectedTargets, projectedWeights := intent.weights,
      healthyPools := healthyPools, checks := checks, verdict := verdict, createdAt := now }

/-- The drill report of a drill, and none of another intent. -/
def drillReportFor (requestId : String) (now : Int) (next : Option DrillReport → AppProgram) :
    AppProgram :=
  if intent.isDrill then
    buildDrillReport intent service requestId now fun report => next (some report)
  else next none

/-- The approval an intent needs: what its kind and the service say, and always for the switchback
    of a disaster recovery group. -/
def approvalRequired : Bool :=
  (intent.requiresApproval && service.requireApproval)
    || (intent.drGroupRef != "" && intent.kind == .switchback)

def submittedStatus : RequestStatus :=
  if intent.isDrill then .drillCompleted
  else if approvalRequired intent service then .pendingApproval
  else .approved

/-- The request that a submission creates. -/
def newRequest (plan : Json) (now : Int) (id operationId : String) : SwitchRequest where
  id := id
  tenantId := trusted.tenantId
  serviceId := intent.serviceId
  intentKind := intent.kind.text
  intentDigest := intent.semanticDigest sha
  planSnapshot := plan
  idempotencyKey := intent.idempotencyKey
  correlationId := intent.correlationId
  requireApproval := approvalRequired intent service
  status := submittedStatus intent service
  operationId := operationId
  drGroupRef := intent.drGroupRef
  actorId := trusted.subjectId
  approvedBy := ""
  approvedAt := none
  reason := intent.reason
  error := ""
  createdAt := now
  updatedAt := now

/-- The events of a submission: a request that needs no approval and can be executed is dispatched
    at once. -/
def submissionEvents (request : SwitchRequest) (submittedId commandId : String) : List Event :=
  submittedEvent sha submittedId intent trusted request.id
    :: if request.status = .approved ∧ intent.isExecutable = true then
        [stepRequestedEvent commandId request.planSnapshot (some intent) trusted request]
      else []

/-- The part of `SubmitIntent` after the plan has been made. -/
def createRequest (plan : Plan) : AppProgram :=
  .call .now fun now =>
  .call .newUuid fun id =>
  .call .newUuid fun operationId =>
  let request := newRequest sha intent service trusted plan.marshal now id operationId
  drillReportFor intent service id now fun drill =>
  .call .newUuid fun submittedId =>
  .call .newUuid fun commandId =>
  .call (.createSwitchRequest request drill
    (submissionEvents sha intent trusted request submittedId commandId)) fun
  | .error err => .done (.error (.repository err))
  | .ok () => .done (.ok request)

def submitIntent (body : Json) (pathServiceId : String) (trusted : TrustedContext) : AppProgram :=
  match parseIntent body with
  | .error err => .done (.error (.invalid err))
  | .ok intent =>
  if intent.serviceId ≠ pathServiceId then .done (.error (.invalid "serviceId mismatch"))
  else if intent.tenantId ≠ trusted.tenantId then .done (.error (.invalid "tenantId mismatch"))
  else if hasPermission trusted resourceGslb .execute = false then .done (.error .forbidden)
  else
  .call (.getService pathServiceId trusted.tenantId) fun
  | .error err => .done (.error (.repository err))
  | .ok none => .done (.error .notFound)
  | .ok (some service) =>
  .call (.getSwitchRequestByKey trusted.tenantId pathServiceId intent.idempotencyKey) fun
  | .error err => .done (.error (.repository err))
  | .ok (some existing) => .done (.ok existing)
  | .ok none =>
  buildPlan sha intent service fun plan => createRequest sha intent service trusted plan

end Submit

section Decide

variable (requestId : String) (trusted : TrustedContext)

/-! ## Approve and Reject -/

/-- The events of a decision; an approval dispatches the plan. -/
def decisionEvents (request : SwitchRequest) (toStatus : RequestStatus) (dispatch : Bool)
    (trusted : TrustedContext) (changedId commandId : String) : List Event :=
  statusChangedEvent changedId request toStatus trusted
    :: if toStatus = .approved ∧ dispatch = true then
        [stepRequestedEvent commandId request.planSnapshot none trusted request]
      else []

/-- `transition`: the status is read and checked in a query of its own. -/
def transition (toStatus : RequestStatus) (dispatch : Bool) : AppProgram :=
  if hasPermission trusted resourceGslb .update = false then .done (.error .forbidden)
  else
  .call (.getSwitchRequest requestId trusted.tenantId) fun
  | .error err => .done (.error (.repository err))
  | .ok none => .done (.error .notFound)
  | .ok (some request) =>
  if request.status ≠ .pendingApproval then
    .done (.error (.invalid ("cannot transition from " ++ request.status.text)))
  else
  .call .now fun approvedAt =>
  .call .newUuid fun changedId =>
  .call .newUuid fun commandId =>
  .call (.updateSwitchRequestStatus requestId toStatus trusted.subjectId approvedAt
    (decisionEvents request toStatus dispatch trusted changedId commandId)) fun
  | .error err => .done (.error (.repository err))
  | .ok () => .done (.ok { request with status := toStatus })

def approve : AppProgram :=
  transition requestId trusted .approved true

def reject : AppProgram :=
  transition requestId trusted .rejected false

end Decide

/-! ## The operations of a call -/

/-- The operations that a submission makes whatever it is about. -/
def RepoOp.isPlain : RepoOp → Bool
  | getService .. | getPoolMemberClusterIds _ | getReadModel .. | now | newUuid => true
  | _ => false

section Within

variable {P : RepoOp → Prop} {A : (op : RepoOp) → op.Reply → Prop}
  (hplain : ∀ op, op.isPlain = true → P op)
include hplain

theorem within_poolMembers {wanted : Bool} {poolId : String} {next : List String → AppProgram}
    (h : ∀ targets, (next targets).Within P A) : (poolMembers wanted poolId next).Within P A := by
  unfold poolMembers
  split
  · refine ⟨hplain _ rfl, fun answer _ => ?_⟩
    cases answer with
    | error => trivial
    | ok targets => exact h targets
  · exact h []

variable {requestId : String}

theorem within_drillReportFor {intent : Intent} {service : Service} {now : Int}
    {next : Option DrillReport → AppProgram} (h : ∀ report, (next report).Within P A) :
    (drillReportFor intent service requestId now next).Within P A := by
  unfold drillReportFor
  split
  · refine within_poolMembers hplain fun current => within_poolMembers hplain fun projected => ?_
    refine ⟨hplain _ rfl, fun answer _ => ?_⟩
    cases answer with
    | error => trivial
    | ok => exact ⟨hplain _ rfl, fun id _ => h _⟩
  · exact h none

variable {trusted : TrustedContext}

/-- A submission looks for a request with its key, and creates one. -/
theorem within_submitIntent {sha : String → String} {body : Json} {pathServiceId : String}
    (hkey : ∀ key, P (.getSwitchRequestByKey trusted.tenantId pathServiceId key))
    (hcreate : ∀ intent service plan now id operationId drill submittedId commandId,
      parseIntent body = .ok intent → intent.serviceId = pathServiceId →
      A .newUuid id → A .newUuid submittedId → A .newUuid commandId →
      let request := newRequest sha intent service trusted plan now id operationId
      P (.createSwitchRequest request drill
        (submissionEvents sha intent trusted request submittedId commandId))) :
    (submitIntent sha body pathServiceId trusted).Within P A := by
  unfold submitIntent
  split
  · trivial
  next intent hintent =>
  split
  · trivial
  next hpath =>
  split
  · trivial
  split
  · trivial
  refine ⟨hplain _ rfl, fun answer _ => ?_⟩
  rcases answer with err | _ | service
  · trivial
  · trivial
  refine ⟨hkey _, fun answer _ => ?_⟩
  rcases answer with err | _ | existing
  · trivial
  swap
  · trivial
  refine within_poolMembers hplain fun targets => within_poolMembers hplain fun previous => ?_
  split
  · trivial
  next plan _ =>
  refine ⟨hplain _ rfl, fun now _ => ⟨hplain _ rfl, fun id hid => ⟨hplain _ rfl, fun operationId _ =>
    within_drillReportFor hplain fun drill => ⟨hplain _ rfl, fun submittedId hsubmitted =>
      ⟨hplain _ rfl, fun commandId hcommand => ⟨?_, fun answer _ => ?_⟩⟩⟩⟩⟩⟩
  · exact hcreate intent service _ now id operationId drill submittedId commandId hintent
      (not_not.1 hpath) hid hsubmitted hcommand
  · cases answer <;> trivial

/-- A decision reads the request, and updates it. -/
theorem within_transition {toStatus : RequestStatus}
    {dispatch : Bool} (hget : P (.getSwitchRequest requestId trusted.tenantId))
    (hupdate : ∀ request approvedAt changedId commandId,
      A (.getSwitchRequest requestId trusted.tenantId) (.ok (some request)) →
      A .newUuid changedId → A .newUuid commandId →
      P (.updateSwitchRequestStatus requestId toStatus trusted.subjectId approvedAt
        (decisionEvents request toStatus dispatch trusted changedId commandId))) :
    (transition requestId trusted toStatus dispatch).Within P A := by
  unfold transition
  split
  · trivial
  refine ⟨hget, fun answer hanswer => ?_⟩
  rcases answer with err | _ | request
  · trivial
  · trivial
  dsimp only
  split
  · trivial
  refine ⟨hplain _ rfl, fun approvedAt _ => ⟨hplain _ rfl, fun changedId hchanged => ⟨hplain _ rfl,
    fun commandId hcommand => ⟨?_, fun answer _ => ?_⟩⟩⟩⟩
  · exact hupdate request approvedAt changedId commandId hanswer hchanged hcommand
  · cases answer <;> trivial

end Within

end HnbCloud.Gslb
