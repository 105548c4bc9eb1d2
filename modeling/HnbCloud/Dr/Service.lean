import HnbCloud.Gslb.Service
import HnbCloud.Lib.Text

set_option autoImplicit false

/-! # Disaster recovery

`apiserver/internal/application/dr/service.go`: a protection group has members, which are traffic
services or references to a data layer. A switch of a group is a run: its data layer is confirmed
first, if it has one, and then an intent is submitted to the traffic service for each of the traffic
members. A run ends with the requests that it has caused: `ListRuns` derives its final status from
theirs, and nothing stores it.

The id of a group is a text in a request and a value in the database. A run that a request has begun
keeps the text, and hands it to the traffic service.

As for the traffic service, each call of the repository is a query or a transaction of its own. The
calls that a submission makes are those of `Gslb.submitIntent`, and are marked with the run that they
are made for. -/

namespace HnbCloud.Dr

open Iam Gslb

/-! ## What is stored -/

/-- `dr_switch_runs.status`. -/
inductive RunStatus where
  | dataLayerPending
  | dataLayerCompleted
  | trafficDispatched
  | awaitingApproval
  | completed
  | failed
  | cancelled
deriving DecidableEq, Repr

def RunStatus.text : RunStatus → String
  | dataLayerPending => "DataLayerPending"
  | dataLayerCompleted => "DataLayerCompleted"
  | trafficDispatched => "TrafficDispatched"
  | awaitingApproval => "AwaitingApproval"
  | completed => "Completed"
  | failed => "Failed"
  | cancelled => "Cancelled"

/-- The statuses that `InitiateSwitch` takes for a run in progress. -/
def RunStatus.active : RunStatus → Bool
  | dataLayerPending | dataLayerCompleted | trafficDispatched | awaitingApproval => true
  | _ => false

inductive MemberType where
  | gslbService
  | dataLayer
deriving DecidableEq, Repr

def MemberType.ofText? : String → Option MemberType
  | "gslb_service" => some gslbService
  | "data_layer_ref" => some dataLayer
  | _ => none

inductive Direction where
  | failover
  | switchback
deriving DecidableEq, Repr

def Direction.text : Direction → String
  | failover => "failover"
  | switchback => "switchback"

def Direction.ofText? : String → Option Direction
  | "failover" => some failover
  | "switchback" => some switchback
  | _ => none

structure Group where
  (id tenantId name primaryRegion standbyRegion lifecycleState : String)
  (createdAt updatedAt : Int)
deriving DecidableEq, Repr

structure Member where
  (id groupId : String)
  memberType : MemberType
  (refId name : String)
  createdAt : Int
deriving DecidableEq, Repr

structure SwitchRun where
  (id groupId tenantId : String)
  direction : Direction
  status : RunStatus
  (idempotencyKey correlationId operationId : String)
  trafficRequestIds : List String
  (reason error actorId : String)
  (createdAt updatedAt : Int)
deriving DecidableEq, Repr

/-- The row of a run. -/
def SwitchRun.stored (run : SwitchRun) : SwitchRun := { run with groupId := uuidText run.groupId }

/-! ## Events -/

def eventSwitchInitiated : String := "hnb.event.dr.switch-initiated.v1"

def eventDataLayerConfirmed : String := "hnb.event.dr.data-layer-confirmed.v1"

def eventTrafficDispatched : String := "hnb.event.dr.traffic-dispatched.v1"

def eventRunStatusChanged : String := "hnb.event.dr.run-status-changed.v1"

/-- The row that `insertOutboxEvent` writes for `newEvent`. -/
def newEvent (messageId subject : String) (run : SwitchRun) (trusted : TrustedContext)
    (extra : List (String × Json)) (occurredAt : Int) : Messaging.OutboxEvent where
  messageId := messageId
  messageType := subject
  schemaVersion := "v1"
  subject := subject
  occurredAt := occurredAt
  tenantId := trusted.tenantId
  projectId := ""
  environmentId := ""
  actorId := trusted.subjectId
  correlationId := run.correlationId
  causationId := ""
  idempotencyKey := "dr-" ++ run.id ++ "-" ++ subject
  aggregateId := run.groupId
  aggregateVersion := some 1
  operationId := ""
  stepId := ""
  expectedVersion := none
  payload := .obj ([("runId", .str run.id), ("groupId", .str run.groupId),
    ("operationId", .str run.operationId)] ++ extra)

/-- An event, up to the time at which it is written. -/
abbrev PendingEvent := Int → Messaging.OutboxEvent

/-! ## The calls of the service -/

/-- The columns that `UpdateRun` sets besides the status. -/
structure RunFields where
  trafficRequestIds : Option (List String) := none
  error : Option String := none

/-- The calls of the repository, of the traffic service, the clock and the UUID generator. -/
inductive DrOp where
  | createGroup (group : Group)
  | getGroup (id tenantId : String)
  | listGroups (tenantId : String)
  | addMember (member : Member)
  | listMembers (groupId : String)
  | getGslbBackupPool (serviceId activePoolId : String)
  | getGslbPrimaryPool (serviceId : String)
  | getRunByKey (groupId idempotencyKey : String)
  | getRun (id tenantId : String)
  | createRun (run : SwitchRun) (events : List PendingEvent)
  | updateRun (id : String) (status : RunStatus) (fields : RunFields) (events : List PendingEvent)
  | listRuns (groupId tenantId : String)
  | trafficRequestStatuses (requestIds : List String)
  /-- A call of the traffic service for a run. -/
  | gslb (run : SwitchRun) (op : RepoOp)
  | now
  | newUuid

/-- What a call answers; an error is its text. -/
abbrev DrOp.Reply : DrOp → Type
  | createGroup .. => Except String Unit
  | getGroup .. => Except String (Option Group)
  | listGroups .. => Except String (List Group)
  | addMember .. => Except String Unit
  | listMembers .. => Except String (List Member)
  | getGslbBackupPool .. => Except String (Option String)
  | getGslbPrimaryPool .. => Except String (Option String)
  | getRunByKey .. => Except String (Option SwitchRun)
  | getRun .. => Except String (Option SwitchRun)
  | createRun .. => Except String Unit
  | updateRun .. => Except String Unit
  | listRuns .. => Except String (List SwitchRun)
  | trafficRequestStatuses .. => Except String (List RequestStatus)
  | gslb _ op => op.Reply
  | now => Int
  | newUuid => String

/-- The errors of the service. -/
inductive DrError where
  | notFound
  | forbidden
  | invalid (text : String)
  | conflict (text : String)
  | repository (text : String)
deriving DecidableEq, Repr

def DrError.text : DrError → String
  | notFound => "dr resource not found"
  | forbidden => "dr forbidden"
  | invalid text => "dr invalid: " ++ text
  | conflict text => "dr conflict: " ++ text
  | repository text => text

/-- What a call of the service answers. -/
inductive DrAnswer where
  | group (group : Group)
  | groups (groups : List Group)
  | detail (group : Group) (members : List Member) (runs : List SwitchRun)
  | member (member : Member)
  | run (run : SwitchRun)
  | runs (runs : List SwitchRun)
deriving DecidableEq, Repr

/-- A program of the service. -/
abbrev DrProgram := Program DrOp DrOp.Reply (Except DrError DrAnswer)

def resourceDr : String := "dr"

/-- An error of the repository ends a call. -/
def fails (err : String) : DrProgram := .done (.error (.repository err))

variable (sha : String → String) (groupId : String) (run : SwitchRun) (member : Member)
  (trusted : TrustedContext)

/-! ## Groups and members -/

def createGroup (name primaryRegion standbyRegion : String) (trusted : TrustedContext) : DrProgram :=
  if hasPermission trusted resourceDr .create = false then .done (.error .forbidden)
  else if name = "" ∨ 128 < name.utf8ByteSize ∨ primaryRegion = "" ∨ standbyRegion = "" then
    .done (.error (.invalid "name/primaryRegion/standbyRegion required"))
  else
  .call .now fun now =>
  .call .newUuid fun id =>
  let group : Group :=
    { id := id, tenantId := trusted.tenantId, name := name, primaryRegion := primaryRegion
      standbyRegion := standbyRegion, lifecycleState := "Ready", createdAt := now, updatedAt := now }
  .call (.createGroup group) fun
  | .error err => fails err
  | .ok () => .done (.ok (.group group))

def listGroups : DrProgram :=
  if hasPermission trusted resourceDr .list = false then .done (.error .forbidden)
  else
  .call (.listGroups trusted.tenantId) fun
  | .error err => fails err
  | .ok groups => .done (.ok (.groups groups))

/-- The group of this tenant, which every call on a group reads first. -/
def withGroup (next : Group → DrProgram) : DrProgram :=
  .call (.getGroup groupId trusted.tenantId) fun
  | .error err => fails err
  | .ok none => .done (.error .notFound)
  | .ok (some group) => next group

def addMember (groupId memberType refId name : String) (trusted : TrustedContext) : DrProgram :=
  if hasPermission trusted resourceDr .update = false then .done (.error .forbidden)
  else
  withGroup groupId trusted fun _ =>
  match MemberType.ofText? memberType with
  | none => .done (.error (.invalid ("unknown memberType " ++ quoted memberType)))
  | some type =>
  if refId = "" ∨ name = "" ∨ 128 < name.utf8ByteSize then
    .done (.error (.invalid "refId/name required"))
  else
  .call .newUuid fun id =>
  .call .now fun now =>
  let member : Member :=
    { id := id, groupId := groupId, memberType := type, refId := refId, name := name
      createdAt := now }
  .call (.addMember { member with groupId := uuidText groupId }) fun
  | .error err => fails err
  | .ok () => .done (.ok (.member member))

/-! ## Traffic -/

def trafficMembers (members : List Member) : List Member :=
  members.filter fun member => member.memberType == .gslbService

/-- The other ones. -/
def dataMembers (members : List Member) : List Member :=
  members.filter fun member => member.memberType != .gslbService

/-- `failRun`. The traffic requests of the run are not written. -/
def failRun (message : String) : DrProgram :=
  .call .newUuid fun messageId =>
  .call (.updateRun run.id .failed { error := some message }
    [newEvent messageId eventRunStatusChanged run trusted
      [("status", .str RunStatus.failed.text), ("error", .str message)]]) fun
  | .error err => fails err
  | .ok () => .done (.ok (.run { run with status := .failed, error := message }))

def Direction.kind : Direction → IntentKind
  | failover => .failover
  | switchback => .switchback

/-- The query for the pool to switch to. -/
def targetPool (direction : Direction) (serviceId : String)
    (next : Except String (Option String) → DrProgram) : DrProgram :=
  match direction with
  | .failover => .call (.getGslbBackupPool serviceId "") next
  | .switchback => .call (.getGslbPrimaryPool serviceId) next

def trafficIntent (targetPoolId : String) : Intent where
  apiVersion := Gslb.apiVersion
  kind := run.direction.kind
  serviceId := member.refId
  tenantId := trusted.tenantId
  targetPoolId := targetPoolId
  weights := []
  reason := "dr-" ++ run.direction.text ++ ": " ++ run.reason
  drGroupRef := run.groupId
  idempotencyKey := run.idempotencyKey ++ "-" ++ member.refId
  correlationId := run.correlationId

def buildTrafficIntent (next : Except DrError Intent → DrProgram) : DrProgram :=
  targetPool run.direction member.refId fun
  | .error err => next (.error (.repository err))
  | .ok none => next (.error (.invalid ("no target pool for gslb service " ++ member.refId)))
  | .ok (some targetPoolId) =>
  if targetPoolId = "" then
    next (.error (.invalid ("no target pool for gslb service " ++ member.refId)))
  else next (.ok (trafficIntent run member trusted targetPoolId))

/-- `SubmitIntent` of the traffic service, for the run with this row. -/
def submitFor (intent : Intent) (next : Except AppError SwitchRequest → DrProgram) : DrProgram :=
  (submitIntent sha intent.marshal member.refId trusted).expand
    (fun op rest => .call (.gslb run op) rest) next

/-- The loop of `dispatchTraffic`, with the requests so far, and its end. The run is the one with this
    row, and has the text `groupRef` for its group. -/
def dispatchMembers (row : SwitchRun) (groupRef : String) (trusted : TrustedContext) :
    List Member → List String → DrProgram
  | [], requestIds =>
    let run := { row with groupId := groupRef }
    .call .newUuid fun messageId =>
    .call (.updateRun run.id .awaitingApproval { trafficRequestIds := some requestIds }
      [newEvent messageId eventTrafficDispatched run trusted
        [("trafficRequestIds", Json.strings requestIds)]]) fun
    | .error err => fails err
    | .ok () => .done (.ok (.run
        { run with status := .awaitingApproval, trafficRequestIds := requestIds }))
  | member :: rest, requestIds =>
    let run := { row with groupId := groupRef }
    buildTrafficIntent run member trusted fun
    | .error err => failRun run trusted err.text
    | .ok intent =>
    submitFor sha row member trusted intent fun
    | .error err => failRun run trusted ("traffic member " ++ member.refId ++ ": " ++ err.text)
    | .ok request => dispatchMembers row groupRef trusted rest (requestIds ++ [request.id])

def dispatchTraffic (row : SwitchRun) (groupRef : String) (members : List Member)
    (trusted : TrustedContext) : DrProgram :=
  dispatchMembers sha row groupRef trusted members row.trafficRequestIds

/-! ## Switches -/

/-- The text of a conflict. -/
def activeRunText : String := "active run " ++ run.id ++ " in progress"

/-- The run that `InitiateSwitch` creates for a group with these members. -/
def newRun (groupId reason idempotencyKey : String) (direction : Direction)
    (trusted : TrustedContext) (members : List Member) (now : Int)
    (id correlationId operationId : String) : SwitchRun where
  id := id
  groupId := groupId
  tenantId := trusted.tenantId
  direction := direction
  status := if dataMembers members = [] then .dataLayerCompleted else .dataLayerPending
  idempotencyKey := idempotencyKey
  correlationId := correlationId
  operationId := operationId
  trafficRequestIds := []
  reason := reason
  error := ""
  actorId := trusted.subjectId
  createdAt := now
  updatedAt := now

/-- The part of `InitiateSwitch` that creates the run. -/
def startRun (groupId reason idempotencyKey : String) (direction : Direction)
    (trusted : TrustedContext) (members : List Member) : DrProgram :=
  .call .now fun now =>
  .call .newUuid fun id =>
  .call .newUuid fun correlationId =>
  .call .newUuid fun operationId =>
  let run := newRun groupId reason idempotencyKey direction trusted members now id correlationId
    operationId
  .call .newUuid fun messageId =>
  .call (.createRun run.stored [newEvent messageId eventSwitchInitiated run trusted
      [("direction", .str direction.text), ("trafficMembers", .num (trafficMembers members).length),
       ("dataLayerMembers", .num (dataMembers members).length)]]) fun
  | .error err => fails err
  | .ok () =>
  if run.status = .dataLayerCompleted then
    dispatchTraffic sha run.stored groupId (trafficMembers members) trusted
  else .done (.ok (.run run))

def initiateSwitch (groupId direction reason idempotencyKey : String) (trusted : TrustedContext) :
    DrProgram :=
  if hasPermission trusted resourceDr .execute = false then .done (.error .forbidden)
  else
  match Direction.ofText? direction with
  | none => .done (.error (.invalid ("unknown direction " ++ quoted direction)))
  | some direction =>
  if idempotencyKey = "" ∨ 128 < idempotencyKey.utf8ByteSize then
    .done (.error (.invalid "idempotencyKey required"))
  else
  withGroup groupId trusted fun _ =>
  .call (.getRunByKey groupId idempotencyKey) fun
  | .error err => fails err
  | .ok (some existing) => .done (.ok (.run existing))
  | .ok none =>
  .call (.listRuns groupId trusted.tenantId) fun
  | .error err => fails err
  | .ok runs =>
  match runs.find? fun run => run.status.active with
  | some run => .done (.error (.conflict (activeRunText run)))
  | none =>
  .call (.listMembers (uuidText groupId)) fun
  | .error err => fails err
  | .ok members =>
  if trafficMembers members = [] then
    .done (.error (.invalid "group has no traffic-layer (gslb_service) member"))
  else startRun sha groupId reason idempotencyKey direction trusted members

def confirmDataLayer (runId : String) (trusted : TrustedContext) : DrProgram :=
  if hasPermission trusted resourceDr .update = false then .done (.error .forbidden)
  else
  .call (.getRun runId trusted.tenantId) fun
  | .error err => fails err
  | .ok none => .done (.error .notFound)
  | .ok (some run) =>
  if run.status ≠ .dataLayerPending then
    .done (.error (.invalid
      ("run not awaiting data-layer confirmation (status " ++ run.status.text ++ ")")))
  else
  .call (.listMembers run.groupId) fun
  | .error err => fails err
  | .ok members =>
  let confirmed := { run with status := .dataLayerCompleted }
  .call .newUuid fun messageId =>
  .call (.updateRun run.id .dataLayerCompleted {}
    [newEvent messageId eventDataLayerConfirmed confirmed trusted []]) fun
  | .error err => fails err
  | .ok () => dispatchTraffic sha confirmed run.groupId (trafficMembers members) trusted

/-! ## Reports -/

/-- The status that the requests of a run give it: a failure if one of them has failed or was
    rejected, and a success once all of them have succeeded. -/
def aggregateStatus (statuses : List RequestStatus) : RunStatus :=
  if statuses = [] ∨ statuses.length ≠ run.trafficRequestIds.length then run.status
  else if statuses.any fun status => status == .failed || status == .rejected then .failed
  else if statuses.all fun status => status == .succeeded then .completed
  else run.status

/-- The loop of `aggregateRuns`. Only runs that wait for their requests are looked at. -/
def aggregateEach (next : List SwitchRun → DrProgram) : List SwitchRun → List SwitchRun → DrProgram
  | [], reported => next reported
  | run :: rest, reported =>
    if run.status ≠ .awaitingApproval ∧ run.status ≠ .trafficDispatched then
      aggregateEach next rest (reported ++ [run])
    else
    .call (.trafficRequestStatuses run.trafficRequestIds) fun
    | .error err => fails err
    | .ok statuses =>
      aggregateEach next rest (reported ++ [{ run with status := aggregateStatus run statuses }])

def aggregateRuns (groupId tenantId : String) (next : List SwitchRun → DrProgram) : DrProgram :=
  .call (.listRuns groupId tenantId) fun
  | .error err => fails err
  | .ok runs => aggregateEach next runs []

def listRuns : DrProgram :=
  if hasPermission trusted resourceDr .read = false then .done (.error .forbidden)
  else
  withGroup groupId trusted fun _ =>
  aggregateRuns groupId trusted.tenantId fun runs => .done (.ok (.runs runs))

def getGroup : DrProgram :=
  if hasPermission trusted resourceDr .read = false then .done (.error .forbidden)
  else
  withGroup groupId trusted fun group =>
  .call (.listMembers (uuidText groupId)) fun
  | .error err => fails err
  | .ok members =>
  aggregateRuns groupId trusted.tenantId fun runs => .done (.ok (.detail group members runs))

end HnbCloud.Dr
