import Mathlib.Data.List.Sort
import HnbCloud.Dr.Service
import HnbCloud.Gslb.Approval

set_option autoImplicit false

/-! # The store of disaster recovery

`apiserver/internal/infrastructure/dr/postgres_store.go` over the tables of migration 083, in one
database with the switch requests of the traffic service. The rows that are written along for the
Operation Center are left out, as are the pools of a service: which pool a query finds is open. The
query for a group reads the id of a request as the database does. The id of a run goes to the database
only, and is taken as the database writes it.

`drMachine` lets any number of calls of the service interleave, with whatever else is done to the
switch requests in between. -/

namespace HnbCloud.Dr

open Messaging Iam Gslb List

/-! ## The database -/

/-- A switch request that was created for a run. -/
structure Caused where
  (runId requestId : String)
deriving DecidableEq, Repr

structure DrStore where
  traffic : Traffic
  groups : Table Group String Group.id
  members : Table Member String Member.id
  runs : Table SwitchRun String SwitchRun.id
  /-- The requests that calls of the traffic service have created for runs. -/
  caused : List Caused

/-- The update of `UpdateRun`. -/
def SwitchRun.updated (now : Int) (status : RunStatus) (fields : RunFields) (row : SwitchRun) :
    SwitchRun :=
  { row with
    status := status
    trafficRequestIds := fields.trafficRequestIds.getD row.trafficRequestIds
    error := fields.error.getD row.error
    updatedAt := now }

theorem SwitchRun.id_updated (now : Int) (status : RunStatus) (fields : RunFields)
    (row : SwitchRun) : (row.updated now status fields).id = row.id := rfl

namespace DrStore

variable (s : DrStore)

/-- `CreateGroup`; a name is unique in its tenant. -/
def createGroup (group : Group) : Except String (DrStore × Unit) :=
  if s.groups.rows.any (fun row => row.tenantId == group.tenantId && row.name == group.name) then
    .error "insert dr protection group"
  else
  match s.groups.insert? group with
  | none => .error "insert dr protection group"
  | some groups => .ok ({ s with groups := groups }, ())

/-- `AddMember`; a reference is unique in its group. -/
def addMember (member : Member) : Except String (DrStore × Unit) :=
  if (s.groups.get? member.groupId).isNone
      || s.members.rows.any (fun row => row.groupId == member.groupId
        && row.memberType == member.memberType && row.refId == member.refId) then
    .error "insert dr group member"
  else
  match s.members.insert? member with
  | none => .error "insert dr group member"
  | some members => .ok ({ s with members := members }, ())

/-- `GetGroup`. -/
def getGroup (id tenantId : String) : Except String (DrStore × Option Group) :=
  if (uuidValue? id).isNone then .error ("dr get group: " ++ uuidError id)
  else .ok (s, (s.groups.get? (uuidText id)).filter fun row => row.tenantId == tenantId)

/-- `GetRunByKey`. -/
def runByKey (groupId idempotencyKey : String) : Option SwitchRun :=
  s.runs.rows.find? fun row => row.groupId == uuidText groupId
    && row.idempotencyKey == idempotencyKey

/-- `ListMembers`. -/
def membersOf (groupId : String) : List Member :=
  (s.members.rows.filter fun row => row.groupId == groupId).insertionSort
    fun a b => a.createdAt ≤ b.createdAt

/-- `ListRuns` of the repository. -/
def runsOf (groupId tenantId : String) : List SwitchRun :=
  (s.runs.rows.filter fun row => row.groupId == uuidText groupId
    && row.tenantId == tenantId).insertionSort fun a b => b.createdAt ≤ a.createdAt

/-- The events of a transaction. -/
def emit (events : List PendingEvent) : Except String (DrStore × Unit) :=
  match s.traffic.emit (events.map fun event => event s.traffic.now) with
  | .error _ => .error "insert dr outbox event"
  | .ok traffic => .ok ({ s with traffic := traffic }, ())

/-- `CreateRun`; an idempotency key is unique in its group. -/
def createRun (run : SwitchRun) (events : List PendingEvent) : Except String (DrStore × Unit) :=
  if (s.groups.get? run.groupId).isNone
      || s.runs.rows.any (fun row => row.groupId == run.groupId
        && row.idempotencyKey == run.idempotencyKey) then
    .error "insert dr switch run"
  else
  match s.runs.insert? run with
  | none => .error "insert dr switch run"
  | some runs => emit { s with runs := runs } events

/-- `UpdateRun`: the row has to have the id, and nothing else. -/
def updateRun (id : String) (status : RunStatus) (fields : RunFields)
    (events : List PendingEvent) : Except String (DrStore × Unit) :=
  emit { s with runs := s.runs.update id _ (SwitchRun.id_updated s.traffic.now status fields) } events

/-- `TrafficRequestStatuses`. -/
def statusesOf (requestIds : List String) : List RequestStatus :=
  (s.traffic.requests.rows.filter fun row => requestIds.contains row.id).map SwitchRequest.status

/-- The request that an operation has created, if it has taken `s` to `t`. -/
def created (s t : Traffic) : RepoOp → Option String
  | .createSwitchRequest request .. =>
    if (s.requests.get? request.id).isNone && (t.requests.get? request.id).isSome then
      some request.id
    else none
  | _ => none

/-- An operation of the traffic service for a run. -/
def gslb (run : SwitchRun) (op : RepoOp) (n : RepoNature) : DrStore × op.Reply :=
  let r := repository.perform s.traffic op n
  ({ s with
      traffic := r.1
      caused := s.caused ++ (created s.traffic r.1 op).toList.map (Caused.mk run.id) }, r.2)

end DrStore

/-- What is left to chance in a call. -/
structure DrNature where
  outcome : ApiOutcome
  /-- The pool that a query finds. -/
  pool : Option String
  traffic : RepoNature
  uuid : String

/-- The repository of disaster recovery, with the one of the traffic service. -/
def drRepository : HnbCloud.Service DrStore DrOp DrOp.Reply DrNature where
  perform s op n :=
    match op with
    | .createGroup group => n.outcome.commit s (s.createGroup group)
    | .getGroup id tenantId => n.outcome.commit s (s.getGroup id tenantId)
    | .listGroups tenantId =>
      n.outcome.commit s (.ok (s, (s.groups.rows.filter fun row => row.tenantId == tenantId)
        |>.insertionSort fun a b => b.createdAt ≤ a.createdAt))
    | .addMember member => n.outcome.commit s (s.addMember member)
    | .listMembers groupId => n.outcome.commit s (.ok (s, s.membersOf groupId))
    | .getGslbBackupPool .. => n.outcome.commit s (.ok (s, n.pool))
    | .getGslbPrimaryPool .. => n.outcome.commit s (.ok (s, n.pool))
    | .getRunByKey groupId idempotencyKey =>
      n.outcome.commit s (.ok (s, s.runByKey groupId idempotencyKey))
    | .getRun id tenantId =>
      n.outcome.commit s (.ok (s, (s.runs.get? id).filter fun row => row.tenantId == tenantId))
    | .createRun run events => n.outcome.commit s (s.createRun run events)
    | .updateRun id status fields events =>
      n.outcome.commit s (s.updateRun id status fields events)
    | .listRuns groupId tenantId => n.outcome.commit s (.ok (s, s.runsOf groupId tenantId))
    | .trafficRequestStatuses requestIds =>
      n.outcome.commit s (.ok (s, s.statusesOf requestIds))
    | .gslb run op => s.gslb run op n.traffic
    | .now => (s, s.traffic.now)
    | .newUuid => (s, n.uuid)

/-! ## What the operations answer -/

theorem DrStore.getGroup_fst {s s' : DrStore} {id tenantId : String} {group : Option Group}
    (h : s.getGroup id tenantId = .ok (s', group)) : s' = s := by
  unfold getGroup at h
  split at h
  · simp at h
  · exact (congrArg Prod.fst (Except.ok.inj h)).symm

variable (s : DrStore) (n : DrNature)

theorem perform_getGroup (groupId tenantId : String) :
    drRepository.perform s (.getGroup groupId tenantId) n
      = n.outcome.commit s (s.getGroup groupId tenantId) := rfl

theorem perform_getRunByKey (groupId idempotencyKey : String) :
    drRepository.perform s (.getRunByKey groupId idempotencyKey) n
      = n.outcome.commit s (.ok (s, s.runByKey groupId idempotencyKey)) := rfl

theorem perform_listRuns (groupId tenantId : String) :
    drRepository.perform s (.listRuns groupId tenantId) n
      = n.outcome.commit s (.ok (s, s.runsOf groupId tenantId)) := rfl

theorem perform_trafficRequestStatuses (requestIds : List String) :
    drRepository.perform s (.trafficRequestStatuses requestIds) n
      = n.outcome.commit s (.ok (s, s.statusesOf requestIds)) := rfl

/-! ## Calls in any order -/

/-- A call of the service. -/
inductive DrCall where
  | createGroup (name primaryRegion standbyRegion : String) (trusted : TrustedContext)
  | listGroups (trusted : TrustedContext)
  | getGroup (groupId : String) (trusted : TrustedContext)
  | addMember (groupId memberType refId name : String) (trusted : TrustedContext)
  | initiateSwitch (groupId direction reason idempotencyKey : String) (trusted : TrustedContext)
  | confirmDataLayer (runId : String) (trusted : TrustedContext)
  | listRuns (groupId : String) (trusted : TrustedContext)

def DrCall.program (sha : String → String) : DrCall → DrProgram
  | createGroup name primaryRegion standbyRegion trusted =>
    Dr.createGroup name primaryRegion standbyRegion trusted
  | listGroups trusted => Dr.listGroups trusted
  | getGroup groupId trusted => Dr.getGroup groupId trusted
  | addMember groupId memberType refId name trusted =>
    Dr.addMember groupId memberType refId name trusted
  | initiateSwitch groupId direction reason idempotencyKey trusted =>
    Dr.initiateSwitch sha groupId direction reason idempotencyKey trusted
  | confirmDataLayer runId trusted => Dr.confirmDataLayer sha runId trusted
  | listRuns groupId trusted => Dr.listRuns groupId trusted

/-- A call that is at work, with the members that were stored when it began. -/
structure ActiveCall where
  call : DrCall
  known : Table Member String Member.id
  program : DrProgram

structure DrWorld where
  store : DrStore
  calls : List ActiveCall

/-- What happens next. -/
inductive DrEvent where
  | call (call : DrCall)
  /-- A call performs its next operation. -/
  | perform (call : Nat) (n : DrNature)
  /-- The process of a call stops. -/
  | stop (call : Nat)
  /-- Another call of the traffic service performs an operation. -/
  | traffic (op : RepoOp) (n : RepoNature)
  /-- The controller performs an operation, for the command of a request. -/
  | controller (requestId : String) (op : ControllerOp) (n : ControllerNature)
  | tick (now : Int)

namespace DrWorld

/-- The database before any call; nothing has been caused yet. -/
def start (s : DrStore) : DrWorld := { store := { s with caused := [] }, calls := [] }

variable (w : DrWorld)

def perform (call : Nat) (n : DrNature) : DrWorld :=
  match w.calls[call]? with
  | some ⟨of, known, .call op next⟩ =>
    let r := drRepository.perform w.store op n
    { store := r.1, calls := w.calls.set call ⟨of, known, next r.2⟩ }
  | _ => w

/-- What a call that stops answers. -/
def stopped : DrProgram := .done (.error (.repository "stopped"))

def stop (call : Nat) : DrWorld :=
  match w.calls[call]? with
  | some active => { w with calls := w.calls.set call { active with program := stopped } }
  | none => w

def step (sha : String → String) : DrEvent → DrWorld
  | .call call => { w with calls := w.calls ++ [⟨call, w.store.members, call.program sha⟩] }
  | .perform call n => w.perform call n
  | .stop call => w.stop call
  | .traffic op n =>
    { w with store := { w.store with traffic := (repository.perform w.store.traffic op n).1 } }
  | .controller requestId op n =>
    { w with store := { w.store with
          traffic := ((controllerStore requestId).perform w.store.traffic op n).1 } }
  | .tick now => { w with store := { w.store with traffic := { w.store.traffic with now := now } } }

end DrWorld

/-- The service as a machine. -/
def drMachine (sha : String → String) : Machine DrWorld DrEvent Unit where
  step w event := (w.step sha event, ())

/-! ## A tenant with one traffic service -/

/-- An operator with every permission on the groups and services of the tenant. -/
def drOperator : TrustedContext where
  subjectId := "u1"
  tenantId := "t1"
  policyVersion := "v1"
  scopedPermissions := [.create, .update, .read, .execute].map fun action =>
    { resourceKind := "*", resourceId := "*", action := action, tenantId := "t1", projectId := ""
      environmentId := "", namespaceId := "" }
  projectId := ""
  environmentId := ""
  namespaceId := ""

/-- Nothing is stored, and no call is at work. -/
def emptyDrWorld : DrWorld := .start
  { traffic := (TrafficWorld.start .empty .empty 0).traffic, groups := .empty, members := .empty
    runs := .empty, caused := [] }

def sampleUuid (digits : String) : String := "00000000-0000-4000-8000-0000000000" ++ digits

/-- An operation that goes through; a new UUID ends in these digits. The service has its traffic on
    the pool `b1`, and the query for a pool finds `b2`. -/
def answers (digits : String) : DrNature where
  outcome := .ok
  pool := some (sampleUuid "b2")
  traffic :=
    { outcome := .ok
      service := some
        { id := sampleUuid "a0", tenantId := "t1", domain := "app.hnb.io"
          activePoolId := sampleUuid "b1", requireApproval := true }
      members := ["cluster-2"]
      healthyPools := none
      uuid := sampleUuid digits }
  uuid := sampleUuid digits

/-- The call with this number, and its operations one after the other. -/
def served (call : Nat) (request : DrCall) (digits : List String) : List DrEvent :=
  .call request :: digits.map fun pair => .perform call (answers pair)

/-- A group with one traffic service as its member. -/
def groupEvents : List DrEvent :=
  served 0 (.createGroup "pair" "north" "south" drOperator) ["00", "01", "02"]
    ++ served 1 (.addMember (sampleUuid "01") "gslb_service" (sampleUuid "a0") "app" drOperator)
      ["10", "11", "12", "13"]

/-! ## The intents of a switch

The key and the reason of a switch are extended before the traffic service checks them, so what
`InitiateSwitch` takes may be too long there, or have characters that a key may not have. -/

/-- There has to be room for the hyphen and the reference of the member. -/
theorem matchesIdemPattern_extended {refId : String} (href : isHyphenatedUuid refId = true)
    (key : String) : matchesIdemPattern (key ++ "-" ++ refId) = true
      ↔ key.toList.length ≤ 91 ∧ ∀ c ∈ key.toList, '!' ≤ c ∧ c ≤ '~' := by
  have hlength : refId.toList.length = 36 := by
    simp only [isHyphenatedUuid, Bool.and_eq_true, beq_iff_eq] at href
    exact href.1
  have hchars : ∀ c ∈ refId.toList, '!' ≤ c ∧ c ≤ '~' := by
    intro c hc
    rcases eq_or_isHexDigit_of_mem href hc with rfl | hhex
    · decide
    · obtain ⟨hfirst, hlast⟩ := le_of_isHexDigit hhex
      exact ⟨Char.le_trans (by decide) hfirst, Char.le_trans hlast (by decide)⟩
  have hhyphen : "-".toList = ['-'] := rfl
  simp only [matchesIdemPattern, String.toList_append, hhyphen, length_append, length_singleton,
    hlength, Bool.and_eq_true, decide_eq_true_eq, all_eq_true, mem_append, mem_singleton]
  constructor
  · rintro ⟨⟨-, hle⟩, hall⟩
    exact ⟨by omega, fun c hc => hall c (.inl (.inl hc))⟩
  · rintro ⟨hle, hall⟩
    refine ⟨⟨by omega, by omega⟩, ?_⟩
    rintro c ((hc | rfl) | hc)
    · exact hall c hc
    · decide
    · exact hchars c hc

/-- The intent that is made for a member, as the traffic service checks it. -/
theorem validate_trafficIntent {run : SwitchRun} {member : Member} {trusted : TrustedContext}
    {targetPoolId : String} (hcorrelation : isHyphenatedUuid run.correlationId = true)
    (hpool : isHyphenatedUuid targetPoolId = true) :
    (trafficIntent run member trusted targetPoolId).validate = none
      ↔ isHyphenatedUuid member.refId = true
        ∧ (trusted.tenantId ≠ "" ∧ trusted.tenantId.utf8ByteSize ≤ 128)
        ∧ matchesIdemPattern (run.idempotencyKey ++ "-" ++ member.refId) = true
        ∧ ("dr-" ++ run.direction.text ++ ": " ++ run.reason).utf8ByteSize ≤ 512
        ∧ (run.groupId ≠ "" → matchesDRGroupRefPattern run.groupId = true) := by
  have hrefused : ∀ {c : Prop} [Decidable c] (reason : String) (rest : Option String),
      (if c then some reason else rest) = none ↔ ¬ c ∧ rest = none := by
    intro c _ reason rest
    split <;> simp [*]
  cases hdirection : run.direction <;>
    simp [Intent.validate, trafficIntent, Direction.kind, hdirection, hrefused, hcorrelation, hpool]

/-- A switch that passes the checks of `InitiateSwitch` gets its run, and the traffic service takes
    the intent of a member exactly if the switch leaves room in its key and its reason, and names
    its group, its tenant and the service in the form that an intent has to have. -/
theorem switch_intent_valid_iff (sha : String → String)
    {groupId text reason idempotencyKey : String} {direction : Direction} {trusted : TrustedContext}
    (hpermission : hasPermission trusted resourceDr .execute = true)
    (hdirection : Direction.ofText? text = some direction)
    (hkey : idempotencyKey ≠ "" ∧ idempotencyKey.utf8ByteSize ≤ 128) {members : List Member}
    {member : Member} (hmember : member ∈ trafficMembers members) (group : Group) (now : Int)
    (id operationId : String) {correlationId targetPoolId : String}
    (hcorrelation : isHyphenatedUuid correlationId = true)
    (hpool : isHyphenatedUuid targetPoolId = true) :
    let run := newRun groupId reason idempotencyKey direction trusted members now id correlationId
      operationId
    (∃ events, (initiateSwitch sha groupId text reason idempotencyKey trusted).Calls
      (.createRun run.stored events))
    ∧ ((trafficIntent run member trusted targetPoolId).validate = none
      ↔ isHyphenatedUuid member.refId = true
        ∧ (trusted.tenantId ≠ "" ∧ trusted.tenantId.utf8ByteSize ≤ 128)
        ∧ (idempotencyKey.toList.length ≤ 91 ∧ ∀ c ∈ idempotencyKey.toList, '!' ≤ c ∧ c ≤ '~')
        ∧ direction.text.utf8ByteSize + reason.utf8ByteSize ≤ 507
        ∧ (groupId ≠ "" → matchesDRGroupRefPattern groupId = true)) := by
  intro run
  constructor
  · obtain ⟨events, hstart⟩ : ∃ events, (startRun sha groupId reason idempotencyKey direction trusted
        members).Calls (.createRun run.stored events) :=
      ⟨_, .later now (.later id (.later correlationId (.later operationId (.later "" (.here _ _)))))⟩
    unfold initiateSwitch
    rw [if_neg (by simp [hpermission]), hdirection]
    simp only
    rw [if_neg (by simp [hkey])]
    refine ⟨events, .later (.ok (some group)) (.later (.ok none) (.later (.ok [])
      (.later (.ok members) ?_)))⟩
    simp only [if_neg (ne_nil_of_mem hmember)]
    exact hstart
  rw [validate_trafficIntent hcorrelation hpool]
  refine and_congr_right fun href => and_congr_right fun _ => ?_
  have hadded : "dr-".utf8ByteSize + ": ".utf8ByteSize = 5 := by decide
  rw [matchesIdemPattern_extended href]
  simp only [String.utf8ByteSize_append]
  refine and_congr_right fun _ => and_congr_left fun _ => ?_
  change _ + direction.text.utf8ByteSize + _ + reason.utf8ByteSize ≤ _ ↔ _
  omega

/-- The member of the group. -/
def appMember : Member :=
  ⟨sampleUuid "11", sampleUuid "01", .gslbService, sampleUuid "a0", "app", 0⟩

theorem switch_intent_valid_of_short_key :
    (trafficIntent (newRun (sampleUuid "01") "outage" "k1" .failover drOperator [appMember] 0
      (sampleUuid "25") (sampleUuid "26") (sampleUuid "27")) appMember drOperator
      (sampleUuid "b2")).validate = none :=
  (switch_intent_valid_iff (fun _ => "") (by decide +kernel)
    (rfl : Direction.ofText? "failover" = some .failover) (by decide +kernel) (mem_singleton.2 rfl)
    ⟨sampleUuid "01", "t1", "pair", "north", "south", "Ready", 0, 0⟩ 0 _ _ (by decide +kernel)
    (by decide +kernel)).2.2 (by simp; decide +kernel)

/-- A switch with a key of 92 bytes gets its run, which fails at its only member because of the
    key. -/
theorem long_key_fails_switch :
    ((drMachine fun _ => "").run emptyDrWorld (groupEvents ++ served 2
      (.initiateSwitch (sampleUuid "01") "failover" "outage" ("".pushn 'k' 92) drOperator)
      ["20", "21", "22", "23", "24", "25", "26", "27", "28", "29", "2a", "2b", "2c", "2d"])
      ).store.runs.rows.map (fun run => (run.status, run.error))
      = [(.failed, "traffic member " ++ sampleUuid "a0" ++ ": gslb invalid: invalid gslb intent: "
          ++ "idempotencyKey required ([!-~]\x7b1,128\x7d)")] := by
  decide +kernel

end HnbCloud.Dr
