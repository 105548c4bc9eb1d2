import HnbCloud.Dr.Store

set_option autoImplicit false

/-! # What a call does to runs

Every call of the service keeps to one protocol, whatever its operations answer. A call has no run at
first. `InitiateSwitch` creates one after it has read the members of the group, and `ConfirmDataLayer`
takes over one that it has read as waiting; both then dispatch the run and write its outcome once.
The protocol also says which switch requests a dispatch may look for and create, and that the ones it
got are those it records.

Nothing here depends on what is stored. -/

namespace HnbCloud.Dr

open Messaging Iam Gslb Program

variable {run : SwitchRun} {trusted : TrustedContext} {sha : String → String} {groupId : String}

/-! ## The submission of an intent -/

/-- How far the submission of an intent has come. -/
inductive Submission where
  /-- It has no request yet. -/
  | seeking
  /-- It has found or created this request. -/
  | holds (requestId : String)
  /-- It could not create one, or does not know that it has. -/
  | lost

structure Fits (intent : Intent) (request : SwitchRequest) : Prop where
  service : request.serviceId = intent.serviceId
  kind : request.intentKind = intent.kind.text
  group : request.drGroupRef = intent.drGroupRef

def Submission.after (phase : Submission) (op : RepoOp) (answer : op.Reply) : Submission :=
  match op, answer with
  | .getSwitchRequestByKey .., .ok (some existing) => .holds existing.id
  | .createSwitchRequest request _ _, .ok () => .holds request.id
  | .createSwitchRequest .., .error _ => .lost
  | _, _ => phase

def submission (intent : Intent) : Program.Protocol Submission RepoOp RepoOp.Reply where
  allows phase op := phase = .seeking ∧
    match op with
    | .getSwitchRequestByKey _ serviceId _ => serviceId = intent.serviceId
    | .createSwitchRequest request _ _ => Fits intent request
    | .updateSwitchRequestStatus .. => False
    | _ => True
  after := Submission.after

def Submission.Answers (result : Except AppError SwitchRequest) (phase : Submission) : Prop :=
  ∀ request, result = .ok request → phase = .holds request.id

section Submit

variable {intent : Intent}

/-- What is left of a submission that has no request. -/
abbrev Seeks (intent : Intent) (p : AppProgram) : Prop :=
  p.Obeys (submission intent) Submission.Answers .seeking

theorem answers_error (err : AppError) (phase : Submission) :
    Submission.Answers (.error err) phase := by
  intro request h
  simp at h

theorem seeks_poolMembers {wanted : Bool} {poolId : String} {next : List String → AppProgram}
    (h : ∀ targets, Seeks intent (next targets)) : Seeks intent (poolMembers wanted poolId next) := by
  unfold poolMembers
  split
  · refine obeys_call ⟨rfl, trivial⟩ fun answer => ?_
    cases answer with
    | error => exact answers_error _ _
    | ok targets => exact h targets
  · exact h []

theorem seeks_drillReportFor {service : Gslb.Service} {requestId : String} {now : Int}
    {next : Option DrillReport → AppProgram} (h : ∀ drill, Seeks intent (next drill)) :
    Seeks intent (drillReportFor intent service requestId now next) := by
  unfold drillReportFor
  split
  · refine seeks_poolMembers fun current => seeks_poolMembers fun projected =>
      obeys_call ⟨rfl, trivial⟩ fun answer => ?_
    cases answer with
    | error => exact answers_error _ _
    | ok => exact obeys_call ⟨rfl, trivial⟩ fun id => h _
  · exact h none

theorem seeks_createRequest (sha : String → String) (service : Gslb.Service)
    (trusted : TrustedContext) (plan : Plan) :
    Seeks intent (createRequest sha intent service trusted plan) := by
  refine obeys_call ⟨rfl, trivial⟩ fun now => obeys_call ⟨rfl, trivial⟩ fun id =>
    obeys_call ⟨rfl, trivial⟩ fun operationId => seeks_drillReportFor fun drill =>
    obeys_call ⟨rfl, trivial⟩ fun submittedId =>
    obeys_call ⟨rfl, trivial⟩ fun commandId =>
    obeys_call ⟨rfl, rfl, rfl, rfl⟩ fun answer => ?_
  cases answer with
  | error => exact answers_error _ _
  | ok =>
    intro request h
    rw [← Except.ok.inj h]
    rfl

/-- `SubmitIntent` looks for a request of the service that the intent names, and creates only one
    that fits the intent. -/
theorem seeks_submitIntent (sha : String → String) (pathServiceId : String)
    (trusted : TrustedContext) (hweights : intent.weights = [])
    (hkind : IntentKind.ofText intent.kind.text = intent.kind) :
    Seeks intent (submitIntent sha intent.marshal pathServiceId trusted) := by
  unfold submitIntent
  split
  · exact answers_error _ _
  next parsed hparsed =>
  obtain rfl := parseIntent_marshal hweights hkind hparsed
  split
  · exact answers_error _ _
  next hservice =>
  split
  · exact answers_error _ _
  split
  · exact answers_error _ _
  refine obeys_call ⟨rfl, trivial⟩ fun answer => ?_
  match answer with
  | .error err => exact answers_error _ _
  | .ok none => exact answers_error _ _
  | .ok (some service) =>
  refine obeys_call ⟨rfl, (not_not.1 hservice).symm⟩ fun answer => ?_
  match answer with
  | .error err => exact answers_error _ _
  | .ok (some existing) =>
    intro request h
    rw [← Except.ok.inj h]
    rfl
  | .ok none =>
  refine seeks_poolMembers fun targets => seeks_poolMembers fun previous => ?_
  split
  · exact answers_error _ _
  · exact seeks_createRequest _ _ _ _

end Submit

/-! ## The protocol of a call -/

/-- What a call has to do with a run. -/
inductive Stage where
  | idle
  /-- It has read the run as waiting for the data layer. -/
  | confirming (run : SwitchRun)
  /-- It dispatches the run, and has got these requests. -/
  | dispatching (run : SwitchRun) (requestIds : List String)
  /-- It does not know whether a request has been created for the run. -/
  | doomed (run : SwitchRun)

def Stage.works : Stage → Option SwitchRun
  | dispatching run _ => some run
  | doomed run => some run
  | _ => none

/-- The stage after an operation of the traffic service. -/
def Stage.submitted : Stage → Submission → Stage
  | dispatching run requestIds, .holds requestId => dispatching run (requestIds ++ [requestId])
  | dispatching run _, .lost => doomed run
  | stage, _ => stage

/-- The text that a call has for the group of a run. -/
def DrCall.groupRef (run : SwitchRun) : DrCall → String
  | initiateSwitch groupId .. => groupId
  | _ => run.groupId

/-- The members that a call has read, with their group, and its stage. -/
structure Phase where
  read : Option (String × List Member)
  stage : Stage

namespace Phase

/-- A call begins without anything. -/
def start : Phase := { read := none, stage := .idle }

variable (phase : Phase)

/-- Among the traffic members of the run's group, as the call has read them, is this service. -/
def Includes (run : SwitchRun) (serviceId : String) : Prop :=
  ∃ members, phase.read = some (run.groupId, members)
    ∧ ∃ member ∈ trafficMembers members, member.refId = serviceId

/-- The operations of the traffic service for a run. -/
def AllowsRequest (call : DrCall) (run : SwitchRun) : RepoOp → Prop
  | .getSwitchRequestByKey _ serviceId _ => phase.Includes run serviceId
  | .createSwitchRequest request _ _ => phase.Includes run request.serviceId
      ∧ request.intentKind = run.direction.kind.text ∧ request.drGroupRef = call.groupRef run
  | .updateSwitchRequestStatus .. => False
  | _ => True

/-- The updates of a run. -/
def AllowsUpdate (call : DrCall) (id : String) (status : RunStatus) (fields : RunFields)
    (events : List PendingEvent) : Prop :=
  match phase.stage with
  | .idle => False
  | .confirming run => id = run.id ∧ status = .dataLayerCompleted ∧ fields = {}
      ∧ ∃ runId messageId trusted, call = .confirmDataLayer runId trusted
        ∧ events = [newEvent messageId eventDataLayerConfirmed
            { run with status := .dataLayerCompleted } trusted []]
  | .dispatching run requestIds => id = run.id
      ∧ ((status = .failed ∧ fields.trafficRequestIds = none)
        ∨ (status = .awaitingApproval ∧ fields.trafficRequestIds = some requestIds))
  | .doomed run => id = run.id ∧ status = .failed ∧ fields.trafficRequestIds = none

/-- The creation of a run. -/
def AllowsCreate (call : DrCall) (run : SwitchRun) : Prop :=
  phase.stage = .idle ∧ run.trafficRequestIds = [] ∧ (∃ groupId direction reason trusted,
        call = .initiateSwitch groupId direction reason run.idempotencyKey trusted)
    ∧ ∃ members, phase.read = some (run.groupId, members)
      ∧ run.status = if dataMembers members = [] then .dataLayerCompleted else .dataLayerPending

end Phase

def drProtocol (call : DrCall) : Program.Protocol Phase DrOp DrOp.Reply where
  allows phase op :=
    match op with
    | .listMembers _ => phase.stage.works = none
    | .getRun id tenantId => phase.stage = .idle
        ∧ ∃ trusted, call = .confirmDataLayer id trusted ∧ trusted.tenantId = tenantId
    | .createRun run _ => phase.AllowsCreate call run
    | .updateRun id status fields events => phase.AllowsUpdate call id status fields events
    | .gslb run op =>
      (∃ requestIds, phase.stage = .dispatching run requestIds) ∧ phase.AllowsRequest call run op
    | _ => True
  after phase op answer :=
    match op, answer with
    | .listMembers groupId, .ok members => { phase with read := some (groupId, members) }
    | .getRun .., .ok (some run) =>
      if run.status = .dataLayerPending then { phase with stage := .confirming run } else phase
    | .createRun run _, .ok () =>
      if run.status = .dataLayerCompleted then { phase with stage := .dispatching run [] }
      else phase
    | .updateRun .., .ok () =>
      match phase.stage with
      | .confirming run =>
        { phase with
          stage := .dispatching { run with status := .dataLayerCompleted } run.trafficRequestIds }
      | _ => { phase with stage := .idle }
    | .updateRun .., .error _ => { phase with stage := .idle }
    | .gslb _ op, answer =>
      { phase with stage := phase.stage.submitted (Submission.seeking.after op answer) }
    | _, _ => phase

/-- What is left of a call keeps to the protocol, and leaves no run that it has begun to dispatch. -/
abbrev Keeps (call : DrCall) (p : DrProgram) (phase : Phase) : Prop :=
  p.Obeys (drProtocol call) (fun _ phase => phase.stage.works = none) phase

section Keeps

variable {call : DrCall} {phase : Phase} {Q : Except DrError DrAnswer → Phase → Prop}

theorem keeps_done {result : Except DrError DrAnswer} (h : phase.stage.works = none) :
    Keeps call (.done result) phase := h

theorem obeys_targetPool {direction : Direction} {serviceId : String}
    {next : Except String (Option String) → DrProgram}
    (h : ∀ answer, (next answer).Obeys (drProtocol call) Q phase) :
    (targetPool direction serviceId next).Obeys (drProtocol call) Q phase := by
  cases direction <;> exact obeys_call trivial h

theorem obeys_submitFor {read : Option (String × List Member)} {requestIds : List String}
    {member : Member} {targetPoolId : String} {next : Except AppError SwitchRequest → DrProgram}
    (hincludes : Phase.Includes ⟨read, .dispatching run requestIds⟩ run member.refId)
    (herror : ∀ err stage, stage.works = some run →
      (next (.error err)).Obeys (drProtocol call) Q ⟨read, stage⟩)
    (hok : ∀ request, (next (.ok request)).Obeys (drProtocol call) Q
      ⟨read, .dispatching run (requestIds ++ [request.id])⟩) :
    (submitFor sha run member trusted
      (trafficIntent { run with groupId := call.groupRef run } member trusted targetPoolId) next).Obeys
      (drProtocol call) Q ⟨read, .dispatching run requestIds⟩ := by
  have hkind : run.direction.kind = .failover ∨ run.direction.kind = .switchback := by
    cases run.direction <;> simp [Direction.kind]
  have hseeks : Seeks
      (trafficIntent { run with groupId := call.groupRef run } member trusted targetPoolId)
      (submitIntent sha (trafficIntent { run with groupId := call.groupRef run } member trusted
        targetPoolId).marshal member.refId trusted) :=
    seeks_submitIntent sha member.refId trusted rfl (IntentKind.ofText_text hkind)
  refine obeys_expand
    (fun phase => Phase.mk read ((Stage.dispatching run requestIds).submitted phase)) ?_ ?_ hseeks
  · rintro phase op rest ⟨rfl, hop⟩ hrest
    refine obeys_call ⟨⟨requestIds, rfl⟩, ?_⟩ hrest
    cases op with
    | getSwitchRequestByKey _ serviceId =>
      obtain rfl : serviceId = member.refId := hop
      exact hincludes
    | createSwitchRequest =>
      obtain ⟨hservice, hkind', hgroup⟩ := hop
      exact ⟨by rw [hservice]; exact hincludes, hkind', hgroup⟩
    | updateSwitchRequestStatus => exact hop.elim
    | _ => trivial
  · intro result phase hanswers
    cases result with
    | error err =>
      refine herror err _ ?_
      cases phase <;> rfl
    | ok request =>
      obtain rfl := hanswers request rfl
      exact hok request

/-- Where a call may end once it has read the runs of its group: not in a conflict. -/
def Closes (Q : Except DrError DrAnswer → Phase → Prop) : Prop :=
  ∀ result phase, phase.stage.works = none → (∀ text, result ≠ .error (.conflict text)) →
    Q result phase

section Closes

variable (hcloses : Closes Q)
include hcloses

theorem obeys_failRun {groupRef message : String} (h : phase.stage.works = some run) :
    (failRun { run with groupId := groupRef } trusted message).Obeys (drProtocol call) Q phase := by
  obtain ⟨read, stage⟩ := phase
  refine obeys_call trivial fun messageId => ?_
  cases stage with
  | dispatching =>
    cases h
    refine obeys_call ⟨rfl, .inl ⟨rfl, rfl⟩⟩ fun answer => ?_
    cases answer <;> exact hcloses _ _ rfl nofun
  | doomed =>
    cases h
    refine obeys_call ⟨rfl, rfl, rfl⟩ fun answer => ?_
    cases answer <;> exact hcloses _ _ rfl nofun
  | _ => simp [Stage.works] at h

variable (call) in
theorem obeys_dispatchMembers
    {all : List Member} (members : List Member) (hmembers : ∀ m ∈ members, m ∈ trafficMembers all)
    (requestIds : List String) :
    (dispatchMembers sha run (call.groupRef run) trusted members requestIds).Obeys (drProtocol call) Q
      ⟨some (run.groupId, all), .dispatching run requestIds⟩ := by
  induction members generalizing requestIds with
  | nil =>
    refine obeys_call trivial fun messageId =>
      obeys_call ⟨rfl, .inr ⟨rfl, rfl⟩⟩ fun answer => ?_
    cases answer <;> exact hcloses _ _ rfl nofun
  | cons member _ ih =>
    refine obeys_targetPool fun answer => ?_
    split
    · exact obeys_failRun hcloses rfl
    · exact obeys_failRun hcloses rfl
    split
    · exact obeys_failRun hcloses rfl
    refine obeys_submitFor ⟨all, rfl, member, hmembers member List.mem_cons_self, rfl⟩
      (fun err stage hstage => obeys_failRun hcloses hstage) fun request => ?_
    exact ih (fun m hm => hmembers m (List.mem_cons_of_mem _ hm)) _

/-- The end of `InitiateSwitch`, where no run is in the way. -/
theorem obeys_listMembers (sha : String → String) (groupId direction reason idempotencyKey : String)
    (direction' : Direction) (trusted : TrustedContext) :
    Obeys (drProtocol (.initiateSwitch groupId direction reason idempotencyKey trusted)) Q
      (.call (.listMembers (uuidText groupId)) fun
        | .error err => fails err
        | .ok members =>
          if trafficMembers members = [] then
            .done (.error (.invalid "group has no traffic-layer (gslb_service) member"))
          else startRun sha groupId reason idempotencyKey direction' trusted members) .start := by
  refine obeys_call rfl fun answer => ?_
  match answer with
  | .error err => exact hcloses _ _ rfl nofun
  | .ok members =>
  simp only
  split
  · exact hcloses _ _ rfl nofun
  refine obeys_call trivial fun now => obeys_call trivial fun id =>
    obeys_call trivial fun correlationId => obeys_call trivial fun operationId =>
    obeys_call trivial fun messageId => obeys_call
      ⟨rfl, rfl, ⟨_, _, _, _, rfl⟩, members, rfl, rfl⟩ fun answer => ?_
  cases answer with
  | error => exact hcloses _ _ rfl nofun
  | ok =>
    show Obeys _ _ (if SwitchRun.status ?run = .dataLayerCompleted then _ else _)
      (if SwitchRun.status ?run = .dataLayerCompleted then _ else _)
    split
    · exact obeys_dispatchMembers (.initiateSwitch groupId direction reason idempotencyKey trusted)
        hcloses _ (fun m hm => hm) _
    · exact hcloses _ _ rfl nofun

end Closes

theorem keeps_withGroup {next : Group → DrProgram}
    (hidle : phase.stage.works = none) (h : ∀ group, Keeps call (next group) phase) :
    Keeps call (withGroup groupId trusted next) phase := by
  refine obeys_call trivial fun answer => ?_
  match answer with
  | .error err => exact keeps_done hidle
  | .ok none => exact keeps_done hidle
  | .ok (some group) => exact h group

theorem keeps_initiateSwitch {direction reason idempotencyKey : String} :
    Keeps (.initiateSwitch groupId direction reason idempotencyKey trusted)
      (initiateSwitch sha groupId direction reason idempotencyKey trusted) .start := by
  unfold initiateSwitch
  split
  · exact keeps_done rfl
  split
  · exact keeps_done rfl
  split
  · exact keeps_done rfl
  refine keeps_withGroup rfl fun group => obeys_call trivial fun answer => ?_
  match answer with
  | .error err => exact keeps_done rfl
  | .ok (some existing) => exact keeps_done rfl
  | .ok none =>
  refine obeys_call trivial fun answer => ?_
  match answer with
  | .error err => exact keeps_done rfl
  | .ok runs =>
  simp only
  split
  · exact keeps_done rfl
  · exact obeys_listMembers (fun _ _ h _ => h) _ _ _ _ _ _ _

theorem keeps_confirmDataLayer {runId : String} :
    Keeps (.confirmDataLayer runId trusted) (confirmDataLayer sha runId trusted) .start := by
  unfold confirmDataLayer
  split
  · exact keeps_done rfl
  refine obeys_call ⟨rfl, trusted, rfl, rfl⟩ fun answer => ?_
  match answer with
  | .error err => exact keeps_done rfl
  | .ok none => exact keeps_done rfl
  | .ok (some run) =>
  show Keeps _ (if run.status ≠ .dataLayerPending then _ else _)
    (if run.status = .dataLayerPending then _ else _)
  by_cases hpending : run.status = .dataLayerPending
  swap
  · rw [if_pos hpending, if_neg hpending]
    exact keeps_done rfl
  rw [if_neg (not_not.2 hpending), if_pos hpending]
  refine obeys_call rfl fun answer => ?_
  match answer with
  | .error err => exact keeps_done rfl
  | .ok members =>
  refine obeys_call trivial fun messageId => obeys_call
    ⟨rfl, rfl, rfl, _, _, _, rfl, rfl⟩ fun answer => ?_
  cases answer with
  | error => exact keeps_done rfl
  | ok => exact obeys_dispatchMembers _ (fun _ _ h _ => h) _ (fun m hm => hm) _

section Idle

variable {next : List SwitchRun → DrProgram} {tenantId : String}
  (hidle : phase.stage.works = none)
include hidle

theorem keeps_aggregateEach (h : ∀ runs, Keeps call (next runs) phase)
    (runs reported : List SwitchRun) :
    Keeps call (aggregateEach next runs reported) phase := by
  induction runs generalizing reported with
  | nil => exact h reported
  | cons _ _ ih =>
    unfold aggregateEach
    split
    · exact ih _
    refine obeys_call trivial fun answer => ?_
    cases answer with
    | error => exact keeps_done hidle
    | ok => exact ih _

theorem keeps_aggregateRuns (h : ∀ runs, Keeps call (next runs) phase) :
    Keeps call (aggregateRuns groupId tenantId next) phase := by
  refine obeys_call trivial fun answer => ?_
  cases answer with
  | error => exact keeps_done hidle
  | ok runs => exact keeps_aggregateEach hidle h runs []

theorem keeps_addMember {memberType refId name : String} :
    Keeps call (addMember groupId memberType refId name trusted) phase := by
  unfold addMember
  split
  · exact keeps_done hidle
  refine keeps_withGroup hidle fun group => ?_
  split
  · exact keeps_done hidle
  split
  · exact keeps_done hidle
  refine obeys_call trivial fun id => obeys_call trivial fun now =>
    obeys_call trivial fun answer => ?_
  cases answer <;> exact keeps_done hidle

theorem keeps_createGroup {name primaryRegion standbyRegion : String} :
    Keeps call (createGroup name primaryRegion standbyRegion trusted) phase := by
  unfold createGroup
  split
  · exact keeps_done hidle
  split
  · exact keeps_done hidle
  refine obeys_call trivial fun now => obeys_call trivial fun id =>
    obeys_call trivial fun answer => ?_
  cases answer <;> exact keeps_done hidle

theorem keeps_listRuns : Keeps call (listRuns groupId trusted) phase := by
  unfold listRuns
  split
  · exact keeps_done hidle
  · exact keeps_withGroup hidle fun group => keeps_aggregateRuns hidle fun runs => keeps_done hidle

theorem keeps_listGroups : Keeps call (listGroups trusted) phase := by
  unfold listGroups
  split
  · exact keeps_done hidle
  refine obeys_call trivial fun answer => ?_
  cases answer <;> exact keeps_done hidle

theorem keeps_getGroup : Keeps call (getGroup groupId trusted) phase := by
  unfold getGroup
  split
  · exact keeps_done hidle
  refine keeps_withGroup hidle fun group => obeys_call hidle fun answer => ?_
  cases answer with
  | error => exact keeps_done hidle
  | ok => exact keeps_aggregateRuns hidle fun runs => keeps_done hidle

end Idle

theorem keeps_program (sha : String → String) (call : DrCall) :
    Keeps call (call.program sha) .start := by
  cases call with
  | createGroup => exact keeps_createGroup rfl
  | listGroups => exact keeps_listGroups rfl
  | getGroup => exact keeps_getGroup rfl
  | addMember => exact keeps_addMember rfl
  | initiateSwitch => exact keeps_initiateSwitch
  | confirmDataLayer => exact keeps_confirmDataLayer
  | listRuns => exact keeps_listRuns rfl

end Keeps

end HnbCloud.Dr
