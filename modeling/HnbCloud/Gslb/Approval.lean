import HnbCloud.Gslb.Command
import HnbCloud.Gslb.Executor
import HnbCloud.Lib.Machine

set_option autoImplicit false

/-! # Decisions on switch requests

The API server and the traffic controller write the status of the same row. `transition` of the API
server reads it in one query and writes it in another, without a condition
(`apiserver/internal/infrastructure/gslb/postgres_store.go`); `Transition` of the controller is a
compare and set (`gslb-controller/internal/store/switch_request_store.go`). This module puts both
over one database and lets any number of their calls interleave.

A request is decided once as long as every decision finds it waiting for approval when it is
written; what `transition` has read before does not ensure that. Ids are taken as the database writes
them. -/

namespace HnbCloud.Gslb

open Messaging Iam List Table Option RequestStatus

/-! ## The database -/

/-- A decision of the API server that took effect. -/
structure Decision where
  requestId : String
  status : RequestStatus
deriving DecidableEq, Repr

/-- The tables of the switch requests, without the rows of the Operation Center that are written
    along, and what has taken effect. -/
structure Traffic where
  requests : Table SwitchRequest String SwitchRequest.id
  drills : List DrillReport
  outbox : Outbox
  now : Int
  /-- The updates of `UpdateSwitchRequestStatus` that were committed and found their row. -/
  decided : List Decision
  /-- The calls of `ExecutePlan`, with the request whose command was handled. -/
  executed : List (String × Plan)

open Traffic

/-- What becomes of a transaction on `s`: an error leaves `s`, and so does a refusal. -/
def ApiOutcome.commit {σ α : Type} (s : σ) (transaction : Except String (σ × α)) :
    ApiOutcome → σ × Except String α
  | refused text => (s, .error text)
  | ok =>
    match transaction with
    | .error err => (s, .error err)
    | .ok (s', answer) => (s', .ok answer)
  | lost text =>
    match transaction with
    | .error err => (s, .error err)
    | .ok (s', _) => (s', .error text)

variable {σ α : Type} {request : SwitchRequest} {events : List Event} {target : RequestStatus}
  {errorMsg : String} (outcome : ApiOutcome)

/-- A transaction is committed, or nothing happens; it answers only if it is committed. -/
theorem commit_cases (s : σ) (transaction : Except String (σ × α)) :
    (∃ err, outcome.commit s transaction = (s, .error err)) ∨ ∃ s' a, transaction = .ok (s', a)
        ∧ (outcome.commit s transaction = (s', .ok a)
          ∨ ∃ text, outcome.commit s transaction = (s', .error text)) := by
  cases transaction with
  | error err =>
    cases outcome with
    | refused text => exact .inl ⟨text, rfl⟩
    | ok | lost => exact .inl ⟨err, rfl⟩
  | ok r =>
    cases outcome with
    | refused text => exact .inl ⟨text, rfl⟩
    | ok => exact .inr ⟨r.1, r.2, rfl, .inl rfl⟩
    | lost text => exact .inr ⟨r.1, r.2, rfl, .inr ⟨text, rfl⟩⟩

variable {transaction : Except String (σ × α)}

/-- What holds before a transaction and after it holds whatever becomes of it. -/
theorem commit_induction {P : σ → Prop} {s : σ} (hs : P s)
    (h : ∀ s' a, transaction = .ok (s', a) → P s') : P (outcome.commit s transaction).1 := by
  rcases commit_cases outcome s transaction with ⟨err, heq⟩ | ⟨s', a, htx, heq | ⟨text, heq⟩⟩
  · rw [heq]
    exact hs
  · rw [heq]
    exact h s' a htx
  · rw [heq]
    exact h s' a htx

theorem commit_eq_ok {outcome : ApiOutcome} {s : σ}
    {a : α} (h : (outcome.commit s transaction).2 = .ok a) :
    transaction = .ok ((outcome.commit s transaction).1, a) := by
  rcases commit_cases outcome s transaction with ⟨err, heq⟩ | ⟨s', a', htx, heq | ⟨text, heq⟩⟩
  · rw [heq] at h
    simp at h
  · rw [heq] at h ⊢
    rw [htx, Except.ok.inj h]
  · rw [heq] at h
    simp at h

/-- The answer to a query is what it finds in the store, which it leaves as it is. -/
theorem query_answer {outcome : ApiOutcome} {s : σ} {a b : α}
    (h : (outcome.commit s (.ok (s, a))).2 = .ok b) :
    (outcome.commit s (.ok (s, a))).1 = s ∧ b = a := by
  have heq := Except.ok.inj (commit_eq_ok h)
  exact ⟨(congrArg Prod.fst heq).symm, (congrArg Prod.snd heq).symm⟩

theorem commit_query (s : σ) (a : α) : outcome.commit s (.ok (s, a)) = (s, .ok a)
      ∨ ∃ text, outcome.commit s (.ok (s, a)) = (s, .error text) := by
  cases outcome with
  | ok => exact .inl rfl
  | refused text | lost text => exact .inr ⟨text, rfl⟩

theorem commit_query_fst (s : σ) (a : α) : (outcome.commit s (.ok (s, a))).1 = s := by
  rcases commit_query outcome s a with h | ⟨text, h⟩ <;> rw [h]

@[simp] theorem commit_ok (s s' : σ) (a : α) :
    ApiOutcome.ok.commit s (.ok (s', a)) = (s', .ok a) := rfl

/-- The update of a decision. -/
def SwitchRequest.decided (now : Int) (status : RequestStatus) (approvedBy : String)
    (approvedAt : Int) (row : SwitchRequest) : SwitchRequest :=
  { row with status := status, approvedBy := approvedBy, approvedAt := some approvedAt
             updatedAt := now }

theorem SwitchRequest.id_decided (now : Int) (status : RequestStatus) (approvedBy : String)
    (approvedAt : Int) (row : SwitchRequest) :
    (row.decided now status approvedBy approvedAt).id = row.id := rfl

/-- The update of a transition of the controller. -/
def SwitchRequest.moved (now : Int) (target : RequestStatus) (errorMsg : String)
    (row : SwitchRequest) : SwitchRequest :=
  { row with status := target, error := errorMsg, updatedAt := now }

theorem SwitchRequest.id_moved (now : Int) (target : RequestStatus) (errorMsg : String)
    (row : SwitchRequest) : (row.moved now target errorMsg).id = row.id := rfl

/-! ## The calls of the API server -/

namespace Traffic

variable (s : Traffic)

/-- The events of a transaction. -/
def emit (events : List OutboxEvent) : Except String Traffic :=
  match insertOutboxEvents s.outbox s.now events with
  | none => .error "insert gslb outbox event"
  | some outbox => .ok { s with outbox := outbox }

def createSwitchRequest (request : SwitchRequest) (drill : Option DrillReport)
    (events : List Event) : Except String (Traffic × Unit) :=
  if s.requests.rows.any (fun row => row.tenantId == request.tenantId
      && row.serviceId == request.serviceId && row.idempotencyKey == request.idempotencyKey) then
    .error "insert gslb switch request"
  else
  match s.requests.insert? request with
  | none => .error "insert gslb switch request"
  | some requests =>
  match emit { s with requests := requests, drills := s.drills ++ drill.toList }
      (events.map (Event.toOutbox s.now)) with
  | .error err => .error err
  | .ok s' => .ok (s', ())

/-- `UpdateSwitchRequestStatus`: the row has to have the id, and nothing else. -/
def updateSwitchRequestStatus (id : String) (status : RequestStatus) (approvedBy : String)
    (approvedAt : Int) (events : List Event) : Except String (Traffic × Unit) :=
  let s' : Traffic := { s with
      requests := s.requests.update id _ (SwitchRequest.id_decided s.now status approvedBy approvedAt)
      decided := s.decided ++
        if (s.requests.get? id).isSome then [{ requestId := id, status := status }] else [] }
  match s'.emit (events.map (Event.toOutbox s.now)) with
  | .error err => .error err
  | .ok s'' => .ok (s'', ())

end Traffic

/-- What is left to chance in a call of the API server: the tables of the services are not part of
    the model. -/
structure RepoNature where
  outcome : ApiOutcome
  service : Option Service
  members : List String
  healthyPools : Option (List String)
  uuid : String

/-- The repository of the API server. -/
def repository : HnbCloud.Service Traffic RepoOp RepoOp.Reply RepoNature where
  perform s op n :=
    match op with
    | .getService .. => n.outcome.commit s (.ok (s, n.service))
    | .getPoolMemberClusterIds .. => n.outcome.commit s (.ok (s, n.members))
    | .getSwitchRequestByKey tenantId serviceId idempotencyKey =>
      n.outcome.commit s (.ok (s, s.requests.rows.find? fun row => row.tenantId == tenantId
        && row.serviceId == serviceId && row.idempotencyKey == idempotencyKey))
    | .getSwitchRequest id tenantId =>
      n.outcome.commit s (.ok (s, (s.requests.get? id).filter fun row => row.tenantId == tenantId))
    | .getReadModel .. => n.outcome.commit s (.ok (s, n.healthyPools))
    | .createSwitchRequest request drill events =>
      n.outcome.commit s (s.createSwitchRequest request drill events)
    | .updateSwitchRequestStatus id status approvedBy approvedAt events =>
      n.outcome.commit s (s.updateSwitchRequestStatus id status approvedBy approvedAt events)
    | .now => (s, s.now)
    | .newUuid => (s, n.uuid)

/-! ## The calls of the controller -/

namespace Traffic

variable (s : Traffic)

def transition (id : String) (source : List RequestStatus) (target : RequestStatus)
    (errorMsg : String) : Except String (Traffic × Unit) :=
  match s.requests.get? id with
  | none => .error "gslb request transition rejected: status guard failed"
  | some row =>
    if row.status ∈ source then
      .ok ({ s with requests :=
          s.requests.update id _ (SwitchRequest.id_moved s.now target errorMsg) }, ())
    else .error "gslb request transition rejected: status guard failed"

/-- The event of `EmitStatusChanged`. -/
def resultEvent (request : SwitchRequest) (status : RequestStatus) (errorMsg messageId
    correlationId : String) : Event where
  messageId := messageId
  messageType := eventStatusChanged
  tenantId := request.tenantId
  actorId := "gslb-controller"
  correlationId := correlationId
  idempotencyKey := "gslb-status-" ++ request.id ++ "-" ++ status.text
  aggregateId := request.serviceId
  payload := .obj [("requestId", .str request.id), ("serviceId", .str request.serviceId),
    ("status", .str status.text), ("error", .str errorMsg),
    ("operationId", .str request.operationId)]

def emitStatusChanged (request : SwitchRequest) (status : RequestStatus) (errorMsg messageId
    correlationId : String) : Except String (Traffic × Unit) :=
  match s.emit [(resultEvent request status errorMsg messageId correlationId).toOutbox s.now] with
  | .error err => .error err
  | .ok s' => .ok (s', ())

end Traffic

/-- What is left to chance in a call of the controller. -/
structure ControllerNature where
  outcome : ApiOutcome
  /-- What `ExecutePlan` returns. -/
  execution : Except String Unit
  (messageId correlationId : String)

/-- The store and the executor of the controller, for the command of a request. -/
def controllerStore (requestId : String) :
    HnbCloud.Service Traffic ControllerOp ControllerOp.Reply ControllerNature where
  perform s op n :=
    match op with
    | .getRequest id => n.outcome.commit s (.ok (s, s.requests.get? id))
    | .transition id source target errorMsg =>
      n.outcome.commit s (s.transition id source target errorMsg)
    | .executePlan plan => ({ s with executed := s.executed ++ [(requestId, plan)] }, n.execution)
    | .emitStatusChanged request status errorMsg =>
      n.outcome.commit s (s.emitStatusChanged request status errorMsg n.messageId n.correlationId)

/-! ## Calls and commands in any order -/

/-- The calls of the API server and the commands of the controller that are at work. One that has
    crashed is one that takes no further step. -/
structure TrafficWorld where
  traffic : Traffic
  calls : List AppProgram
  /-- The request that a command names, and what is left of `HandleCommand`. -/
  commands : List (String × ControllerProgram)

/-- What happens next. -/
inductive TrafficEvent where
  | submit (body : Json) (pathServiceId : String) (trusted : TrustedContext)
  | approve (requestId : String) (trusted : TrustedContext)
  | reject (requestId : String) (trusted : TrustedContext)
  /-- A call of the API server performs its next operation. -/
  | perform (call : Nat) (n : RepoNature)
  /-- The controller gets a command. -/
  | deliver (data : Json)
  /-- The handling of a command performs its next operation. -/
  | handle (command : Nat) (n : ControllerNature)
  | tick (now : Int)

def commandRequestId (data : Json) : String :=
  ((CommandPayload.unmarshal data).map CommandPayload.requestId).getD ""

namespace TrafficWorld

variable (w : TrafficWorld)

def perform (call : Nat) (n : RepoNature) : TrafficWorld :=
  match w.calls[call]? with
  | some (.call op next) =>
    let r := repository.perform w.traffic op n
    { w with traffic := r.1, calls := w.calls.set call (next r.2) }
  | _ => w

def handle (command : Nat) (n : ControllerNature) : TrafficWorld :=
  match w.commands[command]? with
  | some (requestId, .call op next) =>
    let r := (controllerStore requestId).perform w.traffic op n
    { w with traffic := r.1, commands := w.commands.set command (requestId, next r.2) }
  | _ => w

def step (sha : String → String) : TrafficEvent → TrafficWorld
  | .submit body pathServiceId trusted =>
    { w with calls := w.calls ++ [submitIntent sha body pathServiceId trusted] }
  | .approve requestId trusted => { w with calls := w.calls ++ [approve requestId trusted] }
  | .reject requestId trusted => { w with calls := w.calls ++ [reject requestId trusted] }
  | .perform call n => w.perform call n
  | .deliver data =>
    { w with commands := w.commands ++ [(commandRequestId data, handleCommand data)] }
  | .handle command n => w.handle command n
  | .tick now => { w with traffic := { w.traffic with now := now } }

/-- Nothing is at work. -/
def start (requests : Table SwitchRequest String SwitchRequest.id) (outbox : Outbox) (now : Int) :
    TrafficWorld where
  traffic :=
    { requests := requests, drills := [], outbox := outbox, now := now, decided := []
      executed := [] }
  calls := []
  commands := []

end TrafficWorld

/-- The API server and the controller as a machine. -/
def trafficMachine (sha : String → String) : Machine TrafficWorld TrafficEvent Unit where
  step w event := (w.step sha event, ())

/-! ## What one operation does to a request -/

namespace RequestStatus

/-- The request has been approved: it is executed or has been. -/
def isGranted : RequestStatus → Bool
  | approved | dispatched | succeeded | failed => true
  | _ => false

/-- The moves of the controller. -/
def moves : List (RequestStatus × RequestStatus) :=
  [(approved, dispatched), (dispatched, succeeded), (dispatched, failed)]

/-- `Rejected`, `Succeeded` and `Failed`. -/
def isFinal : RequestStatus → Bool
  | rejected | succeeded | failed => true
  | _ => false

end RequestStatus

namespace Traffic

variable (s : Traffic) (id : String)

def status : Option RequestStatus := (s.requests.get? id).map SwitchRequest.status

/-- The decisions on a request that took effect. -/
def decisions : List RequestStatus :=
  (s.decided.filter fun decision => decision.requestId == id).map Decision.status

/-- The executions for a request. -/
def executions : List (String × Plan) := s.executed.filter fun execution => execution.1 == id

/-- The request has been approved. -/
def Granted : Prop := (s.status id).any isGranted = true

/-- What an operation can do to a request that exists. -/
inductive Effect (id : String) (s s' : Traffic) : Prop where
  /-- Nothing, or to execute the plan of an approved request. -/
  | kept (status : s'.status id = s.status id) (decisions : s'.decisions id = s.decisions id)
      (executions : s'.executions id = s.executions id ∨ s.Granted id)
  /-- A decision on it takes effect. -/
  | decided (target : RequestStatus) (waiting : s.status id = some .pendingApproval)
      (decision : target = .approved ∨ target = .rejected) (status : s'.status id = some target)
      (decisions : s'.decisions id = s.decisions id ++ [target])
      (executions : s'.executions id = s.executions id)
  /-- The controller moves it. -/
  | moved (source target : RequestStatus) (before : s.status id = some source)
      (status : s'.status id = some target)
      (legal : (source, target) ∈ moves)
      (decisions : s'.decisions id = s.decisions id) (executions : s'.executions id = s.executions id)

end Traffic

/-- The operations of the API server on the status of a request. -/
def RepoOp.Decides : RepoOp → Prop
  | updateSwitchRequestStatus _ status .. => status = .approved ∨ status = .rejected
  | _ => True

/-- A decision on the request is written only while it is waiting for approval. -/
def RepoOp.Waits (id : String) (s : Traffic) : RepoOp → Prop
  | updateSwitchRequestStatus id' .. => id' = id → s.status id = some .pendingApproval
  | _ => True

def ControllerOp.Moves : ControllerOp → Prop
  | transition _ source target _ => ∀ status ∈ source, (status, target) ∈ moves
  | _ => True

/-- A plan is executed only for an approved request. -/
def ControllerOp.Permitted (id : String) (s : Traffic) : ControllerOp → Prop
  | executePlan _ => s.Granted id
  | _ => True

namespace Traffic

variable {s s' : Traffic} {id : String}

theorem Effect.refl (id : String) (s : Traffic) : Effect id s s := .kept rfl rfl (.inl rfl)

theorem Effect.commit {transaction : Except String (Traffic × α)}
    (h : ∀ s' answer, transaction = .ok (s', answer) → Effect id s s') :
    Effect id s (outcome.commit s transaction).1 :=
  commit_induction outcome (.refl id s) h

theorem Effect.query (answer : α) : Effect id s (outcome.commit s (.ok (s, answer))).1 := by
  rw [commit_query_fst]
  exact .refl id s

/-! What a transaction leaves behind if it is committed. -/

theorem emit_eq_ok {events : List OutboxEvent} (h : s.emit events = .ok s') :
    ∃ outbox, insertOutboxEvents s.outbox s.now events = some outbox
      ∧ s' = { s with outbox := outbox } := by
  unfold emit at h
  split at h
  · simp at h
  · next outbox houtbox => exact ⟨outbox, houtbox, (Except.ok.inj h).symm⟩

variable {drill : Option DrillReport}

theorem createSwitchRequest_eq_ok (h : s.createSwitchRequest request drill events = .ok (s', ())) :
    ∃ requests outbox, s.requests.insert? request = some requests
      ∧ insertOutboxEvents s.outbox s.now (events.map (Event.toOutbox s.now)) = some outbox
      ∧ s' = { s with requests := requests, drills := s.drills ++ drill.toList
                      outbox := outbox } := by
  unfold createSwitchRequest at h
  split_ifs at h
  split at h
  · simp at h
  next requests hinsert =>
  split at h
  · simp at h
  next s'' hemit =>
  obtain rfl : s'' = s' := congrArg Prod.fst (Except.ok.inj h)
  obtain ⟨outbox, houtbox, hs'⟩ := emit_eq_ok hemit
  exact ⟨requests, outbox, hinsert, houtbox, hs'⟩

variable {status : RequestStatus} {approvedBy : String}

theorem updateSwitchRequestStatus_eq_ok {id : String} {approvedAt : Int}
    (h : s.updateSwitchRequestStatus id status approvedBy approvedAt events = .ok (s', ())) :
    ∃ outbox, insertOutboxEvents s.outbox s.now (events.map (Event.toOutbox s.now)) = some outbox
      ∧ s' = { s with
          requests := s.requests.update id _
            (SwitchRequest.id_decided s.now status approvedBy approvedAt)
          decided := s.decided ++
            if (s.requests.get? id).isSome then [{ requestId := id, status := status }] else []
          outbox := outbox } := by
  unfold updateSwitchRequestStatus at h
  simp only at h
  split at h
  · simp at h
  next s'' hemit =>
  obtain rfl : s'' = s' := congrArg Prod.fst (Except.ok.inj h)
  exact emit_eq_ok hemit

variable {source : List RequestStatus}

theorem transition_eq_ok {id : String} (h : s.transition id source target errorMsg = .ok (s', ())) :
    ∃ row, s.requests.get? id = some row ∧ row.status ∈ source
      ∧ s' = { s with requests :=
          s.requests.update id _ (SwitchRequest.id_moved s.now target errorMsg) } := by
  unfold transition at h
  split at h
  · simp at h
  next row hrow =>
  split_ifs at h with hsource
  exact ⟨row, hrow, hsource, (congrArg Prod.fst (Except.ok.inj h)).symm⟩

theorem emitStatusChanged_eq_ok {messageId correlationId : String}
    (h : s.emitStatusChanged request status errorMsg messageId correlationId = .ok (s', ())) :
    ∃ outbox, insertOutboxEvents s.outbox s.now
        [(resultEvent request status errorMsg messageId correlationId).toOutbox s.now] = some outbox
      ∧ s' = { s with outbox := outbox } := by
  unfold emitStatusChanged at h
  split at h
  · simp at h
  next s'' hemit =>
  obtain rfl : s'' = s' := congrArg Prod.fst (Except.ok.inj h)
  exact emit_eq_ok hemit

theorem createSwitchRequest_effect (hexists : (s.requests.get? id).isSome)
    (h : s.createSwitchRequest request drill events = .ok (s', ())) : Effect id s s' := by
  obtain ⟨requests, outbox, hinsert, -, rfl⟩ := createSwitchRequest_eq_ok h
  have hne : id ≠ request.id := by
    rintro rfl
    simp [get?_eq_none_of_insert? hinsert] at hexists
  refine .kept ?_ rfl (.inl rfl)
  rw [status, status, get?_insert? hinsert, if_neg hne]

theorem updateSwitchRequestStatus_effect {id' : String} {approvedAt : Int}
    (htarget : target = .approved ∨ target = .rejected)
    (hwaits : id' = id → s.status id = some .pendingApproval)
    (h : s.updateSwitchRequestStatus id' target approvedBy approvedAt events = .ok (s', ())) :
    Effect id s s' := by
  obtain ⟨outbox, -, rfl⟩ := updateSwitchRequestStatus_eq_ok h
  by_cases hid : id' = id
  · subst hid
    obtain ⟨row, hrow, -⟩ := map_eq_some_iff.1 (hwaits rfl)
    refine .decided target (hwaits rfl) htarget ?_ ?_ rfl
    · rw [status, get?_update_self _ _ _ _ hrow]
      rfl
    · simp [decisions, hrow]
  · refine .kept ?_ ?_ (.inl rfl)
    · rw [status, status, get?_update_of_ne _ _ _ _ (Ne.symm hid)]
    · rw [decisions, filter_append]
      split <;> simp [decisions, hid]

theorem transition_effect {id' : String} (hmoves : ∀ status ∈ source, (status, target) ∈ moves)
    (h : s.transition id' source target errorMsg = .ok (s', ())) : Effect id s s' := by
  obtain ⟨row, hrow, hsource, rfl⟩ := transition_eq_ok h
  by_cases hid : id' = id
  · subst hid
    refine .moved row.status target ?_ ?_ (hmoves _ hsource) rfl rfl
    · rw [status, hrow]
      rfl
    · rw [status, get?_update_self _ _ _ _ hrow]
      rfl
  · refine .kept ?_ rfl (.inl rfl)
    rw [status, get?_update_of_ne _ _ _ _ (Ne.symm hid)]
    rfl

theorem emitStatusChanged_effect {messageId correlationId : String}
    (h : s.emitStatusChanged request status errorMsg messageId correlationId = .ok (s', ())) :
    Effect id s s' := by
  obtain ⟨outbox, -, rfl⟩ := emitStatusChanged_eq_ok h
  exact .kept rfl rfl (.inl rfl)

theorem repository_effect {op : RepoOp} (n : RepoNature) (hexists : (s.requests.get? id).isSome)
    (hdecides : op.Decides) (hwaits : op.Waits id s) :
    Effect id s (repository.perform s op n).1 := by
  cases op with
  | now | newUuid => exact .refl id s
  | createSwitchRequest => exact .commit _ fun _ _ htx => createSwitchRequest_effect hexists htx
  | updateSwitchRequestStatus =>
    exact .commit _ fun _ _ htx => updateSwitchRequestStatus_effect hdecides hwaits htx
  | _ => exact .query _ _

/-- An operation of the controller on a request, for a command that may name another. -/
theorem controllerStore_effect {requestId : String} {op : ControllerOp} (n : ControllerNature)
    (hmoves : op.Moves) (hpermitted : requestId = id → op.Permitted id s) :
    Effect id s ((controllerStore requestId).perform s op n).1 := by
  cases op with
  | getRequest => exact .query _ _
  | transition => exact .commit _ fun _ _ htx => transition_effect hmoves htx
  | executePlan =>
    refine .kept rfl rfl ?_
    by_cases hid : requestId = id
    · exact .inr (hpermitted hid)
    · left
      simp [executions, controllerStore, hid]
  | emitStatusChanged => exact .commit _ fun _ _ htx => emitStatusChanged_effect htx

/-! ## What effects preserve -/

theorem Effect.granted (h : Effect id s s') (hgranted : s.Granted id) : s'.Granted id := by
  unfold Granted at hgranted ⊢
  cases h with
  | kept hstatus => rwa [hstatus]
  | decided _ hwaiting => simp [hwaiting, isGranted] at hgranted
  | moved _ _ _ hstatus hlegal =>
    have htarget : ∀ move ∈ moves, move.2.isGranted = true := by decide
    rw [hstatus]
    exact htarget _ hlegal

theorem Effect.final (h : Effect id s s') (hstatus : s.status id = some status)
    (hfinal : status.isFinal) : s'.status id = some status := by
  cases h with
  | kept hkept => rwa [hkept]
  | decided _ hwaiting =>
    rw [hstatus, Option.some.injEq] at hwaiting
    simp [hwaiting, isFinal] at hfinal
  | moved _ _ hbefore _ hlegal =>
    rw [hstatus, Option.some.injEq] at hbefore
    have hsource : ∀ move ∈ moves, move.1.isFinal = false := by decide
    rw [hbefore, hsource _ hlegal] at hfinal
    simp at hfinal

/-- A request is decided at most once, and its plan is executed only after an approval. -/
structure DecidedOnce (id : String) (s : Traffic) : Prop where
  found : (s.requests.get? id).isSome
  waiting : s.status id = some .pendingApproval → s.decisions id = []
  rejected : s.status id = some .rejected → s.decisions id = [.rejected]
  granted : s.Granted id → s.decisions id = [.approved]
  executed : s.executions id ≠ [] → s.Granted id

theorem isSome_of_status (h : s.status id = some status) : (s.requests.get? id).isSome := by
  obtain ⟨row, hrow, -⟩ := map_eq_some_iff.1 h
  rw [hrow]
  rfl

theorem not_granted_of_waiting (h : s.status id = some .pendingApproval) : ¬ s.Granted id := by
  simp [Granted, h, isGranted]

theorem DecidedOnce.effect (hinv : DecidedOnce id s) (h : Effect id s s') : DecidedOnce id s' := by
  have hkeep := h.granted
  cases h with
  | kept hstatus hdecisions hexecutions =>
    refine ⟨?_, ?_, ?_, ?_, ?_⟩
    · rw [← isSome_map (f := SwitchRequest.status)]
      show (s'.status id).isSome
      rw [hstatus, status, isSome_map]
      exact hinv.found
    · rw [hstatus, hdecisions]
      exact hinv.waiting
    · rw [hstatus, hdecisions]
      exact hinv.rejected
    · rw [Granted, hstatus, hdecisions]
      exact hinv.granted
    · intro hne
      rcases hexecutions with hsame | hgranted
      · exact hkeep (hinv.executed (hsame ▸ hne))
      · exact hkeep hgranted
  | decided _ hwaiting htarget hstatus hdecisions hexecutions =>
    rw [hinv.waiting hwaiting, nil_append] at hdecisions
    have hnone : s'.executions id = [] := by
      rw [hexecutions]
      by_contra hne
      exact not_granted_of_waiting hwaiting (hinv.executed hne)
    refine ⟨isSome_of_status hstatus, ?_, ?_, ?_, fun hne => absurd hnone hne⟩
    · rw [hstatus, Option.some.injEq]
      rintro rfl
      simp at htarget
    · rw [hstatus, Option.some.injEq, hdecisions]
      rintro rfl
      rfl
    · rw [Granted, hstatus, hdecisions]
      rcases htarget with rfl | rfl
      · exact fun _ => rfl
      · exact fun hgranted => absurd hgranted (by decide)
  | moved _ target hbefore hstatus hlegal hdecisions =>
    have hmove : ∀ move ∈ moves, move.1.isGranted = true ∧ move.2.isGranted = true := by decide
    have hgranted : s.Granted id := by
      rw [Granted, hbefore]
      exact (hmove _ hlegal).1
    have htarget : target.isGranted = true := (hmove _ hlegal).2
    refine ⟨isSome_of_status hstatus, ?_, ?_, fun _ => ?_, fun _ => hkeep hgranted⟩
    · rw [hstatus, Option.some.injEq]
      rintro rfl
      exact absurd htarget (by decide)
    · rw [hstatus, Option.some.injEq]
      rintro rfl
      exact absurd htarget (by decide)
    · rw [hdecisions]
      exact hinv.granted hgranted

end Traffic

/-! ## The programs -/

/-- The calls of the API server only approve and reject. -/
def AppProgram.Decides (p : AppProgram) : Prop := ∀ op, p.Calls op → op.Decides

theorem decides_of_isPlain {op : RepoOp} (h : op.isPlain = true) : op.Decides := by
  cases op with
  | updateSwitchRequestStatus => simp [RepoOp.isPlain] at h
  | _ => trivial

theorem decides_transition (requestId : String) (trusted : TrustedContext) (dispatch : Bool)
    (htarget : target = .approved ∨ target = .rejected) :
    AppProgram.Decides (transition requestId trusted target dispatch) := fun _ =>
  (within_transition (fun _ => decides_of_isPlain) trivial fun _ _ _ _ _ _ _ => htarget).of_calls

theorem decides_submitIntent (sha : String → String) (body : Json) (pathServiceId : String)
    (trusted : TrustedContext) :
    AppProgram.Decides (submitIntent sha body pathServiceId trusted) := fun _ =>
  (within_submitIntent (fun _ => decides_of_isPlain) (fun _ => trivial)
    fun _ _ _ _ _ _ _ _ _ _ _ _ _ _ => trivial).of_calls

/-- The handling of a command only moves requests on. -/
def ControllerProgram.Moves (p : ControllerProgram) : Prop := ∀ op, p.Calls op → op.Moves

theorem moves_done (result : Except CommandError Unit) : ControllerProgram.Moves (.done result) :=
  fun op h => absurd h (Program.calls_done result op)

theorem moves_execution : ∀ target ∈ [succeeded, .failed],
    ∀ status ∈ [dispatched], (status, target) ∈ moves := by
  decide

theorem moves_dispatch : ∀ status ∈ [approved], (status, dispatched) ∈ moves := by
  decide

theorem moves_executeCommand (request : SwitchRequest) (requestId : String) (planData : Json) :
    ControllerProgram.Moves (executeCommand request requestId planData) := fun _ =>
  (within_executeCommand (fun target htarget _ => moves_execution target htarget)
    (fun _ _ => trivial) fun _ _ => trivial).of_calls

theorem moves_handleCommand (data : Json) : ControllerProgram.Moves (handleCommand data) := by
  refine fun _ => (within_handleCommand (fun _ _ => trivial) ?_ (fun _ _ _ _ _ _ _ => trivial)
    fun _ _ _ _ _ _ => trivial).of_calls
  rintro _ _ _ target err (⟨rfl, rfl⟩ | ⟨rfl, htarget⟩)
  · exact moves_dispatch
  · exact moves_execution target htarget

/-- What the others may do while a command is handled: they undo no approval. -/
def Traffic.Later (id : String) (s s' : Traffic) : Prop := s.Granted id → s'.Granted id

/-- The handling of a command for the request executes only while the request is approved. -/
def ControllerProgram.Permitted (id : String) (p : ControllerProgram) (s : Traffic) : Prop :=
  p.Respects (controllerStore id) (Traffic.Later id) (fun s op => op.Permitted id s) s

section Permitted

variable {id : String} {s : Traffic}

theorem permitted_of_granted {p : ControllerProgram} (hmoves : p.Moves) (h : s.Granted id) :
    p.Permitted id s := by
  induction p generalizing s with
  | done => trivial
  | call op next ih =>
    intro s' hlater
    have hpermitted : op.Permitted id s' := by
      cases op with
      | executePlan => exact hlater h
      | _ => trivial
    refine ⟨hpermitted, fun n => ih _ (fun op' hcalls => hmoves op' (.later _ hcalls)) ?_⟩
    exact (controllerStore_effect n (hmoves op (.here op next)) fun _ => hpermitted).granted
      (hlater h)

/-- A command is executed only if its request was approved when it was read. -/
theorem permitted_handleCommand {data : Json} (hid : commandRequestId data = id) (s : Traffic) :
    ControllerProgram.Permitted id (handleCommand data) s := by
  have hmoves := moves_handleCommand data
  unfold handleCommand at hmoves ⊢
  split at hmoves
  · trivial
  next payload hpayload =>
  obtain rfl : payload.requestId = id := by rw [← hid, commandRequestId, hpayload]; rfl
  split at hmoves
  · trivial
  split_ifs at hmoves ⊢
  · trivial
  refine Program.respects_call fun s' _ => ⟨trivial, fun n answer hanswer => ?_⟩
  have hrest := fun op hcalls => hmoves op (.later answer hcalls)
  split at hrest
  · trivial
  · trivial
  next request =>
  split_ifs at hrest ⊢ with hstatus
  · trivial
  all_goals
    obtain ⟨hsame, hrow⟩ := query_answer hanswer
    refine permitted_of_granted hrest ?_
    change Traffic.Granted (n.outcome.commit _ _).1 _
    rw [hsame, Traffic.Granted, status, ← hrow]
    revert hstatus
    cases hrequest : request.status <;> simp [isGranted, hrequest]

end Permitted

/-! ## Every run -/

/-- Whatever decision is written on the request, it is still waiting for approval. -/
def TrafficWorld.Waits (id : String) (w : TrafficWorld) : TrafficEvent → Prop
  | .perform call _ =>
    match w.calls[call]? with
    | some (.call op _) => op.Waits id w.traffic
    | _ => True
  | _ => True

instance (id : String) (s : Traffic) : (op : RepoOp) → Decidable (op.Waits id s)
  | .updateSwitchRequestStatus .. => inferInstanceAs (Decidable (_ → _))
  | .getService .. | .getPoolMemberClusterIds .. | .getSwitchRequestByKey .. | .getSwitchRequest ..
  | .getReadModel .. | .createSwitchRequest .. | .now | .newUuid => isTrue trivial

instance (id : String) (w : TrafficWorld) : (event : TrafficEvent) → Decidable (w.Waits id event)
  | .perform call _ =>
    match h : w.calls[call]? with
    | some (.call op _) => decidable_of_iff (op.Waits id w.traffic) (by simp [TrafficWorld.Waits, h])
    | some (.done _) | none => isTrue (by simp [TrafficWorld.Waits, h])
  | .submit .. | .approve .. | .reject .. | .deliver .. | .handle .. | .tick .. => isTrue trivial

/-- The programs at work: whatever they still do, they decide, move and execute the request only as
    they may. -/
structure Orderly (id : String) (w : TrafficWorld) : Prop where
  decides : ∀ call ∈ w.calls, call.Decides
  moves : ∀ command ∈ w.commands, command.2.Moves
  permitted : ∀ command ∈ w.commands, command.1 = id → command.2.Permitted id w.traffic

/-- What holds of a request in every run whose decisions wait. -/
structure TrafficInv (id : String) (w : TrafficWorld) : Prop extends Orderly id w where
  decidedOnce : w.traffic.DecidedOnce id

section Orderly

variable {id : String} {w : TrafficWorld}

theorem orderly_start (id : String) (requests : Table SwitchRequest String SwitchRequest.id)
    (outbox : Outbox) (now : Int) : Orderly id (.start requests outbox now) := by
  constructor <;> simp [TrafficWorld.start]

theorem Orderly.call (h : Orderly id w) {call : AppProgram} (hcall : call.Decides) :
    Orderly id { w with calls := w.calls ++ [call] } := by
  exact ⟨forall_mem_append.2 ⟨h.decides, forall_mem_singleton.2 hcall⟩, h.moves, h.permitted⟩

theorem Orderly.deliver (h : Orderly id w) (data : Json) : Orderly id
    { w with commands := w.commands ++ [(commandRequestId data, handleCommand data)] } := by
  refine ⟨h.decides, forall_mem_append.2 ⟨h.moves, ?_⟩, forall_mem_append.2 ⟨h.permitted, ?_⟩⟩
  · exact forall_mem_singleton.2 (moves_handleCommand data)
  · exact forall_mem_singleton.2 fun hid => permitted_handleCommand hid _

/-- A change of the database that undoes no approval keeps what the commands may do. -/
theorem Orderly.later (h : Orderly id w) {s : Traffic} (hlater : w.traffic.Later id s) :
    Orderly id { w with traffic := s } :=
  ⟨h.decides, h.moves, fun command hmem hid =>
    Program.Respects.stable (R := Traffic.Later id) (fun hab hbc ha => hbc (hab ha))
      (h.permitted command hmem hid) hlater⟩

/-- A request that is approved exists, so that an effect on it undoes no approval. -/
theorem Traffic.later_of_effect {s s' : Traffic}
    (h : (s.requests.get? id).isSome → s.Effect id s') : s.Later id s' := by
  intro hgranted
  refine (h ?_).granted hgranted
  cases hrow : s.requests.get? id with
  | none => simp [Traffic.Granted, status, hrow] at hgranted
  | some => rfl

theorem Orderly.perform (h : Orderly id w) {call : Nat} {n : RepoNature}
    (hwaits : w.Waits id (.perform call n)) :
    ((w.traffic.requests.get? id).isSome → w.traffic.Effect id (w.perform call n).traffic)
      ∧ Orderly id (w.perform call n) := by
  unfold TrafficWorld.perform
  split
  · next op next hcall =>
    have hdecides := h.decides _ (mem_of_getElem? hcall)
    simp only [TrafficWorld.Waits, hcall] at hwaits
    have heffect := fun hexists => repository_effect n hexists (hdecides op (.here op next)) hwaits
    refine ⟨heffect, ?_⟩
    have hlater := h.later (later_of_effect heffect)
    refine ⟨fun call' hmem => ?_, hlater.moves, hlater.permitted⟩
    rcases mem_or_eq_of_mem_set hmem with hmem | rfl
    · exact h.decides call' hmem
    · exact fun op' hcalls => hdecides op' (.later _ hcalls)
  · exact ⟨fun _ => .refl _ _, h⟩

theorem Orderly.handle (h : Orderly id w) (command : Nat) (n : ControllerNature) :
    w.traffic.Effect id (w.handle command n).traffic ∧ Orderly id (w.handle command n) := by
  unfold TrafficWorld.handle
  split
  · next requestId op next hcommand =>
    have hmem := mem_of_getElem? hcommand
    have hmoves := h.moves _ hmem
    have hpermitted : requestId = id → op.Permitted id w.traffic ∧ ∀ n,
        ControllerProgram.Permitted id (next ((controllerStore id).perform w.traffic op n).2)
          ((controllerStore id).perform w.traffic op n).1 :=
      fun hid => (h.permitted _ hmem hid).perform fun _ hgranted => hgranted
    have heffect := controllerStore_effect n (hmoves op (.here op next))
      fun hid => (hpermitted hid).1
    refine ⟨heffect, ?_⟩
    have hlater := h.later heffect.granted
    refine ⟨hlater.decides, fun command' hmem' => ?_, fun command' hmem' hid => ?_⟩
    · rcases mem_or_eq_of_mem_set hmem' with hmem' | rfl
      · exact h.moves command' hmem'
      · exact fun op' hcalls => hmoves op' (.later _ hcalls)
    · rcases mem_or_eq_of_mem_set hmem' with hmem' | rfl
      · exact hlater.permitted command' hmem' hid
      · obtain rfl : requestId = id := hid
        exact (hpermitted rfl).2 n
  · exact ⟨.refl _ _, h⟩

/-- One event, as long as decisions wait: it has an effect on the request, if there is one. -/
theorem Orderly.step (h : Orderly id w) (sha : String → String) {event : TrafficEvent}
    (hwaits : w.Waits id event) :
    ((w.traffic.requests.get? id).isSome → w.traffic.Effect id (w.step sha event).traffic)
      ∧ Orderly id (w.step sha event) := by
  cases event with
  | submit body pathServiceId trusted =>
    exact ⟨fun _ => .refl _ _, h.call (decides_submitIntent sha body pathServiceId trusted)⟩
  | approve requestId trusted =>
    exact ⟨fun _ => .refl _ _, h.call (decides_transition requestId trusted true (.inl rfl))⟩
  | reject requestId trusted =>
    exact ⟨fun _ => .refl _ _, h.call (decides_transition requestId trusted false (.inr rfl))⟩
  | perform => exact h.perform hwaits
  | deliver data => exact ⟨fun _ => .refl _ _, h.deliver data⟩
  | handle command n => exact ⟨fun _ => (h.handle command n).1, (h.handle command n).2⟩
  | tick now =>
    have heffect : w.traffic.Effect id { w.traffic with now := now } := .kept rfl rfl (.inl rfl)
    exact ⟨fun _ => heffect, h.later heffect.granted⟩

end Orderly

section Runs

variable {id : String} {w : TrafficWorld}

theorem TrafficInv.step (hinv : TrafficInv id w) (sha : String → String) {event : TrafficEvent}
    (hwaits : w.Waits id event) :
    w.traffic.Effect id (w.step sha event).traffic ∧ TrafficInv id (w.step sha event) := by
  obtain ⟨heffect, hnext⟩ := hinv.toOrderly.step sha hwaits
  have heffect := heffect hinv.decidedOnce.found
  exact ⟨heffect, hnext, hinv.decidedOnce.effect heffect⟩

theorem trafficInv_start {requests : Table SwitchRequest String SwitchRequest.id} {outbox : Outbox}
    {now : Int} (h : (requests.get? id).map SwitchRequest.status = some .pendingApproval) :
    TrafficInv id (.start requests outbox now) := by
  have hstatus : (TrafficWorld.start requests outbox now).traffic.status id
      = some .pendingApproval := h
  refine ⟨orderly_start id requests outbox now, isSome_of_status hstatus, fun _ => rfl,
    fun hrejected => ?_, fun hgranted => ?_, fun hne => absurd rfl hne⟩
  · rw [hstatus] at hrejected
    exact absurd hrejected (by decide)
  · exact absurd hgranted (not_granted_of_waiting hstatus)

/-- If decisions on a request wait, its final status stays and its plan is executed only after the
    one approval and no rejection. -/
theorem waiting_decisions_final (sha : String → String) (id : String)
    (requests : Table SwitchRequest String SwitchRequest.id) (outbox : Outbox) (now : Int)
    (hpending : (requests.get? id).map SwitchRequest.status = some .pendingApproval)
    (events : List TrafficEvent)
    (hwaits : ∀ x ∈ (trafficMachine sha).trace (.start requests outbox now) events,
      x.pre.Waits id x.call) :
    let run := (trafficMachine sha).run (.start requests outbox now)
    (∀ before after status, events = before ++ after → (run before).traffic.status id = some status →
      status.isFinal → (run events).traffic.status id = some status)
    ∧ ((run events).traffic.executions id ≠ [] → .approved ∈ (run events).traffic.decisions id
          ∧ .rejected ∉ (run events).traffic.decisions id) := by
  intro run
  have hstep : ∀ w event, w.Waits id event → TrafficInv id w →
      TrafficInv id ((trafficMachine sha).next w event) :=
    fun w event hwaits hinv => (hinv.step sha hwaits).2
  refine ⟨?_, fun hexecuted => ?_⟩
  · rintro before after status rfl hstatus hfinal
    rw [Machine.trace_append] at hwaits
    have hinv : TrafficInv id (run before) :=
      (trafficMachine sha).run_induction_of_trace hstep (trafficInv_start hpending)
        fun x hx => hwaits x (mem_append_left _ hx)
    have hkept := (trafficMachine sha).run_induction_of_trace
      (P := fun w => TrafficInv id w ∧ w.traffic.status id = some status)
      (fun w event hwaits h =>
        ⟨hstep w event hwaits h.1, (h.1.step sha hwaits).1.final h.2 hfinal⟩)
      ⟨hinv, hstatus⟩ fun x hx => hwaits x (mem_append_right _ hx)
    show (run (before ++ after)).traffic.status id = some status
    rw [show run (before ++ after) = _ from Machine.run_append _ _ before after]
    exact hkept.2
  · have hinv : TrafficInv id (run events) :=
      (trafficMachine sha).run_induction_of_trace hstep (trafficInv_start hpending) hwaits
    rw [hinv.decidedOnce.granted (hinv.decidedOnce.executed hexecuted)]
    decide

end Runs

/-! ## Two runs -/

/-- The failover that waits for approval is the only request. -/
def failoverWorld : TrafficWorld :=
  .start ⟨[pendingFailover], nodup_singleton _⟩ .empty 0

def answeredRepo (uuid : String) : RepoNature where
  outcome := .ok
  service := none
  members := []
  healthyPools := none
  uuid := uuid

/-- What a call does after it has read the request: it takes the time, draws two message ids, and
    writes its decision. -/
def writeDecision (call : Nat) (changedId commandId : String) : List TrafficEvent :=
  [.perform call (answeredRepo ""), .perform call (answeredRepo changedId),
   .perform call (answeredRepo commandId), .perform call (answeredRepo "")]

/-- The command for the failover is handled, and its execution succeeds. -/
def handleFailover : List TrafficEvent :=
  .deliver failoverCommand.payload :: replicate 5 (.handle 0
    { outcome := .ok, execution := .ok (), messageId := "m5", correlationId := "c1" })

/-- It is approved and executed. -/
def approvedFailover : List TrafficEvent :=
  [.approve pendingFailover.id approver, .perform 0 (answeredRepo "")] ++ writeDecision 0 "m1" "m2"
    ++ handleFailover

theorem waiting_decisions_final_of_failover :
    let run := (trafficMachine id).run failoverWorld
    (run approvedFailover).traffic.executions pendingFailover.id ≠ []
    ∧ .approved ∈ (run approvedFailover).traffic.decisions pendingFailover.id
    ∧ .rejected ∉ (run approvedFailover).traffic.decisions pendingFailover.id := by
  have hexecuted : ((trafficMachine id).run failoverWorld approvedFailover).traffic.executions
      pendingFailover.id ≠ [] := by
    intro h
    exact absurd (congrArg length h) (by decide +kernel)
  exact ⟨hexecuted, (waiting_decisions_final id pendingFailover.id
    ⟨[pendingFailover], nodup_singleton _⟩ .empty 0 (by decide) approvedFailover
    (by decide +kernel)).2 hexecuted⟩

/-- A rejection and an approval both read the request while it waits, and the rejection is written
    first. -/
def rejectedFailover : List TrafficEvent :=
  [.reject pendingFailover.id approver, .approve pendingFailover.id approver,
   .perform 0 (answeredRepo ""), .perform 1 (answeredRepo "")] ++ writeDecision 0 "m1" "m2"

/-- The rejected failover is approved and executed after all. -/
theorem rejected_failover_executed :
    let run := (trafficMachine id).run failoverWorld
    let events := rejectedFailover ++ (writeDecision 1 "m3" "m4" ++ handleFailover)
    (run rejectedFailover).traffic.status pendingFailover.id = some .rejected
    ∧ (run events).traffic.status pendingFailover.id = some .succeeded
    ∧ (run events).traffic.decisions pendingFailover.id = [.rejected, .approved]
    ∧ (run events).traffic.executions pendingFailover.id ≠ [] := by
  refine ⟨by decide +kernel, by decide +kernel, by decide +kernel, fun h => ?_⟩
  exact absurd (congrArg length h) (by decide +kernel)

end HnbCloud.Gslb
