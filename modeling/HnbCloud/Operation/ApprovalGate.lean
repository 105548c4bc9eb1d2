import HnbCloud.Operation.Dispatch
import HnbCloud.Operation.StaleAdmission
import HnbCloud.Operation.Worker

set_option autoImplicit false

/-! # High-risk operations wait for their approval

The engine takes any call. The services make only some of them: an intent reaches `SubmitIntent`
through `handleSubmitIntent` or as an item of a batch, and the events of a worker's commit are those
the worker builds. `services` is the engine behind that boundary.

A command to run a step of a high-risk operation (`InitialStatus` gives it `pending_approval`) is
then in the outbox only after an approval of the operation, with one exception that
`IntentSubmission.AllowedStaleRemoval` names: for a stale target under the policy `allow` the handler
sets the initial status of the removal to `queued`, and its steps are dispatched at once. -/

namespace HnbCloud.Operation

open Messaging List Table OperationType Machine

/-! ## The services -/

/-- The calls that a handler passes on as they are. -/
def Call.isDirect : Call → Bool
  | submitIntent .. | commitStepSuccess .. | commitStepFailure .. => false
  | _ => true

/-- What reaches a service. -/
inductive ServiceCall where
  | submitIntent (submission : IntentSubmission) (ids : FreshIds)
  | batchIntent (cmd : IntentSubmitCommand) (ids : FreshIds)
  | commitStepSuccess (operationId stepId idempotencyKey ownerId : String) (lease : Lease)
      (expectedVersion : Int) (result : StepResult) (event : OutboxEvent)
  /-- The second event isolates a delivery, on the failed subject of the delivery's subject. -/
  | commitStepFailure (operationId stepId idempotencyKey ownerId : String) (lease : Lease)
      (expectedVersion : Int) (result : StepResult) (event failedEvent : OutboxEvent)
      (deliverySubject : String)
  | direct (call : Call) (isDirect : call.isDirect = true)

/-- The call on the store, unless the handler refuses. -/
def ServiceCall.call? (config : StaleConfig) : ServiceCall → Except Problem Call
  | submitIntent submission ids =>
    match submission.handleSubmitIntent config with
    | .error problem => .error problem
    | .ok cmd => .ok (.submitIntent cmd ids)
  | batchIntent cmd ids => .ok (.submitIntent (Operation.batchIntent cmd) ids)
  | commitStepSuccess operationId stepId idempotencyKey ownerId lease expectedVersion result
      event =>
      .ok (.commitStepSuccess operationId stepId idempotencyKey ownerId lease expectedVersion result
        { event with messageType := stepCompletedSubject })
  | commitStepFailure operationId stepId idempotencyKey ownerId lease expectedVersion result event
      failedEvent deliverySubject =>
      .ok (.commitStepFailure operationId stepId idempotencyKey ownerId lease expectedVersion result
        { event with messageType := stepCompletedSubject }
        { failedEvent with messageType := failedSubject deliverySubject })
  | direct call _ => .ok call

/-- A service call and the fate of its transaction. -/
structure ServiceRequest where
  call : ServiceCall
  fate : Fate

/-- Why a service call has no answer. -/
inductive ServiceError where
  | refused (problem : Problem)
  | store (err : StoreError)

/-- platform-api and the workers, over the engine. -/
def services (config : StaleConfig) (sha : Sha256) :
    Machine DB ServiceRequest (Except ServiceError Answer) where
  step db request :=
    match request.call.call? config with
    | .error problem => (db, .error (.refused problem))
    | .ok call =>
      let (db', answer) := Request.run sha db ⟨call, request.fate⟩
      (db', answer.mapError .store)

/-! ## What the services ask of the engine -/

theorem failedSubject_ne (subject : String) : failedSubject subject ≠ stepRequestedSubject := by
  intro h
  have hlist := congrArg String.toList h
  unfold failedSubject at hlist
  split at hlist <;> simp [stepRequestedSubject] at hlist

/-- A call that the services make: a high-risk intent does not start `queued`, and no event of a
    commit is a command. -/
structure Call.Gated (call : Call) : Prop where
  intent : ∀ cmd ids, call = .submitIntent cmd ids →
    cmd.kind.toOperationType.isHighRisk = true → cmd.initialStatus ≠ .queued
  events : ∀ c, call.commit? = some c → ∀ event ∈ c.events, event.messageType ≠ stepRequestedSubject

variable {config : StaleConfig} {request : ServiceCall} {call : Call} {db db' : DB}

theorem ServiceCall.events_not_commands (h : request.call? config = .ok call) :
    ∀ c, call.commit? = some c → ∀ event ∈ c.events, event.messageType ≠ stepRequestedSubject := by
  intro c hc
  cases request with
  | submitIntent =>
    simp only [call?] at h
    split at h
    · simp at h
    cases h
    simp [Call.commit?] at hc
  | batchIntent =>
    cases h
    simp [Call.commit?] at hc
  | commitStepSuccess =>
    cases h
    cases hc
    simp [stepCompletedSubject, stepRequestedSubject]
  | commitStepFailure =>
    cases h
    cases hc
    simp only [mem_cons, not_mem_nil, or_false]
    rintro event (rfl | rfl)
    · simp [stepCompletedSubject, stepRequestedSubject]
    · exact failedSubject_ne _
  | direct call' isDirect =>
    obtain rfl := Except.ok.inj h
    cases call' <;> simp [Call.isDirect, Call.commit?] at isDirect hc

theorem ServiceCall.gated (h : request.call? config = .ok call)
    (hallowed : ∀ submission ids, request = .submitIntent submission ids →
      ¬ submission.AllowedStaleRemoval config) : call.Gated := by
  refine ⟨?_, events_not_commands h⟩
  rintro cmd' ids' rfl hrisk
  cases request with
  | submitIntent submission =>
    simp only [call?] at h
    split at h
    · simp at h
    next cmd hcmd =>
    cases h
    exact IntentSubmission.initialStatus_ne_queued hcmd hrisk (hallowed submission _ rfl)
  | batchIntent =>
    cases h
    simp [Operation.batchIntent, IntentSubmitCommand.initialStatus, IntentKind.toOperationType,
      initialStatus, isHighRisk]
  | commitStepSuccess | commitStepFailure => simp [call?] at h
  | direct _ isDirect =>
    cases h
    simp [Call.isDirect] at isDirect

theorem ServiceCall.eq_direct_of_approve {id tenantId actorId reason : String} {ids : FreshIds}
    (h : request.call? config = .ok (.approveOperation id tenantId actorId reason ids)) :
    request = .direct (.approveOperation id tenantId actorId reason ids) rfl := by
  cases request with
  | submitIntent =>
    simp only [call?] at h
    split at h <;> simp at h
  | direct call =>
    simp only [call?, Except.ok.injEq] at h
    subst h
    rfl
  | batchIntent | commitStepSuccess | commitStepFailure => simp [call?] at h

/-! ## The gate -/

/-- An approval of the operation that has committed. -/
structure Approves (id : String)
    (entry : Entry DB ServiceRequest (Except ServiceError Answer)) : Prop where
  asked : ∃ tenantId actorId reason ids,
    entry.call.call = .direct (.approveOperation id tenantId actorId reason ids) rfl
  waiting : ∃ op, entry.pre.operations.get? id = some op ∧ op.status = .pendingApproval
  queued : ∃ op, entry.post.operations.get? id = some op ∧ op.status = .queued

/-- Every command belongs to a stored operation, and if that is of high risk it has been approved. -/
def CommandsApproved (db : DB)
    (past : List (Entry DB ServiceRequest (Except ServiceError Answer))) : Prop :=
  ∀ row ∈ db.outbox.rows, row.event.messageType = stepRequestedSubject →
    ∃ op, db.operations.get? row.event.operationId = some op
      ∧ (op.operationType.isHighRisk = true → ∃ entry ∈ past, Approves op.id entry)

theorem Effect.operationType_kept (h : Effect db db') {id : String}
    {op : OperationRow} (hop : db.operations.get? id = some op) :
    ∃ op', db'.operations.get? id = some op' ∧ op'.operationType = op.operationType
      ∧ op'.id = op.id := by
  obtain ⟨more, hbecomes, -⟩ := h.operations_become
  obtain ⟨op', hop', hop⟩ := hbecomes.get? hop
  refine ⟨op', hop', ?_⟩
  cases hop <;> exact ⟨rfl, rfl⟩

/-- The commands of a submission or an approval are for its operation. -/
theorem operationId_of_mem_readyStepEvents {now : Int} {op : OperationRow} {steps : List StepRow}
    {actorId : String} {ids : FreshIds} {extra : List (String × Json)} {row : OutboxRow} {t : Int}
    (h : row ∈ (readyStepEvents now op steps actorId ids extra).map (OutboxRow.new t)) :
    row.event.operationId = op.id := by
  obtain ⟨event, hevent, rfl⟩ := mem_map.1 h
  obtain ⟨x, -, rfl⟩ := mem_map.1 hevent
  rfl

/-- A command was there before, or is for an operation that is `queued` now: the call has approved
    it, or has submitted it so, for a high risk as an intent. -/
theorem Does.command_origin (h : Does db call db')
    (hevents : ∀ c, call.commit? = some c → ∀ event ∈ c.events,
      event.messageType ≠ stepRequestedSubject)
    {row : OutboxRow} (hrow : row ∈ db'.outbox.rows)
    (hcommand : row.event.messageType = stepRequestedSubject) :
    row ∈ db.outbox.rows
    ∨ ∃ op, db'.operations.get? row.event.operationId = some op ∧ op.status = .queued
      ∧ ((∃ tenantId actorId reason ids old,
          call = .approveOperation op.id tenantId actorId reason ids
          ∧ db.operations.get? op.id = some old ∧ old.status = .pendingApproval)
        ∨ (op.operationType.isHighRisk = true → ∃ cmd ids, call = .submitIntent cmd ids
          ∧ cmd.kind.toOperationType.isHighRisk = true ∧ cmd.initialStatus = .queued)) := by
  -- A submission writes commands only for an operation that starts `queued`.
  have hcreated : ∀ op steps ids extra, Created db db' op steps ids extra → row ∈ db.outbox.rows
      ∨ db'.operations.get? row.event.operationId = some op ∧ op.status = .queued := by
    intro op steps ids extra hcreated
    rw [hcreated.outbox, mem_append] at hrow
    refine hrow.imp_right fun hrow => ?_
    split at hrow
    · next hqueued =>
      rw [operationId_of_mem_readyStepEvents hrow, get?_insert? hcreated.operations, if_pos rfl]
      exact ⟨rfl, hqueued⟩
    · simp at hrow
  cases h with
  | nothing | ticked | observed | granted | renewed | retried | ended => exact .inl hrow
  | submitted cmd ids _ _ hc =>
    refine (hcreated _ _ ids _ hc).imp_right fun ⟨hop, hqueued⟩ =>
      ⟨_, hop, hqueued, .inr fun hrisk => ?_⟩
    have hrisk : cmd.operationType.isHighRisk = true := hrisk
    simp [OperationRow.ofCommand, initialStatus, hrisk] at hqueued
  | intended cmd ids _ _ _ _ hc =>
    exact (hcreated _ _ ids _ hc).imp_right fun hop =>
      ⟨_, hop.1, hop.2, .inr fun hrisk => ⟨cmd, ids, rfl, hrisk, hop.2⟩⟩
  | approved id tenantId actorId reason ids op outbox happroved =>
    obtain rfl : op.id = id := key_of_get? happroved.stored
    have hrow : row ∈ outbox.rows := hrow
    rw [happroved.dispatched, mem_append] at hrow
    refine hrow.imp_right fun hrow => ?_
    rw [operationId_of_mem_readyStepEvents hrow]
    exact ⟨_, db.operations.get?_update_self op.id
      (OperationRow.transition db.now .queued (some actorId) reason) (fun _ => rfl)
      happroved.stored, rfl, .inl ⟨tenantId, actorId, reason, ids, op, rfl, happroved.stored,
        happroved.waiting⟩⟩
  | committed _ c _ _ outbox asked _ sent =>
    have hrow : row ∈ outbox.rows := hrow
    rw [rows_insertOutboxEvents sent, mem_append] at hrow
    refine hrow.imp_right fun hrow => ?_
    obtain ⟨event, hevent, rfl⟩ := mem_map.1 hrow
    obtain ⟨event₀, hevent₀, rfl⟩ := mem_map.1 hevent
    exact absurd hcommand (hevents c asked event₀ hevent₀)

variable {past : List (Entry DB ServiceRequest (Except ServiceError Answer))}

/-- What a call of the services does keeps the gate, with the call itself on record. -/
theorem CommandsApproved.does (h : CommandsApproved db past)
    (entry : Entry DB ServiceRequest (Except ServiceError Answer))
    (hdoes : Does db call db') (hgated : call.Gated)
    (hpre : entry.pre = db) (hpost : entry.post = db') (hasked : ∀ id tenantId actorId reason ids,
      call = .approveOperation id tenantId actorId reason ids →
      entry.call.call = .direct (.approveOperation id tenantId actorId reason ids) rfl) :
    CommandsApproved db' (past ++ [entry]) := by
  intro row hrow hcommand
  rcases hdoes.command_origin hgated.events hrow hcommand with hrow
    | ⟨op, hop, hqueued, ⟨tenantId, actorId, reason, ids, old, hcall, hold, hwaiting⟩ | hintent⟩
  · -- A command that was there keeps its operation and its approval.
    obtain ⟨op, hop, happroved⟩ := h row hrow hcommand
    obtain ⟨op', hop', htype, hid⟩ := hdoes.effect.operationType_kept hop
    refine ⟨op', hop', fun hrisk => ?_⟩
    rw [htype] at hrisk
    obtain ⟨e, he, heapproves⟩ := happroved hrisk
    exact ⟨e, mem_append_left _ he, hid ▸ heapproves⟩
  · refine ⟨op, hop, fun _ => ⟨entry, by simp, ?_, ?_, ?_⟩⟩
    · exact ⟨tenantId, actorId, reason, ids, hasked op.id tenantId actorId reason ids hcall⟩
    · exact ⟨old, by rw [hpre]; exact hold, hwaiting⟩
    · exact ⟨op, by rw [hpost, key_of_get? hop]; exact hop, hqueued⟩
  · refine ⟨op, hop, fun hrisk => ?_⟩
    obtain ⟨cmd, ids, hcall, hrisk, hstatus⟩ := hintent hrisk
    exact absurd hstatus (hgated.intent cmd ids hcall hrisk)

theorem CommandsApproved.mono (h : CommandsApproved db past)
    (entry : Entry DB ServiceRequest (Except ServiceError Answer)) :
    CommandsApproved db (past ++ [entry]) := by
  intro row hrow hcommand
  obtain ⟨op, hop, happroved⟩ := h row hrow hcommand
  refine ⟨op, hop, fun hrisk => ?_⟩
  obtain ⟨e, he, heapproves⟩ := happroved hrisk
  exact ⟨e, mem_append_left _ he, heapproves⟩

/-- A request that does not remove an allowed stale target. -/
def ServiceRequest.Admissible (config : StaleConfig) (request : ServiceRequest) : Prop :=
  ∀ submission ids, request.call = .submitIntent submission ids →
    ¬ submission.AllowedStaleRemoval config

/-- A request is refused, or its call is carried out. -/
theorem services_does (config : StaleConfig) (sha : Sha256) (db : DB) (request : ServiceRequest) :
    (services config sha).next db request = db
    ∨ ∃ call, request.call.call? config = .ok call
      ∧ Does db call ((services config sha).next db request) := by
  rcases hcall : request.call.call? config with problem | call
  · exact .inl (by simp [Machine.next, services, hcall])
  have hnext : (services config sha).next db request
      = (engine sha).next db ⟨call, request.fate⟩ := by
    simp [Machine.next, services, engine, hcall]
  exact .inr ⟨call, rfl, hnext ▸ Request.does sha db ⟨call, request.fate⟩⟩

theorem CommandsApproved.step (config : StaleConfig) (sha : Sha256) (db : DB)
    (past : List (Entry DB ServiceRequest (Except ServiceError Answer)))
    (request : ServiceRequest) (hadmissible : request.Admissible config)
    (h : CommandsApproved db past) :
    CommandsApproved ((services config sha).next db request)
      (past ++ [(services config sha).entry db request]) := by
  rcases services_does config sha db request with hnext | ⟨call, hcall, hdoes⟩
  · rw [hnext]
    exact h.mono _
  refine h.does ((services config sha).entry db request) hdoes
    (ServiceCall.gated hcall hadmissible) rfl rfl ?_
  rintro id tenantId actorId reason ids rfl
  exact ServiceCall.eq_direct_of_approve hcall

/-- **Approval gate.** In every run of the services in which no allowed removal of a stale target
    is submitted, whatever becomes of the transactions: a command to run a step of a high-risk
    operation is in the outbox only if an approval of that operation has committed. -/
theorem commands_wait_for_approval (config : StaleConfig) (sha : Sha256) (now : Int)
    (requests : List ServiceRequest)
    (hadmissible : ∀ request ∈ requests, request.Admissible config) :
    let db := (services config sha).run (DB.empty now) requests
    ∀ op ∈ db.operations.rows, op.operationType.isHighRisk = true →
      ∀ row ∈ db.outbox.rows, row.event.messageType = stepRequestedSubject →
        row.event.operationId = op.id →
        ∃ entry ∈ (services config sha).trace (DB.empty now) requests, Approves op.id entry := by
  intro db op hop hrisk row hrow hcommand hoperation
  have hgate : CommandsApproved db ((services config sha).trace (DB.empty now) requests) := by
    refine (services config sha).history_induction (C := fun _ request => request.Admissible config)
      (fun db past request => CommandsApproved.step config sha db past request) ?_ ?_
    · intro row hrow
      simp [DB.empty] at hrow
    · intro entry hentry
      exact hadmissible entry.call (call_mem_of_mem_trace hentry)
  obtain ⟨op', hop', happroved⟩ := hgate row hrow hcommand
  rw [hoperation, get?_of_mem hop] at hop'
  cases hop'
  exact happroved hrisk

/-! ## The removal of a target -/

/-- The removal of a Kubernetes target that was never observed, with a confirmation. -/
def removal : IntentSubmission where
  cmd :=
    { kind := .deleteRuntimeTarget, idempotencyKey := "k1", intentDigest := "d1",
      targetKind := "KubernetesTarget",
      storage := ⟨"", 0, "", 0, "", "", "", ""⟩, planSemanticDigest := "p1", releaseRef := "",
      steps := [⟨"runtime_target.kubernetes.unregister", "runtime_target.kubernetes.unregister", "",
        "", "", [], .obj [], none, 300⟩],
      tenantId := "t1", subjectId := "alice", correlationId := "c1", initiatedBy := "alice",
      runtimeTargetId := "target1", expectedTargetVersion := 3, stalePolicy := none,
      commitmentAction := "delete", provisionTarget := none }
  resolved := some
    { id := "target1", targetType := "kubernetes", projectionVersion := 3,
      observationGeneration := 1, observationRevision := 1, observedAt := none,
      staleThresholdSec := 300 }
  riskConfirmation := some ⟨true, "token", ""⟩
  now := 0
  auditAvailable := true

/-- The target of the removal is registered, then the removal is submitted. -/
def removalRequests : List ServiceRequest :=
  [⟨.direct (.observe ((Table.empty.insert? ⟨"target1", "t1", true, 3, [], "ACTIVE"⟩).getD .empty)
      .empty) rfl, .answered⟩,
    ⟨.submitIntent removal
      { plan := "p1", operation := "op1", intent := "i1", correlation := "", step := fun _ => "s1",
        message := fun _ => "m1" }, .answered⟩]

/-- A configuration whose signer takes every token. -/
def staleConfig (unmanage : StaleOutcome) : StaleConfig where
  staleSigner := some ⟨fun _ _ _ => true⟩
  stalePolicy := { StalePolicy.default with unmanage }

/-- Under the default policy the removal waits, and its command comes with the approval. -/
theorem commands_wait_for_approval_of_removal :
    let requests := removalRequests ++ [⟨.direct (.approveOperation "op1" "t1" "bob" "ok"
      { plan := "", operation := "", intent := "", correlation := "", step := fun _ => "",
        message := fun _ => "m2" }) rfl, .answered⟩]
    let sha : Sha256 := ⟨fun _ => "digest", fun _ => "digest"⟩
    let db := (services (staleConfig .requireApproval) sha).run (DB.empty 0) requests
    ∃ op ∈ db.operations.rows, ∃ row ∈ db.outbox.rows, row.event.operationId = op.id
      ∧ ∃ entry ∈ (services (staleConfig .requireApproval) sha).trace (DB.empty 0) requests,
        Approves op.id entry := by
  refine ⟨_, mem_cons_self, _, mem_cons_self, rfl, ?_⟩
  refine commands_wait_for_approval (staleConfig .requireApproval) _ 0 _ ?_ _ mem_cons_self
    (by decide) _ mem_cons_self (by decide) rfl
  rintro request hrequest submission ids hcall ⟨-, -, hpolicy⟩
  simp [staleConfig] at hpolicy

/-- Under the policy `allow` the command of the removal is there although nobody has been asked. -/
theorem allowed_removal_dispatched :
    let sha : Sha256 := ⟨fun _ => "digest", fun _ => "digest"⟩
    let db := (services (staleConfig .allow) sha).run (DB.empty 0) removalRequests
    ∃ op ∈ db.operations.rows, op.operationType.isHighRisk = true
      ∧ (∃ row ∈ db.outbox.rows, row.event.messageType = stepRequestedSubject
        ∧ row.event.operationId = op.id)
      ∧ ∀ entry ∈ (services (staleConfig .allow) sha).trace (DB.empty 0) removalRequests,
        ¬ Approves op.id entry := by
  refine ⟨_, mem_cons_self, by decide, ⟨_, mem_cons_self, by decide, rfl⟩, ?_⟩
  intro entry hentry happroves
  obtain ⟨tenantId, actorId, reason, ids, hasked⟩ := happroves.asked
  have hcall := call_mem_of_mem_trace hentry
  simp only [removalRequests, mem_cons, not_mem_nil, or_false] at hcall
  rcases hcall with hcall | hcall
  · rw [hcall] at hasked
    injection hasked with hdirect
    simp at hdirect
  · simp [hcall] at hasked

end HnbCloud.Operation
