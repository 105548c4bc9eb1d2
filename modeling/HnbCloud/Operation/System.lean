import HnbCloud.Lib.Machine
import HnbCloud.Operation.PlatformStore
import HnbCloud.Operation.WorkerStore

set_option autoImplicit false

/-! # The operation engine as one machine

platform-api and any number of workers share the database, and each of their transactions is
atomic. An interleaving is therefore a list of requests to one machine. Between two requests time
may pass, and other services may rewrite the tables that a submission only rechecks.

A request can also meet its fate on the way: the transaction may be aborted (the caller sees an
error, the database at most a drawn generation), or it may commit while the answer is lost, so that
the caller sees an error for something that took place.

`Does` says once what a call can do to the database, guards included, and `Effect` what a request
can do, whichever call it carries. Every invariant of the engine is a case analysis on one of the
two. -/

namespace HnbCloud.Operation

open Messaging Table OperationStatus

/-- The calls on the two stores, and what else happens to the database. -/
inductive Call where
  | submitOperation (cmd : SubmitCommand) (ids : FreshIds)
  | submitIntent (cmd : IntentSubmitCommand) (ids : FreshIds)
  | approveOperation (id tenantId actorId reason : String) (ids : FreshIds)
  | rejectOperation (id tenantId actorId reason : String)
  | cancelOperation (id tenantId actorId reason : String)
  | acquireLease (operationId stepId ownerId : String) (expectedVersion duration : Int)
      (leaseId : String) (skipped : Nat)
  | renewLease (stepId ownerId : String) (lease : Lease) (duration : Int)
  | saveStepRetry (operationId stepId ownerId : String) (lease : Lease) (expectedVersion : Int)
      (result : StepResult)
  | commitStepSuccess (operationId stepId idempotencyKey ownerId : String) (lease : Lease)
      (expectedVersion : Int) (result : StepResult) (event : OutboxEvent)
  | commitStepFailure (operationId stepId idempotencyKey ownerId : String) (lease : Lease)
      (expectedVersion : Int) (result : StepResult) (event failedEvent : OutboxEvent)
  /-- The clock advances. -/
  | tick (elapsed : Nat)
  /-- Another service rewrites the targets and the storage bindings. -/
  | observe (targets : Table RuntimeTargetRow String RuntimeTargetRow.id)
      (bindings : Table StorageBindingRow String StorageBindingRow.id)

/-- What becomes of a request. -/
inductive Fate where
  | answered
  /-- The transaction does not commit; it may have drawn generations. -/
  | aborted (drawn : Nat)
  /-- The transaction runs to its end, and the caller gets an error in place of its answer. -/
  | replyLost

/-- A call and its fate. -/
structure Request where
  call : Call
  fate : Fate

/-- What a call returns. -/
inductive Answer where
  | done
  | lease (lease : Lease)
  | operation (view : ReadModelRow) (created : Bool)
  | intent (receipt : IntentReceipt) (created : Bool)

/-- The transaction of a call. -/
def Call.run (sha : Sha256) (db : DB) : Call → DB × Except StoreError Answer
  | submitOperation cmd ids =>
    let (db', r) := Operation.submitOperation sha db cmd ids
    (db', r.map fun x => .operation x.1 x.2)
  | submitIntent cmd ids =>
    let (db', r) := Operation.submitIntent sha db cmd ids
    (db', r.map fun x => .intent x.1 x.2)
  | approveOperation id tenantId actorId reason ids =>
    let (db', r) := Operation.approveOperation db id tenantId actorId reason ids
    (db', r.map fun view => .operation view false)
  | rejectOperation id tenantId actorId reason =>
    let (db', r) := Operation.rejectOperation db id tenantId actorId reason
    (db', r.map fun view => .operation view false)
  | cancelOperation id tenantId actorId reason =>
    let (db', r) := Operation.cancelOperation db id tenantId actorId reason
    (db', r.map fun view => .operation view false)
  | acquireLease operationId stepId ownerId expectedVersion duration leaseId skipped =>
    let (db', r) := Operation.acquireLease db operationId stepId ownerId expectedVersion duration
      leaseId skipped
    (db', r.map .lease)
  | renewLease stepId ownerId lease duration =>
    let (db', r) := Operation.renewLease db stepId ownerId lease duration
    (db', r.map fun _ => .done)
  | saveStepRetry operationId stepId ownerId lease expectedVersion result =>
    let (db', r) := Operation.saveStepRetry db operationId stepId ownerId lease expectedVersion
      result
    (db', r.map fun _ => .done)
  | commitStepSuccess operationId stepId idempotencyKey ownerId lease expectedVersion result
      event =>
      let (db', r) := Operation.commitStepSuccess db operationId stepId idempotencyKey ownerId
        lease expectedVersion result event
      (db', r.map fun _ => .done)
  | commitStepFailure operationId stepId idempotencyKey ownerId lease expectedVersion result
      event failedEvent =>
      let (db', r) := Operation.commitStepFailure db operationId stepId idempotencyKey ownerId
        lease expectedVersion result event failedEvent
      (db', r.map fun _ => .done)
  | tick elapsed => ({ db with now := db.now + elapsed }, .ok .done)
  | observe targets bindings => ({ db with targets := targets, bindings := bindings }, .ok .done)

/-- A transaction on `db`, subject to its fate. -/
def Fate.apply {α : Type} (db : DB) (transaction : DB × Except StoreError α) :
    Fate → DB × Except StoreError α
  | answered => transaction
  | aborted drawn =>
    ({ db with fencingSeq := db.fencingSeq + drawn }, .error (.database "transaction aborted"))
  | replyLost => (transaction.1, .error (.database "connection lost"))

/-- A request: its transaction, subject to its fate. -/
def Request.run (sha : Sha256) (db : DB) (request : Request) : DB × Except StoreError Answer :=
  request.fate.apply db (request.call.run sha db)

/-- The operation engine. -/
def engine (sha : Sha256) : Machine DB Request (Except StoreError Answer) where
  step := Request.run sha

/-! ## What a request can do -/

/-- The arguments of a commit, of a success or of a failure. -/
structure Commit where
  (operationId stepId idempotencyKey ownerId : String)
  lease : Lease
  expectedVersion : Int
  outcome : StepOutcome
  result : StepResult
  events : List OutboxEvent

def Call.commit? : Call → Option Commit
  | commitStepSuccess operationId stepId idempotencyKey ownerId lease expectedVersion result
      event =>
      some ⟨operationId, stepId, idempotencyKey, ownerId, lease, expectedVersion, .succeeded, result,
        [event]⟩
  | commitStepFailure operationId stepId idempotencyKey ownerId lease expectedVersion result event
      failedEvent =>
      some ⟨operationId, stepId, idempotencyKey, ownerId, lease, expectedVersion, .failed, result,
        [event, failedEvent]⟩
  | _ => none

/-- A rejection or a cancellation. -/
def Call.isEnd : Call → Bool
  | rejectOperation .. | cancelOperation .. => true
  | _ => false

/-- What a call does to the database, if it gets that far. -/
inductive Does (db : DB) : Call → DB → Prop where
  /-- A refused or replayed call: at most a generation is drawn. -/
  | nothing (call : Call) (seq : Nat) (le : db.fencingSeq ≤ seq) :
      Does db call { db with fencingSeq := seq }
  | ticked (elapsed : Nat) : Does db (.tick elapsed) { db with now := db.now + elapsed }
  | observed (targets : Table RuntimeTargetRow String RuntimeTargetRow.id)
      (bindings : Table StorageBindingRow String StorageBindingRow.id) :
      Does db (.observe targets bindings) { db with targets := targets, bindings := bindings }
  | submitted {db' : DB} (cmd : SubmitCommand) (ids : FreshIds) (planId planDigest : String)
      (h : Created db db' (OperationRow.ofCommand db cmd ids planId planDigest)
        (cmd.steps.zipIdx.map fun x =>
          StepRow.ofInput ids.operation (ids.step x.2) cmd.idempotencyKey x.1 x.2) ids []) :
      Does db (.submitOperation cmd ids) db'
  | intended {db' : DB} (cmd : IntentSubmitCommand) (ids : FreshIds)
      (planId planDigest correlationId : String)
      (drawn : correlationId
        = if cmd.correlationId = "" then ids.correlation else cmd.correlationId)
      (h : Created db db' (OperationRow.ofIntent db cmd ids planId planDigest correlationId)
        (cmd.steps.zipIdx.map fun x =>
          StepRow.ofPlanStep ids.operation (ids.step x.2) cmd.lookupKey x.1) ids
        [("correlationId", .str correlationId)]) :
      Does db (.submitIntent cmd ids) db'
  | approved (id tenantId actorId reason : String) (ids : FreshIds) (op : OperationRow)
      (outbox : Outbox) (h : Approved db id tenantId actorId reason ids op outbox) :
      Does db (.approveOperation id tenantId actorId reason ids)
        (db.applyDecision op .queued (some actorId) .approved actorId reason outbox)
  | ended (call : Call) (asked : call.isEnd = true) (id : String) (op : OperationRow)
      (approver : Option String) (eventType : AuditEventType) (actorId reason : String)
      (stored : db.operations.get? id = some op)
      (allowed : op.status.canTransition .cancelled = true) :
      Does db call (db.applyDecision op .cancelled approver eventType actorId reason db.outbox)
  | granted (operationId stepId ownerId : String) (expectedVersion duration : Int)
      (leaseId : String) (skipped : Nat) (lease : Lease) (op : OperationRow) (step : StepRow)
      (h : Grantable db operationId stepId expectedVersion lease op step) :
      Does db (.acquireLease operationId stepId ownerId expectedVersion duration leaseId skipped)
        (db.grantLease stepId ownerId lease duration)
  | renewed (stepId ownerId : String) (lease : Lease) (duration : Int) (step : StepRow)
      (stored : db.steps.get? stepId = some step) (fenced : step.fencedBy lease = true)
      (held : db.leaseHeld stepId ownerId lease = true) :
      Does db (.renewLease stepId ownerId lease duration) (db.extendLease stepId duration)
  | retried (operationId stepId ownerId : String) (lease : Lease) (expectedVersion : Int)
      (result : StepResult) (step : StepRow) (stored : db.stepOf operationId stepId = some step)
      (current : (step.version : Int) = expectedVersion)
      (fenced : db.fenced step ownerId lease = true) :
      Does db (.saveStepRetry operationId stepId ownerId lease expectedVersion result)
        (db.retryStep operationId stepId ownerId lease result)
  | committed (call : Call) (c : Commit) (op : OperationRow) (step : StepRow) (outbox : Outbox)
      (asked : call.commit? = some c)
      (h : Committable db c.operationId c.stepId c.idempotencyKey c.ownerId c.lease
        c.expectedVersion op step)
      (sent : insertOutboxEvents db.outbox db.now (stampedEvents op c.outcome c.result c.events)
        = some outbox) :
      Does db call (db.commitStep op c.stepId c.ownerId c.lease c.outcome c.result outbox)

namespace Does

theorem refl (db : DB) (call : Call) : Does db call db := .nothing call db.fencingSeq (Nat.le_refl _)

theorem of_eq {db s s' : DB} {call : Call} (h : s = s') (hs : Does db call s') : Does db call s := by
  rw [h]
  exact hs

theorem ofCommit (db : DB) (call : Call) (c : Commit) (asked : call.commit? = some c) :
    Does db call (commitStepResult db c.operationId c.stepId c.idempotencyKey c.ownerId c.lease
      c.expectedVersion c.outcome c.result c.events).1 := by
  rcases commitStepResult_cases db c.operationId c.stepId c.idempotencyKey c.ownerId c.lease
    c.expectedVersion c.outcome c.result c.events with ⟨op, step, outbox, h, sent, heq⟩ | ⟨err, heq⟩
  · exact of_eq (congrArg Prod.fst heq) (.committed call c op step outbox asked h sent)
  · exact of_eq (congrArg Prod.fst heq) (refl db call)

end Does

variable (sha : Sha256)

theorem Call.does (db : DB) (call : Call) : Does db call (call.run sha db).1 := by
  cases call with
  | submitOperation cmd ids =>
    rcases submitOperation_cases sha db cmd ids with h | ⟨planId, planDigest, h⟩
    · exact .of_eq h (.refl db _)
    · exact .submitted cmd ids planId planDigest h
  | submitIntent cmd ids =>
    rcases submitIntent_cases sha db cmd ids with
      h | ⟨planId, planDigest, correlationId, drawn, h⟩
    · exact .of_eq h (.refl db _)
    · exact .intended cmd ids planId planDigest correlationId drawn h
  | approveOperation id tenantId actorId reason ids =>
    rcases approveOperation_cases db id tenantId actorId reason ids with h | ⟨op, outbox, h, heq⟩
    · exact .of_eq h (.refl db _)
    · exact .of_eq heq (.approved id tenantId actorId reason ids op outbox h)
  | rejectOperation id tenantId actorId reason =>
    rcases rejectOperation_cases db id tenantId actorId reason with h | ⟨op, hop, hallowed, heq⟩
    · exact .of_eq h (.refl db _)
    · exact .of_eq heq (.ended _ rfl id op (some actorId) .rejected actorId reason hop hallowed)
  | cancelOperation id tenantId actorId reason =>
    rcases cancelOperation_cases db id tenantId actorId reason with h | ⟨op, hop, hallowed, heq⟩
    · exact .of_eq h (.refl db _)
    · exact .of_eq heq (.ended _ rfl id op none .cancelled actorId reason hop hallowed)
  | acquireLease operationId stepId ownerId expectedVersion duration leaseId skipped =>
    rcases h : Operation.acquireLease db operationId stepId ownerId expectedVersion duration
      leaseId skipped with ⟨db', err | lease⟩ <;> have heq := congrArg Prod.fst h
    · obtain ⟨seq, hle, rfl⟩ := acquireLease_error h
      exact .of_eq heq (.nothing _ seq hle)
    · obtain ⟨op, step, hgrant, rfl⟩ := acquireLease_ok h
      exact .of_eq heq (.granted operationId stepId ownerId expectedVersion duration leaseId skipped
        lease op step hgrant)
  | renewLease stepId ownerId lease duration =>
    rcases renewLease_cases db stepId ownerId lease duration with
      ⟨step, hstep, hfenced, hheld, heq⟩ | ⟨-, heq⟩ <;> replace heq := congrArg Prod.fst heq
    · exact .of_eq heq (.renewed stepId ownerId lease duration step hstep hfenced hheld)
    · exact .of_eq heq (.refl db _)
  | saveStepRetry operationId stepId ownerId lease expectedVersion result =>
    rcases saveStepRetry_cases db operationId stepId ownerId lease expectedVersion result with
      ⟨step, hstep, hcurrent, hfenced, heq⟩ | ⟨-, heq⟩ <;> replace heq := congrArg Prod.fst heq
    · exact .of_eq heq (.retried operationId stepId ownerId lease expectedVersion result step hstep
        hcurrent hfenced)
    · exact .of_eq heq (.refl db _)
  | commitStepSuccess => exact .ofCommit db (.commitStepSuccess ..) _ rfl
  | commitStepFailure => exact .ofCommit db (.commitStepFailure ..) _ rfl
  | tick elapsed => exact .ticked elapsed
  | observe targets bindings => exact .observed targets bindings

theorem Request.does (db : DB) (request : Request) :
    Does db request.call ((engine sha).next db request) := by
  obtain ⟨call, fate⟩ := request
  cases fate with
  | answered | replyLost => exact call.does sha db
  | aborted => exact .nothing call _ (Nat.le_add_right _ _)

/-- What a request does to the database. -/
inductive Effect (db : DB) : DB → Prop where
  /-- A refused, failed or replayed request: at most a generation is drawn. -/
  | none (seq : Nat) (le : db.fencingSeq ≤ seq) : Effect db { db with fencingSeq := seq }
  | ticked (elapsed : Nat) : Effect db { db with now := db.now + elapsed }
  | observed (targets : Table RuntimeTargetRow String RuntimeTargetRow.id)
      (bindings : Table StorageBindingRow String StorageBindingRow.id) :
      Effect db { db with targets := targets, bindings := bindings }
  | created {db' : DB} (op : OperationRow) (steps : List StepRow) (ids : FreshIds)
      (extra : List (String × Json)) (h : Created db db' op steps ids extra) : Effect db db'
  | decided {db' : DB} (op : OperationRow) (stored : db.operations.get? op.id = some op)
      (h : Decided db op db') : Effect db db'
  | granted (operationId stepId ownerId : String) (expectedVersion duration : Int) (lease : Lease)
      (op : OperationRow) (step : StepRow)
      (h : Grantable db operationId stepId expectedVersion lease op step) :
      Effect db (db.grantLease stepId ownerId lease duration)
  | renewed (stepId ownerId : String) (lease : Lease) (duration : Int) (step : StepRow)
      (stored : db.steps.get? stepId = some step) (fenced : step.fencedBy lease = true)
      (held : db.leaseHeld stepId ownerId lease = true) :
      Effect db (db.extendLease stepId duration)
  | retried (operationId stepId ownerId : String) (lease : Lease) (result : StepResult)
      (step : StepRow) (stored : db.stepOf operationId stepId = some step)
      (fenced : db.fenced step ownerId lease = true) :
      Effect db (db.retryStep operationId stepId ownerId lease result)
  | committed (operationId stepId idempotencyKey ownerId : String) (lease : Lease)
      (expectedVersion : Int) (outcome : StepOutcome) (result : StepResult)
      (events : List OutboxEvent) (op : OperationRow) (step : StepRow) (outbox : Outbox)
      (h : Committable db operationId stepId idempotencyKey ownerId lease expectedVersion op step)
      (sent : insertOutboxEvents db.outbox db.now (stampedEvents op outcome result events)
        = some outbox) :
      Effect db (db.commitStep op stepId ownerId lease outcome result outbox)

theorem Does.effect {db db' : DB} {call : Call} (h : Does db call db') : Effect db db' := by
  cases h with
  | nothing _ seq le => exact .none seq le
  | ticked elapsed => exact .ticked elapsed
  | observed targets bindings => exact .observed targets bindings
  | submitted cmd ids planId planDigest h
  | intended _ ids _ _ _ _ h => exact .created _ _ ids _ h
  | approved id _ actorId reason ids op outbox h =>
    obtain rfl : op.id = id := key_of_get? h.stored
    exact .decided op h.stored (.approved actorId reason ids outbox h.waiting h.dispatched)
  | ended _ _ id op approver eventType actorId reason stored allowed =>
    obtain rfl : op.id = id := key_of_get? stored
    exact .decided op stored (.ended approver eventType actorId reason allowed)
  | granted operationId stepId ownerId expectedVersion duration _ _ lease op step h =>
    exact .granted operationId stepId ownerId expectedVersion duration lease op step h
  | renewed stepId ownerId lease duration step stored fenced held =>
    exact .renewed stepId ownerId lease duration step stored fenced held
  | retried operationId stepId ownerId lease _ result step stored _ fenced =>
    exact .retried operationId stepId ownerId lease result step stored fenced
  | committed _ c op step outbox _ h sent =>
    exact .committed c.operationId c.stepId c.idempotencyKey c.ownerId c.lease c.expectedVersion
      c.outcome c.result c.events op step outbox h sent

theorem Call.effect (db : DB) (call : Call) : Effect db (call.run sha db).1 :=
  (call.does sha db).effect

/-- A fate turns an effect into one, at worst into a drawn generation. -/
theorem Fate.effect {α : Type} {db : DB} {transaction : DB × Except StoreError α}
    (h : Effect db transaction.1) (fate : Fate) : Effect db (fate.apply db transaction).1 := by
  cases fate with
  | answered | replyLost => exact h
  | aborted => exact .none _ (Nat.le_add_right _ _)

theorem engine_effect (db : DB) (request : Request) : Effect db ((engine sha).next db request) :=
  request.fate.effect (request.call.effect sha db)

theorem engine_run_induction {P : DB → Prop} (hstep : ∀ db db', Effect db db' → P db → P db')
    (sha : Sha256) {db : DB} (h : P db) (requests : List Request) :
    P ((engine sha).run db requests) :=
  (engine sha).run_induction (fun db request hP => hstep db _ (engine_effect sha db request) hP) h
    requests

/-! ## How a row changes

Rows of `operations` and `operation_steps` are never deleted and keep the columns that identify
them, so a row can be followed through a run by its key. -/

/-- How a step may change: the columns it was submitted with stay, its generation only grows, its
    version counts results, and once it has left `pending` and `running` nothing changes. -/
structure StepRow.Evolves (step step' : StepRow) : Prop where
  operationId : step'.operationId = step.operationId
  planStepId : step'.planStepId = step.planStepId
  idempotencyKey : step'.idempotencyKey = step.idempotencyKey
  stepType : step'.stepType = step.stepType
  dependsOn : step'.dependsOn = step.dependsOn
  generation : step.fencingGeneration ≤ step'.fencingGeneration
  version : step'.status.isActive = true → step'.version = step.version
  frozen : step.status.isActive = false → step' = step

theorem StepRow.Evolves.refl (step : StepRow) : step.Evolves step :=
  ⟨rfl, rfl, rfl, rfl, rfl, Nat.le_refl _, fun _ => rfl, fun _ => rfl⟩

/-- What a request may make of a step. -/
inductive StepRow.Becomes (db' : DB) (step : StepRow) : StepRow → Prop where
  | same : step.Becomes db' step
  | retained (lease : Lease) (active : step.status.isActive = true)
      (above : step.fencingGeneration < lease.generation)
      (drawn : db'.fencingSeq = lease.generation) : step.Becomes db' (step.retain lease)
  | retried (result : StepResult) (active : step.status.isActive = true) :
      step.Becomes db' (step.retry result)
  | finished (outcome : StepOutcome) (result : StepResult) (active : step.status.isActive = true) :
      step.Becomes db' (step.finish outcome result)

theorem StepRow.Becomes.evolves {db' : DB} {step step' : StepRow} (h : step.Becomes db' step') :
    step.Evolves step' := by
  cases h with
  | same => exact .refl step
  | retained _ active above =>
    refine ⟨rfl, rfl, rfl, rfl, rfl, Nat.le_of_lt above, fun _ => rfl, fun hdone => ?_⟩
    simp [hdone] at active
  | retried _ active =>
    refine ⟨rfl, rfl, rfl, rfl, rfl, Nat.le_refl _, fun _ => rfl, fun hdone => ?_⟩
    simp [hdone] at active
  | finished outcome _ active =>
    refine ⟨rfl, rfl, rfl, rfl, rfl, Nat.le_refl _, fun hstill => ?_, fun hdone => ?_⟩
    · cases outcome <;> simp [StepRow.finish, StepOutcome.status, StepStatus.isActive] at hstill
    · simp [hdone] at active

section Rows

variable {db db' : DB}

theorem DB.becomes_updateStep {operationId stepId : String} {step : StepRow}
    (f : StepRow → StepRow) (hf : ∀ r, (f r).id = r.id)
    (hstep : db.stepOf operationId stepId = some step) (h : step.Becomes db' (f step)) :
    db.steps.Becomes (StepRow.Becomes db') (db.steps.update stepId f hf) [] :=
  db.steps.becomes_update stepId f hf (fun _ => .same) (DB.stepOf_eq_some_iff.1 hstep).1 h

/-- Only a submission adds steps. -/
theorem Effect.steps_become (h : Effect db db') :
    ∃ more, db.steps.Becomes (StepRow.Becomes db') db'.steps more
      ∧ (more = [] ∨ ∃ op ids extra, Created db db' op more ids extra) := by
  cases h with
  | none | ticked | observed | renewed => exact ⟨[], db.steps.becomes_self fun _ => .same, .inl rfl⟩
  | created op steps ids extra hcreated =>
    exact ⟨steps, db.steps.becomes_append (fun _ => .same) hcreated.stepRows,
      .inr ⟨op, ids, extra, hcreated⟩⟩
  | decided _ _ hdecided =>
    cases hdecided with
    | approved | ended => exact ⟨[], db.steps.becomes_self fun _ => .same, .inl rfl⟩
  | granted _ _ _ _ _ lease _ _ hgrant =>
    exact ⟨[], db.becomes_updateStep (StepRow.retain lease) (fun _ => rfl) hgrant.stored
      (.retained lease hgrant.active hgrant.above rfl), .inl rfl⟩
  | retried _ _ ownerId lease result step stored fenced =>
    exact ⟨[], db.becomes_updateStep (StepRow.retry result) (fun _ => rfl) stored
      (.retried result ((db.fenced_iff step ownerId lease).1 fenced).1), .inl rfl⟩
  | committed _ _ _ ownerId lease _ outcome result _ _ step _ hcommit =>
      exact ⟨[], db.becomes_updateStep (StepRow.finish outcome result) (fun _ => rfl) hcommit.stored
        (.finished outcome result ((db.fenced_iff step ownerId lease).1 hcommit.fenced).1), .inl rfl⟩

theorem Effect.step_evolves (h : Effect db db') {id : String} {step : StepRow}
    (hstep : db.steps.get? id = some step) :
    ∃ step', db'.steps.get? id = some step' ∧ step.Evolves step' := by
  obtain ⟨more, hbecomes, -⟩ := h.steps_become
  obtain ⟨step', hstep', hstep⟩ := hbecomes.get? hstep
  exact ⟨step', hstep', hstep.evolves⟩

/-- How an operation may change: it keeps its scope, and once it is terminal nothing changes. -/
structure OperationRow.Evolves (op op' : OperationRow) : Prop where
  tenantId : op'.tenantId = op.tenantId
  projectId : op'.projectId = op.projectId
  environmentId : op'.environmentId = op.environmentId
  frozen : op.status.isTerminal = true → op' = op

theorem OperationRow.Evolves.refl (op : OperationRow) : op.Evolves op :=
  ⟨rfl, rfl, rfl, fun _ => rfl⟩

/-- What a request may make of an operation. -/
inductive OperationRow.Becomes (db db' : DB) (op : OperationRow) : OperationRow → Prop where
  | same : op.Becomes db db' op
  | approved (actorId reason : String) (ids : FreshIds) (outbox : Outbox)
      (waiting : op.status = .pendingApproval)
      (dispatched : outbox.rows = db.outbox.rows
        ++ (readyStepEvents db.now (op.transition db.now .queued (some actorId) reason)
          (db.readySteps op.id) actorId ids []).map (OutboxRow.new db.now))
      (h : db' = db.applyDecision op .queued (some actorId) .approved actorId reason outbox) :
      op.Becomes db db' (op.transition db.now .queued (some actorId) reason)
  | ended (approver : Option String) (reason : String)
      (allowed : op.status.canTransition .cancelled = true) :
      op.Becomes db db' (op.transition db.now .cancelled approver reason)
  | recorded (outcome : StepOutcome) (result : StepResult) (runnable : op.status.isRunnable = true) :
      op.Becomes db db' (op.recordStep outcome result)

/-- Only a submission adds an operation. -/
theorem Effect.operations_become (h : Effect db db') :
    ∃ more, db.operations.Becomes (OperationRow.Becomes db db') db'.operations more
      ∧ (more = [] ∨ ∃ op steps ids extra, more = [op] ∧ Created db db' op steps ids extra) := by
  cases h with
  | none | ticked | observed | renewed | granted | retried =>
    exact ⟨[], db.operations.becomes_self fun _ => .same, .inl rfl⟩
  | created op steps ids extra hcreated =>
    exact ⟨[op], db.operations.becomes_append (fun _ => .same) (rows_insert? hcreated.operations),
      .inr ⟨op, steps, ids, extra, rfl, hcreated⟩⟩
  | decided op stored hdecided =>
    cases hdecided with
    | approved actorId reason ids outbox waiting dispatched =>
      exact ⟨[], db.operations.becomes_update op.id
        (OperationRow.transition db.now .queued (some actorId) reason) (fun _ => rfl)
        (fun _ => .same) stored (.approved actorId reason ids outbox waiting dispatched rfl), .inl rfl⟩
    | ended approver _ _ reason allowed =>
      exact ⟨[], db.operations.becomes_update op.id
        (OperationRow.transition db.now .cancelled approver reason) (fun _ => rfl)
        (fun _ => .same) stored (.ended approver reason allowed), .inl rfl⟩
  | committed operationId _ _ _ _ _ outcome result _ op _ _ hcommit =>
      obtain rfl : op.id = operationId := key_of_get? hcommit.operation
      exact ⟨[], db.operations.becomes_update op.id (OperationRow.recordStep outcome result)
        (fun _ => rfl) (fun _ => .same) hcommit.operation (.recorded outcome result hcommit.runnable),
        .inl rfl⟩

theorem OperationRow.Becomes.evolves {op op' : OperationRow} (h : op.Becomes db db' op') :
    op.Evolves op' := by
  cases h with
  | same => exact .refl op
  | approved _ _ _ _ waiting =>
    refine ⟨rfl, rfl, rfl, fun hterminal => ?_⟩
    simp [waiting, isTerminal] at hterminal
  | ended _ _ allowed =>
    refine ⟨rfl, rfl, rfl, fun hterminal => ?_⟩
    simp [canTransition_of_isTerminal hterminal] at allowed
  | recorded _ _ runnable =>
    refine ⟨rfl, rfl, rfl, fun hterminal => ?_⟩
    simp [not_isTerminal_of_isRunnable runnable] at hterminal

theorem Effect.operation_evolves (h : Effect db db') {id : String} {op : OperationRow}
    (hop : db.operations.get? id = some op) :
    ∃ op', db'.operations.get? id = some op' ∧ op.Evolves op' := by
  obtain ⟨more, hbecomes, -⟩ := h.operations_become
  obtain ⟨op', hop', hop⟩ := hbecomes.get? hop
  exact ⟨op', hop', hop.evolves⟩

theorem Effect.fencingSeq_le (h : Effect db db') : db.fencingSeq ≤ db'.fencingSeq := by
  cases h with
  | none _ le => exact le
  | created _ _ _ _ hcreated => exact Nat.le_of_eq hcreated.fencingSeq.symm
  | decided _ _ hdecided =>
    cases hdecided with
    | approved | ended => exact Nat.le_refl _
  | granted _ _ _ _ _ _ _ _ hgrant =>
    exact Nat.le_of_lt hgrant.drawn
  | ticked | observed | renewed | retried | committed => exact Nat.le_refl _

end Rows

end HnbCloud.Operation
