import HnbCloud.Lib.ReadCommitted
import HnbCloud.Operation.PlatformStore

set_option autoImplicit false

/-! # Concurrent submissions of one intent

`SubmitIntent` statement by statement, for any number of calls with one commitment key (tenant, kind,
action and idempotency key). The statements that can meet another call are three: the lookup of the
commitment, the insert of the plan and the insert of the operation. The two inserts are
`ON CONFLICT … DO NOTHING` and wait for an open transaction with the same key.

The operation's key decides the race. Whoever holds it is alone until its end, so the first commit is
the only one; everybody else finds the operation afterwards, and with it the commitment, because both
are committed together.

Between the lookup and the insert of the plan a call rechecks its target and its storage binding, and
leaves with an error of its own if they are not what the intent expects. It does not look for the
commitment again before it leaves.

After its commit a call reads the operation again. If that fails, or the answer of the commit is lost,
the call returns an error, and its rows are there. -/

namespace HnbCloud.Operation

open Messaging ReadCommitted List Program Option Table Operation

/-! ## The statements -/

/-- The key of a commitment. -/
structure IntentKey where
  tenantId : String
  kind : IntentKind
  (action idempotencyKey : String)

/-- `idempotencyKey`. -/
def IntentKey.lookupKey (key : IntentKey) : String :=
  key.tenantId ++ ":" ++ key.kind.text ++ ":" ++ key.action ++ ":" ++ key.idempotencyKey

def DB.commitment (db : DB) (key : IntentKey) : Option IntentRow :=
  db.getIntentCommitment key.tenantId key.kind key.action key.idempotencyKey

open DB

/-- What becomes of an `INSERT … ON CONFLICT … DO NOTHING`. -/
inductive Inserted where
  | inserted
  /-- There is a row with the key of the conflict clause. -/
  | conflict
  /-- Another constraint is violated. -/
  | failed
deriving DecidableEq

open Inserted

/-- The rows that nothing but their own keys can conflict with. -/
inductive NewRow where
  | step (row : StepRow)
  | runtimeIntent (row : IntentRow)
  | outboxEvent (now : Int) (event : OutboxEvent)

def NewRow.insert? : NewRow → DB → Option DB
  | step row, db => (insertStep db.steps row).map fun steps => { db with steps := steps }
  | runtimeIntent row, db =>
    (insertRuntimeIntent db.intents row).map fun intents => { db with intents := intents }
  | outboxEvent now event, db =>
    (insertOutboxEvent db.outbox now event).map fun outbox => { db with outbox := outbox }

def NewRow.failure : NewRow → StoreError
  | step _ => .database "insert operation step"
  | runtimeIntent _ => .database "insert runtime intent"
  | outboxEvent _ _ => .database "insert step-requested outbox event"

/-- The statements of `SubmitIntent`. -/
inductive IntentStmt where
  /-- `now()` is the time at which the transaction began. -/
  | beginTx
  | getIntentCommitment (key : IntentKey)
  | recheckTarget (cmd : IntentSubmitCommand)
  | recheckStorageReconcile (cmd : IntentSubmitCommand)
  | insertPlan (plan : PlanRow)
  | selectPlan (tenantId planDigest : String)
  /-- With the link to the intent, which the source writes in an update of its own. -/
  | insertOperation (op : OperationRow)
  | insert (row : NewRow)
  | provisionRuntimeTarget (cmd : IntentSubmitCommand)
  | insertAudit (row : AuditRow)
  | upsertReadModel (now : Int) (op : OperationRow) (intentId : String)

open IntentStmt

def IntentStmt.Answer : IntentStmt → Type
  | beginTx => Int
  | getIntentCommitment _ => Option IntentRow
  | recheckTarget _ | recheckStorageReconcile _ => Except StoreError Unit
  | insertPlan _ | insertOperation _ => Inserted
  | selectPlan _ _ => Option String
  | insert _ => Bool
  | provisionRuntimeTarget _ | insertAudit _ | upsertReadModel _ _ _ => Unit

/-- The keys of the two unique indexes that conflict clauses name. -/
inductive IntentLock where
  | plan (tenantId planDigest : String)
  | operation (tenantId idempotencyKey : String)
deriving DecidableEq

/-- A statement that only reads. -/
def reads {ρ : Type} (answer : ρ) : Executed DB IntentLock ρ := ⟨answer, some, []⟩

def DB.planOf (db : DB) (tenantId planDigest : String) : Option PlanRow :=
  db.plans.rows.find? fun row => row.tenantId == tenantId && row.planDigest == planDigest

/-- The insert of a plan, by its primary key. -/
def DB.insertPlan? (plan : PlanRow) (db : DB) : Option DB :=
  (db.plans.insert? plan).map fun plans => { db with plans := plans }

/-- The insert of an operation, by its primary key. -/
def DB.insertOperation? (op : OperationRow) (db : DB) : Option DB :=
  (db.operations.insert? op).map fun operations => { db with operations := operations }

/-- An insert, which fails if the database does not take the row. -/
def inserts {ρ : Type} (view : DB) (insert? : DB → Option DB) (done failed : ρ)
    (kept : List IntentLock) : Executed DB IntentLock ρ :=
  match insert? view with
  | none => reads failed
  | some _ => ⟨done, insert?, kept⟩

/-- What a statement does. -/
def IntentStmt.exec (view : DB) : (stmt : IntentStmt) → Executed DB IntentLock stmt.Answer
  | beginTx => reads view.now
  | getIntentCommitment key => reads (view.commitment key)
  | recheckTarget cmd => reads (view.recheckTarget cmd)
  | recheckStorageReconcile cmd => reads (view.recheckStorageReconcile cmd)
  | insertPlan plan =>
    match view.planOf plan.tenantId plan.planDigest with
    | some _ => reads conflict
    | none => inserts view (insertPlan? plan) inserted failed [.plan plan.tenantId plan.planDigest]
  | selectPlan tenantId planDigest => reads ((view.planOf tenantId planDigest).map PlanRow.id)
  | insertOperation op =>
    match view.getByIdempotencyKey op.tenantId op.idempotencyKey with
    | some _ => reads conflict
    | none => inserts view (insertOperation? op) inserted failed
        [.operation op.tenantId op.idempotencyKey]
  | insert row => inserts view row.insert? true false []
  | provisionRuntimeTarget cmd =>
    ⟨(), fun db => some { db with targets := Operation.provisionRuntimeTarget db.targets cmd }, []⟩
  | insertAudit row => ⟨(), fun db => some { db with audit := db.audit ++ [row] }, []⟩
  | upsertReadModel now op intentId =>
    ⟨(), fun db => some { db with
      readModel := Operation.upsertReadModel db.readModel now op intentId }, []⟩

/-- The keys a statement waits for. -/
def IntentStmt.waits : IntentStmt → List IntentLock
  | insertPlan plan => [.plan plan.tenantId plan.planDigest]
  | insertOperation op => [.operation op.tenantId op.idempotencyKey]
  | _ => []

variable {insert? : DB → Option DB} {kept : List IntentLock} {ρ : Type}

theorem inserts_of_none {view : DB} {done failed : ρ} (h : insert? view = none) :
    inserts view insert? done failed kept = reads failed := by
  simp [inserts, h]

theorem inserts_of_some {view view' : DB} {done failed : ρ} (h : insert? view = some view') :
    inserts view insert? done failed kept = ⟨done, insert?, kept⟩ := by
  simp [inserts, h]

theorem kept_inserts (view : DB) (insert? : DB → Option DB) (done failed : ρ)
    (kept : List IntentLock) : (inserts view insert? done failed kept).kept ⊆ kept := by
  unfold inserts
  split
  · exact nil_subset _
  · exact List.Subset.refl _

/-- The database, as far as `SubmitIntent` uses it. -/
def intentDatabase : Database DB IntentLock IntentStmt IntentStmt.Answer where
  waits := waits
  exec := exec
  kept_subset := by
    intro view stmt
    cases stmt with
    | insertPlan | insertOperation =>
      simp only [exec, waits]
      split
      · exact nil_subset _
      · exact kept_inserts _ _ _ _ _
    | insert => exact kept_inserts _ _ _ _ _
    | _ => exact nil_subset _

/-! ## The transaction -/

/-- What `SubmitIntent` returns. -/
abbrev IntentResult := Except StoreError (IntentReceipt × Bool)

/-- A transaction of `SubmitIntent`. -/
abbrev IntentTx := Program IntentStmt IntentStmt.Answer (Verdict IntentResult)

/-- A call of `SubmitIntent` with this key, and the ids it draws. -/
structure IntentCall (key : IntentKey) where
  cmd : IntentSubmitCommand
  ids : FreshIds
  tenantId : cmd.tenantId = key.tenantId
  kind : cmd.kind = key.kind
  action : cmd.commitmentAction = key.action
  idempotencyKey : cmd.idempotencyKey = key.idempotencyKey

open IntentCall

/-- The error of a statement ends the call. -/
def leave (err : StoreError) : IntentTx := .done (.rollback (.error err))

/-- Inserts one row after the other, then goes on. -/
def insertAll (next : IntentTx) : List NewRow → IntentTx
  | [] => next
  | row :: rest => .call (.insert row) fun outcome =>
    match (outcome : Bool) with
    | true => insertAll next rest
    | false => leave row.failure

namespace IntentCall

variable (sha : Sha256) {key : IntentKey} (call : IntentCall key)

def planDigest : String := scopedPlanDigest sha call.cmd.planSemanticDigest call.cmd.lookupKey

def planRow : PlanRow where
  id := call.ids.plan
  releaseId := call.cmd.releaseRef
  tenantId := call.cmd.tenantId
  projectId := ""
  environmentId := ""
  planDigest := call.planDigest sha
  runtimeIntentId := call.ids.intent

/-- The correlation id, drawn if the caller has none. -/
def correlationId : String :=
  if call.cmd.correlationId = "" then call.ids.correlation else call.cmd.correlationId

variable (now : Int) (planId : String)

def operationRow : OperationRow :=
  OperationRow.ofIntent (DB.empty now) call.cmd call.ids planId (call.planDigest sha)
    call.correlationId

def stepRows : List StepRow :=
  call.cmd.steps.zipIdx.map fun x =>
    StepRow.ofPlanStep call.ids.operation (call.ids.step x.2) call.cmd.lookupKey x.1

def auditRow : AuditRow :=
  Operation.auditRow (DB.empty now) call.ids.operation .created call.cmd.initiatedBy none
    (some call.cmd.initialStatus)
    (.obj [("intent_kind", .str call.cmd.kind.text),
      ("operation_type", .str call.cmd.kind.toOperationType.text),
      ("plan_digest", .str (call.planDigest sha)), ("release_id", .str call.cmd.releaseRef)])

/-- The commitment. -/
def intentRow : IntentRow where
  id := call.ids.intent
  tenantId := call.cmd.tenantId
  subjectId := call.cmd.subjectId
  intentKind := call.cmd.kind
  commitmentAction := call.cmd.commitmentAction
  idempotencyKey := call.cmd.idempotencyKey
  semanticDigest := call.cmd.intentDigest
  executionPlanId := planId
  operationId := call.ids.operation
  correlationId := call.cmd.correlationId
  runtimeTargetId := call.cmd.runtimeTargetId
  acceptedStatus := call.cmd.initialStatus
  createdAt := now

/-- The commands of the steps that can start. -/
def events : List OutboxEvent :=
  if call.cmd.initialStatus = .queued then
    readyStepEvents now (call.operationRow sha now planId) call.stepRows call.cmd.initiatedBy
      call.ids [("correlationId", .str call.correlationId)]
  else []

/-- The receipt of the call that creates the operation. -/
def receipt : IntentReceipt where
  intentId := call.ids.intent
  operationId := call.ids.operation
  planId := planId
  operationType := call.cmd.kind.toOperationType
  status := call.cmd.initialStatus
  correlationId := call.correlationId

/-- The rest of the transaction, once the operation is inserted. -/
def persist : IntentTx :=
  insertAll (.call (.provisionRuntimeTarget call.cmd) fun _ =>
      .call (.insertAudit (call.auditRow sha now)) fun _ =>
      .call (.upsertReadModel now (call.operationRow sha now planId) call.ids.intent) fun _ =>
      insertAll (.done (.commit (.ok (call.receipt planId, true))))
        (.runtimeIntent (call.intentRow now planId)
          :: (call.events sha now planId).map (.outboxEvent now)))
    (call.stepRows.map .step)

/-- Somebody else has inserted the operation: the commitment is looked up again. -/
def replay : IntentTx :=
  .call (.getIntentCommitment key) fun commitment =>
    match (commitment : Option IntentRow) with
    | none => leave .notFound
    | some row => .done (.rollback (replayIntent call.cmd row))

def insertOperation : IntentTx :=
  .call (.insertOperation (call.operationRow sha now planId)) fun outcome =>
    match (outcome : Inserted) with
    | .failed => leave (.database "insert operation")
    | .conflict => call.replay
    | .inserted => call.persist sha now planId

def persistPlan : IntentTx :=
  .call (.insertPlan (call.planRow sha)) fun outcome =>
    match (outcome : Inserted) with
    | .failed => leave (.database "persist execution plan")
    | .conflict =>
      .call (.selectPlan call.cmd.tenantId (call.planDigest sha)) fun planId =>
        match (planId : Option String) with
        | none => leave (.database "persist execution plan")
        | some planId => call.insertOperation sha now planId
    | .inserted => call.insertOperation sha now call.ids.plan

def submitIntent : IntentTx :=
  .call .beginTx fun now =>
  .call (.getIntentCommitment key) fun commitment =>
    match (commitment : Option IntentRow) with
    | some row => .done (.rollback (replayIntent call.cmd row))
    | none =>
    .call (.recheckTarget call.cmd) fun checked =>
      match (checked : Except StoreError Unit) with
      | .error err => leave err
      | .ok () =>
      .call (.recheckStorageReconcile call.cmd) fun checked =>
        match (checked : Except StoreError Unit) with
        | .error err => leave err
        | .ok () => call.persistPlan sha now

end IntentCall

/-- What other services do to the tables a submission only reads: time passes, and targets and
    bindings are observed. -/
structure IntentSurroundings where
  now : Int
  targets : Table RuntimeTargetRow String RuntimeTargetRow.id
  bindings : Table StorageBindingRow String StorageBindingRow.id

/-- The database after a change of the surroundings. -/
def DB.surround (db : DB) (change : IntentSurroundings) : DB :=
  { db with now := change.now, targets := change.targets, bindings := change.bindings }

/-- Any number of calls of `SubmitIntent` with one key. -/
def intentRace (sha : Sha256) (key : IntentKey) :
    Machine (State DB IntentLock IntentStmt IntentStmt.Answer IntentResult (IntentCall key))
      (Turn (IntentCall key) IntentSurroundings) Unit :=
  sessions intentDatabase (IntentCall.submitIntent sha) DB.surround

/-- What a call returns when its transaction has ended. `lost` is the error of a commit whose answer
    is lost, or of the `GetOperation` that follows it. -/
def returned (lost : Option StoreError) : IntentResult → IntentResult
  | .ok (receipt, true) => lost.elim (.ok (receipt, true)) .error
  | result => result

/-! ## A submission alone -/

/-- The rows inserted one after the other. -/
def insertedAll : List NewRow → DB → Option DB
  | [], db => some db
  | row :: rest, db => (row.insert? db).bind (insertedAll rest)

theorem insertedAll_steps (rows : List StepRow) (db : DB) : insertedAll (rows.map .step) db
      = (insertSteps db.steps rows).map fun steps => { db with steps := steps } := by
  induction rows generalizing db with
  | nil => rfl
  | cons row _ ih =>
    simp only [map_cons, insertedAll, NewRow.insert?, insertSteps]
    rcases insertStep db.steps row with _ | steps
    · rfl
    · simp [ih]

theorem insertedAll_events (now : Int) (events : List OutboxEvent) (db : DB) :
    insertedAll (events.map (.outboxEvent now)) db
      = (insertOutboxEvents db.outbox now events).map fun outbox => { db with outbox := outbox } := by
  induction events generalizing db with
  | nil => rfl
  | cons event _ ih =>
    simp only [map_cons, insertedAll, NewRow.insert?, insertOutboxEvents]
    rcases insertOutboxEvent db.outbox now event with _ | outbox
    · rfl
    · simp [ih]

section Alone

variable {key : IntentKey} {sha : Sha256} {call : IntentCall key} {db view : DB}

/-- An insert that fails ends the call with an error of the database. -/
theorem serial_insertAll (next : IntentTx) (rows : List NewRow) (view : DB) :
    (∀ view', insertedAll rows view = some view' →
      serial intentDatabase db (insertAll next rows) view = serial intentDatabase db next view')
    ∧ (insertedAll rows view = none → ∃ text,
      serial intentDatabase db (insertAll next rows) view = some (db, .error (.database text))) := by
  induction rows generalizing view with
  | nil => exact ⟨fun _ h => by rw [← Option.some.inj h]; rfl, nofun⟩
  | cons row _ ih =>
    rcases hrow : row.insert? view with _ | view₁
    · have hexec : intentDatabase.exec view (.insert row) = reads false := inserts_of_none hrow
      simp only [insertedAll, insertAll, serial, hexec, hrow, reads, bind_none, bind_some]
      refine ⟨by simp, fun _ => ?_⟩
      cases row with
      | step | runtimeIntent | outboxEvent => exact ⟨_, rfl⟩
    · have hexec : intentDatabase.exec view (.insert row) = ⟨true, row.insert?, []⟩ :=
        inserts_of_some hrow
      simp only [insertedAll, insertAll, serial, hexec, hrow, bind_some]
      exact ih view₁

/-- The same end, or an error of the database on both sides; the writes that fail do not come in
    the same order. -/
def Agrees (db : DB) (out out' : DB × IntentResult) : Prop :=
  out = out' ∨ ∃ text text', out = (db, .error (.database text))
    ∧ out' = (db, .error (.database text'))

/-- What the rest of the transaction makes of the database it sees. -/
def IntentCall.persisted (sha : Sha256) (call : IntentCall key) (now : Int) (planId : String)
    (view : DB) : Option DB :=
  (insertSteps view.steps call.stepRows).bind fun steps =>
  (insertRuntimeIntent view.intents (call.intentRow now planId)).bind fun intents =>
  (insertOutboxEvents view.outbox now (call.events sha now planId)).map fun outbox =>
    { view with
      steps := steps
      targets := provisionRuntimeTarget view.targets call.cmd
      audit := view.audit ++ [call.auditRow sha now]
      readModel := upsertReadModel view.readModel now (call.operationRow sha now planId)
        call.ids.intent
      intents := intents
      outbox := outbox }

theorem serial_persist (sha : Sha256) (call : IntentCall key) (db view : DB) (now : Int)
    (planId : String) :
    match call.persisted sha now planId view with
    | some view' => serial intentDatabase db (call.persist sha now planId) view
        = some (view', .ok (call.receipt planId, true))
    | none => ∃ text, serial intentDatabase db (call.persist sha now planId) view
        = some (db, .error (.database text)) := by
  unfold persisted persist
  rcases hsteps : insertSteps view.steps call.stepRows with _ | steps
  · exact (serial_insertAll _ _ _).2 (by rw [insertedAll_steps, hsteps]; rfl)
  have hinserted : insertedAll (call.stepRows.map .step) view = some { view with steps := steps } := by
    rw [insertedAll_steps, hsteps]
    rfl
  rw [(serial_insertAll _ _ _).1 _ hinserted]
  rcases hintent : insertRuntimeIntent view.intents (call.intentRow now planId) with _ | intents
  · refine (serial_insertAll _ _ _).2 ?_
    simp [insertedAll, NewRow.insert?, hintent]
  rcases hevents : insertOutboxEvents view.outbox now (call.events sha now planId) with _ | outbox
  · refine (serial_insertAll _ _ _).2 ?_
    simp [insertedAll, NewRow.insert?, hintent, insertedAll_events, hevents]
  · refine ((serial_insertAll _ _ _).1 _ ?_).trans rfl
    simp [insertedAll, NewRow.insert?, hintent, insertedAll_events, hevents]

theorem serial_insertOperation (now : Int) (planId : String) (hnone : view.commitment key = none) :
    serial intentDatabase db (call.insertOperation sha now planId) view
      = match view.getByIdempotencyKey call.cmd.tenantId call.cmd.lookupKey with
        | some _ => some (db, .error .notFound)
        | none =>
          match view.operations.insert? (call.operationRow sha now planId) with
          | none => some (db, .error (.database "insert operation"))
          | some operations => serial intentDatabase db (call.persist sha now planId)
              { view with operations := operations } := by
  have hget : view.getByIdempotencyKey (call.operationRow sha now planId).tenantId
      (call.operationRow sha now planId).idempotencyKey
      = view.getByIdempotencyKey call.cmd.tenantId call.cmd.lookupKey := rfl
  simp only [IntentCall.insertOperation, serial, intentDatabase, exec, hget]
  rcases view.getByIdempotencyKey call.cmd.tenantId call.cmd.lookupKey with _ | existing
  · rcases hinsert : view.operations.insert? (call.operationRow sha now planId) with _ | operations
    · simp [inserts, insertOperation?, hinsert, reads, serial, leave]
    · simp [inserts, insertOperation?, hinsert]
  · simp [reads, IntentCall.replay, serial, exec, hnone, leave]

theorem serial_persistPlan (now : Int) : serial intentDatabase db (call.persistPlan sha now) view
      = match persistPlan view.plans (call.planRow sha) with
        | none => some (db, .error (.database "persist execution plan"))
        | some (plans, planId) => serial intentDatabase db (call.insertOperation sha now planId)
            { view with plans := plans } := by
  have hplan : view.planOf (call.planRow sha).tenantId (call.planRow sha).planDigest
      = view.plans.rows.find? (fun row => row.tenantId == (call.planRow sha).tenantId
        && row.planDigest == (call.planRow sha).planDigest) := rfl
  simp only [IntentCall.persistPlan, serial, intentDatabase, exec, persistPlan, ← hplan]
  rcases hfound : view.planOf (call.planRow sha).tenantId (call.planRow sha).planDigest with _ | plan
  · rcases hinsert : view.plans.insert? (call.planRow sha) with _ | plans
    · simp [inserts, insertPlan?, hinsert, reads, serial, leave]
    · simp only [inserts, insertPlan?, hinsert, map_some, bind_some]
      rfl
  · have hselect : view.planOf call.cmd.tenantId (call.planDigest sha) = some plan := hfound
    simp [reads, serial, exec, hselect]

/-- The end of `submitIntent`, from the row of the commitment on. -/
def IntentCall.created (sha : Sha256) (call : IntentCall key) (db : DB)
    (plans : Table PlanRow String PlanRow.id) (planId : String) : DB × IntentResult :=
  match insertRuntimeIntent db.intents (call.intentRow db.now planId) with
  | none => (db, .error (.database "insert runtime intent"))
  | some intents =>
    match { db with
        plans := plans
        intents := intents
        targets := provisionRuntimeTarget db.targets call.cmd }.createOperation
        (call.operationRow sha db.now planId) call.stepRows call.ids (.obj
          [("intent_kind", .str call.cmd.kind.text),
            ("operation_type", .str call.cmd.kind.toOperationType.text),
            ("plan_digest", .str (call.planDigest sha)), ("release_id", .str call.cmd.releaseRef)])
        call.ids.intent [("correlationId", .str call.correlationId)] with
    | .error err => (db, .error err)
    | .ok db' => (db', .ok (call.receipt planId, true))

theorem created_eq (sha : Sha256) (call : IntentCall key) (db : DB)
    (plans : Table PlanRow String PlanRow.id) (planId : String) :
    match (db.operations.insert? (call.operationRow sha db.now planId)).bind fun operations =>
      call.persisted sha db.now planId { db with plans := plans, operations := operations } with
    | some db' => call.created sha db plans planId = (db', .ok (call.receipt planId, true))
    | none => ∃ text, call.created sha db plans planId = (db, .error (.database text)) := by
  have hevents : (if (call.operationRow sha db.now planId).status = .queued then
      readyStepEvents db.now (call.operationRow sha db.now planId) call.stepRows
        (call.operationRow sha db.now planId).initiatedBy call.ids
        [("correlationId", .str call.correlationId)] else [])
      = call.events sha db.now planId := rfl
  unfold created persisted
  dsimp only
  rcases insertRuntimeIntent db.intents (call.intentRow db.now planId) with _ | intents
  · simp only [bind_none, bind_fun_none]
    exact ⟨_, rfl⟩
  simp only [DB.createOperation, hevents]
  rcases db.operations.insert? (call.operationRow sha db.now planId) with _ | operations
  · exact ⟨_, rfl⟩
  rcases insertSteps db.steps call.stepRows with _ | steps
  · exact ⟨_, rfl⟩
  rcases insertOutboxEvents db.outbox db.now (call.events sha db.now planId) with _ | outbox
  · exact ⟨_, rfl⟩
  · rfl

/-- A call that nobody interrupts does what `submitIntent` does in one step. -/
theorem serial_submitIntent (sha : Sha256) (call : IntentCall key) (db : DB) :
    ∃ out, serial intentDatabase db (call.submitIntent sha) db = some out
      ∧ Agrees db out (submitIntent sha db call.cmd call.ids) := by
  have hcommitment : db.getIntentCommitment call.cmd.tenantId call.cmd.kind
      call.cmd.commitmentAction call.cmd.idempotencyKey = db.commitment key := by
    simp only [DB.commitment, call.tenantId, call.kind, call.action, call.idempotencyKey]
  simp only [IntentCall.submitIntent, serial, intentDatabase, exec, reads, bind_some,
    submitIntent, hcommitment]
  rcases hnone : db.commitment key with _ | row
  swap
  · exact ⟨_, rfl, .inl rfl⟩
  simp only [serial, exec, reads, bind_some]
  rcases db.recheckTarget call.cmd with err | ⟨⟩
  · exact ⟨_, rfl, .inl rfl⟩
  simp only [serial, exec, reads, bind_some]
  rcases db.recheckStorageReconcile call.cmd with err | ⟨⟩
  · exact ⟨_, rfl, .inl rfl⟩
  change ∃ out, serial intentDatabase db (call.persistPlan sha db.now) db = some out
    ∧ Agrees db out (match persistPlan db.plans (call.planRow sha) with
    | none => _ | some (plans, planId) => _)
  rw [serial_persistPlan]
  rcases hplan : persistPlan db.plans (call.planRow sha) with _ | ⟨plans, planId⟩
  · exact ⟨_, rfl, .inl rfl⟩
  have hstaged : { db with plans := plans }.commitment key = none := hnone
  simp only [serial_insertOperation db.now planId hstaged]
  change ∃ out, (match db.getByIdempotencyKey call.cmd.tenantId call.cmd.lookupKey with
    | some _ => _ | none => _) = some out ∧ _
  rcases db.getByIdempotencyKey call.cmd.tenantId call.cmd.lookupKey with _ | existing
  swap
  · exact ⟨_, rfl, .inl rfl⟩
  have htail := created_eq sha call db plans planId
  rcases hinsert : db.operations.insert? (call.operationRow sha db.now planId) with _ | operations
  · rw [hinsert] at htail
    obtain ⟨text, htail⟩ := htail
    exact ⟨_, rfl, .inr ⟨_, text, rfl, htail⟩⟩
  rw [hinsert, bind_some] at htail
  have hserial := serial_persist sha call db { db with plans := plans, operations := operations }
    db.now planId
  rcases hpersisted : call.persisted sha db.now planId
      { db with plans := plans, operations := operations } with _ | db'
  · rw [hpersisted] at htail hserial
    obtain ⟨text, htail⟩ := htail
    obtain ⟨text', hserial⟩ := hserial
    exact ⟨_, hserial, .inr ⟨_, _, rfl, htail⟩⟩
  · rw [hpersisted] at htail hserial
    exact ⟨_, hserial, .inl htail.symm⟩

theorem submitIntent_alone (sha : Sha256) (call : IntentCall key) (db : DB) :
    ∃ n out, (intentRace sha key).run ⟨db, []⟩ (.start call :: replicate n (.advance 0))
        = ⟨out.1, [.answered call out.2]⟩
      ∧ Agrees db out (submitIntent sha db call.cmd call.ids) := by
  obtain ⟨out, hserial, hagrees⟩ := serial_submitIntent sha call db
  obtain ⟨n, hrun⟩ := run_alone intentDatabase (IntentCall.submitIntent sha) DB.surround call hserial
  exact ⟨n, out, hrun, hagrees⟩

end Alone

/-! ## The state of the race -/

section Race

variable {key : IntentKey} {db₀ db db' : DB} {c : IntentRow}

/-- Nobody has committed: the tables of a submission are those of the start. -/
structure Untouched (db₀ db : DB) : Prop where
  operations : db.operations.rows = db₀.operations.rows
  plans : db.plans.rows = db₀.plans.rows
  intents : db.intents.rows = db₀.intents.rows

/-- One call has committed: its operation, its commitment and perhaps its plan have been added. -/
structure Won (key : IntentKey) (db₀ db : DB) (c : IntentRow) : Prop where
  noOperation : db₀.getByIdempotencyKey key.tenantId key.lookupKey = none
  noCommitment : db₀.commitment key = none
  operations : ∃ op, db.operations.rows = db₀.operations.rows ++ [op]
    ∧ op.tenantId = key.tenantId ∧ op.idempotencyKey = key.lookupKey ∧ op.id = c.operationId
  plans : ∃ plans : List PlanRow, db.plans.rows = db₀.plans.rows ++ plans ∧ plans.length ≤ 1
  intents : db.intents.rows = db₀.intents.rows ++ [c]
  keyed : c.tenantId = key.tenantId ∧ c.intentKind = key.kind ∧ c.commitmentAction = key.action
    ∧ c.idempotencyKey = key.idempotencyKey

theorem commitment_congr (h : db'.intents.rows = db.intents.rows) :
    db'.commitment key = db.commitment key := by
  simp only [DB.commitment, DB.getIntentCommitment, h]

theorem getByIdempotencyKey_congr (h : db'.operations.rows = db.operations.rows) :
    db'.getByIdempotencyKey key.tenantId key.lookupKey
      = db.getByIdempotencyKey key.tenantId key.lookupKey := by
  simp only [getByIdempotencyKey, h]

theorem Won.commitment (h : Won key db₀ db c) : db.commitment key = some c := by
  have hnone := h.noCommitment
  simp only [DB.commitment, DB.getIntentCommitment] at hnone ⊢
  rw [h.intents, find?_append, hnone]
  simp [h.keyed]

theorem Won.operation (h : Won key db₀ db c) :
    db.getByIdempotencyKey key.tenantId key.lookupKey ≠ none := by
  obtain ⟨op, hrows, htenant, hkey, -⟩ := h.operations
  simp only [getByIdempotencyKey, hrows, ne_eq, find?_eq_none]
  intro h
  have := h op (by simp)
  simp [htenant, hkey] at this

theorem Won.not_untouched (h : Won key db₀ db c) : ¬ Untouched db₀ db := by
  intro hu
  have := h.intents
  rw [hu.intents] at this
  simpa using congrArg length this

/-- What the other calls, and the surroundings, may do while a call holds these keys. -/
structure Others (key : IntentKey) (db₀ : DB) (held : List IntentLock) (db db' : DB) : Prop where
  commitment : ∀ c, db.commitment key = some c → db'.commitment key = some c
  plans : ∀ row ∈ db.plans.rows, row ∈ db'.plans.rows
  won : ∀ c, Won key db₀ db c → Won key db₀ db' c
  untouched : Untouched db₀ db → Untouched db₀ db'
    ∨ (.operation key.tenantId key.lookupKey ∉ held ∧ ∃ c, Won key db₀ db' c)

/-- The race is open, or it has been won. -/
def OpenOrWon (key : IntentKey) (db₀ db : DB) : Prop :=
  Untouched db₀ db ∨ ∃ c, Won key db₀ db c

theorem Others.openOrWon {held : List IntentLock} (h : Others key db₀ held db db')
    (hdb : OpenOrWon key db₀ db) : OpenOrWon key db₀ db' := by
  rcases hdb with hu | ⟨c, hwon⟩
  · rcases h.untouched hu with hu' | ⟨-, hwon⟩
    · exact .inl hu'
    · exact .inr hwon
  · exact .inr ⟨c, h.won c hwon⟩

/-- The answer a call may get: the ids of the commitment if the digest is its own, a conflict if it
    is another; an operation that is not a submission of the key bars the way; or, where that is
    taken into account, a refusal of the call's own. -/
def Answers (refusable : Prop) (key : IntentKey) (db₀ : DB) (call : IntentCall key) (db : DB) :
    IntentResult → Prop
  | .ok (receipt, _) => ∃ c, db.commitment key = some c ∧ c.semanticDigest = call.cmd.intentDigest
      ∧ receipt.intentId = c.id ∧ receipt.operationId = c.operationId
      ∧ receipt.planId = c.executionPlanId
  | .error (.idempotencyConflict k) => k = call.cmd.lookupKey
      ∧ ∃ c, db.commitment key = some c ∧ c.semanticDigest ≠ call.cmd.intentDigest
  | .error .notFound => db₀.getByIdempotencyKey key.tenantId key.lookupKey ≠ none
      ∧ db₀.commitment key = none
  | .error _ => refusable

theorem rely_others (refusable : Prop) (key : IntentKey) (db₀ : DB) :
    Rely (Others key db₀) (OpenOrWon key db₀) (Answers refusable key db₀) where
  refl held db := ⟨fun _ h => h, fun _ h => h, fun _ h => h, .inl⟩
  trans held a b c hab hbc := by
    refine ⟨fun r h => hbc.commitment r (hab.commitment r h),
      fun r h => hbc.plans r (hab.plans r h), fun r h => hbc.won r (hab.won r h), fun hu => ?_⟩
    rcases hab.untouched hu with hu | ⟨hfree, r, hwon⟩
    · exact hbc.untouched hu
    · exact .inr ⟨hfree, r, hbc.won r hwon⟩
  inv a b hab ha := hab.openOrWon ha
  answers call a b result hab h := by
    match result, h with
    | .ok (receipt, created), ⟨c, hc, hrest⟩ => exact ⟨c, hab.commitment c hc, hrest⟩
    | .error err, h =>
      cases err with
      | idempotencyConflict =>
        obtain ⟨hk, c, hc, hne⟩ := h
        exact ⟨hk, c, hab.commitment c hc, hne⟩
      | _ => exact h

/-! ## What a transaction has written -/

/-- The writes add these rows to the tables that decide the race. -/
def Adds (plans : List PlanRow) (operations : List OperationRow) (intents : List IntentRow)
    (writes : DB → Option DB) : Prop :=
  ∀ db db', writes db = some db' → db'.plans.rows = db.plans.rows ++ plans
    ∧ db'.operations.rows = db.operations.rows ++ operations
    ∧ db'.intents.rows = db.intents.rows ++ intents

variable {plans plans' : List PlanRow} {operations operations' : List OperationRow}
  {added added' : List IntentRow} {writes writes' : DB → Option DB}

theorem adds_some : Adds [] [] [] some := by
  rintro db db' ⟨⟩
  simp

theorem Adds.bind (h : Adds plans operations added writes)
    (h' : Adds plans' operations' added' writes') :
    Adds (plans ++ plans') (operations ++ operations') (added ++ added')
      (fun db => (writes db).bind writes') := by
  intro db db'' hbind
  obtain ⟨db', hdb', hdb''⟩ := bind_eq_some_iff.1 hbind
  obtain ⟨hplans, hoperations, hintents⟩ := h db db' hdb'
  obtain ⟨hplans', hoperations', hintents'⟩ := h' db' db'' hdb''
  simp [hplans, hplans', hoperations, hoperations', hintents, hintents']

theorem Adds.reads (h : Adds plans operations added writes) (answer : ρ) :
    Adds plans operations added (fun db => (writes db).bind (reads answer).writes) := by
  have hbind := h.bind adds_some
  simp only [append_nil] at hbind
  exact hbind

theorem adds_insertPlan? (plan : PlanRow) : Adds [plan] [] [] (insertPlan? plan) := by
  intro db db' h
  obtain ⟨plans, hplans, rfl⟩ := map_eq_some_iff.1 h
  simp [rows_insert? hplans]

theorem adds_insertOperation? (op : OperationRow) : Adds [] [op] [] (insertOperation? op) := by
  intro db db' h
  obtain ⟨operations, hoperations, rfl⟩ := map_eq_some_iff.1 h
  simp [rows_insert? hoperations]

/-- The commitments among new rows. -/
def NewRow.intents : NewRow → List IntentRow
  | runtimeIntent row => [row]
  | _ => []

theorem NewRow.adds_insert? (row : NewRow) : Adds [] [] row.intents row.insert? := by
  intro db db' h
  cases row with
  | step =>
    obtain ⟨steps, -, rfl⟩ := map_eq_some_iff.1 h
    simp [NewRow.intents]
  | runtimeIntent =>
    obtain ⟨intents, hintents, rfl⟩ := map_eq_some_iff.1 h
    unfold insertRuntimeIntent at hintents
    split_ifs at hintents
    simp [NewRow.intents, rows_insert? hintents]
  | outboxEvent =>
    obtain ⟨outbox, -, rfl⟩ := map_eq_some_iff.1 h
    simp [NewRow.intents]

/-! ## One call among the others -/

variable {cmd : IntentSubmitCommand}

theorem DB.recheckTarget_error {err : StoreError} (h : db.recheckTarget cmd = .error err) :
    err = .targetNotFound ∨ err = .targetVersionConflict := by
  unfold recheckTarget at h
  split at h
  · simp at h
  split at h
  · exact .inl (by simpa using h.symm)
  · split at h
    · exact .inr (by simpa using h.symm)
    · simp at h

theorem DB.recheckStorageReconcile_error {err : StoreError}
    (h : db.recheckStorageReconcile cmd = .error err) :
    err = .storageBindingConflict ∨ err = .storageObservationConflict := by
  unfold recheckStorageReconcile at h
  split at h
  · simp at h
  split at h
  · exact .inl (by simpa using h.symm)
  split at h
  · exact .inl (by simpa using h.symm)
  · split at h
    · exact .inr (by simpa using h.symm)
    · simp at h

/-- The call leaves because of what it reads or inserts itself, in the state it sees: its target or
    its storage binding is not what it expects, or a row it inserts violates a constraint. -/
def IntentStmt.refuses (view : DB) : IntentStmt → Bool
  | recheckTarget cmd => !(view.recheckTarget cmd).isOk
  | recheckStorageReconcile cmd => !(view.recheckStorageReconcile cmd).isOk
  | insertPlan plan => (view.planOf plan.tenantId plan.planDigest).isNone
      && (insertPlan? plan view).isNone
  | insertOperation op => (view.getByIdempotencyKey op.tenantId op.idempotencyKey).isNone
      && (insertOperation? op view).isNone
  | insert row => (row.insert? view).isNone
  | _ => false

/-- Statements that refuse are met only where refusals are taken into account. -/
def Accepting (refusable : Prop) (view : DB) (stmt : IntentStmt) : Prop :=
  stmt.refuses view = true → refusable

variable {refusable : Prop} {sha : Sha256} {call : IntentCall key} {held : List IntentLock}

/-- A call of this race, verified among the others. -/
abbrev SafeTx (refusable : Prop) (db₀ : DB) (call : IntentCall key) :
    IntentTx → (DB → Option DB) → List IntentLock → DB → Prop :=
  Safe intentDatabase (Others key db₀) (Accepting refusable) (Answers refusable key db₀ call)

/-- A read, before the call has written anything. -/
theorem safe_reads {stmt : IntentStmt} {next : stmt.Answer → IntentTx} {answer : DB → stmt.Answer}
    (hexec : ∀ view, stmt.exec view = reads (answer view)) (hdb : OpenOrWon key db₀ db)
    (hnext : ∀ db', OpenOrWon key db₀ db' → Others key db₀ held db db' →
      Accepting refusable db' stmt → SafeTx refusable db₀ call (next (answer db')) some held db') :
    SafeTx refusable db₀ call (.call stmt next) some held db := by
  refine safe_call fun db' hothers view hview haccepting x hx => ?_
  obtain rfl : db' = view := by simpa using hview
  obtain rfl := (hexec db').symm.trans hx
  rw [reads, append_nil]
  exact hnext db' (hothers.openOrWon hdb) hothers haccepting

theorem safe_replayIntent (hc : db.commitment key = some c) :
    SafeTx refusable db₀ call (.done (.rollback (replayIntent call.cmd c))) writes held db := by
  refine safe_rollback fun db' hothers => ?_
  have hc' := hothers.commitment c hc
  unfold replayIntent
  split
  · next hne => exact ⟨rfl, c, hc', hne⟩
  · next heq => exact ⟨c, hc', by simpa using heq, rfl, rfl, rfl⟩

/-- While the call holds the key of the operation, nobody else commits. -/
theorem Others.untouched_of_held (h : Others key db₀ held db db')
    (hheld : .operation key.tenantId key.lookupKey ∈ held) (hu : Untouched db₀ db) :
    Untouched db₀ db' :=
  (h.untouched hu).resolve_right fun hwon => hwon.1 hheld

/-- A call that has inserted the operation: nothing had been there, and the call holds its key. -/
structure Ahead (key : IntentKey) (db₀ db : DB) (held : List IntentLock) : Prop where
  noOperation : db₀.getByIdempotencyKey key.tenantId key.lookupKey = none
  noCommitment : db₀.commitment key = none
  untouched : Untouched db₀ db
  held : .operation key.tenantId key.lookupKey ∈ held

theorem Ahead.others (h : Ahead key db₀ db held) (hothers : Others key db₀ held db db')
    (kept : List IntentLock) : Ahead key db₀ db' (held ++ kept) :=
  ⟨h.noOperation, h.noCommitment, hothers.untouched_of_held h.held h.untouched,
    mem_append_left _ h.held⟩

variable {op : OperationRow} {intents : List IntentRow}

/-- The rest of a call that is ahead, once it has added these rows. -/
def SafeAhead (refusable : Prop) (db₀ : DB) (call : IntentCall key) (plans : List PlanRow)
    (op : OperationRow) (intents : List IntentRow) (next : IntentTx) : Prop :=
  ∀ writes held db, Ahead key db₀ db held → Adds plans [op] intents writes →
    SafeTx refusable db₀ call next writes held db

theorem safe_insertAll {next : IntentTx} (rows : List NewRow)
    (hnext : SafeAhead refusable db₀ call plans op (intents ++ rows.flatMap NewRow.intents) next) :
    SafeAhead refusable db₀ call plans op intents (insertAll next rows) := by
  induction rows generalizing intents with
  | nil => simpa [insertAll] using hnext
  | cons row _ ih =>
    intro writes held db hahead hadds
    refine safe_call fun db' hothers view hview haccepting x hx => ?_
    rcases hinsert : row.insert? view with _ | inserted
    · obtain rfl : x = reads false := hx.symm.trans (inserts_of_none hinsert)
      have hrefused := haccepting (by simp [refuses, hinsert])
      cases row <;> exact safe_rollback fun _ _ => hrefused
    · obtain rfl : x = ⟨true, row.insert?, []⟩ := hx.symm.trans (inserts_of_some hinsert)
      refine @ih (intents ++ row.intents) ?_ _ _ db' (hahead.others hothers []) ?_
      · simpa using hnext
      · simpa using hadds.bind row.adds_insert?

theorem safe_aside {stmt : IntentStmt} {next : stmt.Answer → IntentTx} {answer : stmt.Answer}
    {aside : DB → Option DB} (hexec : ∀ view, stmt.exec view = ⟨answer, aside, []⟩)
    (haside : Adds [] [] [] aside)
    (hnext : SafeAhead refusable db₀ call plans op intents (next answer)) :
    SafeAhead refusable db₀ call plans op intents (.call stmt next) := by
  intro writes held db hahead hadds
  refine safe_call fun db' hothers view hview haccepting x hx => ?_
  obtain rfl : x = ⟨answer, aside, []⟩ := by
    rw [← hx]
    exact hexec view
  refine hnext _ _ _ (hahead.others hothers []) ?_
  simpa using hadds.bind haside

theorem safe_first_commit {receipt : IntentReceipt} (hplans : plans.length ≤ 1)
    (hop : op.tenantId = key.tenantId ∧ op.idempotencyKey = key.lookupKey ∧ op.id = c.operationId)
    (hkeyed : c.tenantId = key.tenantId ∧ c.intentKind = key.kind ∧ c.commitmentAction = key.action
      ∧ c.idempotencyKey = key.idempotencyKey)
    (hdigest : c.semanticDigest = call.cmd.intentDigest)
    (hreceipt : receipt.intentId = c.id ∧ receipt.operationId = c.operationId
      ∧ receipt.planId = c.executionPlanId) :
    SafeAhead refusable db₀ call plans op [c] (.done (.commit (.ok (receipt, true)))) := by
  intro writes held db hahead hadds
  refine safe_commit fun db' hothers db'' hwrites => ?_
  have hahead' := hahead.others hothers []
  obtain ⟨hp, ho, hi⟩ := hadds db' db'' hwrites
  have hu := hahead'.untouched
  have hwon : Won key db₀ db'' c := by
    refine ⟨hahead.noOperation, hahead.noCommitment, ⟨op, ?_, hop⟩, ⟨plans, ?_, hplans⟩, ?_, hkeyed⟩
    · rw [ho, hu.operations]
    · rw [hp, hu.plans]
    · rw [hi, hu.intents]
  refine ⟨fun other hdisjoint => ⟨?_, ?_, ?_, ?_⟩, c, hwon.commitment, hdigest, hreceipt⟩
  · intro c' hc'
    rw [commitment_congr hu.intents, hahead.noCommitment] at hc'
    simp at hc'
  · intro row hrow
    rw [hp]
    exact mem_append_left _ hrow
  · intro c' hwon'
    exact absurd hu hwon'.not_untouched
  · exact fun _ => .inr ⟨fun hother => hdisjoint hother hahead.held, c, hwon⟩

theorem IntentCall.lookupKey_eq (call : IntentCall key) : call.cmd.lookupKey = key.lookupKey := by
  simp [IntentSubmitCommand.lookupKey, IntentKey.lookupKey, call.tenantId, call.kind, call.action,
    call.idempotencyKey]

variable {now : Int} {planId : String}

theorem safe_persist (hplans : plans.length ≤ 1) :
    SafeAhead refusable db₀ call plans (call.operationRow sha now planId) []
      (call.persist sha now planId) := by
  have hsteps : (call.stepRows.map NewRow.step).flatMap NewRow.intents = [] := by
    simp [NewRow.intents]
  have hrows : (NewRow.runtimeIntent (call.intentRow now planId)
      :: (call.events sha now planId).map (.outboxEvent now)).flatMap NewRow.intents
      = [call.intentRow now planId] := by
    simp [NewRow.intents]
  refine safe_insertAll _ ?_
  rw [hsteps, append_nil]
  refine safe_aside (fun _ => rfl) (by rintro db db' ⟨⟩; simp) ?_
  refine safe_aside (fun _ => rfl) (by rintro db db' ⟨⟩; simp) ?_
  refine safe_aside (fun _ => rfl) (by rintro db db' ⟨⟩; simp) (safe_insertAll _ ?_)
  rw [hrows, nil_append]
  refine safe_first_commit hplans ⟨?_, ?_, rfl⟩ ⟨?_, ?_, ?_, ?_⟩ rfl ⟨rfl, rfl, rfl⟩
  · exact call.tenantId
  · exact call.lookupKey_eq
  · exact call.tenantId
  · exact call.kind
  · exact call.action
  · exact call.idempotencyKey

section Uncommitted

variable (hdb : OpenOrWon key db₀ db) (hnone : db₀.commitment key = none)
include hdb hnone

/-- Somebody else's operation is there: so is the commitment, unless the operation was there from
    the start. -/
theorem safe_replay (hop : db.getByIdempotencyKey key.tenantId key.lookupKey ≠ none)
    (hadds : Adds plans [] [] writes) : SafeTx refusable db₀ call call.replay writes held db := by
  refine safe_call fun db' hothers view hview _ x hx => ?_
  have hview' : view.commitment key = db'.commitment key :=
    commitment_congr (by simpa using (hadds db' view hview).2.2)
  obtain rfl : x = reads (db'.commitment key) := by
    rw [← hx, ← hview']
    rfl
  rcases hdb with hu | ⟨c, hwon⟩
  · have hforeign : db₀.getByIdempotencyKey key.tenantId key.lookupKey ≠ none := by
      rwa [getByIdempotencyKey_congr hu.operations] at hop
    have hu' : Untouched db₀ db' := by
      rcases hothers.untouched hu with hu' | ⟨-, c, hwon⟩
      · exact hu'
      · exact absurd hwon.noOperation hforeign
    rw [commitment_congr hu'.intents, hnone]
    exact safe_rollback fun _ _ => ⟨hforeign, hnone⟩
  · have hc : db'.commitment key = some c := (hothers.won c hwon).commitment
    rw [hc]
    exact safe_replayIntent hc

theorem safe_insertOperation (hadds : Adds plans [] [] writes) (hplans : plans.length ≤ 1) :
    SafeTx refusable db₀ call (call.insertOperation sha now planId) writes held db := by
  refine safe_call fun db' hothers view hview haccepting x hx => ?_
  have hdb' := hothers.openOrWon hdb
  have hoperations : view.operations.rows = db'.operations.rows := by
    simpa using (hadds db' view hview).2.1
  have htenant : (call.operationRow sha now planId).tenantId = key.tenantId := call.tenantId
  have hkey : (call.operationRow sha now planId).idempotencyKey = key.lookupKey := call.lookupKey_eq
  have hfound : view.getByIdempotencyKey key.tenantId key.lookupKey
      = db'.getByIdempotencyKey key.tenantId key.lookupKey := getByIdempotencyKey_congr hoperations
  simp only [intentDatabase, exec, htenant, hkey, hfound] at hx
  rcases hget : db'.getByIdempotencyKey key.tenantId key.lookupKey with _ | existing
  · rw [hget] at hx
    rcases hinsert : insertOperation? (call.operationRow sha now planId) view with _ | view'
    · obtain rfl := hx.symm.trans (inserts_of_none hinsert)
      refine safe_rollback fun _ _ => haccepting ?_
      simp [refuses, htenant, hkey, hfound, hget, hinsert]
    obtain rfl := hx.symm.trans (inserts_of_some hinsert)
    have hu : Untouched db₀ db' := by
      rcases hdb' with hu | ⟨c, hwon⟩
      · exact hu
      · exact absurd hget hwon.operation
    refine safe_persist hplans _ _ _ ⟨?_, hnone, hu, by simp⟩
      (by simpa using hadds.bind (adds_insertOperation? (call.operationRow sha now planId)))
    rwa [getByIdempotencyKey_congr hu.operations] at hget
  · rw [hget] at hx
    obtain rfl : x = reads conflict := hx.symm
    exact safe_replay hdb' hnone (by simp [hget]) (hadds.reads conflict)

theorem safe_persistPlan :
    SafeTx refusable db₀ call (call.persistPlan sha now) some held db := by
  refine safe_call fun db' hothers view hview haccepting x hx => ?_
  obtain rfl : db' = view := by simpa using hview
  have hdb' := hothers.openOrWon hdb
  simp only [intentDatabase, exec] at hx
  rcases hget : db'.planOf (call.planRow sha).tenantId (call.planRow sha).planDigest with _ | plan
  · rw [hget] at hx
    rcases hinsert : insertPlan? (call.planRow sha) db' with _ | db''
    · obtain rfl := hx.symm.trans (inserts_of_none hinsert)
      refine safe_rollback fun _ _ => haccepting ?_
      simp [refuses, hget, hinsert]
    · obtain rfl := hx.symm.trans (inserts_of_some hinsert)
      exact safe_insertOperation hdb' hnone
        (adds_some.bind (adds_insertPlan? (call.planRow sha))) (Nat.le_refl 1)
  rw [hget] at hx
  obtain rfl : x = reads conflict := hx.symm
  refine safe_reads (fun _ => rfl) hdb' fun db'' hdb'' hothers' _ => ?_
  -- Plans are never deleted, so the plan of the conflict is still there.
  obtain ⟨plan', hplan'⟩ : ∃ plan', db''.planOf call.cmd.tenantId (call.planDigest sha)
      = some plan' := by
    unfold DB.planOf at hget ⊢
    have hplan := find?_some hget
    rw [← isSome_iff_exists, find?_isSome]
    exact ⟨plan, hothers'.plans plan (mem_of_find?_eq_some hget), hplan⟩
  rw [hplan']
  exact safe_insertOperation hdb'' hnone adds_some (Nat.zero_le 1)

end Uncommitted

theorem safe_submitIntent (hdb : OpenOrWon key db₀ db) :
    SafeTx refusable db₀ call (call.submitIntent sha) some [] db := by
  refine safe_reads (fun _ => rfl) hdb fun db₁ hdb₁ _ _ => ?_
  refine safe_reads (fun _ => rfl) hdb₁ fun db₂ hdb₂ _ _ => ?_
  rcases hc : db₂.commitment key with _ | c
  · -- Nobody has committed, and there was no commitment at the start.
    have hnone : db₀.commitment key = none := by
      rcases hdb₂ with hu | ⟨c, hwon⟩
      · rwa [commitment_congr hu.intents] at hc
      · exact hwon.noCommitment
    refine safe_reads (fun _ => rfl) hdb₂ fun db₃ hdb₃ _ haccepting => ?_
    rcases htarget : db₃.recheckTarget call.cmd with err | _
    · have hrefused := haccepting (by simp [refuses, htarget, Except.isOk, Except.toBool])
      rcases recheckTarget_error htarget with rfl | rfl <;>
        exact safe_rollback fun _ _ => hrefused
    refine safe_reads (fun _ => rfl) hdb₃ fun db₄ hdb₄ _ haccepting => ?_
    rcases hstorage : db₄.recheckStorageReconcile call.cmd with err | _
    · have hrefused := haccepting (by simp [refuses, hstorage, Except.isOk, Except.toBool])
      rcases recheckStorageReconcile_error hstorage with rfl | rfl <;>
        exact safe_rollback fun _ _ => hrefused
    exact safe_persistPlan hdb₄ hnone
  · exact safe_replayIntent hc

/-! ## The race -/

theorem ends_commit_insertAll {next : IntentTx} {a : IntentResult} {rows : List NewRow}
    (h : (insertAll next rows).Ends (.commit a)) : next.Ends (.commit a) := by
  induction rows with
  | nil => exact h
  | cons _ _ ih =>
    obtain ⟨outcome, h⟩ := h.of_call
    match outcome with
    | true => exact ih h
    | false => simp [leave] at h

theorem ends_commit_submitIntent {a : IntentResult}
    (h : (call.submitIntent sha).Ends (.commit a)) : ∃ receipt, a = .ok (receipt, true) := by
  have hoperation : ∀ now planId, (call.insertOperation sha now planId).Ends (.commit a) →
      ∃ receipt, a = .ok (receipt, true) := by
    intro now planId h
    obtain ⟨outcome, h⟩ := h.of_call
    cases outcome with
    | failed => simp [leave] at h
    | conflict =>
      obtain ⟨commitment, h⟩ := h.of_call
      cases commitment with
      | none => simp [leave] at h
      | some row => simp at h
    | inserted =>
      obtain ⟨-, h⟩ := (ends_commit_insertAll h).of_call
      obtain ⟨-, h⟩ := h.of_call
      obtain ⟨-, h⟩ := h.of_call
      have hend := ends_commit_insertAll h
      simp only [ends_done, Verdict.commit.injEq] at hend
      exact ⟨_, hend⟩
  obtain ⟨now, h⟩ := h.of_call
  obtain ⟨commitment, h⟩ := h.of_call
  cases commitment with
  | some row => simp at h
  | none =>
  obtain ⟨checked, h⟩ := h.of_call
  cases checked with
  | error err => simp [leave] at h
  | ok =>
  obtain ⟨checked, h⟩ := h.of_call
  cases checked with
  | error err => simp [leave] at h
  | ok =>
  obtain ⟨outcome, h⟩ := h.of_call
  cases outcome with
  | failed => simp [leave] at h
  | inserted => exact hoperation _ _ h
  | conflict =>
    obtain ⟨planId, h⟩ := h.of_call
    cases planId with
    | none => simp [leave] at h
    | some planId => exact hoperation _ _ h

end Race

theorem sound_intentRace (refusable : Prop) (sha : Sha256) (key : IntentKey) (db : DB)
    (turns : List (Turn (IntentCall key) IntentSurroundings))
    (haccepting : ∀ entry ∈ (intentRace sha key).trace ⟨db, []⟩ turns,
      Meets intentDatabase (Accepting refusable) entry.pre entry.call) :
    Sound intentDatabase (Others key db) (Accepting refusable) (OpenOrWon key db)
      (Answers refusable key db) ((intentRace sha key).run ⟨db, []⟩ turns) := by
  refine sessions_run (rely_others refusable key db) (fun call db' h => safe_submitIntent h) ?_
    (.inl ⟨rfl, rfl, rfl⟩) haccepting
  intro db' change held _
  refine ⟨fun _ h => h, fun _ h => h, fun c hwon => ?_, fun hu => .inl ?_⟩
  · exact ⟨hwon.noOperation, hwon.noCommitment, hwon.operations, hwon.plans, hwon.intents,
      hwon.keyed⟩
  · exact ⟨hu.operations, hu.plans, hu.intents⟩

theorem returned_none (result : IntentResult) : returned none result = result := by
  unfold returned
  split <;> rfl

/-- The call has the answer that this commitment calls for: its ids for the same digest, a conflict
    for another. -/
def AnswersWith (key : IntentKey) (c : IntentRow) (call : IntentCall key) (result : IntentResult) :
    Prop :=
  (call.cmd.intentDigest = c.semanticDigest → ∃ receipt created, result = .ok (receipt, created)
    ∧ receipt.intentId = c.id ∧ receipt.operationId = c.operationId
    ∧ receipt.planId = c.executionPlanId)
  ∧ (call.cmd.intentDigest ≠ c.semanticDigest →
    result = .error (.idempotencyConflict key.lookupKey))

/-- **One intent, one operation.** Any number of calls with one key, in any interleaving of their
    statements, with crashes anywhere and with whatever happens to targets and bindings meanwhile:
    at most one operation, one plan and one commitment are added. If no answer is lost after a
    commit, only a turn whose call returns that it created the operation changes anything; and if
    also no call is refused on its own account, every call returns what the commitment calls for. -/
theorem one_operation_per_intent (sha : Sha256) (key : IntentKey) (db : DB)
    (turns : List (Turn (IntentCall key) IntentSurroundings)) (lost : Nat → Option StoreError) :
    let final := (intentRace sha key).run ⟨db, []⟩ turns
    (∃ operations plans intents, final.committed.operations.rows = db.operations.rows ++ operations
      ∧ final.committed.plans.rows = db.plans.rows ++ plans
      ∧ final.committed.intents.rows = db.intents.rows ++ intents
      ∧ operations.length ≤ 1 ∧ plans.length ≤ 1 ∧ intents.length ≤ 1)
    ∧ (∀ entry ∈ (intentRace sha key).trace ⟨db, []⟩ turns,
      entry.post.committed = entry.pre.committed
      ∨ (∃ change, entry.call = .outside change)
      ∨ ∃ (i : Nat) (call : IntentCall key) (result : IntentResult), entry.call = .advance i
        ∧ entry.post.calls[i]? = some (.answered call result)
        ∧ (lost i = none → ∃ receipt, returned (lost i) result = .ok (receipt, true)))
    ∧ ((∀ entry ∈ (intentRace sha key).trace ⟨db, []⟩ turns,
        Meets intentDatabase (fun view stmt => stmt.refuses view = false) entry.pre entry.call) →
      ∀ c, final.committed.commitment key = some c →
      ∀ (i : Nat) call result, final.calls[i]? = some (.answered call result) → lost i = none →
        AnswersWith key c call (returned (lost i) result)) := by
  intro final
  refine ⟨?_, ?_, ?_⟩
  · have hsound := sound_intentRace True sha key db turns fun entry _ i _ view stmt _ _ => trivial
    rcases hsound.committed with hu | ⟨c, hwon⟩
    · exact ⟨[], [], [], by simp [hu.operations, final], by simp [hu.plans, final],
        by simp [hu.intents, final], by simp, by simp, by simp⟩
    · obtain ⟨op, hop, -⟩ := hwon.operations
      obtain ⟨plans, hplans, hlength⟩ := hwon.plans
      exact ⟨[op], plans, [c], hop, hplans, hwon.intents, by simp, hlength, by simp⟩
  · refine (intentRace sha key).trace_forall (P := OnTheWay (IntentCall.submitIntent sha))
      (fun s turn h => onTheWay_next _ _ _ turn h) ?_ (by simp [OnTheWay]) turns
    intro s turn h
    rcases committed_next intentDatabase (IntentCall.submitIntent sha) DB.surround turn h with
      hsame | houtside | ⟨i, call, a, hturn, hends, hanswered⟩
    · exact .inl hsame
    · exact .inr (.inl houtside)
    · obtain ⟨receipt, rfl⟩ := ends_commit_submitIntent hends
      refine .inr (.inr ⟨i, call, _, hturn, hanswered, fun hlost => ⟨receipt, ?_⟩⟩)
      rw [hlost]
      rfl
  intro hmeets c hc i call result hanswered hlost
  rw [hlost, returned_none]
  have hsound := sound_intentRace False sha key db turns fun entry hentry i hi view stmt hstmt =>
    fun hrefuses => by simp [hmeets entry hentry i hi view stmt hstmt] at hrefuses
  have hanswer := hsound.answered i call result hanswered
  have hsame : ∀ c', final.committed.commitment key = some c' → c' = c := by
    intro c' hc'
    rw [hc] at hc'
    exact (Option.some.inj hc').symm
  match result, hanswer with
  | .ok (receipt, created), ⟨c', hc', hdigest, hids⟩ =>
    obtain rfl := hsame c' hc'
    exact ⟨fun _ => ⟨receipt, created, rfl, hids⟩, fun hne => absurd hdigest.symm hne⟩
  | .error err, hanswer =>
    cases err with
    | idempotencyConflict =>
      obtain ⟨rfl, c', hc', hne⟩ := hanswer
      obtain rfl := hsame c' hc'
      exact ⟨fun heq => absurd heq.symm hne, fun _ => by rw [call.lookupKey_eq]⟩
    | notFound =>
      -- An operation that was there from the start keeps every call from committing.
      obtain ⟨hforeign, hnone⟩ := hanswer
      rcases hsound.committed with hu | ⟨c', hwon⟩
      · have hsame : final.committed.commitment key = db.commitment key :=
          commitment_congr hu.intents
        rw [hnone, hc] at hsame
        simp at hsame
      · exact absurd hwon.noOperation hforeign
    | _ => exact absurd hanswer id

/-! ## Two upgrades of a target -/

/-- The statement of this turn is not refused. -/
def unrefused {key : IntentKey}
    (s : State DB IntentLock IntentStmt IntentStmt.Answer IntentResult (IntentCall key)) :
    Turn (IntentCall key) IntentSurroundings → Bool
  | .advance i => ((s.executing intentDatabase i).map fun x => !x.2.refuses x.1).getD true
  | _ => true

def upgradeKey : IntentKey := ⟨"t1", .upgradeRuntimeTarget, "update", "k1"⟩

/-- The upgrade of a target at version 3, with the ids a call of it draws. -/
def upgradeCall (n : String) : IntentCall upgradeKey where
  cmd :=
    { kind := .upgradeRuntimeTarget, idempotencyKey := "k1", intentDigest := "d1",
      targetKind := "KubernetesTarget",
      storage := ⟨"", 0, "", 0, "", "", "", ""⟩, planSemanticDigest := "p1", releaseRef := "",
      steps := [⟨"runtime_target.kubernetes.upgrade", "runtime_target.kubernetes.upgrade", "",
        "", "", [], .obj [], none, 300⟩],
      tenantId := "t1", subjectId := "alice", correlationId := "c1", initiatedBy := "alice",
      runtimeTargetId := "target1", expectedTargetVersion := 3, stalePolicy := none,
      commitmentAction := "update", provisionTarget := none }
  ids :=
    { plan := "p" ++ n, operation := "op" ++ n, intent := "i" ++ n, correlation := "",
      step := fun _ => "s" ++ n, message := fun _ => "m" ++ n }
  tenantId := rfl
  kind := rfl
  action := rfl
  idempotencyKey := rfl

def targetAt (version : Int) : Table RuntimeTargetRow String RuntimeTargetRow.id :=
  ⟨[⟨"target1", "t1", true, version, [], "ACTIVE"⟩], by simp⟩

/-- A database with the target at version 3. -/
def upgradeable : DB := { DB.empty 0 with targets := targetAt 3 }

/-- The second call comes when the first has committed. -/
def upgradeTwice : List (Turn (IntentCall upgradeKey) IntentSurroundings) :=
  [.start (upgradeCall "1"), .start (upgradeCall "2")] ++ replicate 13 (.advance 0)
    ++ replicate 3 (.advance 1)

/-- The second call returns the first one's ids. -/
theorem one_operation_per_intent_of_upgrade :
    let final := (intentRace ⟨id, fun _ => ""⟩ upgradeKey).run ⟨upgradeable, []⟩ upgradeTwice
    ∃ c, final.committed.commitment upgradeKey = some c ∧ c.operationId = "op1"
      ∧ ∃ result, final.calls[1]? = some (.answered (upgradeCall "2") result)
        ∧ AnswersWith upgradeKey c (upgradeCall "2") (returned none result) := by
  refine ⟨_, rfl, rfl, _, rfl, ?_⟩
  have hall : ((intentRace ⟨id, fun _ => ""⟩ upgradeKey).trace ⟨upgradeable, []⟩ upgradeTwice).all
      (fun entry => unrefused entry.pre entry.call) = true := by decide +kernel
  refine (one_operation_per_intent ⟨id, fun _ => ""⟩ upgradeKey upgradeable upgradeTwice
    fun _ => none).2.2 (fun entry hentry i hi view stmt hexecuting => ?_) _ rfl 1 _ _ rfl rfl
  simpa [unrefused, hi, hexecuting] using all_eq_true.1 hall entry hentry

/-- The second call has looked for the commitment before the first one's commit and checks the
    target after it. The target is at another version by then, and the second call leaves with
    that, although the commitment for its digest is there. The first call returns an error too, if
    the answer of its commit is lost. -/
theorem racing_upgrade_refused :
    let turns := [.start (upgradeCall "1"), .start (upgradeCall "2"), .advance 1, .advance 1]
      ++ replicate 13 (.advance 0) ++ [.outside ⟨1, targetAt 4, .empty⟩]
      ++ replicate 2 (.advance 1)
    let final := (intentRace ⟨id, fun _ => ""⟩ upgradeKey).run ⟨upgradeable, []⟩ turns
    ∃ c, final.committed.commitment upgradeKey = some c
      ∧ (upgradeCall "2").cmd.intentDigest = c.semanticDigest
      ∧ final.calls[1]? = some (.answered (upgradeCall "2") (.error .targetVersionConflict))
      ∧ ∃ result, final.calls[0]? = some (.answered (upgradeCall "1") result)
        ∧ returned (some (.database "commit intent transaction")) result
          = .error (.database "commit intent transaction") := by
  exact ⟨_, rfl, rfl, rfl, _, rfl, rfl⟩

end HnbCloud.Operation
