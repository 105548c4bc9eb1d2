import HnbCloud.Engine.Submission
import HnbCloud.Operation.Dispatch
import HnbCloud.Operation.Worker

set_option autoImplicit false

/-! # Commands and the worker that reads them

A step's command is written by platform-api (`SubmitOperation`, `SubmitIntent`, `ApproveOperation`)
and read by operation-worker, which terminates a message that `validateStepRequest` refuses. The two
services have their own rules. Here the commands are followed from the request to the reader: what
the handlers of platform-api accept, what the store writes, and what `decodeCommand` makes of it.

Every part of a command is as the reader wants it (`CommandInv`), save for the length of the key:
`ParseRuntimeIntent` bounds the key of the user, and `SubmitIntent` writes a longer one. -/

namespace HnbCloud.Operation

open Messaging Engine List Table Json OutboxEvent Call

variable {cmd : SubmitCommand} {ids : FreshIds} {planId planDigest : String} {op : OperationRow}

/-! ## A command and its reader -/

section Command

variable {op : OperationRow} {step : StepRow} {now : Int} {actorId messageId : String}
  {extra : List (String × Json)}

/-- What a submission may add to the payload of a command. -/
def ExtraFields (extra : List (String × Json)) : Prop :=
  extra = [] ∨ ∃ correlationId, extra = [("correlationId", .str correlationId)]

/-- The request that a worker finds in the command of a step. -/
def StepRow.request (step : StepRow) (operationId : String) : StepRequest where
  operationId := operationId
  stepId := step.id
  stepType := step.stepType
  idempotencyKey := step.idempotencyKey
  expectedVersion := step.version
  executionContext := ""

def commandFields (op : OperationRow) (step : StepRow) (extra : List (String × Json)) :
    List (String × Json) :=
  extra ++ [("expectedVersion", .num step.version), ("idempotencyKey", .str step.idempotencyKey),
    ("operationId", .str op.id), ("stepId", .str step.id), ("stepType", .str step.stepType)]

theorem unmarshal_payload (hversion : step.version < 2 ^ 63) (hextra : ExtraFields extra) :
    StepRequest.unmarshal (some (stepRequestedEvent now op step actorId messageId extra).payload)
      = some (step.request op.id) := by
  -- The context is not written, so it is a field left out.
  let fields := ("executionContext", none)
    :: (commandFields op step extra).map fun field => (field.1, some field.2)
  have hfields : (stepRequestedEvent now op step actorId messageId extra).payload.fields?
      = some (present fields) := congrArg some (present_map_some _).symm
  have hnames : (fields.map fun field => folded field.1).Nodup := by
    rcases hextra with rfl | ⟨correlationId, rfl⟩
    · simp only [fields, commandFields, nil_append, map_cons, map_nil]
      decide
    · simp only [fields, commandFields, cons_append, nil_append, map_cons, map_nil]
      decide
  have hmem : ∀ {name value}, (name, value) ∈ commandFields op step extra →
      (name, some value) ∈ fields := fun h => mem_cons_of_mem _ (mem_map.2 ⟨_, h, rfl⟩)
  have htext := bind_text hnames
  rw [StepRequest.unmarshal, Option.bind_eq_bind, Option.bind_some, hfields, Option.bind_eq_bind,
    Option.bind_some, htext "operationId" op.id (hmem (by simp [commandFields])),
    htext "stepId" step.id (hmem (by simp [commandFields])),
    htext "stepType" step.stepType (hmem (by simp [commandFields])),
    htext "idempotencyKey" step.idempotencyKey (hmem (by simp [commandFields])),
    bind_int hnames "expectedVersion" step.version (hmem (by simp [commandFields]))
      (by constructor <;> omega),
    bind_text_omitted hnames "executionContext" "" (by simp [fields])]
  rfl

/-- The parts of a command that its reader checks, apart from the length of the key. -/
structure WellFormed (op : OperationRow) (step : StepRow) (messageId : String) (now : Int) :
    Prop where
  messageId : isUuid messageId = true
  correlationId : isUuid op.correlationId = true
  operationId : isUuid op.id = true
  stepId : isUuid step.id = true
  tenantId : op.tenantId ≠ ""
  stepType : step.stepType ≠ ""
  idempotencyKey : step.idempotencyKey ≠ ""
  occurredAt : now ≠ zeroTime
  version : step.version < 2 ^ 63

/-- A well formed command is taken exactly if its key is not too long. -/
theorem decodeCommand_iff (h : WellFormed op step messageId now) (hextra : ExtraFields extra) :
    (∃ command, decodeCommand
        (stepRequestedEvent now op step actorId messageId extra).message.data = .ok command)
      ↔ step.idempotencyKey.utf8ByteSize ≤ 128 := by
  have hrange : (stepRequestedEvent now op step actorId messageId extra).envelope.InRange := by
    have hversion := h.version
    refine ⟨by simp [stepRequestedEvent, envelope], ?_⟩
    simp only [stepRequestedEvent, envelope, Option.getD_some]
    constructor <;> omega
  simp only [decodeCommand, message]
  rw [Envelope.unmarshal_marshal _ hrange rfl]
  simp only
  have hpayload : (stepRequestedEvent now op step actorId messageId extra).envelope.payload
      = some (stepRequestedEvent now op step actorId messageId extra).payload := rfl
  rw [hpayload, unmarshal_payload h.version hextra]
  have hvalid : validateStepRequest
      (stepRequestedEvent now op step actorId messageId extra).envelope (step.request op.id)
      = if 128 < step.idempotencyKey.utf8ByteSize then
          some "idempotencyKey exceeds 128 characters" else none := by
    have hnonneg : ¬ (step.version : Int) < 0 := by omega
    simp [validateStepRequest, stepRequestedEvent, envelope, StepRow.request,
      schemaVersion, hnonneg, h.messageId, h.correlationId, h.operationId, h.stepId, h.tenantId,
      h.stepType, h.idempotencyKey, h.occurredAt]
  simp only [hvalid]
  by_cases hlong : 128 < step.idempotencyKey.utf8ByteSize
  · simp [hlong]
  · simp [hlong]
    omega

end Command

/-! ## The calls of platform-api -/

/-- The ids that a transaction draws are UUIDs. -/
structure FreshIds.Uuids (ids : FreshIds) : Prop where
  operation : isUuid ids.operation = true
  correlation : isUuid ids.correlation = true
  step : ∀ n, isUuid (ids.step n) = true
  message : ∀ n, isUuid (ids.message n) = true

/-- The three calls that write commands of steps. -/
def Call.writesCommands : Call → Bool
  | submitOperation .. | submitIntent .. | approveOperation .. => true
  | _ => false

/-- What reaches the engine: the requests of callers, and whatever else happens. Each intent meets
    the planner and the stale policy as they are by then. -/
inductive PlatformCall where
  | submitOperation (caller : Caller) (request : SubmitOperationRequest) (ids : FreshIds)
      (drawn : ids.Uuids)
  | submitIntent (p : Planner) (config : StaleConfig) (request : IntentRequest) (ids : FreshIds)
      (drawn : ids.Uuids)
  | submitBatch (p : Planner) (request : BatchRequest) (target : ResolvedTarget) (ids : FreshIds)
      (drawn : ids.Uuids)
  | approveOperation (id tenantId actorId reason : String) (ids : FreshIds) (drawn : ids.Uuids)
  | other (call : Call) (isOther : call.writesCommands = false)

/-- `handleSubmitOperation`, up to its call of `SubmitOperation`. -/
def submitOperationCommand (caller : Caller) (request : SubmitOperationRequest) :
    Except Refusal SubmitCommand :=
  match toSubmitCommand { request with
      tenantId := caller.tenantId
      initiatedBy := caller.subjectId
      correlationId := caller.correlationId } with
  | .error err => .error (.request err)
  | .ok cmd => .ok cmd

/-- The call on the store, unless the handler refuses. -/
def PlatformCall.call? : PlatformCall → Except Refusal Call
  | submitOperation caller request ids _ =>
    (submitOperationCommand caller request).map fun cmd => .submitOperation cmd ids
  | submitIntent p config request ids _ =>
    (request.command p config).map fun cmd => .submitIntent cmd ids
  | submitBatch p request target ids _ =>
    (request.command p target).map fun cmd => .submitIntent cmd ids
  | approveOperation id tenantId actorId reason ids _ =>
    .ok (.approveOperation id tenantId actorId reason ids)
  | other call _ => .ok call

/-- A call and the fate of its transaction. -/
structure PlatformRequest where
  call : PlatformCall
  fate : Fate

/-- Why a call has no answer. -/
inductive PlatformError where
  | refused (refusal : Refusal)
  | store (err : StoreError)

/-- platform-api over the engine, with the workers beside it. -/
def platform (sha : Sha256) : Machine DB PlatformRequest (Except PlatformError Answer) where
  step db request :=
    match request.call.call? with
    | .error refusal => (db, .error (.refused refusal))
    | .ok call =>
      let (db', answer) := Request.run sha db ⟨call, request.fate⟩
      (db', answer.mapError .store)

/-- A call as platform-api makes it. -/
structure Call.Formed (call : Call) : Prop where
  submitted : ∀ cmd ids, call = .submitOperation cmd ids → cmd.Valid ∧ ids.Uuids
  intended : ∀ cmd ids, call = .submitIntent cmd ids → Engine.Formed cmd ∧ ids.Uuids
  approved : ∀ id tenantId actorId reason ids,
    call = .approveOperation id tenantId actorId reason ids → ids.Uuids

theorem submitOperationCommand_valid {caller : Caller} {request : SubmitOperationRequest}
    (h : submitOperationCommand caller request = .ok cmd) : cmd.Valid := by
  unfold submitOperationCommand at h
  split at h
  · simp at h
  next cmd' hcmd' =>
  simp only [Except.ok.injEq] at h
  exact h ▸ toSubmitCommand_ok hcmd'

theorem map_eq_ok {ε α β : Type} {x : Except ε α} {f : α → β} {b : β} (h : x.map f = .ok b) :
    ∃ a, x = .ok a ∧ f a = b := by
  cases x with
  | error => simp [Except.map] at h
  | ok a => exact ⟨a, rfl, by simpa [Except.map] using h⟩

theorem PlatformCall.formed {request : PlatformCall} {call : Call} (h : request.call? = .ok call) :
    call.Formed := by
  cases request with
  | submitOperation _ _ _ drawn =>
    obtain ⟨cmd, hcmd, rfl⟩ := map_eq_ok h
    refine ⟨?_, by simp, by simp⟩
    rintro cmd' ids' ⟨⟩
    exact ⟨submitOperationCommand_valid hcmd, drawn⟩
  | submitIntent _ _ _ _ drawn =>
    obtain ⟨cmd, hcmd, rfl⟩ := map_eq_ok h
    refine ⟨by simp, ?_, by simp⟩
    rintro cmd' ids' ⟨⟩
    exact ⟨IntentRequest.formed_command hcmd, drawn⟩
  | submitBatch _ _ _ _ drawn =>
    obtain ⟨cmd, hcmd, rfl⟩ := map_eq_ok h
    refine ⟨by simp, ?_, by simp⟩
    rintro cmd' ids' ⟨⟩
    exact ⟨BatchRequest.formed_command hcmd, drawn⟩
  | approveOperation _ _ _ _ _ drawn =>
    simp only [call?, Except.ok.injEq] at h
    subst h
    refine ⟨by simp, by simp, ?_⟩
    rintro _ _ _ _ _ ⟨⟩
    exact drawn
  | other _ isOther =>
    simp only [call?, Except.ok.injEq] at h
    subst h
    refine ⟨?_, ?_, ?_⟩
    · rintro cmd ids rfl
      simp [writesCommands] at isOther
    · rintro cmd ids rfl
      simp [writesCommands] at isOther
    · rintro id tenantId actorId reason ids rfl
      simp [writesCommands] at isOther

/-! ## The rows that commands are made of -/

/-- An operation whose commands are well formed. -/
structure OperationRow.Formed (op : OperationRow) : Prop where
  id : isUuid op.id = true
  tenantId : op.tenantId ≠ ""
  correlationId : isUuid op.correlationId = true

/-- A step whose command is well formed. -/
structure StepRow.Formed (step : StepRow) : Prop where
  id : isUuid step.id = true
  stepType : step.stepType ≠ ""
  idempotencyKey : step.idempotencyKey ≠ ""
  version : step.status.isActive = true → step.version = 0

/-- Every command that can be made of the rows of the database is well formed. -/
structure CommandInv (db : DB) : Prop where
  now : 0 ≤ db.now
  operation : ∀ op ∈ db.operations.rows, op.Formed
  step : ∀ step ∈ db.steps.rows, step.Formed

theorem stepIdempotencyKey_ne_empty (operationKey planStepId : String) :
    stepIdempotencyKey operationKey planStepId ≠ "" := by
  intro h
  have := (String.append_eq_empty_iff.1 (String.append_eq_empty_iff.1 h).1).2
  exact absurd this (by decide)

theorem formed_ofInput (hcmd : cmd.Valid) (hids : ids.Uuids) :
    ∀ step ∈ cmd.steps.zipIdx.map (fun x =>
      StepRow.ofInput ids.operation (ids.step x.2) cmd.idempotencyKey x.1 x.2), step.Formed := by
  intro row hrow
  obtain ⟨⟨step, index⟩, hx, rfl⟩ := mem_map.1 hrow
  have hstep := fst_mem_of_mem_zipIdx hx
  exact ⟨hids.step index, (hcmd.steps step hstep).stepType, stepIdempotencyKey_ne_empty _ _,
    fun _ => rfl⟩

theorem formed_ofPlanStep {cmd : IntentSubmitCommand} (hcmd : Engine.Formed cmd)
    (hids : ids.Uuids) :
    ∀ step ∈ cmd.steps.zipIdx.map (fun x =>
      StepRow.ofPlanStep ids.operation (ids.step x.2) cmd.lookupKey x.1), step.Formed := by
  intro row hrow
  obtain ⟨⟨step, index⟩, hx, rfl⟩ := mem_map.1 hrow
  have hstep := fst_mem_of_mem_zipIdx hx
  exact ⟨hids.step index, hcmd.stepType step hstep, stepIdempotencyKey_ne_empty _ _, fun _ => rfl⟩

theorem formed_ofCommand {db : DB} (hcmd : cmd.Valid) (hids : ids.Uuids) :
    (OperationRow.ofCommand db cmd ids planId planDigest).Formed := by
  refine ⟨hids.operation, hcmd.tenantId, ?_⟩
  simp only [OperationRow.ofCommand]
  split
  · exact hids.correlation
  · next hne => exact hcmd.correlationId.resolve_left hne

theorem formed_ofIntent {db : DB} {cmd : IntentSubmitCommand}
    {correlationId : String} (hcmd : Engine.Formed cmd) (hids : ids.Uuids) (drawn : correlationId
      = if cmd.correlationId = "" then ids.correlation else cmd.correlationId) :
    (OperationRow.ofIntent db cmd ids planId planDigest correlationId).Formed := by
  refine ⟨hids.operation, hcmd.tenantId, ?_⟩
  show isUuid correlationId = true
  rw [drawn]
  split
  · exact hids.correlation
  · exact hcmd.correlationId

section Invariant

variable {db db' : DB}

theorem CommandInv.created (hinv : CommandInv db) {steps : List StepRow}
    {extra : List (String × Json)} (h : Created db db' op steps ids extra) (hop : op.Formed)
    (hsteps : ∀ step ∈ steps, step.Formed) : CommandInv db' := by
  refine ⟨h.now ▸ hinv.now, ?_, ?_⟩
  · intro op' hop'
    rcases (mem_insert? h.operations).1 hop' with hop' | rfl
    · exact hinv.operation op' hop'
    · exact hop
  · rw [h.stepRows]
    exact forall_mem_append.2 ⟨hinv.step, hsteps⟩

theorem CommandInv.applyDecision (hinv : CommandInv db) (op : OperationRow)
    (target : OperationStatus) (approver : Option String) (eventType : AuditEventType)
    (actorId reason : String) (outbox : Outbox) :
    CommandInv (db.applyDecision op target approver eventType actorId reason outbox) := by
  refine ⟨hinv.now, ?_, hinv.step⟩
  refine forall_mem_update (OperationRow.transition db.now target approver reason)
    (fun _ => rfl) ?_ hinv.operation
  exact fun op' _ _ hop' => ⟨hop'.id, hop'.tenantId, hop'.correlationId⟩

theorem CommandInv.does (hinv : CommandInv db) {call : Call} (hcall : call.Formed)
    (h : Does db call db') : CommandInv db' := by
  cases h with
  | nothing | observed | renewed => exact ⟨hinv.now, hinv.operation, hinv.step⟩
  | ticked => exact ⟨by have := hinv.now; simp; omega, hinv.operation, hinv.step⟩
  | submitted cmd ids _ _ h =>
    obtain ⟨hcmd, hids⟩ := hcall.submitted cmd ids rfl
    exact hinv.created h (formed_ofCommand hcmd hids) (formed_ofInput hcmd hids)
  | intended cmd ids _ _ _ drawn h =>
    obtain ⟨hcmd, hids⟩ := hcall.intended cmd ids rfl
    exact hinv.created h (formed_ofIntent hcmd hids drawn) (formed_ofPlanStep hcmd hids)
  | granted _ _ _ _ _ _ _ lease _ step =>
    refine ⟨hinv.now, hinv.operation,
      forall_mem_update (StepRow.retain lease) (fun _ => rfl) ?_ hinv.step⟩
    exact fun step _ _ hstep => ⟨hstep.id, hstep.stepType, hstep.idempotencyKey, hstep.version⟩
  | retried _ _ ownerId lease _ result step stored _ fenced =>
    refine ⟨hinv.now, hinv.operation,
      forall_mem_update (StepRow.retry result) (fun _ => rfl) ?_ hinv.step⟩
    intro row hrow hid hformed
    refine ⟨hformed.id, hformed.stepType, hformed.idempotencyKey, fun _ => ?_⟩
    -- A step that is retried was active before, so it has its first version.
    have hget := (DB.stepOf_eq_some_iff.1 stored).1
    obtain rfl := db.steps.eq_of_key_eq hrow (mem_of_get? hget) (hid.trans (key_of_get? hget).symm)
    exact hformed.version ((db.fenced_iff row ownerId lease).1 fenced).1
  | committed _ c _ step =>
    refine ⟨hinv.now,
      forall_mem_update (OperationRow.recordStep c.outcome c.result) (fun _ => rfl) ?_
        hinv.operation,
      forall_mem_update (StepRow.finish c.outcome c.result) (fun _ => rfl) ?_ hinv.step⟩
    · exact fun op' _ _ hop' => ⟨hop'.id, hop'.tenantId, hop'.correlationId⟩
    refine fun step _ _ hstep => ⟨hstep.id, hstep.stepType, hstep.idempotencyKey, ?_⟩
    intro hactive
    cases houtcome : c.outcome <;>
      simp [StepRow.finish, houtcome, StepOutcome.status, StepStatus.isActive] at hactive
  | _ => exact hinv.applyDecision ..

theorem CommandInv.next (sha : Sha256) (hinv : CommandInv db) (request : PlatformRequest) :
    CommandInv ((platform sha).next db request) := by
  simp only [platform, Machine.next]
  split
  · exact hinv
  next call hcall =>
  exact hinv.does (PlatformCall.formed hcall) (Request.does sha db ⟨call, request.fate⟩)

end Invariant

/-! ## Commands and their keys -/

/-- The reader takes the command of this row. -/
def Taken (row : OutboxRow) : Prop :=
  ∃ command, decodeCommand row.event.message.data = .ok command

theorem readyStepEvents_taken_iff {now : Int} {steps : List StepRow}
    {actorId : String} {extra : List (String × Json)} (hnow : 0 ≤ now)
    (hop : op.Formed) (hsteps : ∀ step ∈ steps, step.Formed ∧ step.status.isActive = true)
    (hids : ids.Uuids) (hextra : ExtraFields extra) :
    (∀ row ∈ (readyStepEvents now op steps actorId ids extra).map (OutboxRow.new now), Taken row)
      ↔ ∀ step ∈ steps, step.dependsOn = [] → step.idempotencyKey.utf8ByteSize ≤ 128 := by
  have htaken : ∀ step ∈ steps, ∀ index,
      Taken (OutboxRow.new now (stepRequestedEvent now op step actorId (ids.message index) extra))
        ↔ step.idempotencyKey.utf8ByteSize ≤ 128 := by
    intro step hstep index
    obtain ⟨hformed, hactive⟩ := hsteps step hstep
    refine decodeCommand_iff ⟨hids.message index, hop.correlationId, hop.id, hformed.id,
      hop.tenantId, hformed.stepType, hformed.idempotencyKey, ?_, ?_⟩ hextra
    · unfold zeroTime
      omega
    · rw [hformed.version hactive]
      decide
  constructor
  · intro h step hstep hready
    obtain ⟨index, hindex⟩ := mem_iff_getElem?.1 hstep
    exact (htaken step hstep index).1 (h _ (mem_map.2 ⟨_, mem_map.2 ⟨(step, index),
      mem_filter.2 ⟨mk_mem_zipIdx_iff_getElem?.2 hindex, by simp [hready]⟩, rfl⟩, rfl⟩))
  · intro h row hrow
    obtain ⟨event, hevent, rfl⟩ := mem_map.1 hrow
    obtain ⟨⟨step, index⟩, hx, rfl⟩ := mem_map.1 hevent
    obtain ⟨hmem, hready⟩ := mem_filter.1 hx
    have hstep : step ∈ steps := fst_mem_of_mem_zipIdx hmem
    exact (htaken step hstep index).2 (h step hstep (by simpa using hready))

/-- The keys of the commands that this call writes are short enough for their reader: what it takes
    of the request, or of the database before it. -/
def Call.KeysFit (db : DB) : Call → Prop
  | submitIntent cmd _ => cmd.initialStatus = .queued → ∀ step ∈ cmd.steps, step.dependsOn = [] →
      cmd.tenantId.utf8ByteSize + cmd.kind.text.utf8ByteSize + cmd.commitmentAction.utf8ByteSize
        + cmd.idempotencyKey.utf8ByteSize + step.stepId.utf8ByteSize + 4 ≤ 128
  | approveOperation id _ _ _ _ => ∀ step ∈ db.readySteps id, step.idempotencyKey.utf8ByteSize ≤ 128
  | _ => True

instance (db : DB) (call : Call) : Decidable (call.KeysFit db) := by
  cases call <;> simp only [KeysFit] <;> infer_instance

theorem utf8ByteSize_intentKey (cmd : IntentSubmitCommand) (stepId : String) :
    (stepIdempotencyKey cmd.lookupKey stepId).utf8ByteSize
      = cmd.tenantId.utf8ByteSize + cmd.kind.text.utf8ByteSize + cmd.commitmentAction.utf8ByteSize
        + cmd.idempotencyKey.utf8ByteSize + stepId.utf8ByteSize + 4 := by
  have hcolon : ":".utf8ByteSize = 1 := by decide
  simp only [stepIdempotencyKey, IntentSubmitCommand.lookupKey, String.utf8ByteSize_append, hcolon]
  omega

section Entries

variable {db db' : DB} {call : Call}

/-- The rows that are new in an outbox to which some were appended are those. -/
theorem new_rows_iff {outbox outbox' : Outbox} {more : List OutboxRow}
    (h : outbox'.rows = outbox.rows ++ more) (P : OutboxRow → Prop) :
    (∀ row ∈ outbox'.rows, row ∉ outbox.rows → P row) ↔ ∀ row ∈ more, P row := by
  have hnodup := outbox'.nodup
  rw [h, map_append, nodup_append] at hnodup
  rw [h]
  constructor
  · intro hall row hrow
    refine hall row (mem_append_right _ hrow) fun hold => ?_
    exact hnodup.2.2 _ (mem_map_of_mem hold) _ (mem_map_of_mem hrow) rfl
  · intro hall row hrow hnew
    rcases mem_append.1 hrow with hold | hmore
    · exact absurd hold hnew
    · exact hall row hmore

theorem submitted_taken (hinv : CommandInv db) (hcmd : cmd.Valid) (hids : ids.Uuids)
    (h : Created db db' (OperationRow.ofCommand db cmd ids planId planDigest)
      (cmd.steps.zipIdx.map fun x =>
        StepRow.ofInput ids.operation (ids.step x.2) cmd.idempotencyKey x.1 x.2) ids []) :
    ∀ row ∈ db'.outbox.rows, row ∉ db.outbox.rows → Taken row := by
  rw [new_rows_iff h.outbox Taken]
  split
  · refine (readyStepEvents_taken_iff hinv.now (formed_ofCommand hcmd hids) (fun step hstep => ?_)
      hids (.inl rfl)).2 ?_
    · refine ⟨formed_ofInput hcmd hids step hstep, ?_⟩
      obtain ⟨x, _, rfl⟩ := mem_map.1 hstep
      rfl
    rintro step hstep -
    obtain ⟨⟨input, index⟩, hx, rfl⟩ := mem_map.1 hstep
    have hinput := hcmd.steps input (fst_mem_of_mem_zipIdx hx)
    simpa [StepRow.ofInput, StepInput.planStepIdAt, hinput.planStepId, maxIdempotencyKeyLength]
      using hinput.key
  · simp

theorem intended_taken_iff (hinv : CommandInv db) {cmd : IntentSubmitCommand}
    {correlationId : String} (hcmd : Engine.Formed cmd) (hids : ids.Uuids)
    (drawn : correlationId = if cmd.correlationId = "" then ids.correlation else cmd.correlationId)
    (h : Created db db' (OperationRow.ofIntent db cmd ids planId planDigest correlationId)
      (cmd.steps.zipIdx.map fun x =>
        StepRow.ofPlanStep ids.operation (ids.step x.2) cmd.lookupKey x.1) ids
      [("correlationId", .str correlationId)]) :
    (∀ row ∈ db'.outbox.rows, row ∉ db.outbox.rows → Taken row)
      ↔ (Call.submitIntent cmd ids).KeysFit db := by
  rw [new_rows_iff h.outbox Taken]
  split
  · next hqueued =>
    rw [readyStepEvents_taken_iff hinv.now (formed_ofIntent hcmd hids drawn) (fun step hstep => ?_)
      hids (.inr ⟨_, rfl⟩)]
    · constructor
      · intro hfit _ step hstep hready
        obtain ⟨index, hindex⟩ := mem_iff_getElem?.1 hstep
        rw [← utf8ByteSize_intentKey]
        exact hfit _ (mem_map.2 ⟨(step, index), mk_mem_zipIdx_iff_getElem?.2 hindex, rfl⟩) hready
      · intro hfit step hstep hready
        obtain ⟨⟨planned, index⟩, hx, rfl⟩ := mem_map.1 hstep
        have := hfit hqueued planned (fst_mem_of_mem_zipIdx hx) hready
        rwa [← utf8ByteSize_intentKey] at this
    · refine ⟨formed_ofPlanStep hcmd hids step hstep, ?_⟩
      obtain ⟨x, _, rfl⟩ := mem_map.1 hstep
      rfl
  · next hwaiting =>
    simp only [map_nil, not_mem_nil, false_imp_iff, implies_true, true_iff]
    exact fun hqueued => absurd hqueued hwaiting

theorem approved_taken_iff (hinv : CommandInv db) {id tenantId actorId reason : String}
    {outbox : Outbox} (hids : ids.Uuids)
    (h : Approved db id tenantId actorId reason ids op outbox) :
    (∀ row ∈ outbox.rows, row ∉ db.outbox.rows → Taken row)
      ↔ (Call.approveOperation id tenantId actorId reason ids).KeysFit db := by
  have hop := hinv.operation op (mem_of_get? h.stored)
  have hid : op.id = id := key_of_get? h.stored
  have hop' : (op.transition db.now .queued (some actorId) reason).Formed :=
    ⟨hop.id, hop.tenantId, hop.correlationId⟩
  have hready : ∀ step ∈ db.readySteps op.id,
      (step.Formed ∧ step.status.isActive = true) ∧ step.dependsOn = [] := by
    intro step hstep
    obtain ⟨hmem, hselected⟩ := mem_filter.1 hstep
    simp only [Bool.and_eq_true, decide_eq_true_eq, List.isEmpty_iff] at hselected
    obtain ⟨⟨_, hpending⟩, hdepends⟩ := hselected
    exact ⟨⟨hinv.step step hmem, by rw [hpending]; rfl⟩, hdepends⟩
  rw [new_rows_iff h.dispatched Taken,
    readyStepEvents_taken_iff hinv.now hop' (fun step hstep => (hready step hstep).1) hids
      (.inl rfl)]
  simp only [KeysFit, ← hid]
  exact ⟨fun hfit step hstep => hfit step hstep (hready step hstep).2,
    fun hfit step hstep _ => hfit step hstep⟩

/-- A call that writes commands and takes effect: its commands are taken exactly if their keys
    fit. -/
theorem taken_iff_of_does (hinv : CommandInv db) (hcall : call.Formed)
    (hwrites : call.writesCommands = true) (h : Does db call db')
    (hchanged : db'.operations.rows ≠ db.operations.rows) :
    (∀ row ∈ db'.outbox.rows, row ∉ db.outbox.rows → Taken row) ↔ call.KeysFit db := by
  cases h with
  | nothing => exact absurd rfl hchanged
  | ticked | observed | granted | renewed | retried => simp [writesCommands] at hwrites
  | ended _ asked => cases call <;> simp [writesCommands, isEnd] at hwrites asked
  | committed _ _ _ _ _ asked =>
    cases call <;> simp [writesCommands, commit?] at hwrites asked
  | submitted cmd ids _ _ h =>
    obtain ⟨hcmd, hids⟩ := hcall.submitted cmd ids rfl
    exact ⟨fun _ => trivial, fun _ => submitted_taken hinv hcmd hids h⟩
  | intended cmd ids _ _ _ drawn h =>
    obtain ⟨hcmd, hids⟩ := hcall.intended cmd ids rfl
    exact intended_taken_iff hinv hcmd hids drawn h
  | approved id tenantId actorId reason ids _ _ h =>
    exact approved_taken_iff hinv (hcall.approved id tenantId actorId reason ids rfl) h

end Entries

/-! ## Every accepted submission -/

/-- The commands of a submission or an approval that is accepted, in any run of the platform: the
    reader takes all of them exactly if their keys fit. -/
theorem commands_taken_iff (sha : Sha256) (now : Int) (hnow : 0 ≤ now)
    (requests : List PlatformRequest) :
    ∀ entry ∈ (platform sha).trace (DB.empty now) requests, ∀ call,
      entry.call.call.call? = .ok call → call.writesCommands = true →
      entry.post.operations.rows ≠ entry.pre.operations.rows →
      ((∀ row ∈ entry.post.outbox.rows, row ∉ entry.pre.outbox.rows →
          ∃ command, decodeCommand row.event.message.data = .ok command)
        ↔ call.KeysFit entry.pre) := by
  have hempty : CommandInv (DB.empty now) :=
    ⟨hnow, fun op hop => absurd hop (by simp [DB.empty, empty]),
      fun step hstep => absurd hstep (by simp [DB.empty, empty])⟩
  have hstep : ∀ db request, CommandInv db → CommandInv ((platform sha).next db request) :=
    fun db request h => h.next sha request
  refine (platform sha).trace_forall hstep ?_ hempty requests
  intro db request hinv call hcall hwrites hchanged
  have hnext : (platform sha).next db request = (Request.run sha db ⟨call, request.fate⟩).1 := by
    have hcall' : request.call.call? = .ok call := hcall
    simp only [platform, Machine.next, hcall']
  have hdoes : Does db call ((platform sha).next db request) :=
    hnext ▸ Request.does sha db ⟨call, request.fate⟩
  exact taken_iff_of_does hinv (PlatformCall.formed hcall) hwrites hdoes hchanged

/-- A planner for releases, without providers. -/
def releasePlanner : Planner where
  matrix := none
  providers := none
  urls := ⟨fun _ => none⟩
  hashes := ⟨⟨fun _ => "", fun _ => ""⟩, id⟩
  now := 0

/-- The ids of a submission. -/
def sampleIds : FreshIds where
  plan := "00000000-0000-4000-8000-000000000001"
  operation := "00000000-0000-4000-8000-000000000002"
  intent := "00000000-0000-4000-8000-000000000003"
  correlation := "00000000-0000-4000-8000-000000000004"
  step
    | 0 => "00000000-0000-4000-8000-000000000005"
    | 1 => "00000000-0000-4000-8000-000000000006"
    | _ => "00000000-0000-4000-8000-000000000007"
  message _ := "00000000-0000-4000-8000-000000000008"

theorem sampleIds_uuids : sampleIds.Uuids := by
  have hmessage : isUuid (sampleIds.message 0) = true := by decide
  refine ⟨by decide, by decide, ?_, fun _ => hmessage⟩
  rintro (_ | _ | n)
  · decide
  · decide
  · show isUuid "00000000-0000-4000-8000-000000000007" = true
    decide

def installRequest (key : String) : PlatformRequest where
  call := .submitIntent releasePlanner ⟨none, ⟨.deny, .deny⟩⟩
    { caller := ⟨"t1", "alice", "", "00000000-0000-4000-8000-000000000009", by decide⟩
      body := .obj [("apiVersion", .str "hnb.io/v1"), ("kind", .str "InstallRelease"),
        ("metadata", .obj [("idempotencyKey", .str key)]),
        ("spec", .obj [("releaseId", .str "release-1"), ("targetRef", .str "target-1"),
          ("scopeRef", .str "tenant:t1")])]
      resolved := none, now := 0, auditAvailable := true, admitted := true }
    sampleIds sampleIds_uuids
  fate := .answered

/-- The entry of an installation, the first request of all. -/
def installEntry (key : String) : Machine.Entry DB PlatformRequest (Except PlatformError Answer) :=
  (platform releasePlanner.hashes.sha256).entry (DB.empty 0) (installRequest key)

/-- The command of the first step of an installation with a short key. -/
theorem commands_taken_iff_of_install : ∃ call, (installEntry "k1").call.call.call? = .ok call
      ∧ (∀ row ∈ (installEntry "k1").post.outbox.rows, row ∉ (installEntry "k1").pre.outbox.rows →
          ∃ command, decodeCommand row.event.message.data = .ok command) := by
  refine ⟨_, rfl, (commands_taken_iff releasePlanner.hashes.sha256 0 (Int.le_refl 0)
    [installRequest "k1"] (installEntry "k1") (mem_singleton.2 rfl) _ rfl rfl ?_).2 ?_⟩
  · have hlength : (installEntry "k1").post.operations.rows.length = 1 := by decide +kernel
    exact fun hsame => absurd (congrArg length hsame) (by rw [hlength]; decide)
  · decide +kernel

set_option maxRecDepth 4096 in
/-- A key of 87 bytes passes the validation of the intent, and with the tenant, the kind, the action
    and the step it makes a key of 129 bytes. The installation is accepted and queued, and the worker
    terminates the command of its first step. -/
theorem long_key_terminated :
    let entry := installEntry
      "aaaaaaaaaaaaaaaaaaaaaaaaaaaaaaaaaaaaaaaaaaaaaaaaaaaaaaaaaaaaaaaaaaaaaaaaaaaaaaaaaaaaaaa"
    entry.post.operations.rows.map OperationRow.status = [.queued]
      ∧ ∃ row ∈ entry.post.outbox.rows, row ∉ entry.pre.outbox.rows
        ∧ decodeCommand row.event.message.data = .error "idempotencyKey exceeds 128 characters" := by
  refine ⟨by decide +kernel, _, mem_singleton.2 rfl, not_mem_nil, ?_⟩
  rfl

end HnbCloud.Operation
