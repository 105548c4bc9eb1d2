import Mathlib.Logic.Relation
import HnbCloud.Operation.Worker

set_option autoImplicit false

/-! # Commands in the queue

The stream of commands is a work queue: a message stays until a worker acknowledges or terminates
it, and it is delivered again after a negative acknowledgement, a crash or a timeout. This module
runs any number of handlers against one database and one stream, together with every other request
to the database, and says what is known of the command of a message that has left the queue.

Three things can be: the command is malformed; the database has settled it, and it stays settled;
or it was delivered ten times, and the failed subject has a copy. -/

namespace HnbCloud.Operation

open Messaging List Program Table Nat

/-! ## What the handlers share -/

/-- The database and the failed subject. -/
structure Shared where
  db : DB
  /-- The messages whose publish on a failed subject was acknowledged. -/
  failed : List Message

/-- What one call leaves to chance. -/
structure Nature where
  fate : Fate
  leaseId : String
  skipped : Nat
  execution : Execution
  published : Bool
  uuid : String

/-- A query, subject to its fate. -/
def Fate.read {α : Type} (reply : Except StoreError α) (fate : Fate) (db : DB) :
    Except StoreError α :=
  (fate.apply db (db, reply)).2

open Fate

variable {α : Type} {db : DB} {s : Shared}

theorem Fate.read_eq_ok {reply : Except StoreError α} {fate : Fate} {a : α}
    (h : fate.read reply db = .ok a) : reply = .ok a := by
  cases fate with
  | answered => exact h
  | _ => simp [read, apply] at h

theorem DB.getStepState_ok {operationId stepId : String} {step : StepRow}
    (h : db.getStepState operationId stepId = .ok step) : db.stepOf operationId stepId = some step := by
  simp only [DB.getStepState] at h
  split at h
  · next hstep => rw [hstep, Except.ok.inj h]
  · simp at h

/-- A transaction of a handler. -/
def Shared.transact {α : Type} (s : Shared) (fate : Fate)
    (transaction : DB × Except StoreError α) : Shared × Except StoreError α :=
  let outcome := fate.apply s.db transaction
  ({ s with db := outcome.1 }, outcome.2)

variable {transaction : DB × Except StoreError α}

theorem Shared.transact_eq_ok {fate : Fate} {a : α} (h : (s.transact fate transaction).2 = .ok a) :
    transaction.2 = .ok a := by
  cases fate with
  | answered => exact h
  | _ => simp [Shared.transact, apply] at h

/-- What the calls of a handler do. -/
def workerService : Service Shared WorkerOp WorkerOp.Reply Nature where
  perform s op n :=
    match op with
    | .getOperation id => (s, n.fate.read (s.db.getOperation id) s.db)
    | .getStepState operationId stepId =>
      (s, n.fate.read (s.db.getStepState operationId stepId) s.db)
    | .dependenciesSatisfied operationId dependsOn =>
      (s, n.fate.read (.ok (s.db.dependenciesSatisfied operationId dependsOn)) s.db)
    | .acquireLease operationId stepId ownerId expectedVersion duration =>
      s.transact n.fate (acquireLease s.db operationId stepId ownerId expectedVersion duration
        n.leaseId n.skipped)
    | .execute _ => (s, n.execution)
    | .saveStepRetry operationId stepId ownerId lease expectedVersion result =>
      s.transact n.fate (saveStepRetry s.db operationId stepId ownerId lease expectedVersion result)
    | .commitStepSuccess operationId stepId idempotencyKey ownerId lease expectedVersion result
        event =>
        s.transact n.fate (commitStepSuccess s.db operationId stepId idempotencyKey ownerId lease
          expectedVersion result event)
    | .commitStepFailure operationId stepId idempotencyKey ownerId lease expectedVersion result
        event failedEvent =>
        s.transact n.fate (commitStepFailure s.db operationId stepId idempotencyKey ownerId lease
          expectedVersion result event failedEvent)
    | .now => (s, s.db.now)
    | .newUuid => (s, n.uuid)
    | .publishFailed message =>
      if n.published then ({ s with failed := s.failed ++ [message] }, true) else (s, false)

/-- What others can do between two calls: effects on the database, and more failed messages. -/
structure Shared.Later (s s' : Shared) : Prop where
  db : Relation.ReflTransGen Effect s.db s'.db
  failed : s.failed ⊆ s'.failed

theorem Shared.Later.refl (s : Shared) : s.Later s := ⟨.refl, fun _ h => h⟩

theorem Shared.Later.trans {a b c : Shared} (h : a.Later b) (h' : b.Later c) : a.Later c :=
  ⟨h.db.trans h'.db, fun _ hm => h'.failed (h.failed hm)⟩

/-- The request to the engine that a call of a handler is, if it is a transaction. -/
def WorkerOp.request? (n : Nature) : WorkerOp → Option Request
  | acquireLease operationId stepId ownerId expectedVersion duration =>
    some ⟨.acquireLease operationId stepId ownerId expectedVersion duration n.leaseId n.skipped,
      n.fate⟩
  | saveStepRetry operationId stepId ownerId lease expectedVersion result =>
    some ⟨.saveStepRetry operationId stepId ownerId lease expectedVersion result, n.fate⟩
  | commitStepSuccess operationId stepId idempotencyKey ownerId lease expectedVersion result event =>
    some ⟨.commitStepSuccess operationId stepId idempotencyKey ownerId lease expectedVersion result
      event, n.fate⟩
  | commitStepFailure operationId stepId idempotencyKey ownerId lease expectedVersion result event
      failedEvent =>
      some ⟨.commitStepFailure operationId stepId idempotencyKey ownerId lease expectedVersion result
        event failedEvent, n.fate⟩
  | _ => none

/-- What a request leaves depends on the state its transaction leaves, not on the answer. -/
theorem Fate.apply_fst {β : Type}
    {transaction' : DB × Except StoreError β} (h : transaction.1 = transaction'.1) (fate : Fate) :
    (fate.apply db transaction).1 = (fate.apply db transaction').1 := by
  cases fate with
  | answered | replyLost => exact h
  | aborted => rfl

theorem workerService_db (sha : Sha256) (s : Shared) (op : WorkerOp) (n : Nature) :
    (workerService.perform s op n).1.db = (op.request? n).elim s.db ((engine sha).next s.db) := by
  cases op with
  | getOperation | getStepState | dependenciesSatisfied | execute | now | newUuid => rfl
  | acquireLease | saveStepRetry | commitStepSuccess | commitStepFailure =>
    refine apply_fst ?_ n.fate
    rfl
  | publishFailed =>
    simp only [workerService]
    split <;> rfl

theorem workerService_failed (s : Shared) (op : WorkerOp) (n : Nature) :
    s.failed ⊆ (workerService.perform s op n).1.failed := by
  cases op with
  | publishFailed =>
    simp only [workerService]
    split
    · exact subset_append_left _ _
    · exact List.Subset.refl _
  | _ => exact List.Subset.refl _

theorem workerService_later (s : Shared) (op : WorkerOp) (n : Nature) :
    s.Later (workerService.perform s op n).1 := by
  refine ⟨?_, workerService_failed s op n⟩
  -- The digests play no part in what a worker calls.
  rw [workerService_db ⟨fun _ => "", fun _ => ""⟩]
  cases op.request? n with
  | none => exact .refl
  | some request => exact .single (engine_effect _ s.db request)

/-! ## A settled command -/

/-- The database has nothing left to do for the command. -/
inductive Settled (db : DB) (envelope : Envelope) (request : StepRequest) : Prop where
  | terminal (op : OperationRow) (stored : db.operations.get? request.operationId = some op)
      (terminal : op.status.isTerminal = true)
  | outOfScope (op : OperationRow) (stored : db.operations.get? request.operationId = some op)
      (scope : inScope envelope op = false)
  | left (step : StepRow) (stored : db.stepOf request.operationId request.stepId = some step)
      (left : step.status.isActive = false)
  | outdated (step : StepRow) (stored : db.stepOf request.operationId request.stepId = some step)
      (differs : step.idempotencyKey ≠ request.idempotencyKey
        ∨ (step.version : Int) ≠ request.expectedVersion ∨ step.stepType ≠ request.stepType)

section Settled

variable {db db' : DB} {envelope : Envelope} {request : StepRequest}

/-- The same as a computation. -/
def isSettled (db : DB) (envelope : Envelope) (request : StepRequest) : Bool :=
  (db.operations.get? request.operationId).any
      (fun op => op.status.isTerminal || !inScope envelope op)
    || (db.stepOf request.operationId request.stepId).any (fun step => !step.status.isActive
      || decide (step.idempotencyKey ≠ request.idempotencyKey
        ∨ (step.version : Int) ≠ request.expectedVersion ∨ step.stepType ≠ request.stepType))

theorem isSettled_iff : isSettled db envelope request = true ↔ Settled db envelope request := by
  simp only [isSettled, Bool.or_eq_true, Option.any_eq_true, Bool.not_eq_true', decide_eq_true_eq]
  constructor
  · rintro (⟨op, hop, h | h⟩ | ⟨step, hstep, h | h⟩)
    · exact .terminal op hop h
    · exact .outOfScope op hop h
    · exact .left step hstep h
    · exact .outdated step hstep h
  · rintro (⟨op, hop, h⟩ | ⟨op, hop, h⟩ | ⟨step, hstep, h⟩ | ⟨step, hstep, h⟩)
    · exact .inl ⟨op, hop, .inl h⟩
    · exact .inl ⟨op, hop, .inr h⟩
    · exact .inr ⟨step, hstep, .inl h⟩
    · exact .inr ⟨step, hstep, .inr h⟩

instance : Decidable (Settled db envelope request) := decidable_of_iff _ isSettled_iff

theorem Effect.stepOf_evolves (h : Effect db db') {operationId stepId : String} {step : StepRow}
    (hstep : db.stepOf operationId stepId = some step) :
    ∃ step', db'.stepOf operationId stepId = some step' ∧ step.Evolves step' := by
  obtain ⟨hget, hoperation⟩ := DB.stepOf_eq_some_iff.1 hstep
  obtain ⟨step', hget', hevolves⟩ := h.step_evolves hget
  exact ⟨step', DB.stepOf_eq_some_iff.2 ⟨hget', hevolves.operationId.trans hoperation⟩, hevolves⟩

theorem Settled.step (h : Settled db envelope request) (heffect : Effect db db') :
    Settled db' envelope request := by
  cases h with
  | terminal _ stored terminal =>
    obtain ⟨op', hop', hevolves⟩ := heffect.operation_evolves stored
    exact .terminal op' hop' (by rw [hevolves.frozen terminal, terminal])
  | outOfScope _ stored scope =>
    obtain ⟨op', hop', hevolves⟩ := heffect.operation_evolves stored
    refine .outOfScope op' hop' ?_
    rw [← scope, inScope, inScope, hevolves.tenantId, hevolves.projectId, hevolves.environmentId]
  | left _ stored left =>
    obtain ⟨step', hstep', hevolves⟩ := heffect.stepOf_evolves stored
    exact .left step' hstep' (by rw [hevolves.frozen left, left])
  | outdated step stored =>
    obtain ⟨step', hstep', hevolves⟩ := heffect.stepOf_evolves stored
    -- The version moves only when the step leaves, so a command does not become current.
    cases hactive : step'.status.isActive with
    | false => exact .left step' hstep' hactive
    | true =>
      refine .outdated step' hstep' ?_
      rwa [hevolves.idempotencyKey, hevolves.version hactive, hevolves.stepType]

theorem Settled.later (h : Settled db envelope request)
    (hlater : Relation.ReflTransGen Effect db db') : Settled db' envelope request := by
  induction hlater with
  | refl => exact h
  | tail _ heffect ih => exact ih.step heffect

end Settled

/-! ## What a handler ensures -/

section Handler

variable (enc : Encoding) (worker : Worker) (delivery : Delivery)

/-- The database has settled the command of the message, if there is one in it. -/
def CommandSettled (data : Json) (db : DB) : Prop :=
  ∀ envelope request, decodeCommand data = .ok (envelope, request) → Settled db envelope request

/-- The message was delivered often enough. -/
def Exhausted : Prop := ∃ n, delivery.numDelivered = some n ∧ maxDeliveries ≤ n

/-- A message that a handler removes is settled, or exhausted with a copy on the failed subject. -/
def Accounted (disposition : Disposition) (s : Shared) : Prop :=
  disposition.removes = true → CommandSettled delivery.data s.db
    ∨ Exhausted delivery ∧ ∃ failedAt reason, failedMessage enc delivery failedAt reason ∈ s.failed

variable {enc worker delivery} {disposition : Disposition} {cause : String} {delay : Int}

theorem Accounted.later {s' : Shared} (hlater : s.Later s')
    (h : Accounted enc delivery disposition s) : Accounted enc delivery disposition s' := by
  intro hremoves
  rcases h hremoves with hsettled | ⟨hexhausted, failedAt, reason, hcopy⟩
  · exact .inl fun envelope request hdecode => (hsettled envelope request hdecode).later hlater.db
  · exact .inr ⟨hexhausted, failedAt, reason, hlater.failed hcopy⟩

/-- What a program of the handler has to ensure from a state on. -/
abbrev HandlerProgram.Safe (enc : Encoding) (delivery : Delivery) (p : HandlerProgram) (s : Shared) :
    Prop :=
  p.Ensures workerService Shared.Later (Accounted enc delivery) s

theorem safe_done (h : Accounted enc delivery disposition s) :
    HandlerProgram.Safe enc delivery (.done disposition) s :=
  ensures_done Accounted.later h

theorem safe_nak : HandlerProgram.Safe enc delivery (.done (.nak delay)) s :=
  safe_done fun h => absurd h (by simp [Disposition.removes])

/-- A message may be isolated when its command is settled or it is exhausted. -/
theorem safe_failPermanently (h : CommandSettled delivery.data s.db ∨ Exhausted delivery) :
    HandlerProgram.Safe enc delivery (failPermanently enc delivery cause) s := by
  intro s₁ h₁ n₁ s₂ h₂ n₂
  cases hpublished : n₂.published with
  | false =>
    simp only [workerService, hpublished]
    exact safe_nak
  | true =>
    simp only [workerService, hpublished, if_true]
    refine safe_done fun _ => ?_
    rcases h with hsettled | hexhausted
    · exact .inl fun envelope request hdecode =>
        ((hsettled envelope request hdecode).later h₁.db).later h₂.db
    · exact .inr ⟨hexhausted, s₁.db.now, cause, mem_append_right _ mem_cons_self⟩

/-- Giving a message back is always safe: it is isolated only when it is exhausted. -/
theorem safe_retryOrFailAfter :
    HandlerProgram.Safe enc delivery (retryOrFailAfter enc delivery cause delay) s := by
  unfold retryOrFailAfter
  split
  · next hdelivered =>
    obtain ⟨n, hn, hle⟩ := (Option.any_eq_true _ _).1 hdelivered
    exact safe_failPermanently (.inr ⟨n, hn, by simpa using hle⟩)
  · exact safe_nak

theorem safe_retryOrFail :
    HandlerProgram.Safe enc delivery (retryOrFail enc delivery cause) s :=
  safe_retryOrFailAfter

/-- The number of deliveries in a failed message reaches the limit only when it is known. -/
theorem exhausted_of_consumerMaxDeliveries
    (h : consumerMaxDeliveries ≤ (failedMessageIdentity enc delivery).2) : Exhausted delivery := by
  unfold failedMessageIdentity at h
  cases hn : delivery.numDelivered with
  | none => simp [hn, consumerMaxDeliveries, maxDeliveries] at h
  | some n =>
    simp only [hn, consumerMaxDeliveries] at h
    exact ⟨n, hn, by omega⟩

section Command

variable {envelope : Envelope} {request : StepRequest} {op : OperationRow} {step : StepRow}
  {lease : Lease} {startedAt : Int} {result : StepResult}

theorem CommandSettled.of_decode (hdecode : decodeCommand delivery.data
    = .ok (envelope, request)) (h : Settled db envelope request) :
    CommandSettled delivery.data db := by
  intro envelope' request' hdecode'
  rw [hdecode, Except.ok.injEq, Prod.mk.injEq] at hdecode'
  obtain ⟨rfl, rfl⟩ := hdecode'
  exact h

theorem safe_saveRetry :
    HandlerProgram.Safe enc delivery (saveRetry enc worker delivery request lease result) s := by
  refine ensures_call fun s₁ _ n₁ reply _ => ?_
  split
  · exact safe_retryOrFailAfter
  · exact safe_nak

variable (hdecode : decodeCommand delivery.data = .ok (envelope, request))

include hdecode

/-- Three answers of a commit tell the handler that the command is settled. -/
theorem safe_of_commit (s : Shared) (fate : Fate) {ownerId : String} {outcome : StepOutcome}
    {events : List OutboxEvent} :
    let r := s.transact fate (commitStepResult s.db request.operationId request.stepId
      request.idempotencyKey ownerId lease request.expectedVersion outcome result events)
    r.2 = .ok () ∨ r.2 = .error .stepAlreadyCompleted ∨ r.2 = .error .stepVersionMismatch →
    HandlerProgram.Safe enc delivery (.done disposition) r.1 := by
  intro r h
  refine safe_done fun _ => .inl (.of_decode hdecode ?_)
  cases fate with
  | answered =>
    obtain ⟨hok, hcompleted, hmismatch⟩ := commitStepResult_answer s.db request.operationId
      request.stepId request.idempotencyKey ownerId lease request.expectedVersion outcome result
      events
    rcases h with h | h | h
    · obtain ⟨step, hstep, hleft⟩ := hok h
      exact .left step hstep hleft
    · obtain ⟨step, hstep, hleft⟩ := hcompleted h
      exact .left step hstep hleft
    · obtain ⟨step, hstep, hdiffers⟩ := hmismatch h
      exact .outdated step hstep (hdiffers.imp_right .inl)
  | _ => simp [r, Shared.transact, apply] at h

theorem safe_commitFailure : HandlerProgram.Safe enc delivery
      (commitFailure enc worker delivery op envelope request lease startedAt cause result) s := by
  refine ensures_call fun s₁ _ n₁ eventId _ => ?_
  refine ensures_call fun s₂ _ n₂ reply hreply => ?_
  split
  · exact safe_of_commit hdecode s₂ n₂.fate (.inl hreply)
  · exact safe_of_commit hdecode s₂ n₂.fate (.inr (.inl hreply))
  · split
    · next hlimit => exact safe_failPermanently (.inr (exhausted_of_consumerMaxDeliveries hlimit))
    · exact safe_nak

theorem safe_failStepExecution {outputs : Option (List (String × String))} {checkpoint : String}
    {permanent : Bool} :
    HandlerProgram.Safe enc delivery
      (failStepExecution enc worker delivery op step envelope request lease startedAt outputs
        checkpoint cause permanent) s := by
  refine ensures_call fun s₁ _ n₁ completedAt _ => ?_
  split
  · exact safe_saveRetry
  · exact safe_commitFailure hdecode

theorem safe_commitSuccess {execution : Execution} :
    HandlerProgram.Safe enc delivery
      (commitSuccess enc worker delivery op envelope request lease startedAt execution) s := by
  refine ensures_call fun s₁ _ n₁ completedAt _ => ?_
  refine ensures_call fun s₂ _ n₂ eventId _ => ?_
  refine ensures_call fun s₃ _ n₃ reply hreply => ?_
  split
  · exact safe_of_commit hdecode s₃ n₃.fate (.inl hreply)
  · exact safe_of_commit hdecode s₃ n₃.fate (.inr (.inl hreply))
  · exact safe_of_commit hdecode s₃ n₃.fate (.inr (.inr hreply))
  · exact safe_retryOrFail

theorem safe_runStep {satisfied : Bool} : HandlerProgram.Safe enc delivery
      (runStep enc worker delivery op step envelope request satisfied lease) s := by
  refine ensures_call fun s₁ _ n₁ startedAt _ => ?_
  simp only []
  split
  · exact safe_failStepExecution hdecode
  split
  · exact safe_failStepExecution hdecode
  refine ensures_call fun s₂ _ n₂ execution _ => ?_
  split
  · exact safe_commitSuccess hdecode
  · split
    · exact safe_retryOrFailAfter
    · exact safe_failStepExecution hdecode

theorem safe_handleStep :
    HandlerProgram.Safe enc delivery (handleStep enc worker delivery op envelope request) s := by
  refine ensures_call fun s₁ _ n₁ reply hreply => ?_
  split
  · exact safe_retryOrFail
  next step =>
  have hstep : s₁.db.stepOf request.operationId request.stepId = some step :=
    DB.getStepState_ok (read_eq_ok hreply)
  have houtdated : (step.idempotencyKey ≠ request.idempotencyKey
      ∨ (step.version : Int) ≠ request.expectedVersion ∨ step.stepType ≠ request.stepType) →
      CommandSettled delivery.data s₁.db := fun h => .of_decode hdecode (.outdated step hstep h)
  split
  · next hstatus =>
    exact safe_done fun _ => .inl (.of_decode hdecode (.left step hstep (by rw [hstatus]; rfl)))
  split
  · next hdiffers => exact safe_done fun _ => .inl (houtdated (hdiffers.imp_right .inl))
  split
  · next htype => exact safe_failPermanently (.inl (houtdated (.inr (.inr htype))))
  refine ensures_call fun s₂ _ n₂ reply _ => ?_
  split
  · exact safe_retryOrFail
  refine ensures_call fun s₃ _ n₃ reply _ => ?_
  split
  · exact safe_runStep hdecode
  · exact safe_retryOrFailAfter
  · exact safe_retryOrFail

end Command

/-- Whatever happens around it, a handler removes only messages that are accounted for. -/
theorem safe_handleMessage :
    HandlerProgram.Safe enc delivery (handleMessage enc worker delivery) s := by
  unfold handleMessage
  split
  · next reason hdecode =>
    refine safe_failPermanently (.inl fun envelope request h => ?_)
    rw [hdecode] at h
    simp at h
  next envelope request hdecode =>
  refine ensures_call fun s₁ _ n₁ reply hreply => ?_
  split
  · exact safe_retryOrFail
  next op =>
  have hop : s₁.db.operations.get? request.operationId = some op := by
    have := read_eq_ok hreply
    simp only [DB.getOperation] at this
    split at this
    · next h => rw [h, Except.ok.inj this]
    · simp at this
  split
  · next hterminal =>
    exact safe_done fun _ => .inl (.of_decode hdecode (.terminal op hop hterminal))
  split
  · exact safe_retryOrFail
  split
  · next hscope =>
    exact safe_failPermanently (.inl (.of_decode hdecode (.outOfScope op hop hscope)))
  · exact safe_handleStep hdecode

end Handler

/-! ## The queue and its handlers -/

/-- A message in the stream. -/
structure QueuedMessage where
  seq : Nat
  data : Json
  /-- How often it has been delivered. -/
  delivered : Nat

open QueuedMessage

/-- The message after one more delivery. -/
def QueuedMessage.redelivered (message : QueuedMessage) : QueuedMessage :=
  { message with delivered := message.delivered + 1 }

/-- A handler at work on a delivery. -/
structure Handler where
  id : Nat
  delivery : Delivery
  program : HandlerProgram

def Handler.resume (program : HandlerProgram) (handler : Handler) : Handler :=
  { handler with program := program }

/-- A message as it left the queue. -/
structure Removal where
  message : QueuedMessage
  disposition : Disposition

/-- The stream of commands, the handlers, and what they share. -/
structure WorkQueue where
  shared : Shared
  nextSeq : Nat
  queue : Table QueuedMessage Nat seq
  handlers : Table Handler Nat Handler.id
  removed : List Removal

open WorkQueue

/-- An empty stream next to a database. -/
def WorkQueue.empty (db : DB) : WorkQueue where
  shared := { db := db, failed := [] }
  nextSeq := 0
  queue := .empty
  handlers := .empty
  removed := []

/-- What happens. -/
inductive QueueEvent where
  /-- Any other request to the database, the renewal of a lease included. -/
  | request (request : Request)
  /-- A message enters the stream. -/
  | send (data : Json)
  /-- A message of the queue is delivered to a worker; a handler may be at work on it already. -/
  | deliver (seq handler : Nat) (worker : Worker) (metadata : Bool)
  /-- A handler makes its next call. -/
  | perform (handler : Nat) (nature : Nature)
  /-- A handler has ended, and the broker does or does not hear of it. -/
  | settle (handler : Nat) (received : Bool)
  | crash (handler : Nat)

namespace WorkQueue

variable (enc : Encoding) (w : WorkQueue)

def send (data : Json) : WorkQueue :=
  match w.queue.insert? { seq := w.nextSeq, data := data, delivered := 0 } with
  | none => w
  | some queue => { w with queue := queue, nextSeq := w.nextSeq + 1 }

/-- The delivery of a message that has been delivered some times before. -/
def delivery (message : QueuedMessage) (metadata : Bool) : Delivery where
  stream := "commands"
  seq := message.seq
  subject := stepRequestedSubject
  data := message.data
  numDelivered := if metadata then some (message.delivered + 1) else none

def deliver (seq handler : Nat) (worker : Worker) (metadata : Bool) : WorkQueue :=
  match w.queue.get? seq with
  | none => w
  | some message =>
  if consumerMaxDeliveries ≤ message.delivered then w else
  let delivery := delivery message metadata
  match w.handlers.insert?
      { id := handler, delivery := delivery, program := handleMessage enc worker delivery } with
  | none => w
  | some handlers =>
    { w with
      handlers := handlers
      queue := w.queue.update seq redelivered (fun _ => rfl) }

def perform (handler : Nat) (nature : Nature) : WorkQueue :=
  match w.handlers.get? handler with
  | some ⟨_, _, .call op next⟩ =>
    let r := workerService.perform w.shared op nature
    { w with
      shared := r.1
      handlers := w.handlers.update handler (Handler.resume (next r.2)) (fun _ => rfl) }
  | _ => w

def settle (handler : Nat) (received : Bool) : WorkQueue :=
  match w.handlers.get? handler with
  | some ⟨_, delivery, .done disposition⟩ =>
    let ended := { w with handlers := w.handlers.deleteWhere fun h => h.id == handler }
    if received && disposition.removes then
      match w.queue.get? delivery.seq with
      | none => ended
      | some message =>
        { ended with
          queue := w.queue.deleteWhere fun m => m.seq == delivery.seq
          removed := w.removed ++ [{ message := message, disposition := disposition }] }
    else ended
  | _ => w

def step (sha : Sha256) : QueueEvent → WorkQueue
  | .request request =>
    { w with shared := { w.shared with db := (engine sha).next w.shared.db request } }
  | .send data => w.send data
  | .deliver seq handler worker metadata => w.deliver enc seq handler worker metadata
  | .perform handler nature => w.perform handler nature
  | .settle handler received => w.settle handler received
  | .crash handler => { w with handlers := w.handlers.deleteWhere fun h => h.id == handler }

end WorkQueue

/-- The request to the engine that an event is, if it is one. -/
def WorkQueue.request? (w : WorkQueue) : QueueEvent → Option Request
  | .request request => some request
  | .perform handler nature =>
    match w.handlers.get? handler with
    | some ⟨_, _, .call op _⟩ => op.request? nature
    | _ => none
  | _ => none

theorem WorkQueue.step_db (enc : Encoding) (sha : Sha256) (w : WorkQueue) (event : QueueEvent) :
    (w.step enc sha event).shared.db
      = (w.request? event).elim w.shared.db ((engine sha).next w.shared.db) := by
  cases event with
  | request | crash => rfl
  | send =>
    simp only [step, WorkQueue.send]
    split <;> rfl
  | deliver =>
    simp only [step, WorkQueue.deliver]
    split
    · rfl
    · split
      · rfl
      · split <;> rfl
  | perform _ nature =>
    simp only [step, WorkQueue.perform, WorkQueue.request?]
    split
    · exact workerService_db sha w.shared _ nature
    · rfl
  | settle =>
    simp only [step, WorkQueue.settle]
    split
    · split
      · split <;> rfl
      · rfl
    · rfl

def workQueue (enc : Encoding) (sha : Sha256) : Machine WorkQueue QueueEvent Unit where
  step w event := (w.step enc sha event, ())

/-! ## Every run -/

section Runs

variable {enc : Encoding} {w : WorkQueue}

/-- Why a message may have left the queue: its command is malformed or settled, or it was delivered
    ten times and isolated. -/
def Explained (enc : Encoding) (s : Shared) (message : QueuedMessage) : Prop :=
  CommandSettled message.data s.db ∨ maxDeliveries ≤ message.delivered ∧ ∃ delivery failedAt reason,
        delivery.seq = message.seq ∧ delivery.data = message.data
          ∧ failedMessage enc delivery failedAt reason ∈ s.failed

theorem Explained.later {s' : Shared} {message : QueuedMessage} (h : Explained enc s message)
    (hlater : s.Later s') : Explained enc s' message := by
  rcases h with hsettled | ⟨hdelivered, delivery, failedAt, reason, hseq, hdata, hcopy⟩
  · exact .inl fun envelope request hdecode => (hsettled envelope request hdecode).later hlater.db
  · exact .inr ⟨hdelivered, delivery, failedAt, reason, hseq, hdata, hlater.failed hcopy⟩

/-- A handler knows the message it is at work on, and not more deliveries than there were. -/
structure Handler.Knows (handler : Handler) (message : QueuedMessage) : Prop where
  data : handler.delivery.data = message.data
  delivered : ∀ n, handler.delivery.numDelivered = some n → n ≤ message.delivered

/-- What holds of the queue. -/
structure QueueInv (enc : Encoding) (w : WorkQueue) : Prop where
  queued : ∀ message ∈ w.queue.rows, message.seq < w.nextSeq
  handled : ∀ handler ∈ w.handlers.rows, handler.delivery.seq < w.nextSeq
  knows : ∀ handler ∈ w.handlers.rows, ∀ message ∈ w.queue.rows,
    message.seq = handler.delivery.seq → handler.Knows message
  safe : ∀ handler ∈ w.handlers.rows,
    HandlerProgram.Safe enc handler.delivery handler.program w.shared
  removed : ∀ removal ∈ w.removed, Explained enc w.shared removal.message

theorem queueInv_empty (db : DB) : QueueInv enc (WorkQueue.empty db) := by
  refine ⟨?_, ?_, ?_, ?_, ?_⟩ <;> simp [WorkQueue.empty]

section QueueInv

variable (hinv : QueueInv enc w)

include hinv

theorem QueueInv.later (hlater : w.shared.Later s) : QueueInv enc { w with shared := s } :=
  ⟨hinv.queued, hinv.handled, hinv.knows,
    fun handler hmem =>
      Program.Ensures.stable (R := Shared.Later) Shared.Later.trans (hinv.safe handler hmem) hlater,
    fun removal hmem => (hinv.removed removal hmem).later hlater⟩

theorem QueueInv.endHandler (id : Nat) : QueueInv enc { w with handlers := w.handlers.deleteWhere fun h => h.id == id } := by
  have hleft : ∀ h ∈ (w.handlers.deleteWhere fun h => h.id == id).rows, h ∈ w.handlers.rows :=
    fun h hmem => (mem_deleteWhere.1 hmem).1
  exact ⟨hinv.queued, fun h hmem => hinv.handled h (hleft h hmem),
    fun h hmem => hinv.knows h (hleft h hmem), fun h hmem => hinv.safe h (hleft h hmem),
    hinv.removed⟩

theorem QueueInv.send (data : Json) : QueueInv enc (w.send data) := by
  unfold WorkQueue.send
  split
  · exact hinv
  next queue hinsert =>
  have hcases : ∀ message ∈ queue.rows, message ∈ w.queue.rows ∨ message.seq = w.nextSeq := by
    intro message hmem
    rcases (mem_insert? hinsert).1 hmem with hmem | rfl
    · exact .inl hmem
    · exact .inr rfl
  refine ⟨?_, ?_, ?_, hinv.safe, hinv.removed⟩
  · intro message hmem
    rcases hcases message hmem with hold | hnew
    · exact lt_succ_of_lt (hinv.queued message hold)
    · rw [hnew]
      exact lt_succ_self _
  · exact fun handler hmem => lt_succ_of_lt (hinv.handled handler hmem)
  · intro handler hhandler message hmem hseq
    rcases hcases message hmem with hold | hnew
    · exact hinv.knows handler hhandler message hold hseq
    · -- A handler is at work on an older message.
      have := hinv.handled handler hhandler
      omega

theorem QueueInv.deliver (seq handler : Nat) (worker : Worker) (metadata : Bool) :
    QueueInv enc (w.deliver enc seq handler worker metadata) := by
  unfold WorkQueue.deliver
  split
  · exact hinv
  next message hget =>
  split
  · exact hinv
  simp only []
  split
  · exact hinv
  next handlers hinsert =>
  obtain ⟨hmem, rfl⟩ := get?_eq_some_iff.1 hget
  have hcases : ∀ h ∈ handlers.rows, h ∈ w.handlers.rows ∨ h.delivery = delivery message metadata
        ∧ h.program = handleMessage enc worker h.delivery := by
    intro h hh
    rcases (mem_insert? hinsert).1 hh with hh | rfl
    · exact .inl hh
    · exact .inr ⟨rfl, rfl⟩
  -- A delivered message differs from the one in the queue before in its count only.
  have hqueue : ∀ m ∈ (w.queue.update message.seq redelivered (fun _ => rfl)).rows,
      ∃ m₀ ∈ w.queue.rows, m.seq = m₀.seq ∧ m.data = m₀.data
        ∧ m₀.delivered ≤ m.delivered ∧ (m.seq = message.seq → message.delivered < m.delivered) := by
    intro m hm
    rcases mem_update_cases hm hget with rfl | ⟨hm, hseq⟩
    · exact ⟨message, hmem, rfl, rfl, le_succ _, fun _ => lt_succ_self _⟩
    · exact ⟨m, hm, rfl, rfl, le_refl _, fun h => absurd h hseq⟩
  refine ⟨?_, ?_, ?_, ?_, hinv.removed⟩
  · intro m hm
    obtain ⟨m₀, hm₀, hseq, -⟩ := hqueue m hm
    rw [hseq]
    exact hinv.queued m₀ hm₀
  · intro h hh
    rcases hcases h hh with hold | ⟨hdelivery, -⟩
    · exact hinv.handled h hold
    · rw [hdelivery]
      exact hinv.queued message hmem
  · intro h hh m hm hseq
    obtain ⟨m₀, hm₀, hseq₀, hdata, hle, hcount⟩ := hqueue m hm
    rcases hcases h hh with hold | ⟨hdelivery, -⟩
    · have hknows := hinv.knows h hold m₀ hm₀ (hseq₀ ▸ hseq)
      exact ⟨hknows.data.trans hdata.symm, fun n hn => le_trans (hknows.delivered n hn) hle⟩
    rw [hdelivery] at hseq
    obtain rfl := w.queue.eq_of_key_eq hm₀ hmem (hseq₀.symm.trans hseq)
    refine ⟨by rw [hdelivery, hdata]; rfl, fun n hn => ?_⟩
    have hlt := hcount hseq
    rw [hdelivery, delivery] at hn
    cases metadata with
    | true =>
      simp only [if_true, Option.some.injEq] at hn
      omega
    | false => simp at hn
  · intro h hh
    rcases hcases h hh with hold | ⟨-, hprogram⟩
    · exact hinv.safe h hold
    · rw [hprogram]
      exact safe_handleMessage

theorem QueueInv.perform (handler : Nat) (nature : Nature) : QueueInv enc (w.perform handler nature) := by
  unfold WorkQueue.perform
  split
  · next id delivery op next hget =>
    have hmem := mem_of_get? hget
    have hlater := workerService_later w.shared op nature
    have hothers := hinv.later hlater
    have hsafe := (hinv.safe _ hmem).perform Shared.Later.refl nature
    -- The handlers keep their deliveries, and only this one has another program.
    have hcases : ∀ h ∈ (w.handlers.update handler
        (Handler.resume (next (workerService.perform w.shared op nature).2)) (fun _ => rfl)).rows,
        (∃ h₀ ∈ w.handlers.rows, h.delivery = h₀.delivery)
          ∧ HandlerProgram.Safe enc h.delivery h.program
            (workerService.perform w.shared op nature).1 := by
      intro h hh
      rcases mem_update_cases hh hget with rfl | ⟨hh, -⟩
      · exact ⟨⟨_, hmem, rfl⟩, hsafe⟩
      · exact ⟨⟨h, hh, rfl⟩, hothers.safe h hh⟩
    refine ⟨hinv.queued, ?_, ?_, fun h hh => (hcases h hh).2, hothers.removed⟩
    · intro h hh
      obtain ⟨⟨h₀, hh₀, hdelivery⟩, -⟩ := hcases h hh
      rw [hdelivery]
      exact hinv.handled h₀ hh₀
    · intro h hh m hm hseq
      obtain ⟨⟨h₀, hh₀, hdelivery⟩, -⟩ := hcases h hh
      have hknows := hinv.knows h₀ hh₀ m hm (hdelivery ▸ hseq)
      exact ⟨hdelivery ▸ hknows.data, hdelivery ▸ hknows.delivered⟩
  · exact hinv

theorem QueueInv.settle (handler : Nat) (received : Bool) : QueueInv enc (w.settle handler received) := by
  unfold WorkQueue.settle
  split
  · next id delivery disposition hget =>
    have hended := hinv.endHandler handler
    split
    · next hremoves =>
      split
      · exact hended
      next message hmessage =>
      obtain ⟨hmem, hseq⟩ := get?_eq_some_iff.1 hmessage
      have hhandler := mem_of_get? hget
      have hknows := hinv.knows _ hhandler message hmem hseq
      have haccounted := (hinv.safe _ hhandler).of_done Shared.Later.refl
      have hleft : ∀ m ∈ (w.queue.deleteWhere fun m => m.seq == delivery.seq).rows,
          m ∈ w.queue.rows := fun m hm => (mem_deleteWhere.1 hm).1
      refine ⟨fun m hm => hended.queued m (hleft m hm), hended.handled,
        fun h hh m hm => hended.knows h hh m (hleft m hm), hended.safe, ?_⟩
      intro removal hremoval
      rw [mem_append, mem_singleton] at hremoval
      rcases hremoval with hold | rfl
      · exact hinv.removed removal hold
      rw [Bool.and_eq_true] at hremoves
      rcases haccounted hremoves.2 with hsettled | ⟨⟨n, hn, hle⟩, failedAt, reason, hcopy⟩
      · exact .inl (hknows.data ▸ hsettled)
      · exact .inr ⟨le_trans hle (hknows.delivered n hn), delivery, failedAt, reason,
          hseq.symm, hknows.data, hcopy⟩
    · exact hended
  · exact hinv

theorem QueueInv.step (sha : Sha256) (event : QueueEvent) : QueueInv enc (w.step enc sha event) := by
  cases event with
  | request request =>
    exact hinv.later ⟨.single (engine_effect sha w.shared.db request), fun _ hm => hm⟩
  | send data => exact hinv.send data
  | deliver seq handler worker metadata => exact hinv.deliver seq handler worker metadata
  | perform handler nature => exact hinv.perform handler nature
  | settle handler received => exact hinv.settle handler received
  | crash handler => exact hinv.endHandler handler

end QueueInv

theorem queueInv_run (enc : Encoding) (sha : Sha256) (db : DB) (events : List QueueEvent) :
    QueueInv enc ((workQueue enc sha).run (WorkQueue.empty db) events) :=
  (workQueue enc sha).run_induction (fun _ event hinv => hinv.step sha event) (queueInv_empty db)
    events

/-- A message that has left the queue was malformed, or the database has settled its command (and
    keeps it settled, since this holds of every later state too), or it had been delivered ten times
    and the failed subject has a copy. -/
theorem removed_command_accounted (enc : Encoding) (sha : Sha256) (db : DB)
    (events : List QueueEvent) (removal : Removal)
    (hremoval : removal ∈ ((workQueue enc sha).run (WorkQueue.empty db) events).removed) :
    let w := (workQueue enc sha).run (WorkQueue.empty db) events
    (∃ reason, decodeCommand removal.message.data = .error reason)
    ∨ (∃ envelope request, decodeCommand removal.message.data = .ok (envelope, request)
        ∧ Settled w.shared.db envelope request)
    ∨ (maxDeliveries ≤ removal.message.delivered ∧ ∃ delivery failedAt reason,
        delivery.seq = removal.message.seq ∧ delivery.data = removal.message.data
          ∧ failedMessage enc delivery failedAt reason ∈ w.shared.failed) := by
  intro w
  rcases (queueInv_run enc sha db events).removed removal hremoval with hsettled | hisolated
  · cases hdecode : decodeCommand removal.message.data with
    | error reason => exact .inl ⟨reason, rfl⟩
    | ok command => exact .inr (.inl ⟨command.1, command.2, rfl, hsettled _ _ hdecode⟩)
  · exact .inr (.inr hisolated)

end Runs

/-! ## Two runs -/

/-- A deployment of one step, under ids as the database draws them. -/
def deployment : Request where
  call := .submitOperation
    { tenantId := "t1", projectId := "", environmentId := "", namespaceId := "",
      releaseId := "r1", operationType := .deploy, idempotencyKey := "k1", initiatedBy := "alice",
      correlationId := "00000000-0000-4000-8000-00000000000c", targetClusterIds := [], tags := [],
      steps := [
        { planStepId := "install", name := "install", stepType := "helm", providerId := "",
          dependsOn := [], optional := false, inputs := [], secretReference := "",
          maxRetries := 0, timeoutSeconds := 0 }] }
    { plan := "00000000-0000-4000-8000-000000000001"
      operation := "00000000-0000-4000-8000-000000000002", intent := "", correlation := ""
      step := fun _ => "00000000-0000-4000-8000-000000000003"
      message := fun _ => "00000000-0000-4000-8000-000000000004" }
  fate := .answered

/-- The database after it. -/
def deployed : DB :=
  (engine ⟨fun _ => "digest", fun _ => "digest"⟩).run (DB.empty 0) [deployment]

/-- The message of its command, as the relay publishes it. -/
def deployCommand : Json :=
  match deployed.outbox.rows with
  | [] => .null
  | row :: _ => row.event.message.data

/-- Calls that all end this way. -/
def Fate.nature (fate : Fate) : Nature where
  fate := fate
  leaseId := "00000000-0000-4000-8000-000000000005"
  skipped := 0
  execution := { outputs := none, checkpoint := "", error := none }
  published := true
  uuid := "00000000-0000-4000-8000-000000000006"

/-- A delivery whose handler makes these calls and reports to the broker. -/
def attempt (handler : Nat) (calls : List Nature) : List QueueEvent :=
  .deliver 0 handler { workerId := "worker-1", leaseDur := 30000000, hasRunner := true } true
    :: calls.map (.perform handler) ++ [.settle handler true]

/-- The queue after these events, next to the database with the deployment. -/
def runDeployment (events : List QueueEvent) : WorkQueue :=
  (workQueue ⟨fun _ => "", id⟩ ⟨fun _ => "digest", fun _ => "digest"⟩).run
    (WorkQueue.empty deployed) (.send deployCommand :: events)

/-- A run in which the command is acknowledged after its step has succeeded. -/
theorem removed_command_accounted_of_deployment :
    let w := runDeployment (attempt 0 (replicate 9 Fate.answered.nature))
    ∃ removal ∈ w.removed, removal.disposition = .ack
      ∧ ((∃ reason, decodeCommand removal.message.data = .error reason)
        ∨ (∃ envelope request, decodeCommand removal.message.data = .ok (envelope, request)
            ∧ Settled w.shared.db envelope request)
        ∨ (maxDeliveries ≤ removal.message.delivered ∧ ∃ delivery failedAt reason,
            delivery.seq = removal.message.seq ∧ delivery.data = removal.message.data
              ∧ failedMessage ⟨fun _ => "", id⟩ delivery failedAt reason ∈ w.shared.failed)) :=
  ⟨_, mem_cons_self, by decide, removed_command_accounted _ _ _ _ _ mem_cons_self⟩

/-- The command in the message is current: its operation is runnable, its step is pending, and the
    database has not settled it. -/
def isCurrent (db : DB) (data : Json) : Bool :=
  match decodeCommand data with
  | .error _ => false
  | .ok (envelope, request) =>
    decide (¬ Settled db envelope request)
      && (db.operations.get? request.operationId).any (fun op => op.status.isRunnable)
      && (db.stepOf request.operationId request.stepId).any fun step =>
        decide (step.status = .pending)

/-- Ten deliveries during which the database cannot be read. -/
def unreadable : WorkQueue :=
  runDeployment ((range 10).flatMap fun handler =>
    attempt handler (replicate 3 (aborted 0).nature))

/-- After them the command is gone from the queue, though it is current. -/
theorem current_command_isolated :
    ∃ removal ∈ unreadable.removed, isCurrent unreadable.shared.db removal.message.data = true :=
  any_eq_true.1 (by decide +kernel)

end HnbCloud.Operation
