import HnbCloud.Operation.WorkerQueue

set_option autoImplicit false

/-! # What an execution resumes from

A step that is retried goes on from its checkpoint, and its retry count decides whether it may fail
once more. The handler reads both before it asks for the lease. This module relates what an execution
uses to what the database held when the lease was granted. Between the two stands whatever other
handlers commit: a retry changes the checkpoint and the count and leaves the version, so the lease is
granted all the same. -/

namespace HnbCloud.Operation

open List Program Table Machine DB HandlerProgram WorkQueue StepRow Fate

/-! ## Retries in the database -/

/-- The transaction commits. -/
def Fate.commits : Fate → Bool
  | answered => true
  | aborted _ => false
  | replyLost => true

/-- The request saves a retry of the step: it is a `SaveStepRetry` that finds the step at its version
    and fenced by its lease, and commits. -/
def Request.savesRetry (db : DB) (operationId stepId : String) (request : Request) : Bool :=
  match request.call with
  | .saveStepRetry operationId' stepId' ownerId lease expectedVersion _ =>
    operationId' == operationId && stepId' == stepId && request.fate.commits
      && (db.stepOf operationId stepId).any fun step =>
        decide ((step.version : Int) = expectedVersion) && db.fenced step ownerId lease
  | _ => false

section Retries

variable {db db' : DB} {operationId stepId : String} {step : StepRow}

theorem engine_savesRetry (sha : Sha256) {request : Request}
    (h : request.savesRetry db operationId stepId = true)
    (hstep : db.stepOf operationId stepId = some step) :
    ∃ step', ((engine sha).next db request).stepOf operationId stepId = some step'
      ∧ step'.retryCount = step.retryCount + 1 := by
  obtain ⟨call, fate⟩ := request
  cases call with
  | saveStepRetry operationId' stepId' ownerId lease expectedVersion result =>
    simp only [Request.savesRetry, hstep, Option.any_some, Bool.and_eq_true, beq_iff_eq,
      decide_eq_true_eq] at h
    obtain ⟨⟨⟨rfl, rfl⟩, hcommits⟩, hversion, hfenced⟩ := h
    have hnext : (engine sha).next db
        ⟨.saveStepRetry operationId' stepId' ownerId lease expectedVersion result, fate⟩
        = db.retryStep operationId' stepId' ownerId lease result := by
      have hrun : (saveStepRetry db operationId' stepId' ownerId lease expectedVersion result).1
          = db.retryStep operationId' stepId' ownerId lease result := by
        simp [saveStepRetry, hstep, hversion, hfenced]
      cases fate with
      | answered | replyLost => exact hrun
      | aborted => simp [commits] at hcommits
    obtain ⟨hget, hoperation⟩ := stepOf_eq_some_iff.1 hstep
    refine ⟨step.retry result, ?_, rfl⟩
    rw [hnext, stepOf_eq_some_iff]
    exact ⟨db.steps.get?_update_self stepId' (retry result) (fun _ => rfl) hget, hoperation⟩
  | _ => simp [Request.savesRetry] at h

/-- What a step resumes from is as before, unless it has left. -/
structure StepRow.Unretried (step step' : StepRow) : Prop where
  operationId : step'.operationId = step.operationId
  retryCount : step'.retryCount = step.retryCount
  active : step'.status.isActive = true → step.status.isActive = true
  checkpoint : step'.status.isActive = true → step'.checkpoint = step.checkpoint

theorem StepRow.Unretried.refl (step : StepRow) : step.Unretried step :=
  ⟨rfl, rfl, fun h => h, fun _ => rfl⟩

theorem StepRow.Unretried.trans {a b c : StepRow} (h : a.Unretried b) (h' : b.Unretried c) :
    a.Unretried c :=
  ⟨h'.operationId.trans h.operationId, h'.retryCount.trans h.retryCount,
    fun hc => h.active (h'.active hc),
    fun hc => (h'.checkpoint hc).trans (h.checkpoint (h'.active hc))⟩

theorem Does.step_unretried {call : Call} (h : Does db call db')
    (hstep : db.steps.get? stepId = some step)
    (hnot : ∀ ownerId lease expectedVersion result,
      call = .saveStepRetry step.operationId stepId ownerId lease expectedVersion result →
      (step.version : Int) = expectedVersion → db.fenced step ownerId lease = false) :
    ∃ step', db'.steps.get? stepId = some step' ∧ step.Unretried step' := by
  cases h with
  | nothing | ticked | observed | renewed | approved | ended => exact ⟨step, hstep, .refl step⟩
  | submitted cmd ids planId planDigest h
  | intended _ _ _ _ _ _ h =>
    exact ⟨step, get?_of_rows_eq_append h.stepRows hstep, .refl step⟩
  | granted _ stepId' _ _ _ _ _ lease _ _ h =>
    have htarget := (stepOf_eq_some_iff.1 h.stored).1
    exact (db.steps.becomes_update stepId' (retain lease) (fun _ => rfl)
      Unretried.refl htarget ⟨rfl, rfl, fun h => h, fun _ => rfl⟩).get? hstep
  | retried _ stepId' ownerId lease expectedVersion result target stored current fenced =>
    obtain ⟨htarget, hoperation⟩ := stepOf_eq_some_iff.1 stored
    by_cases hid : stepId = stepId'
    · subst hid
      obtain rfl : target = step := by simpa [htarget] using hstep
      exact absurd fenced (by simp [hnot ownerId lease expectedVersion result
        (by rw [hoperation]) current])
    · exact ⟨step, (db.steps.get?_update_of_ne stepId' (retry result) (fun _ => rfl)
        hid).trans hstep, .refl step⟩
  | committed _ c _ target _ _ h =>
    have htarget := (stepOf_eq_some_iff.1 h.stored).1
    have hleft : (target.finish c.outcome c.result).status.isActive = false := by
      cases c.outcome <;> simp [finish, StepOutcome.status, StepStatus.isActive]
    refine (db.steps.becomes_update c.stepId (finish c.outcome c.result)
      (fun _ => rfl) Unretried.refl htarget ⟨rfl, rfl, ?_, ?_⟩).get? hstep
    · exact fun hactive => absurd hactive (by simp [hleft])
    · exact fun hactive => absurd hactive (by simp [hleft])

theorem engine_unretried (sha : Sha256) {request : Request}
    (h : request.savesRetry db operationId stepId = false)
    (hstep : db.stepOf operationId stepId = some step) :
    ∃ step', ((engine sha).next db request).stepOf operationId stepId = some step'
      ∧ step.Unretried step' := by
  obtain ⟨hget, hoperation⟩ := stepOf_eq_some_iff.1 hstep
  have hnext : ∃ step', ((engine sha).next db request).steps.get? stepId = some step'
      ∧ step.Unretried step' := by
    obtain ⟨call, fate⟩ := request
    cases hfate : fate.commits with
    | false =>
      -- A transaction that does not commit leaves the steps.
      cases fate with
      | aborted => exact ⟨step, hget, .refl step⟩
      | answered | replyLost => simp [commits] at hfate
    | true =>
      refine (Request.does sha db ⟨call, fate⟩).step_unretried hget ?_
      rintro ownerId lease expectedVersion result hcall hversion
      obtain rfl : call = _ := hcall
      simpa [Request.savesRetry, hfate, hoperation, hstep, hversion] using h
  obtain ⟨step', hget', hunretried⟩ := hnext
  exact ⟨step', stepOf_eq_some_iff.2 ⟨hget', hunretried.operationId.trans hoperation⟩, hunretried⟩

end Retries

/-! ## Retries in a run -/

def WorkQueue.savesRetry (w : WorkQueue) (operationId stepId : String) (event : QueueEvent) : Bool :=
  (w.request? event).any (Request.savesRetry w.shared.db operationId stepId)

open WorkQueue

section Runs

variable (enc : Encoding) (sha : Sha256) {w : WorkQueue} {operationId stepId : String}
  {step : StepRow} {event : QueueEvent}

theorem step_savesRetry (h : w.savesRetry operationId stepId event = true)
    (hstep : w.shared.db.stepOf operationId stepId = some step) :
    ∃ step', ((workQueue enc sha).next w event).shared.db.stepOf operationId stepId = some step'
      ∧ step'.retryCount = step.retryCount + 1 := by
  obtain ⟨request, hrequest, hsaves⟩ := (Option.any_eq_true _ _).1 h
  have hdb : ((workQueue enc sha).next w event).shared.db = (engine sha).next w.shared.db request := by
    have := w.step_db enc sha event
    rwa [hrequest] at this
  rw [hdb]
  exact engine_savesRetry sha hsaves hstep

theorem step_unretried (h : w.savesRetry operationId stepId event = false)
    (hstep : w.shared.db.stepOf operationId stepId = some step) :
    ∃ step', ((workQueue enc sha).next w event).shared.db.stepOf operationId stepId = some step'
      ∧ step.Unretried step' := by
  have hdb : ((workQueue enc sha).next w event).shared.db
      = (w.request? event).elim w.shared.db ((engine sha).next w.shared.db) := w.step_db enc sha event
  rw [hdb]
  cases hrequest : w.request? event with
  | none => exact ⟨step, hstep, .refl step⟩
  | some =>
    refine engine_unretried sha ?_ hstep
    simpa [savesRetry, hrequest] using h

variable {events : List QueueEvent}

variable (hstep : w.shared.db.stepOf operationId stepId = some step)
include hstep

/-- As long as nothing saves a retry, the step resumes from what it did before. -/
theorem run_unretried
    (h : ∀ entry ∈ (workQueue enc sha).trace w events,
      entry.pre.savesRetry operationId stepId entry.call = false) :
    ∃ step', ((workQueue enc sha).run w events).shared.db.stepOf operationId stepId = some step'
      ∧ step.Unretried step' := by
  refine (workQueue enc sha).run_induction_of_trace
    (P := fun w' => ∃ step', w'.shared.db.stepOf operationId stepId = some step'
      ∧ step.Unretried step')
    (C := fun w' event => w'.savesRetry operationId stepId event = false) ?_
    ⟨step, hstep, .refl step⟩ h
  rintro w' event hnot ⟨step', hstep', hunretried⟩
  obtain ⟨step'', hstep'', hunretried'⟩ := step_unretried enc sha hnot hstep'
  exact ⟨step'', hstep'', hunretried.trans hunretried'⟩

theorem run_retryCount_le (events : List QueueEvent) :
    ∃ step', ((workQueue enc sha).run w events).shared.db.stepOf operationId stepId = some step'
      ∧ step.retryCount ≤ step'.retryCount := by
  refine (workQueue enc sha).run_induction
    (P := fun w' => ∃ step', w'.shared.db.stepOf operationId stepId = some step'
      ∧ step.retryCount ≤ step'.retryCount) ?_ ⟨step, hstep, Nat.le_refl _⟩ events
  rintro w' event ⟨step', hstep', hle⟩
  cases hsaves : w'.savesRetry operationId stepId event with
  | true =>
    obtain ⟨step'', hstep'', hcount⟩ := step_savesRetry enc sha hsaves hstep'
    exact ⟨step'', hstep'', by omega⟩
  | false =>
    obtain ⟨step'', hstep'', hunretried⟩ := step_unretried enc sha hsaves hstep'
    exact ⟨step'', hstep'', by rw [hunretried.retryCount]; exact hle⟩

theorem run_retryCount_lt {entry : Machine.Entry WorkQueue QueueEvent Unit}
    (hentry : entry ∈ (workQueue enc sha).trace w events)
    (hsaves : entry.pre.savesRetry operationId stepId entry.call = true) :
    ∃ step', ((workQueue enc sha).run w events).shared.db.stepOf operationId stepId = some step'
      ∧ step.retryCount < step'.retryCount := by
  obtain ⟨xs, ys, htrace⟩ := append_of_mem hentry
  obtain ⟨before, event, after, rfl, -, rfl, -⟩ := trace_eq_append_cons htrace
  obtain ⟨step₁, hstep₁, hle₁⟩ := run_retryCount_le enc sha hstep before
  obtain ⟨step₂, hstep₂, hcount⟩ := step_savesRetry enc sha hsaves hstep₁
  obtain ⟨step₃, hstep₃, hle₃⟩ := run_retryCount_le enc sha hstep₂ after
  refine ⟨step₃, ?_, by omega⟩
  rw [run_append, run_cons]
  exact hstep₃

end Runs

/-! ## How handlers go on -/

/-- Where a handler comes from that is there after an event. -/
inductive Handler.From (enc : Encoding) (w : WorkQueue) (event : QueueEvent) (handler : Handler) :
    Prop where
  | before (mem : handler ∈ w.handlers.rows)
  | delivered (worker : Worker)
      (started : handler.program = handleMessage enc worker handler.delivery)
  | performed (n : Nature) (op : WorkerOp) (next : op.Reply → HandlerProgram)
      (event_eq : event = .perform handler.id n)
      (mem : ⟨handler.id, handler.delivery, .call op next⟩ ∈ w.handlers.rows)
      (resumed : handler.program = next (workerService.perform w.shared op n).2)

theorem handler_from (enc : Encoding) (sha : Sha256) {w : WorkQueue} {event : QueueEvent}
    {handler : Handler} (h : handler ∈ ((workQueue enc sha).next w event).handlers.rows) :
    handler.From enc w event := by
  have hended : ∀ id, handler ∈ (w.handlers.deleteWhere fun h => h.id == id).rows →
      handler.From enc w event := fun id hmem => .before (mem_deleteWhere.1 hmem).1
  change handler ∈ (w.step enc sha event).handlers.rows at h
  cases event with
  | request => exact .before h
  | send =>
    simp only [WorkQueue.step, send] at h
    split at h
    · exact .before h
    · exact .before h
  | deliver _ _ worker =>
    simp only [WorkQueue.step, deliver] at h
    split at h
    · exact .before h
    split at h
    · exact .before h
    split at h
    · exact .before h
    next handlers hinsert =>
    rcases (mem_insert? hinsert).1 h with h | rfl
    · exact .before h
    · exact .delivered worker rfl
  | perform _ n =>
    simp only [WorkQueue.step, perform] at h
    split at h
    · next id' delivery op next hget =>
      obtain ⟨hmem, rfl⟩ := get?_eq_some_iff.1 hget
      dsimp only at h
      rcases mem_update_cases h hget with rfl | ⟨h, -⟩
      · exact .performed n op next rfl hmem rfl
      · exact .before h
    · exact .before h
  | settle id =>
    simp only [WorkQueue.step, settle] at h
    split at h
    · split at h
      · split at h
        · exact hended id h
        · exact hended id h
      · exact hended id h
    · exact .before h
  | crash id => exact hended id h

/-! ## Executions and where they come from -/

/-- An execution of a step, with all that its handler goes by. -/
structure StepExecution where
  worker : Worker
  delivery : Delivery
  op : OperationRow
  step : StepRow
  envelope : Messaging.Envelope
  request : StepRequest
  lease : Lease
  startedAt : Int

/-- What is left of `runStep` when the runner is to be called. -/
def StepExecution.program (enc : Encoding) (x : StepExecution) : HandlerProgram :=
  .call (.execute (executionContext x.op x.step x.request x.lease)) fun execution =>
  match execution.error with
  | none =>
    commitSuccess enc x.worker x.delivery x.op x.envelope x.request x.lease x.startedAt execution
  | some err =>
    let (permanent, fenced) := classifyExecutionError err
    if fenced then retryOrFailAfter enc x.delivery err.text x.worker.leaseDur
    else failStepExecution enc x.worker x.delivery x.op x.step x.envelope x.request x.lease
      x.startedAt execution.outputs execution.checkpoint err.text permanent

abbrev QueueEntry := Machine.Entry WorkQueue QueueEvent Unit

/-- By this entry the handler has made a call, with this answer. -/
def Performed (id : Nat) (entry : QueueEntry) (op : WorkerOp) (answer : op.Reply) : Prop :=
  ∃ n delivery next, entry.call = .perform id n
    ∧ entry.pre.handlers.get? id = some ⟨id, delivery, .call op next⟩
    ∧ (workerService.perform entry.pre.shared op n).2 = answer

/-- The read of the step and the grant of the lease that an execution goes by, and what happened
    between them. -/
structure StepExecution.Origin (x : StepExecution) (id : Nat) (past : List QueueEntry)
    (read : QueueEntry) (between : List QueueEntry) (grant : QueueEntry) : Prop where
  order : ∃ before after, past = before ++ read :: (between ++ grant :: after)
  read : Performed id read (.getStepState x.request.operationId x.request.stepId) (.ok x.step)
  grant : Performed id grant
    (.acquireLease x.request.operationId x.request.stepId x.worker.workerId x.request.expectedVersion
      x.worker.leaseDur) (.ok x.lease)

variable {past between : List QueueEntry} {read grant : QueueEntry}

theorem StepExecution.Origin.longer {x : StepExecution} {id : Nat} {past' : List QueueEntry}
    (h : x.Origin id past read between grant) (hpast : past <+: past') : x.Origin id past' read between grant := by
  obtain ⟨before, after, rfl⟩ := h.order
  obtain ⟨more, rfl⟩ := hpast
  exact ⟨⟨before, after ++ more, by simp⟩, h.read, h.grant⟩

/-- A program that is about to execute has read a step and been granted a lease. -/
def Originates (enc : Encoding) (id : Nat) (past : List QueueEntry) (p : HandlerProgram) : Prop :=
  ∀ context next, p = .call (.execute context) next →
    ∃ x : StepExecution, p = x.program enc ∧ ∃ read between grant, x.Origin id past read between grant

section Handlers

variable {enc : Encoding} {worker : Worker} {delivery : Delivery} {id : Nat}

/-- The program goes by its history. -/
abbrev HandlerProgram.Tracks (enc : Encoding) (id : Nat) (p : HandlerProgram)
    (past : List QueueEntry) : Prop :=
  p.Follows (Performed id) (Originates enc id) past

/-- The call is an execution. -/
def WorkerOp.isExecute : WorkerOp → Bool
  | execute _ => true
  | _ => false

theorem originates_of_not_execute {op : WorkerOp}
    {next : op.Reply → HandlerProgram} (h : op.isExecute = false) :
    Originates enc id past (.call op next) := by
  intro context next' heq
  injection heq with hop
  rw [hop] at h
  simp [WorkerOp.isExecute] at h

theorem tracks_of_calls {p : HandlerProgram} (h : ∀ op, p.Calls op → op.isExecute = false) :
    Tracks enc id p past :=
  follows_of_calls (fun _ _ _ _ heq => absurd heq (by simp))
    (fun _ _ _ => originates_of_not_execute) h past

/-- A call that is not an execution: the rest is followed for every answer. -/
theorem tracks_call {op : WorkerOp} {next : op.Reply → HandlerProgram} (hop : op.isExecute = false)
    (h : ∀ past', past <+: past' → ∀ entry answer, Performed id entry op answer →
      Tracks enc id (next answer) (past' ++ [entry])) :
    Tracks enc id (.call op next) past :=
  fun past' hpast => ⟨originates_of_not_execute hop, h past' hpast⟩

variable {cause : String} {delay : Int}

theorem failPermanently_calls :
    ∀ op, (failPermanently enc delivery cause).Calls op → op.isExecute = false := by
  intro op h
  simp only [failPermanently, calls_call] at h
  rcases h with rfl | ⟨failedAt, rfl | ⟨published, h⟩⟩
  · rfl
  · rfl
  · cases published <;> simp at h

theorem retryOrFailAfter_calls :
    ∀ op, (retryOrFailAfter enc delivery cause delay).Calls op → op.isExecute = false := by
  intro op h
  unfold retryOrFailAfter at h
  split at h
  · exact failPermanently_calls op h
  · simp at h

variable {op : OperationRow} {step : StepRow} {envelope : Messaging.Envelope}
  {request : StepRequest} {lease : Lease} {startedAt : Int}

theorem commitSuccess_calls {execution : Execution} :
    ∀ op', (commitSuccess enc worker delivery op envelope request lease startedAt execution).Calls op'
      → op'.isExecute = false := by
  intro op' h
  simp only [commitSuccess, calls_call] at h
  rcases h with rfl | ⟨completedAt, rfl | ⟨eventId, rfl | ⟨reply, h⟩⟩⟩
  · rfl
  · rfl
  · rfl
  split at h
  · simp at h
  · simp at h
  · simp at h
  · exact retryOrFailAfter_calls op' h

theorem failStepExecution_calls {outputs : Option (List (String × String))} {checkpoint : String}
    {permanent : Bool} :
    ∀ op', (failStepExecution enc worker delivery op step envelope request lease startedAt outputs
      checkpoint cause permanent).Calls op' → op'.isExecute = false := by
  intro op' h
  simp only [failStepExecution, calls_call] at h
  rcases h with rfl | ⟨completedAt, h⟩
  · rfl
  split at h
  · simp only [saveRetry, calls_call] at h
    rcases h with rfl | ⟨reply, h⟩
    · rfl
    · split at h
      · exact retryOrFailAfter_calls op' h
      · simp at h
  simp only [commitFailure, calls_call] at h
  rcases h with rfl | ⟨eventId, rfl | ⟨reply, h⟩⟩
  · rfl
  · rfl
  split at h
  · simp at h
  · simp at h
  · split at h
    · exact failPermanently_calls op' h
    · simp at h

/-- An execution is one of a step that was read and a lease that was granted, and nothing is executed
    after it. -/
theorem tracks_execution (x : StepExecution) (h : x.Origin id past read between grant) :
    Tracks enc id (x.program enc) past := by
  intro past' hpast
  refine ⟨fun _ _ _ => ⟨x, rfl, read, between, grant, h.longer hpast⟩, fun entry execution _ => ?_⟩
  refine tracks_of_calls ?_
  simp only []
  split
  · exact commitSuccess_calls
  · split
    · exact retryOrFailAfter_calls
    · exact failStepExecution_calls

theorem tracks_runStep {x : StepExecution} {satisfied : Bool}
    (h : x.Origin id past read between grant) :
    Tracks enc id (runStep enc x.worker x.delivery x.op x.step x.envelope x.request
      satisfied x.lease) past := by
  refine tracks_call rfl fun past' hpast entry startedAt _ => ?_
  split
  · exact tracks_of_calls failStepExecution_calls
  split
  · exact tracks_of_calls failStepExecution_calls
  have hlonger := h.longer (hpast.trans (prefix_append past' [entry]))
  exact tracks_execution { x with startedAt := startedAt } ⟨hlonger.order, h.read, h.grant⟩

theorem tracks_handleStep :
    Tracks enc id (handleStep enc worker delivery op envelope request) past := by
  refine tracks_call rfl fun past₁ _ read reply hread => ?_
  split
  · exact tracks_of_calls retryOrFailAfter_calls
  next step =>
  split
  · exact tracks_of_calls (by simp)
  split
  · exact tracks_of_calls (by simp)
  split
  · exact tracks_of_calls failPermanently_calls
  refine tracks_call rfl fun past₂ hpast₂ entry reply hentry => ?_
  split
  · exact tracks_of_calls retryOrFailAfter_calls
  refine tracks_call rfl fun past₃ hpast₃ grant reply hgrant => ?_
  split
  · next lease =>
    obtain ⟨more₂, rfl⟩ := hpast₂
    obtain ⟨more₃, rfl⟩ := hpast₃
    have horigin : StepExecution.Origin ⟨worker, delivery, op, step, envelope, request, lease, 0⟩ id
        (past₁ ++ [read] ++ more₂ ++ [entry] ++ more₃ ++ [grant]) read (more₂ ++ entry :: more₃)
        grant := ⟨⟨past₁, [], by simp⟩, hread, hgrant⟩
    exact tracks_runStep horigin
  · exact tracks_of_calls retryOrFailAfter_calls
  · exact tracks_of_calls retryOrFailAfter_calls

theorem tracks_handleMessage : Tracks enc id (handleMessage enc worker delivery) past := by
  unfold handleMessage
  split
  · exact tracks_of_calls failPermanently_calls
  refine tracks_call rfl fun past₁ _ entry reply _ => ?_
  split
  · exact tracks_of_calls retryOrFailAfter_calls
  split
  · exact tracks_of_calls (by simp)
  split
  · exact tracks_of_calls retryOrFailAfter_calls
  split
  · exact tracks_of_calls failPermanently_calls
  · exact tracks_handleStep

end Handlers

/-! ## Every execution -/

theorem tracks_run (enc : Encoding) (sha : Sha256) (db : DB) (events : List QueueEvent) :
    ∀ handler ∈ ((workQueue enc sha).run (empty db) events).handlers.rows,
      Tracks enc handler.id handler.program
        ((workQueue enc sha).trace (empty db) events) := by
  refine (workQueue enc sha).history_induction (P := fun w past => ∀ handler ∈ w.handlers.rows,
      Tracks enc handler.id handler.program past)
    (C := fun _ _ => True) ?_ ?_ (fun _ _ => trivial)
  · intro w past event _ ih handler hhandler
    cases handler_from enc sha hhandler with
    | before mem => exact (ih handler mem).longer (prefix_append _ _)
    | delivered _ started =>
      rw [started]
      exact tracks_handleMessage
    | performed n _ next event_eq mem resumed =>
      rw [resumed]
      refine (ih _ mem).perform ⟨n, handler.delivery, next, event_eq, ?_, rfl⟩
      exact get?_eq_some_iff.2 ⟨mem, rfl⟩
  · intro handler hhandler
    simp [WorkQueue.empty, Table.empty] at hhandler

/-- The execution uses the checkpoint and the retry count that the database holds for its step. -/
def StepExecution.UsesCommitted (x : StepExecution) (db : DB) : Prop :=
  ∃ row, db.stepOf x.request.operationId x.request.stepId = some row
    ∧ x.step.checkpoint = row.checkpoint ∧ x.step.retryCount = row.retryCount

/-- What an execution has read is what the database held when its lease was granted exactly if no
    retry of the step was saved in between. -/
theorem StepExecution.Origin.usesCommitted_iff {enc : Encoding} {sha : Sha256} {db : DB}
    {events : List QueueEvent} {x : StepExecution} {id : Nat}
    (h : x.Origin id ((workQueue enc sha).trace (empty db) events) read between grant) :
    x.UsesCommitted grant.pre.shared.db ↔ ∀ entry ∈ between,
      entry.pre.savesRetry x.request.operationId x.request.stepId entry.call = false := by
  obtain ⟨before, after, horder⟩ := h.order
  obtain ⟨events₁, event₁, events₂, -, -, hreadEntry, hrest⟩ := trace_eq_append_cons horder
  obtain ⟨events₃, event₃, events₄, -, hbetween, hgrantEntry, -⟩ := trace_eq_append_cons hrest.symm
  -- The read leaves the database, so the step is still there when the rest begins.
  have hstep : read.post.shared.db.stepOf x.request.operationId x.request.stepId = some x.step := by
    obtain ⟨n, delivery, next, hcall, hget, hanswer⟩ := h.read
    have hdb : read.post.shared.db = read.pre.shared.db := by
      have hpost : read.post = read.pre.step enc sha read.call := by
        rw [hreadEntry]
        rfl
      rw [hpost, step_db, hcall]
      simp only [request?, hget]
      rfl
    rw [hdb]
    exact getStepState_ok (read_eq_ok hanswer)
  have hpre : grant.pre = (workQueue enc sha).run read.post events₃ := by
    rw [hgrantEntry]
    rfl
  obtain ⟨row, hrow, hactive⟩ : ∃ row, grant.pre.shared.db.stepOf x.request.operationId
      x.request.stepId = some row ∧ row.status.isActive = true := by
    obtain ⟨n, delivery, next, -, -, hanswer⟩ := h.grant
    obtain ⟨op, row, hgrantable, -⟩ := acquireLease_ok (Prod.ext rfl (Shared.transact_eq_ok hanswer))
    exact ⟨row, hgrantable.stored, hgrantable.active⟩
  rw [hbetween]
  constructor
  · rintro ⟨row', hrow', -, hcount⟩ entry hentry
    by_contra hsaves
    obtain ⟨row'', hrow'', hlt⟩ := run_retryCount_lt enc sha hstep hentry (by simpa using hsaves)
    rw [← hpre, hrow', Option.some.injEq] at hrow''
    subst hrow''
    omega
  · intro hnone
    obtain ⟨row', hrow', hunretried⟩ := run_unretried enc sha hstep hnone
    rw [← hpre, hrow, Option.some.injEq] at hrow'
    subst hrow'
    exact ⟨row, hrow, (hunretried.checkpoint hactive).symm, hunretried.retryCount.symm⟩

/-- In every run of any number of handlers, a handler that is about to execute has read its step and
    then been granted its lease. The checkpoint and the retry count it goes by are those that were
    committed when the lease was granted exactly if no retry of the step was saved in between. -/
theorem execution_current_iff (enc : Encoding) (sha : Sha256) (db : DB) (events : List QueueEvent)
    (handler : Handler)
    (hhandler : handler ∈ ((workQueue enc sha).run (empty db) events).handlers.rows)
    (context : ExecutionContext) (next : Execution → HandlerProgram)
    (hexecutes : handler.program = .call (.execute context) next) :
    ∃ x : StepExecution, handler.program = x.program enc ∧ ∃ read between grant,
        x.Origin handler.id ((workQueue enc sha).trace (empty db) events) read between grant
        ∧ (x.UsesCommitted grant.pre.shared.db ↔ ∀ entry ∈ between,
            entry.pre.savesRetry x.request.operationId x.request.stepId entry.call = false) := by
  obtain ⟨x, hprogram, read, between, grant, horigin⟩ :=
    (tracks_run enc sha db events handler hhandler).now context next hexecutes
  exact ⟨x, hprogram, read, between, grant, horigin, horigin.usesCommitted_iff⟩

/-- A handler of the deployment's command, up to the execution. -/
def firstExecution : List QueueEvent :=
  .deliver 0 0 { workerId := "worker-1", leaseDur := 30000000, hasRunner := true } true
    :: replicate 5 (.perform 0 answered.nature)

theorem execution_current_iff_of_deployment :
    let trace := (workQueue ⟨fun _ => "", id⟩ ⟨fun _ => "digest", fun _ => "digest"⟩).trace
      (empty deployed) (.send deployCommand :: firstExecution)
    ∃ handler ∈ (runDeployment firstExecution).handlers.rows, ∃ x : StepExecution,
      handler.program = x.program ⟨fun _ => "", id⟩
      ∧ ∃ read between grant, x.Origin handler.id trace read between grant
        ∧ (x.UsesCommitted grant.pre.shared.db ↔ ∀ entry ∈ between,
            entry.pre.savesRetry x.request.operationId x.request.stepId entry.call = false) :=
  ⟨_, mem_cons_self, execution_current_iff ⟨fun _ => "", id⟩
    ⟨fun _ => "digest", fun _ => "digest"⟩ deployed (.send deployCommand :: firstExecution) _
    mem_cons_self _ _ rfl⟩

/-- An execution that fails and leaves a checkpoint. -/
def interrupted : Nature :=
  { answered.nature with
    execution := { outputs := none, checkpoint := "c1", error := some (.other "timeout") } }

/-- Two deliveries of the command. The first handler has read the step when the second executes it,
    saves a retry and releases the lease; then the first asks for the lease. -/
def overtaken : List QueueEvent :=
  [.deliver 0 0 { workerId := "worker-1", leaseDur := 30000000, hasRunner := true } true,
    .perform 0 answered.nature, .perform 0 answered.nature,
    .deliver 0 1 { workerId := "worker-2", leaseDur := 30000000, hasRunner := true } true]
    ++ replicate 8 (.perform 1 interrupted)
    ++ [.perform 0 answered.nature]

/-- When the first handler asks for the lease, the step has the checkpoint of its first execution and
    one retry. It is granted the lease and executes the step without the checkpoint. -/
theorem overtaken_execution_outdated :
    let asking := runDeployment overtaken
    let executing := runDeployment (overtaken ++ replicate 2 (.perform 0 answered.nature))
    ∃ handler ∈ executing.handlers.rows, ∃ context next,
      handler.program = .call (.execute context) next ∧ context.checkpoint = ""
        ∧ (asking.shared.db.stepOf context.operationId context.stepId).map
          (fun row => (row.checkpoint, row.retryCount)) = some ("c1", 1) :=
  ⟨_, mem_cons_self, _, _, rfl, rfl, by decide +kernel⟩

end HnbCloud.Operation
