import HnbCloud.Operation.Dispatch

set_option autoImplicit false

/-! # The transitions of an operation

Five writers change `operations.status`: a submission inserts the row, an approval, a rejection and
a cancellation move it under platform-api's `CanTransition`, and a worker's commit moves it by the
`CASE` of its update, which looks at the outcome and at the counters but not at the table of
transitions.

The `CASE` is right for an operation in progress. For one that is still `queued` it is right only if
the result neither fails the operation nor completes it: a failed first step, and the only step of
an operation, take it from `queued` to `failed` and to `succeeded`, which neither copy of the table
has. -/

namespace HnbCloud.Operation

open Messaging List Table OperationRow OperationStatus

/-- Every status that differs afterwards has been reached by a transition of the table. -/
def StatusChangesAllowed (db db' : DB) : Prop :=
  ∀ id op op', db.operations.get? id = some op → db'.operations.get? id = some op' →
    op'.status ≠ op.status → op.status.canTransition op'.status = true

/-- A commit of a result that ends an operation which is still queued. The commit itself is one the
    worker may make, and its events are new to the outbox. -/
structure Commit.EndsQueued (db : DB) (c : Commit) (op : OperationRow) (step : StepRow) : Prop where
  committable : Committable db c.operationId c.stepId c.idempotencyKey c.ownerId c.lease
    c.expectedVersion op step
  fresh : FreshEvents db.outbox c.events
  queued : op.status = .queued
  ends : c.outcome = .failed ∨ op.totalSteps ≤ op.completedSteps + 1

/-- The request is such a commit, and is not aborted. -/
def Request.EndsQueued (db : DB) (request : Request) : Prop :=
  (∀ drawn, request.fate ≠ .aborted drawn)
    ∧ ∃ c op step, request.call.commit? = some c ∧ c.EndsQueued db op step

/-! ## One call -/

variable {db db' : DB} {op : OperationRow}

theorem StatusChangesAllowed.of_operations_eq (h : db'.operations = db.operations) :
    StatusChangesAllowed db db' := by
  intro id op op' hop hop' hne
  rw [h, hop] at hop'
  cases hop'
  exact absurd rfl hne

/-- An operation whose row is the only one to change has made the only transition. -/
theorem StatusChangesAllowed.of_update {target : OperationRow}
    (f : OperationRow → OperationRow) (hf : ∀ op, (f op).id = op.id)
    (stored : db.operations.get? target.id = some target)
    (h : db'.operations = db.operations.update target.id f hf)
    (hallowed : (f target).status ≠ target.status →
      target.status.canTransition (f target).status = true) : StatusChangesAllowed db db' := by
  intro id op op' hop hop' hne
  rw [h] at hop'
  by_cases hid : id = target.id
  · subst hid
    rw [db.operations.get?_update_self target.id f hf stored] at hop'
    cases hop'
    obtain rfl : target = op := by simpa [stored] using hop
    exact hallowed hne
  · rw [db.operations.get?_update_of_ne target.id f hf hid, hop] at hop'
    cases hop'
    exact absurd rfl hne

theorem StatusChangesAllowed.of_created {steps : List StepRow}
    {ids : FreshIds} {extra : List (String × Json)} (h : Created db db' op steps ids extra) :
    StatusChangesAllowed db db' := by
  intro id old new hold hnew hne
  rw [get?_of_insert? h.operations hold] at hnew
  cases hnew
  exact absurd rfl hne

/-- The `CASE` of the worker's update follows the table unless it ends a queued operation. -/
theorem OperationRow.recordStep_allowed_iff (hrun : op.status.isRunnable = true)
    (outcome : StepOutcome) (result : StepResult) :
    ((op.recordStep outcome result).status ≠ op.status →
      op.status.canTransition (op.recordStep outcome result).status = true)
    ↔ ¬ (op.status = .queued ∧ (outcome = .failed ∨ op.totalSteps ≤ op.completedSteps + 1)) := by
  have hcases : op.status = .queued ∨ op.status = .inProgress := by
    rcases hs : op.status <;> simp_all [isRunnable]
  rcases hcases with hs | hs <;> cases outcome <;>
    by_cases hlast : op.totalSteps ≤ op.completedSteps + 1 <;>
    simp [recordStep, hs, hlast, canTransition, validTransitions]

/-- A commit that goes through makes an allowed transition unless it ends a queued operation. -/
theorem statusChangesAllowed_commitStep_iff {c : Commit} {step : StepRow} (outbox : Outbox)
    (h : Committable db c.operationId c.stepId c.idempotencyKey c.ownerId c.lease c.expectedVersion
      op step) :
    StatusChangesAllowed db (db.commitStep op c.stepId c.ownerId c.lease c.outcome c.result outbox)
      ↔ ¬ (op.status = .queued ∧ (c.outcome = .failed ∨ op.totalSteps ≤ op.completedSteps + 1)) := by
  obtain hid : op.id = c.operationId := key_of_get? h.operation
  have hstored : db.operations.get? op.id = some op := by rw [hid, h.operation]
  rw [← recordStep_allowed_iff h.runnable c.outcome c.result]
  constructor
  · intro hallowed
    exact hallowed op.id op _ hstored (db.operations.get?_update_self op.id
      (recordStep c.outcome c.result) (fun _ => rfl) hstored)
  · exact StatusChangesAllowed.of_update (recordStep c.outcome c.result) (fun _ => rfl) hstored rfl

theorem freshEvents_stampedEvents_iff (outbox : Outbox) (op : OperationRow) (outcome : StepOutcome)
    (result : StepResult) (events : List OutboxEvent) :
    FreshEvents outbox (stampedEvents op outcome result events) ↔ FreshEvents outbox events := by
  have hmem : ∀ event, event ∈ stampedEvents op outcome result events ↔ ∃ e ∈ events,
      { e with aggregateVersion := some (op.recordStep outcome result).version } = event := by
    intro event
    exact mem_map
  constructor
  · rintro ⟨hstored, hdistinct⟩
    refine ⟨fun row hrow event hevent => ?_, pairwise_map.1 hdistinct⟩
    exact hstored row hrow
      { event with aggregateVersion := some (op.recordStep outcome result).version }
      ((hmem _).2 ⟨event, hevent, rfl⟩)
  · rintro ⟨hstored, hdistinct⟩
    refine ⟨fun row hrow event hevent => ?_, pairwise_map.2 hdistinct⟩
    obtain ⟨e, he, rfl⟩ := (hmem event).1 hevent
    exact hstored row hrow e he

/-- What a call does to the status of an operation is allowed, or the call is a commit. -/
theorem Does.statusChangesAllowed {call : Call} (h : Does db call db') : StatusChangesAllowed db db'
      ∨ ∃ c op step outbox, call.commit? = some c
        ∧ Committable db c.operationId c.stepId c.idempotencyKey c.ownerId c.lease c.expectedVersion
          op step
        ∧ FreshEvents db.outbox c.events
        ∧ db' = db.commitStep op c.stepId c.ownerId c.lease c.outcome c.result outbox := by
  cases h with
  | nothing | ticked | observed | granted | renewed | retried =>
    exact .inl (.of_operations_eq rfl)
  | submitted cmd ids planId planDigest hcreated
  | intended _ _ _ _ _ _ hcreated => exact .inl (.of_created hcreated)
  | approved id _ actorId reason _ op _ happroved =>
    obtain rfl : op.id = id := key_of_get? happroved.stored
    refine .inl (.of_update (transition db.now .queued (some actorId) reason)
      (fun _ => rfl) happroved.stored rfl fun _ => ?_)
    rw [happroved.waiting]
    rfl
  | ended _ _ id op approver _ _ reason stored allowed =>
    obtain rfl : op.id = id := key_of_get? stored
    exact .inl (.of_update (transition db.now .cancelled approver reason)
      (fun _ => rfl) stored rfl fun _ => allowed)
  | committed _ c op step outbox asked hcommit sent =>
    refine .inr ⟨c, op, step, outbox, asked, hcommit, ?_, rfl⟩
    rw [← freshEvents_stampedEvents_iff _ op c.outcome c.result, ← insertOutboxEvents_isSome_iff _
      db.now, sent]
    rfl

variable (sha : Sha256)

theorem Call.run_of_committable {call : Call} {c : Commit} {step : StepRow} (asked : call.commit? = some c)
    (hcommit : Committable db c.operationId c.stepId c.idempotencyKey c.ownerId c.lease
      c.expectedVersion op step) (hfresh : FreshEvents db.outbox c.events) :
    ∃ outbox, (call.run sha db).1
      = db.commitStep op c.stepId c.ownerId c.lease c.outcome c.result outbox := by
  rw [← freshEvents_stampedEvents_iff _ op c.outcome c.result, ← insertOutboxEvents_isSome_iff _
    db.now, Option.isSome_iff_exists] at hfresh
  obtain ⟨outbox, sent⟩ := hfresh
  have hrun : (call.run sha db).1 = (commitStepResult db c.operationId c.stepId c.idempotencyKey
      c.ownerId c.lease c.expectedVersion c.outcome c.result c.events).1 := by
    cases call <;> simp only [Call.commit?, Option.some.injEq, reduceCtorEq] at asked
    all_goals
      subst asked
      rfl
  exact ⟨outbox, by rw [hrun, commitStepResult_ok hcommit sent]⟩

/-- A call makes only allowed transitions exactly if it is no commit that ends a queued operation. -/
theorem Call.statusChangesAllowed_iff (db : DB) (call : Call) :
    StatusChangesAllowed db (call.run sha db).1
      ↔ ¬ ∃ c op step, call.commit? = some c ∧ c.EndsQueued db op step := by
  constructor
  · rintro hallowed ⟨c, op, step, asked, h⟩
    obtain ⟨outbox, hrun⟩ := Call.run_of_committable sha asked h.committable h.fresh
    rw [hrun, statusChangesAllowed_commitStep_iff outbox h.committable] at hallowed
    exact hallowed ⟨h.queued, h.ends⟩
  intro hnot
  rcases (call.does sha db).statusChangesAllowed with hallowed | ⟨c, op, step, outbox, asked,
    hcommit, hfresh, heq⟩
  · exact hallowed
  · rw [heq, statusChangesAllowed_commitStep_iff outbox hcommit]
    rintro ⟨hqueued, hends⟩
    exact hnot ⟨c, op, step, asked, hcommit, hfresh, hqueued, hends⟩

/-! ## Every run -/

theorem Request.statusChangesAllowed_iff (db : DB) (request : Request) :
    StatusChangesAllowed db ((engine sha).next db request) ↔ ¬ request.EndsQueued db := by
  obtain ⟨call, fate⟩ := request
  cases fate with
  | answered | replyLost =>
    refine (call.statusChangesAllowed_iff sha db).trans (not_congr ?_)
    simp [Request.EndsQueued]
  | aborted drawn =>
    refine iff_of_true (.of_operations_eq rfl) ?_
    rintro ⟨hfate, -⟩
    exact hfate drawn rfl

/-- **Transitions.** In every interleaving of platform-api and the workers, whatever becomes of
    their requests: a request moves operations only along the table of transitions exactly if it is
    not a commit that ends a queued operation; and no request touches an operation that has
    ended. -/
theorem transitions_allowed_iff (sha : Sha256) (db : DB) (requests : List Request) :
    ∀ entry ∈ (engine sha).trace db requests,
      (StatusChangesAllowed entry.pre entry.post ↔ ¬ entry.call.EndsQueued entry.pre)
      ∧ ∀ id op, entry.pre.operations.get? id = some op → op.status.isTerminal = true →
          entry.post.operations.get? id = some op := by
  refine (engine sha).trace_forall (P := fun _ => True) (fun _ _ _ => trivial) ?_ trivial requests
  intro db request _
  refine ⟨request.statusChangesAllowed_iff sha db, fun id op hop hterminal => ?_⟩
  obtain ⟨op', hop', hevolves⟩ := (engine_effect sha db request).operation_evolves hop
  rw [hevolves.frozen hterminal] at hop'
  exact hop'

/-! ## Deployments -/

/-- At the commit of the first of two steps. -/
theorem transitions_allowed_iff_of_deploy :
    ∃ entry ∈ (engine ⟨fun _ => "digest", fun _ => "digest"⟩).trace (DB.empty 0)
        (deploying ["install", "verify"]), entry.call.call.commit?.isSome = true
      ∧ (StatusChangesAllowed entry.pre entry.post ↔ ¬ entry.call.EndsQueued entry.pre) := by
  refine ⟨_, mem_cons_of_mem _ (mem_cons_of_mem _ mem_cons_self), ?_⟩
  have h := transitions_allowed_iff ⟨fun _ => "digest", fun _ => "digest"⟩ (DB.empty 0)
    (deploying ["install", "verify"]) _ (mem_cons_of_mem _ (mem_cons_of_mem _ mem_cons_self))
  exact ⟨rfl, h.1⟩

/-- A worker leases the only step of a deployment and commits its success. -/
def deployToEnd : List Request := deploying ["install"]

/-- The commit of its only step takes the deployment from `queued` straight to `succeeded`. -/
theorem queued_deploy_succeeds :
    ∃ entry ∈ (engine ⟨fun _ => "digest", fun _ => "digest"⟩).trace (DB.empty 0) deployToEnd,
      ∃ op op', entry.pre.operations.get? "op1" = some op
        ∧ entry.post.operations.get? "op1" = some op'
        ∧ op.status = .queued ∧ op'.status = .succeeded
        ∧ op.status.canTransition op'.status = false := by
  refine ⟨_, mem_cons_of_mem _ (mem_cons_of_mem _ mem_cons_self), _, _, rfl, rfl, ?_⟩
  decide

end HnbCloud.Operation
