import HnbCloud.Operation.ApprovalGate

set_option autoImplicit false

/-! # Operations that wait for their target

For a stale target the policy can let the handler accept an intent as `queued_offline`. The table of
transitions goes on from there to `in_progress` and to `failed`, but nobody makes these transitions:
an approval and a rejection want `pending_approval`, a cancellation wants a table entry that is not
there, a worker takes steps of operations that are `queued` or `in_progress`, and an observation of
the target writes no operation. Such an operation stays as it was accepted. -/

namespace HnbCloud.Operation

open List Table

variable {db db' : DB} {op : OperationRow} {id : String}

/-- A command to run a step of the operation is in the outbox, or the operation has ended. -/
def DispatchedOrEnded (db : DB) (id : String) : Prop :=
  (∃ row ∈ db.outbox.rows, row.event.messageType = stepRequestedSubject
    ∧ row.event.operationId = id)
  ∨ ∃ op, db.operations.get? id = some op ∧ op.status.isTerminal = true

/-- No operation leaves `queued_offline`, and none comes to it later. -/
theorem Effect.queuedOffline_kept (h : Effect db db') (hop : db.operations.get? id = some op) :
    ∃ op', db'.operations.get? id = some op' ∧ (op.status = .queuedOffline → op' = op)
      ∧ (op'.status = .queuedOffline → op.status = .queuedOffline) := by
  obtain ⟨more, hbecomes, -⟩ := h.operations_become
  obtain ⟨op', hop', hop⟩ := hbecomes.get? hop
  refine ⟨op', hop', ?_⟩
  cases hop with
  | same => exact ⟨fun _ => rfl, fun h => h⟩
  | approved _ _ _ _ waiting => simp [waiting, OperationRow.transition]
  | ended _ _ allowed =>
    refine ⟨fun hoffline => ?_, by simp [OperationRow.transition]⟩
    rw [hoffline] at allowed
    exact absurd allowed (by decide)
  | recorded _ _ runnable =>
    refine ⟨fun hoffline => by simp [hoffline, OperationStatus.isRunnable] at runnable, ?_⟩
    simp only [OperationRow.recordStep]
    split_ifs <;> simp

/-- Every command is for a stored operation that is not offline. -/
def CommandsOnline (db : DB) : Prop :=
  ∀ row ∈ db.outbox.rows, row.event.messageType = stepRequestedSubject →
    ∃ op, db.operations.get? row.event.operationId = some op ∧ op.status ≠ .queuedOffline

variable (config : StaleConfig) (sha : Sha256)

theorem CommandsOnline.step (db : DB) (request : ServiceRequest) (h : CommandsOnline db) :
    CommandsOnline ((services config sha).next db request) := by
  rcases services_does config sha db request with hnext | ⟨call, hcall, hdoes⟩
  · rwa [hnext]
  intro row hrow hcommand
  rcases hdoes.command_origin (ServiceCall.events_not_commands hcall) hrow hcommand with hrow
    | ⟨op, hop, hqueued, -⟩
  · obtain ⟨op, hop, honline⟩ := h row hrow hcommand
    obtain ⟨op', hop', -, honline'⟩ := hdoes.effect.queuedOffline_kept hop
    exact ⟨op', hop', mt honline' honline⟩
  · exact ⟨op, hop, by simp [hqueued]⟩

theorem run_queuedOffline {db : DB} (honline : CommandsOnline db)
    (hop : db.operations.get? id = some op) (hoffline : op.status = .queuedOffline)
    (requests : List ServiceRequest) :
    ¬ DispatchedOrEnded ((services config sha).run db requests) id := by
  have hkept : ((services config sha).run db requests).operations.get? id = some op := by
    refine (services config sha).run_induction (P := fun db => db.operations.get? id = some op)
      (fun db request h => ?_) hop requests
    rcases services_does config sha db request with hnext | ⟨call, -, hdoes⟩
    · rwa [hnext]
    · obtain ⟨op', hop', hsame, -⟩ := hdoes.effect.queuedOffline_kept h
      rwa [hsame hoffline] at hop'
  rintro (⟨row, hrow, hcommand, rfl⟩ | ⟨op', hop', hterminal⟩)
  · obtain ⟨op', hop', hne⟩ := (services config sha).run_induction (CommandsOnline.step config sha)
      honline requests row hrow hcommand
    cases hkept.symm.trans hop'
    exact hne hoffline
  · cases hkept.symm.trans hop'
    simp [hoffline, OperationStatus.isTerminal] at hterminal

theorem commandsOnline_run (now : Int) (requests : List ServiceRequest) :
    CommandsOnline ((services config sha).run (DB.empty now) requests) :=
  (services config sha).run_induction (CommandsOnline.step config sha)
    (by simp [CommandsOnline, DB.empty]) requests

/-- **Waiting for the target.** In every run of the services: an operation that is `queued_offline`
    is never dispatched and never ends, whatever is requested and observed afterwards. -/
theorem queued_offline_never_ends (now : Int) (requests : List ServiceRequest) (id : String)
    (op : OperationRow)
    (hop : ((services config sha).run (DB.empty now) requests).operations.get? id = some op)
    (hoffline : op.status = .queuedOffline) :
    ¬ ∃ more, DispatchedOrEnded ((services config sha).run (DB.empty now) (requests ++ more)) id := by
  rintro ⟨more, h⟩
  rw [Machine.run_append] at h
  exact run_queuedOffline config sha (commandsOnline_run config sha now requests) hop hoffline more h

/-- The removal of a target that was never observed, under the policy `queued_offline`. -/
theorem queued_offline_never_ends_of_removal :
    let services := services (staleConfig .queuedOffline) ⟨fun _ => "digest", fun _ => "digest"⟩
    ∃ op, (services.run (DB.empty 0) removalRequests).operations.get? "op1" = some op
      ∧ op.status = .queuedOffline
      ∧ ¬ ∃ more, DispatchedOrEnded (services.run (DB.empty 0) (removalRequests ++ more)) "op1" :=
  ⟨_, rfl, rfl, queued_offline_never_ends _ _ _ _ _ _ rfl rfl⟩

/-- That removal is accepted, and then approved, rejected and cancelled in vain. -/
theorem removal_stuck_offline :
    let services := services (staleConfig .queuedOffline) ⟨fun _ => "digest", fun _ => "digest"⟩
    let db := services.run (DB.empty 0) removalRequests
    (db.operations.get? "op1").map OperationRow.status = some .queuedOffline
      ∧ ∀ requests, ¬ DispatchedOrEnded (services.run db requests) "op1" :=
  ⟨rfl, run_queuedOffline _ _ (commandsOnline_run _ _ 0 removalRequests) rfl rfl⟩

end HnbCloud.Operation
