import HnbCloud.Lib.Machine
import HnbCloud.Operation.Status

set_option autoImplicit false

/-! # The status of a batch

A batch has a child operation for each of its targets whose submission succeeded.
`RefreshOperationBatchStatus` derives its status from counts over the children that are attached. So
a target without a child is not missed, and a batch whose children have succeeded and have been
cancelled, with no failure among them, goes back to `pending`. -/

namespace HnbCloud.Operation

open List OperationStatus

inductive BatchStatus where
  | pending
  | running
  | partialSucceeded
  | succeeded
  | failed
  | cancelled
  deriving DecidableEq, Repr

def BatchStatus.isTerminal : BatchStatus → Bool
  | pending | running => false
  | _ => true

/-- A row of `operation_batch_children`. -/
structure BatchChild where
  operationId : String
  targetId : String
  ordinal : Nat

/-- A batch, its children, and the operations they refer to. The batch of no target is refused. -/
structure OperationBatch where
  targetIds : { ids : List String // ids ≠ [] }
  children : List BatchChild
  operations : String → OperationStatus
  status : BatchStatus
  succeededChildren : Nat
  failedChildren : Nat
  cancelledChildren : Nat

namespace OperationBatch

variable (b : OperationBatch)

/-- `CreateOperationBatch`. -/
def create (targetIds : { ids : List String // ids ≠ [] }) (operations : String → OperationStatus) :
    OperationBatch :=
  ⟨targetIds, [], operations, .pending, 0, 0, 0⟩

/-- Refused for a target, an operation or an ordinal that the batch has already. -/
def attachOperationBatchChild (child : BatchChild) : OperationBatch :=
  if ∃ c ∈ b.children, c.targetId = child.targetId ∨ c.operationId = child.operationId
      ∨ c.ordinal = child.ordinal then b
  else { b with children := b.children ++ [child] }

/-- The statuses the children are joined with. -/
def statuses : List OperationStatus := b.children.map fun child => b.operations child.operationId

def runningStatuses : List OperationStatus :=
  [.pending, .pendingApproval, .queued, .queuedOffline, .inProgress, .paused, .compensating]

/-- The `CASE` of the update, over the statuses of the children. -/
def caseStatus (statuses : List OperationStatus) : BatchStatus :=
  let total := statuses.length
  let succeeded := statuses.count .succeeded
  let failed := statuses.count .failed
  let cancelled := statuses.count .cancelled
  let running := statuses.countP runningStatuses.contains
  if 0 < running then .running
  else if 0 < failed ∧ 0 < succeeded then .partialSucceeded
  else if 0 < failed then .failed
  else if cancelled = total ∧ 0 < total then .cancelled
  else if succeeded = total ∧ 0 < total then .succeeded
  else .pending

/-- Without children the join has no row, and nothing is updated. -/
def refreshOperationBatchStatus : OperationBatch :=
  if b.statuses = [] then b
  else { b with
    succeededChildren := b.statuses.count .succeeded
    failedChildren := b.statuses.count .failed
    cancelledChildren := b.statuses.count .cancelled
    status := caseStatus b.statuses }

/-- Every target has its child. -/
def complete : Bool := b.targetIds.1.all fun id => b.children.any fun child => child.targetId = id

/-- The status that a batch is to end with. -/
def outcome (statuses : List OperationStatus) : BatchStatus :=
  if ∀ s ∈ statuses, s = .succeeded then .succeeded
  else if ∀ s ∈ statuses, s = .cancelled then .cancelled
  else if .succeeded ∉ statuses ∧ .failed ∈ statuses then .failed
  else .partialSucceeded

/-- The batch is terminal exactly if every target has its child and all children have ended, and
    then with its outcome. -/
def Derived : Prop :=
  (if b.status.isTerminal then some b.status else none)
    = if b.complete && b.statuses.all isTerminal then some (outcome b.statuses)
      else none

/-- Some children have succeeded and some were cancelled, but none has failed. -/
def Mixed (statuses : List OperationStatus) : Prop :=
  .succeeded ∈ statuses ∧ .cancelled ∈ statuses ∧ .failed ∉ statuses

end OperationBatch

inductive BatchCall where
  | attach (child : BatchChild)
  | move (operationId : String) (status : OperationStatus)
  | refresh

/-- A batch while its operations go their ways. -/
def batches : Machine OperationBatch BatchCall Unit where
  step b
    | .attach child => (b.attachOperationBatchChild child, ())
    | .move id status => ({ b with operations := Function.update b.operations id status }, ())
    | .refresh => (b.refreshOperationBatchStatus, ())

open OperationBatch

theorem isTerminal_outcome (statuses : List OperationStatus) :
    (outcome statuses).isTerminal = true := by
  unfold outcome
  split_ifs <;> rfl

variable {statuses : List OperationStatus}

theorem caseStatus_of_open {s : OperationStatus}
    (hs : s ∈ statuses) (hopen : s.isTerminal = false) : caseStatus statuses = .running := by
  refine if_pos (countP_pos_iff.2 ⟨s, hs, ?_⟩)
  cases s <;> first | rfl | simp [isTerminal] at hopen

theorem caseStatus_of_terminal (hne : statuses ≠ []) (hall : ∀ s ∈ statuses, s.isTerminal = true) :
    (Mixed statuses → caseStatus statuses = .pending)
      ∧ (¬ Mixed statuses → caseStatus statuses = outcome statuses) := by
  have hthree : ∀ s ∈ statuses, s = .succeeded ∨ s = .failed ∨ s = .cancelled := by
    intro s hs
    have := hall s hs
    cases s <;> simp_all [isTerminal]
  have hrunning : statuses.countP runningStatuses.contains = 0 := by
    rw [countP_eq_zero]
    intro s hs
    rcases hthree s hs with rfl | rfl | rfl <;> decide
  obtain ⟨s, hs⟩ := exists_mem_of_ne_nil statuses hne
  simp only [Mixed, caseStatus, outcome, hrunning, count_pos_iff, count_eq_length, length_pos_iff]
  grind

theorem pending_of_no_children {b : OperationBatch} (call : BatchCall)
    (h : b.children = [] → b.status = .pending) (hnone : (batches.next b call).children = []) :
    (batches.next b call).status = .pending := by
  cases call with
  | attach =>
    simp only [Machine.next, batches, attachOperationBatchChild] at hnone ⊢
    split_ifs at hnone ⊢
    · exact h hnone
    · simp at hnone
  | move => exact h hnone
  | refresh =>
    simp only [Machine.next, batches, refreshOperationBatchStatus] at hnone ⊢
    split_ifs at hnone ⊢ with hempty
    · exact h hnone
    · simp [statuses, show b.children = [] from hnone] at hempty

theorem derived_refresh_iff {b : OperationBatch} (h : b.children = [] → b.status = .pending) :
    b.refreshOperationBatchStatus.Derived ↔ b.statuses = []
      ∨ (∃ s ∈ b.statuses, s.isTerminal = false) ∨ (b.complete = true ↔ ¬ Mixed b.statuses) := by
  by_cases hempty : b.statuses = []
  · have hnone : b.children = [] := by simpa [statuses] using hempty
    rw [refreshOperationBatchStatus, if_pos hempty]
    simpa [Derived, complete, hempty, hnone, h hnone, BatchStatus.isTerminal] using
      exists_mem_of_ne_nil _ b.targetIds.2
  rw [refreshOperationBatchStatus, if_neg hempty]
  show (if (caseStatus b.statuses).isTerminal then some (caseStatus b.statuses) else none)
    = (if b.complete && b.statuses.all isTerminal then some (outcome b.statuses)
      else none) ↔ _
  by_cases hopen : ∃ s ∈ b.statuses, s.isTerminal = false
  · obtain ⟨s, hs, hs'⟩ := hopen
    have hall : b.statuses.all isTerminal = false := by simpa using ⟨s, hs, hs'⟩
    rw [caseStatus_of_open hs hs', hall, Bool.and_false]
    exact iff_of_true rfl (.inr (.inl ⟨s, hs, hs'⟩))
  have hall : ∀ s ∈ b.statuses, s.isTerminal = true := by simpa using hopen
  obtain ⟨hpending, houtcome⟩ := caseStatus_of_terminal hempty hall
  rw [all_eq_true.2 hall, Bool.and_true]
  by_cases hmixed : Mixed b.statuses
  · rw [hpending hmixed]
    cases hcomplete : b.complete <;> simp [hempty, hopen, hmixed, BatchStatus.isTerminal]
  · rw [houtcome hmixed]
    cases hcomplete : b.complete <;> simp [hempty, hopen, hmixed, isTerminal_outcome]

/-- **Batches.** After every history of a batch: its status is derived as it should be exactly if
    there is no child yet, a child is still open, or either every target has a child or the
    outcomes are mixed, but not both. -/
theorem refreshed_status_iff (targetIds : { ids : List String // ids ≠ [] })
    (operations : String → OperationStatus) (calls : List BatchCall) :
    let b := batches.run (create targetIds operations) calls
    b.refreshOperationBatchStatus.Derived ↔ b.statuses = []
      ∨ (∃ s ∈ b.statuses, s.isTerminal = false) ∨ (b.complete = true ↔ ¬ Mixed b.statuses) :=
  derived_refresh_iff (batches.run_induction (P := fun b => b.children = [] → b.status = .pending)
    (fun _ call h => pending_of_no_children call h) (fun _ => rfl) calls)

/-- Two targets, of which one has its child: its success is the success of the batch. -/
theorem incomplete_batch_succeeds :
    let b := batches.run (create ⟨["t1", "t2"], by decide⟩ fun _ => .queued)
      [.attach ⟨"op1", "t1", 0⟩, .move "op1" .succeeded, .refresh]
    b.status = .succeeded ∧ b.complete = false ∧ ¬ b.Derived := by
  refine ⟨by decide, by decide, ?_⟩
  unfold Derived
  decide

end HnbCloud.Operation
