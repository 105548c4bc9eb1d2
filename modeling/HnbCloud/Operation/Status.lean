import Mathlib.Data.List.Basic

set_option autoImplicit false

/-! # Operation and step states

The states of an operation and of its steps, and the transition table that platform-api
(`store/state.go`) and operation-worker (`engine/state.go`) each keep a copy of. The two copies are
the same table, so one definition stands for both.

platform-api only moves an operation into `queued` (approval) and `cancelled` (rejection and
cancellation); the transitions of the execution belong to the worker, whose SQL writes them without
consulting the table. -/

namespace HnbCloud.Operation

/-- `operations.status`. -/
inductive OperationStatus where
  | pending
  | pendingApproval
  | queued
  | queuedOffline
  | inProgress
  | paused
  | compensating
  | succeeded
  | failed
  | cancelled
deriving DecidableEq, Repr

namespace OperationStatus

/-- The text of the column. -/
def text : OperationStatus → String
  | pending => "pending"
  | pendingApproval => "pending_approval"
  | queued => "queued"
  | queuedOffline => "queued_offline"
  | inProgress => "in_progress"
  | paused => "paused"
  | compensating => "compensating"
  | succeeded => "succeeded"
  | failed => "failed"
  | cancelled => "cancelled"

def isTerminal : OperationStatus → Bool
  | succeeded | failed | cancelled => true
  | _ => false

/-- The states in which the worker may run a step: it tests these two by name. -/
def isRunnable : OperationStatus → Bool
  | queued | inProgress => true
  | _ => false

/-- `validTransitions`: the states an operation may move to. -/
def validTransitions : OperationStatus → List OperationStatus
  | pending => [pendingApproval, queued, cancelled]
  | pendingApproval => [queued, cancelled]
  | queued => [inProgress, queuedOffline, cancelled]
  | queuedOffline => [inProgress, failed]
  | inProgress => [succeeded, failed, paused, compensating]
  | paused => [inProgress, compensating, cancelled]
  | compensating => [failed, cancelled]
  | succeeded | failed | cancelled => []

def canTransition (source target : OperationStatus) : Bool :=
  source != target && (validTransitions source).contains target

variable {s : OperationStatus}

theorem canTransition_of_isTerminal (h : s.isTerminal = true)
    (t : OperationStatus) : s.canTransition t = false := by
  cases s <;> simp_all [isTerminal, canTransition, validTransitions]

theorem not_isTerminal_of_isRunnable (h : s.isRunnable = true) :
    s.isTerminal = false := by
  cases s <;> simp_all [isTerminal, isRunnable]

/-- What can be cancelled has not started: a running operation is not among them. -/
theorem canTransition_cancelled_iff (s : OperationStatus) : s.canTransition cancelled = true
      ↔ s = pending ∨ s = pendingApproval ∨ s = queued ∨ s = paused ∨ s = compensating := by
  cases s <;> decide

end OperationStatus

/-- `operation_steps.status`. -/
inductive StepStatus where
  | pending
  | running
  | succeeded
  | failed
  | skipped
  | compensated
deriving DecidableEq, Repr

namespace StepStatus

/-- The text of the column. -/
def text : StepStatus → String
  | pending => "pending"
  | running => "running"
  | succeeded => "succeeded"
  | failed => "failed"
  | skipped => "skipped"
  | compensated => "compensated"

/-- `status IN ('pending', 'running')`: the step can still be leased and committed. -/
def isActive : StepStatus → Bool
  | pending | running => true
  | _ => false

end StepStatus

/-- `operations.operation_type`, the values of `validOperationTypes`. -/
inductive OperationType where
  | deploy
  | upgrade
  | rollback
  | scale
  | backup
  | restore
  | switchover
  | delete
  | gc
  | ota
  | configChange
  | storageReclaim
deriving DecidableEq, Repr

namespace OperationType

/-- The text of the column. -/
def text : OperationType → String
  | deploy => "deploy"
  | upgrade => "upgrade"
  | rollback => "rollback"
  | scale => "scale"
  | backup => "backup"
  | restore => "restore"
  | switchover => "switchover"
  | delete => "delete"
  | gc => "gc"
  | ota => "ota"
  | configChange => "config_change"
  | storageReclaim => "storage_reclaim"

/-- `IsHighRisk`: the types that need an approval before they are queued. -/
def isHighRisk : OperationType → Bool
  | delete | rollback | configChange | storageReclaim => true
  | _ => false

def initialStatus (t : OperationType) : OperationStatus :=
  if t.isHighRisk then .pendingApproval else .queued

end OperationType

inductive IntentKind where
  | installRelease
  | uninstallRelease
  | upgradeRelease
  | rollbackRelease
  | changeConfiguration
  | createKubernetesTarget
  | importRuntimeTarget
  | upgradeRuntimeTarget
  | deleteRuntimeTarget
  | importStorageClassBinding
  | reconcileStorageClassBinding
  | installStorageDriver
  | upgradeStorageDriver
  | uninstallStorageDriver
  | releaseRetainedVolume
  | sanitizeRetainedVolume
deriving DecidableEq, Repr

namespace IntentKind

/-- The value of the constant, as it is stored and signed. -/
def text : IntentKind → String
  | installRelease => "InstallRelease"
  | uninstallRelease => "UninstallRelease"
  | upgradeRelease => "UpgradeRelease"
  | rollbackRelease => "RollbackRelease"
  | changeConfiguration => "ChangeConfiguration"
  | createKubernetesTarget => "CreateKubernetesTarget"
  | importRuntimeTarget => "ImportRuntimeTarget"
  | upgradeRuntimeTarget => "UpgradeRuntimeTarget"
  | deleteRuntimeTarget => "DeleteRuntimeTarget"
  | importStorageClassBinding => "ImportStorageClassBinding"
  | reconcileStorageClassBinding => "ReconcileStorageClassBinding"
  | installStorageDriver => "InstallStorageDriver"
  | upgradeStorageDriver => "UpgradeStorageDriver"
  | uninstallStorageDriver => "UninstallStorageDriver"
  | releaseRetainedVolume => "ReleaseRetainedVolume"
  | sanitizeRetainedVolume => "SanitizeRetainedVolume"

/-- `intentKindToOperationType`. -/
def toOperationType : IntentKind → OperationType
  | installRelease => .deploy
  | uninstallRelease => .delete
  | upgradeRelease => .upgrade
  | rollbackRelease => .rollback
  | changeConfiguration => .configChange
  | createKubernetesTarget | importRuntimeTarget => .deploy
  | upgradeRuntimeTarget => .upgrade
  | deleteRuntimeTarget => .delete
  | importStorageClassBinding | reconcileStorageClassBinding => .configChange
  | installStorageDriver => .deploy
  | upgradeStorageDriver => .upgrade
  | uninstallStorageDriver => .delete
  | releaseRetainedVolume | sanitizeRetainedVolume => .storageReclaim

end IntentKind

/-- The statuses the stale-observation policy can give an intent in place of its type's own
    (`cmd.InitialStatus`): `OutcomeRequireApproval`, `OutcomeQueuedOffline` and `OutcomeAllow`. -/
inductive StalePolicyOutcome where
  | requireApproval
  | queuedOffline
  | allow
deriving DecidableEq, Repr

def StalePolicyOutcome.initialStatus : StalePolicyOutcome → OperationStatus
  | requireApproval => .pendingApproval
  | queuedOffline => .queuedOffline
  | allow => .queued

end HnbCloud.Operation
