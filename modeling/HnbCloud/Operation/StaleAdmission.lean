import HnbCloud.Operation.PlatformStore

set_option autoImplicit false

/-! # Admission of an intent against a stale target

`handleSubmitIntent` of platform-api between the authorization of an intent and `SubmitIntent`: the
target of an upgrade or a removal is resolved (`admitClusterIntent`), and if its last observation is
too old the configured policy decides what becomes of the intent (`admitStaleTarget`). A caller first
gets a challenge, and comes back with it as a risk confirmation.

The outcome of the policy replaces the status the operation would start in: `cmd.InitialStatus` is
set from it whatever the operation type says. Freshness is therefore the only input by which a
caller gets another initial status than `InitialStatus(operationType)`.

Times are in nanoseconds. What the signer accepts is left open: the results hold for every one. -/

namespace HnbCloud.Operation

open IntentSubmitCommand

/-! ## The policy -/

/-- `stale.Outcome`. -/
inductive StaleOutcome where
  | allow
  | requireApproval
  | queuedOffline
  | deny
deriving DecidableEq, Repr

/-- `stale.Policy`. -/
structure StalePolicy where
  (upgrade unmanage : StaleOutcome)

namespace StalePolicy

/-- `DefaultPolicy`. -/
def default : StalePolicy where
  upgrade := .requireApproval
  unmanage := .requireApproval

def evaluate (policy : StalePolicy) (kind : IntentKind) : StaleOutcome :=
  if kind = .deleteRuntimeTarget then policy.unmanage else policy.upgrade

end StalePolicy

/-! ## The challenge -/

/-- `store.RuntimeTarget`, the columns the admission reads. -/
structure ResolvedTarget where
  (id targetType : String)
  (projectionVersion observationGeneration observationRevision : Int)
  observedAt : Option Int
  staleThresholdSec : Int

def runtimeTargetKind (targetType : String) : String :=
  if targetType = "kubernetes" then "KubernetesTarget"
  else if targetType = "edge_runtime" then "EdgeRuntimeTarget"
  else ""

def second : Int := 1000000000

/-- `staleTarget`: never observed, or observed longer ago than the threshold. -/
def ResolvedTarget.stale (target : ResolvedTarget) (now : Int) : Bool :=
  match target.observedAt with
  | none => true
  | some observedAt => decide (now - observedAt > target.staleThresholdSec * second)

structure ChallengeClaims where
  (tenantId actorId targetId targetKind intentKind intentDigest : String)
  (projectionVersion observationGeneration observationRevision observedAt issuedAt expiresAt : Int)
deriving DecidableEq, Repr

/-- `stale.Signer`, as the admission uses it: whether it takes a token for these claims now. -/
structure StaleSigner where
  verify : Int → String → ChallengeClaims → Bool

/-- `ConfigureStaleAdmission`. -/
structure StaleConfig where
  staleSigner : Option StaleSigner
  stalePolicy : StalePolicy

structure RiskConfirmation where
  acknowledged : Bool
  (confirmation reason : String)

/-! ## The handler -/

/-- An intent that has been validated, authorized and planned, with what the handler reads on the
    way to the store. The command does not have the outcome of the policy yet. -/
structure IntentSubmission where
  cmd : IntentSubmitCommand
  /-- What `GetRuntimeTarget` answers; `none` is an error. -/
  resolved : Option ResolvedTarget
  riskConfirmation : Option RiskConfirmation
  now : Int
  /-- Whether the security audit takes a row. -/
  auditAvailable : Bool

/-- The problem a refused request is answered with. -/
structure Problem where
  status : Nat
  (code detail : String)
deriving DecidableEq, Repr

namespace IntentSubmission

variable (submission : IntentSubmission)

/-- The two kinds that act on an existing target. -/
def actsOnTarget : Bool :=
  decide (submission.cmd.kind = .upgradeRuntimeTarget)
    || decide (submission.cmd.kind = .deleteRuntimeTarget)

/-- `admitClusterIntent`, its checks of the target. -/
def admitClusterIntent : Except Problem (Option ResolvedTarget) :=
  if submission.actsOnTarget = false then .ok none else
  match submission.resolved with
  | none => .error ⟨404, "target_not_found", "runtime target not found"⟩
  | some target =>
  if runtimeTargetKind target.targetType ≠ submission.cmd.targetKind then
    .error ⟨404, "target_not_found", "runtime target not found"⟩
  else if target.projectionVersion ≠ submission.cmd.expectedTargetVersion then
    .error ⟨409, "target-version-conflict", "runtime target version changed"⟩
  else .ok (some target)

def staleChallengeClaims (target : ResolvedTarget) : ChallengeClaims where
  tenantId := submission.cmd.tenantId
  actorId := submission.cmd.subjectId
  targetId := target.id
  targetKind := submission.cmd.targetKind
  intentKind := submission.cmd.kind.text
  intentDigest := submission.cmd.intentDigest
  projectionVersion := target.projectionVersion
  observationGeneration := target.observationGeneration
  observationRevision := target.observationRevision
  observedAt := (target.observedAt.map (· / second)).getD 0
  issuedAt := 0
  expiresAt := 0

/-- A refusal that is recorded first: without the record the answer is another. -/
def refuse (problem : Problem) : Except Problem (Option StaleOutcome) :=
  if submission.auditAvailable then .error problem
  else .error ⟨503, "audit-unavailable", "security audit is unavailable"⟩

/-- `admitStaleTarget`: the outcome of the policy, if it was asked. -/
def admitStaleTarget (config : StaleConfig) (target : Option ResolvedTarget) :
    Except Problem (Option StaleOutcome) :=
  match target with
  | none => .ok none
  | some target =>
  if submission.actsOnTarget = false then .ok none else
  if target.stale submission.now = false then .ok none else
  match config.staleSigner with
  | none => .error ⟨503, "stale-policy-unavailable", "stale target policy is unavailable"⟩
  | some signer =>
  match submission.riskConfirmation with
  -- The challenge is issued in the answer.
  | none => submission.refuse ⟨409, "STALE_CONFIRMATION_REQUIRED", "Stale confirmation required"⟩
  | some confirmation =>
  if signer.verify submission.now confirmation.confirmation
      (submission.staleChallengeClaims target) = false then
    submission.refuse
      ⟨409, "stale-confirmation-expired", "stale confirmation is invalid or expired"⟩
  else
  match config.stalePolicy.evaluate submission.cmd.kind with
  | .deny =>
    submission.refuse ⟨409, "stale-policy-denied", "stale target policy denied the action"⟩
  | outcome => .ok (some outcome)

/-- The `switch` that sets `cmd.InitialStatus`. -/
def initialStatusOf : Option StaleOutcome → Option StalePolicyOutcome
  | some .requireApproval => some .requireApproval
  | some .queuedOffline => some .queuedOffline
  | some .allow => some .allow
  | some .deny | none => none

/-- `handleSubmitIntent` up to its call of `SubmitIntent`. Only the two kinds of
    `admitClusterIntent` have a target that can be stale, so the other kinds pass through. -/
def handleSubmitIntent (config : StaleConfig) : Except Problem IntentSubmitCommand :=
  match submission.admitClusterIntent with
  | .error problem => .error problem
  | .ok target =>
  match submission.admitStaleTarget config target with
  | .error problem => .error problem
  | .ok outcome =>
    .ok { submission.cmd with
      runtimeTargetId := (target.map ResolvedTarget.id).getD submission.cmd.runtimeTargetId
      stalePolicy := initialStatusOf outcome }

end IntentSubmission

/-- `handleCreateRuntimeIntentBatch`, one of its deletions: the policy is not asked. -/
def batchIntent (cmd : IntentSubmitCommand) : IntentSubmitCommand :=
  { cmd with kind := .deleteRuntimeTarget, stalePolicy := none }

/-! ## What the handler decides -/

section Specs

variable {submission : IntentSubmission} {config : StaleConfig}

/-- The signer takes the confirmation of the challenge for this target. -/
def IntentSubmission.Confirms (config : StaleConfig) (submission : IntentSubmission)
    (target : ResolvedTarget) : Prop :=
  ∃ signer confirmation, config.staleSigner = some signer
    ∧ submission.riskConfirmation = some confirmation
    ∧ signer.verify submission.now confirmation.confirmation
      (submission.staleChallengeClaims target) = true

/-- The removal of a target in the version that is there, which is stale under a policy that allows
    it, with a confirmation that is accepted. -/
def IntentSubmission.AllowedStaleRemoval (config : StaleConfig) (submission : IntentSubmission) :
    Prop :=
  submission.cmd.kind = .deleteRuntimeTarget
    ∧ (∃ target, submission.admitClusterIntent = .ok (some target)
      ∧ target.stale submission.now = true ∧ submission.Confirms config target)
    ∧ config.stalePolicy.unmanage = .allow

/-- The policy is asked about the upgrade or the removal of a stale target only. -/
theorem IntentSubmission.admitStaleTarget_eq_some {target : Option ResolvedTarget}
    {outcome : StaleOutcome}
    (h : submission.admitStaleTarget config target = .ok (some outcome)) :
    submission.actsOnTarget = true
      ∧ (∃ t, target = some t ∧ t.stale submission.now = true ∧ submission.Confirms config t)
      ∧ config.stalePolicy.evaluate submission.cmd.kind = outcome := by
  unfold admitStaleTarget refuse at h
  split at h
  · simp at h
  next t =>
  split at h
  · simp at h
  next hacts =>
  split at h
  · simp at h
  next hstale =>
  split at h
  · simp at h
  next signer hsigner =>
  split at h
  · split at h <;> simp at h
  next confirmation hconfirmation =>
  split at h
  · split at h <;> simp at h
  next hverify =>
  split at h
  · split at h <;> simp at h
  · simp only [Except.ok.injEq, Option.some.injEq] at h
    exact ⟨by simpa using hacts, ⟨t, rfl, by simpa using hstale, signer, confirmation, hsigner,
      hconfirmation, by simpa using hverify⟩, h⟩

/-- A high-risk intent that the handler passes on starts `queued` only as a removal of a stale
    target that the policy allows. -/
theorem IntentSubmission.initialStatus_ne_queued {cmd : IntentSubmitCommand}
    (h : submission.handleSubmitIntent config = .ok cmd)
    (hrisk : cmd.kind.toOperationType.isHighRisk = true)
    (hallowed : ¬ submission.AllowedStaleRemoval config) : cmd.initialStatus ≠ .queued := by
  unfold handleSubmitIntent at h
  split at h
  · simp at h
  next target htarget =>
  split at h
  · simp at h
  next outcome houtcome =>
  cases h
  rcases outcome with _ | outcome
  · simp [initialStatus, initialStatusOf, OperationType.initialStatus, hrisk]
  obtain ⟨hacts, ⟨t, rfl, hstale, hconfirms⟩, heval⟩ := admitStaleTarget_eq_some houtcome
  have hkind : submission.cmd.kind = .deleteRuntimeTarget := by
    simp only [actsOnTarget, Bool.or_eq_true, decide_eq_true_eq] at hacts
    rcases hacts with hk | hk
    · simp [hk, IntentKind.toOperationType, OperationType.isHighRisk] at hrisk
    · exact hk
  cases outcome with
  | allow =>
    refine absurd ⟨hkind, ⟨t, htarget, hstale, hconfirms⟩, ?_⟩ hallowed
    simpa [StalePolicy.evaluate, hkind] using heval
  | requireApproval | queuedOffline =>
    simp [initialStatus, initialStatusOf, StalePolicyOutcome.initialStatus]
  | deny =>
    simp [initialStatus, initialStatusOf, OperationType.initialStatus, hrisk]

end Specs

end HnbCloud.Operation
