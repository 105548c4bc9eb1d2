import HnbCloud.Engine.Planner

set_option autoImplicit false

/-! # From a request to a submission

`handleSubmitIntent` and `handleCreateRuntimeIntentBatch` of platform-api: an intent is parsed,
planned and handed to `SubmitIntent`. The two differ in where the intent comes from (the body of the
request, or one target of the batch) and in whether the stale policy is asked.

The correlation id of a request is its header if that has the form of a UUID in lower case, and
otherwise drawn (`TrustedHTTPMiddleware`); the handler refuses a delegation that names another. -/

namespace HnbCloud.Engine

open Operation

/-! ## The caller -/

def correlationPattern (value : String) : Bool :=
  isHyphenatedUuid value && value.toList.all (fun c => !c.isUpper)
    && (value.toList[19]?.map fun c => ['8', '9', 'a', 'b'].contains c).getD false

/-- The caller of a request, as the middleware makes it out. -/
structure Caller where
  (tenantId subjectId : String)
  /-- `X-Correlation-ID`. -/
  correlationHeader : String
  /-- `newCorrelationID`. -/
  drawnCorrelationId : String
  drawn : isUuid drawnCorrelationId = true

def Caller.correlationId (caller : Caller) : String :=
  if correlationPattern (toLower caller.correlationHeader) then toLower caller.correlationHeader
  else caller.drawnCorrelationId

/-! ## Submitting a plan -/

/-- The action an intent is authorized for: `ClusterActionForIntentKind` and its fellows. -/
def commitmentAction : IntentKind → String
  | .upgradeRuntimeTarget | .reconcileStorageClassBinding | .upgradeStorageDriver => "update"
  | .deleteRuntimeTarget | .uninstallStorageDriver => "delete"
  | .releaseRetainedVolume | .sanitizeRetainedVolume => "execute"
  | _ => "create"

/-- The target that a submission provisions: a new one. -/
def provisionTarget (kind : IntentKind) (plan : ExecutionPlan) : Option ProvisionTarget :=
  match plan.targetSnapshot with
  | none => none
  | some snapshot =>
    if snapshot.targetId = "" then none
    else if kind = .createKubernetesTarget then some ⟨snapshot.targetId, "PROVISIONING"⟩
    else if kind = .importRuntimeTarget then some ⟨snapshot.targetId, "REGISTERING"⟩
    else none

/-- The command for `SubmitIntent`, before the stale policy has its say. -/
def submitCommand (p : Planner) (caller : Caller) (intent : RuntimeIntent) (plan : ExecutionPlan) :
    IntentSubmitCommand where
  kind := intent.kind
  idempotencyKey := intent.idempotencyKey
  intentDigest := intent.computeIntentDigest p.hashes
  targetKind := intent.spec.targetKind
  storage :=
    { bindingId := intent.spec.bindingId, bindingVersion := intent.spec.bindingVersion,
      offeringId := intent.spec.offeringId, offeringVersion := intent.spec.offeringVersion,
      targetId := intent.spec.targetId, storageClassName := intent.spec.storageClassName,
      storageClassUid := intent.spec.storageClassUid,
      storageClassResourceVersion := intent.spec.storageClassResourceVersion }
  planSemanticDigest := plan.semanticDigest
  releaseRef := plan.releaseRef
  steps := plan.steps.map Step.planStep
  tenantId := caller.tenantId
  subjectId := caller.subjectId
  correlationId := caller.correlationId
  initiatedBy := caller.subjectId
  runtimeTargetId := if intent.kind.isStorage then intent.spec.targetId else ""
  expectedTargetVersion := intent.spec.expectedVersion
  stalePolicy := none
  commitmentAction := commitmentAction intent.kind
  provisionTarget := provisionTarget intent.kind plan

/-- Why a request does not reach the store. -/
inductive Refusal where
  | request (text : String)
  | intent (err : IntentError)
  | plan (err : PlanError)
  | problem (problem : Problem)

/-- A request with an intent, and what the handler finds on its way. -/
structure IntentRequest where
  caller : Caller
  body : Json
  resolved : Option ResolvedTarget
  now : Int
  auditAvailable : Bool
  /-- Whether the checks pass that do not bear on the command: authorization, the admission of a
      storage intent, the secret references. -/
  admitted : Bool

/-- `handleSubmitIntent`, up to its call of `SubmitIntent`. -/
def IntentRequest.command (p : Planner) (config : StaleConfig) (request : IntentRequest) :
    Except Refusal IntentSubmitCommand :=
  match parseRuntimeIntent p.urls request.body with
  | .error err => .error (.intent err)
  | .ok intent =>
  match validateNoExtraFields request.body with
  | .error err => .error (.request err)
  | .ok () =>
  if request.admitted = false then .error (.request "not admitted")
  else
  match p.process intent request.caller.tenantId with
  | .error err => .error (.plan err)
  | .ok (intent, plan) =>
  match IntentSubmission.handleSubmitIntent
      { cmd := submitCommand p request.caller intent plan, resolved := request.resolved,
        riskConfirmation := intent.spec.riskConfirmation, now := request.now,
        auditAvailable := request.auditAvailable } config with
  | .error problem => .error (.problem problem)
  | .ok cmd => .ok cmd

/-- A batch of removals. -/
structure BatchRequest where
  caller : Caller
  (idempotencyKey correlationId : String)
  targetIds : List String

/-- The checks of the batch. -/
def BatchRequest.validate (request : BatchRequest) : Except Refusal Unit :=
  if request.targetIds = [] ∨ 100 < request.targetIds.length
      ∨ trimSpace request.idempotencyKey = "" ∨ isUuid request.correlationId = false
      ∨ request.correlationId ≠ request.caller.correlationId then
    .error (.request "targetIds, idempotencyKey and correlationId are required")
  else if request.targetIds.all isUuid = false ∨ ¬ request.targetIds.Nodup then
    .error (.request "targetIds must be unique UUIDs")
  else .ok ()

/-- The specification of an intent that only names a target. -/
def targetSpec (targetId targetKind scopeRef : String) (expectedVersion : Int) : IntentSpec where
  releaseId := ""
  targetRef := ""
  scopeRef := scopeRef
  targetId := targetId
  targetKind := targetKind
  expectedVersion := expectedVersion
  bindingId := ""
  bindingVersion := 0
  offeringId := ""
  offeringVersion := 0
  storageClassName := ""
  storageClassUid := ""
  storageClassResourceVersion := ""
  installationId := ""
  packageId := ""
  packageVersion := ""
  currentVersion := ""
  desiredVersion := ""
  displayName := ""
  kubernetesVersion := ""
  cloudCoreEndpoint := ""
  credentialSecretRef := none
  nodeGroupMappings := []
  riskConfirmation := none
  parameters := []
  secretReferences := []
  volumeId := ""
  workflowProviderRef := ""
  persistentVolume := default
  persistentVolumeClaim := default
  podDependencies := []
  statefulSetDependencies := []

def BatchRequest.intent (request : BatchRequest) (target : ResolvedTarget) : RuntimeIntent where
  apiVersion := "hnb.io/v1"
  kind := .deleteRuntimeTarget
  idempotencyKey := request.idempotencyKey ++ ":" ++ target.id
  correlationId := request.correlationId
  spec := targetSpec target.id
    (if target.targetType = "edge_runtime" then "EdgeRuntimeTarget" else "KubernetesTarget")
    ("tenant:" ++ request.caller.tenantId) target.projectionVersion

/-- `handleCreateRuntimeIntentBatch`, up to its call of `SubmitIntent` for one of the targets. -/
def BatchRequest.command (p : Planner) (request : BatchRequest) (target : ResolvedTarget) :
    Except Refusal IntentSubmitCommand :=
  match request.validate with
  | .error err => .error err
  | .ok () =>
  if request.targetIds.contains target.id = false
      ∨ (target.targetType ≠ "kubernetes" ∧ target.targetType ≠ "edge_runtime") then
    .error (.problem ⟨409, "batch_preflight_failed", "one or more targets cannot be unmanaged"⟩)
  else
  match p.process (request.intent target) request.caller.tenantId with
  | .error err => .error (.plan err)
  | .ok (intent, plan) => .ok { batchIntent (submitCommand p request.caller intent plan) with
        runtimeTargetId := target.id
        expectedTargetVersion := target.projectionVersion }

/-! ## What a command has passed -/

theorem Caller.isUuid_correlationId (caller : Caller) : isUuid caller.correlationId = true := by
  unfold correlationId
  split
  · next h =>
    simp only [correlationPattern, Bool.and_eq_true] at h
    exact isUuid_of_isHyphenatedUuid h.1.1
  · exact caller.drawn

/-- What of a command the commands of its steps depend on, apart from the length of their keys. -/
structure Formed (cmd : IntentSubmitCommand) : Prop where
  tenantId : cmd.tenantId ≠ ""
  correlationId : isUuid cmd.correlationId = true
  stepType : ∀ step ∈ cmd.steps, step.stepType ≠ ""

variable {p : Planner}

theorem formed_submitCommand {caller : Caller} {intent intent' : RuntimeIntent}
    {plan : ExecutionPlan} (h : p.process intent caller.tenantId = .ok (intent', plan)) :
    Formed (submitCommand p caller intent' plan) := by
  obtain ⟨htenant, -, -, hplan⟩ := Planner.process_ok h
  refine ⟨htenant, caller.isUuid_correlationId, ?_⟩
  intro planStep hplanStep
  obtain ⟨step, hstep, rfl⟩ := List.mem_map.1 hplanStep
  exact Planner.plan_stepType hplan step hstep

variable {config : StaleConfig}

/-- The stale policy changes neither the scope nor the steps of a command. -/
theorem Formed.handleSubmitIntent {submission : IntentSubmission}
    {cmd : IntentSubmitCommand} (h : Formed submission.cmd)
    (hcmd : submission.handleSubmitIntent config = .ok cmd) : Formed cmd := by
  unfold IntentSubmission.handleSubmitIntent at hcmd
  split at hcmd
  · simp at hcmd
  split at hcmd
  · simp at hcmd
  cases hcmd
  exact ⟨h.tenantId, h.correlationId, h.stepType⟩

theorem IntentRequest.formed_command {request : IntentRequest}
    {cmd : IntentSubmitCommand} (h : request.command p config = .ok cmd) : Formed cmd := by
  unfold command at h
  split at h
  · simp at h
  split at h
  · simp at h
  split at h
  · simp at h
  split at h
  · simp at h
  next intent plan hprocess =>
  split at h
  · simp at h
  next cmd' hcmd' =>
  cases h
  exact (formed_submitCommand hprocess).handleSubmitIntent hcmd'

theorem BatchRequest.formed_command {request : BatchRequest} {target : ResolvedTarget}
    {cmd : IntentSubmitCommand} (h : request.command p target = .ok cmd) : Formed cmd := by
  unfold command at h
  split at h
  · simp at h
  split at h
  · simp at h
  split at h
  · simp at h
  next intent plan hprocess =>
  cases h
  have hformed := formed_submitCommand hprocess
  exact ⟨hformed.tenantId, hformed.correlationId, hformed.stepType⟩

end HnbCloud.Engine
