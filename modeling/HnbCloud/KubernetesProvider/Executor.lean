import HnbCloud.Provider.Contract

set_option autoImplicit false

/-! # The executor of kubernetes-provider

`Execute` deploys and deletes Deployments for the operation worker. A Deployment carries the tenant,
the step and the fencing generation of its last write in its annotations; a deletion is a write as
well, of zero replicas. Both operations read the Deployment, decide on what they have read and then
write with the resource version they have read, at most `maxCASAttempts` times.

A call is a program over the requests to the API server. How often it polls before its context is
cancelled is a parameter of the call. -/

namespace HnbCloud.KubernetesProvider

open Provider

/-! ## Deployments -/

structure DeploymentKey where
  (resourceNamespace name : String)
deriving DecidableEq, Repr

/-- `corev1.Container`, the fields that are set. -/
structure Container where
  (name image : String)
deriving DecidableEq, Repr

/-- What the cluster reports: `metadata.generation` and `appsv1.DeploymentStatus`. -/
structure DeploymentStatus where
  generation : Int := 1
  observedGeneration : Int := 0
  availableReplicas : Int := 0
deriving DecidableEq, Repr

/-- `appsv1.Deployment`, as far as the provider reads and writes it. -/
structure Deployment where
  (annotations labels : StringMap)
  replicas : Option Int
  (selector templateLabels : StringMap)
  containers : List Container
  status : DeploymentStatus := {}

/-- A Deployment as the API server holds it. -/
abbrev StoredDeployment : Type := Stored DeploymentKey Deployment

/-- The requests a call makes. -/
abbrev DeploymentRequest : Type := ObjectRequest DeploymentKey Deployment

def managedByAnnotation : String := "hnb.io/managed-by"
def tenantAnnotation : String := "hnb.io/tenant-id"
def operationAnnotation : String := "hnb.io/operation-id"
def stepAnnotation : String := "hnb.io/step-id"
def idempotencyAnnotation : String := "hnb.io/idempotency-key"
def fencingGenerationAnnotation : String := "hnb.io/fencing-generation"
def executionAttemptIdAnnotation : String := "hnb.io/execution-attempt-id"
def lastActionAnnotation : String := "hnb.io/last-action"
def managedByValue : String := "hnb-kubernetes-provider"
def maxCASAttempts : Nat := 5

section Annotations

variable (d : Deployment) (execution : ExecutionContext) (action : String)

def Deployment.annotationAt (name : String) : String := d.annotations.value name

def fenced (stored requested : Int) : StatusError :=
  ⟨409, .fenced, false, "deployment fencing generation " ++ toString stored
    ++ " is newer than request generation " ++ toString requested⟩

def setExecutionAnnotations : Deployment :=
  { d with annotations := ((((((((d.annotations.insert managedByAnnotation managedByValue).insert
        tenantAnnotation execution.tenantId).insert
        operationAnnotation execution.operationId).insert
        stepAnnotation execution.stepId).insert
        idempotencyAnnotation execution.idempotencyKey).insert
        fencingGenerationAnnotation (toString execution.fencingGeneration)).insert
        executionAttemptIdAnnotation execution.executionAttemptId).insert
        lastActionAnnotation action) }

def checkManagedTenant : Except StatusError Unit :=
  if d.annotationAt managedByAnnotation ≠ managedByValue
      ∨ d.annotationAt tenantAnnotation ≠ execution.tenantId then
    .error (conflict "deployment is not owned by this tenant/provider")
  else .ok ()

def storedFencingGeneration : Except StatusError Int :=
  match parseGeneration (d.annotationAt fencingGenerationAnnotation) with
  | none => .error (conflict "deployment has an invalid fencing generation")
  | some generation => .ok generation

def sameLogicalIdentity : Bool :=
  d.annotationAt tenantAnnotation == execution.tenantId
    && d.annotationAt operationAnnotation == execution.operationId
    && d.annotationAt stepAnnotation == execution.stepId
    && d.annotationAt idempotencyAnnotation == execution.idempotencyKey

def exactExecution : Bool :=
  sameLogicalIdentity d execution
    && d.annotationAt executionAttemptIdAnnotation == execution.executionAttemptId
    && d.annotationAt lastActionAnnotation == action

def sameDeployTemplate (existing desired : Deployment) : Bool :=
  existing.selector == desired.selector && existing.templateLabels == desired.templateLabels
    && match existing.containers with
      | [container] => container.name == "workload"
          && some container.image == (desired.containers.head?.map Container.image)
      | _ => false

def sameDeploySpec (existing desired : Deployment) : Bool :=
  existing.replicas.isSome && existing.replicas == desired.replicas
    && sameDeployTemplate existing desired

end Annotations

/-! ## Calls -/

structure Executor where
  allowed : List String
  maxReplicas : Int

/-- A call of `Execute`: what is asked for, and how often the call polls before its context is
    cancelled. -/
structure Call where
  execution : ExecutionContext
  polls : Nat

structure Result where
  outputs : List (String × String)
  checkpoint : String
deriving DecidableEq, Repr

/-- What is left of a call. -/
abbrev CallProgram : Type :=
  Program DeploymentRequest ObjectRequest.Reply (Except StatusError Result)

def failed (err : StatusError) : CallProgram := .done (.error err)

/-- `stringInputs(inputs)[name]`. -/
def stringInput (inputs : List (String × Json)) (name : String) : String :=
  ((inputs.find? fun input => input.1 == name).map fun input => sprint input.2).getD ""

/-- A letter or digit of a DNS label. -/
def isLabelChar (c : Char) : Bool := c.isLower || c.isDigit

/-- The form of a DNS-1123 label. -/
def isLabelText (text : List Char) : Bool :=
  text.all (fun c => isLabelChar c || c == '-')
    && text.head?.any isLabelChar && text.getLast?.any isLabelChar

/-- `validation.IsDNS1123Label` has nothing to say. -/
def isDns1123Label (value : String) : Bool :=
  value.toList.length ≤ 63 && isLabelText value.toList

/-- `validation.IsDNS1123Subdomain` has nothing to say. -/
def isDns1123Subdomain (value : String) : Bool :=
  value.toList.length ≤ 253 && (value.toList.splitOn '.').all isLabelText

def resourceResult (d : StoredDeployment) (action : String) : Result where
  outputs := [("namespace", d.key.resourceNamespace), ("name", d.key.name), ("uid", d.uid),
    ("resourceVersion", toString d.version), ("action", action)]
  checkpoint := "deployment:" ++ d.key.resourceNamespace ++ "/" ++ d.key.name ++ ":" ++ d.uid

/-! ### Waiting -/

/-- What a poll says about the Deployment it reads: an error ends the wait. `changed` is the error's
    text, and `reached` the condition that is waited for. -/
def pollCheck (execution : ExecutionContext) (action changed : String)
    (reached : Deployment → Bool) (current : Deployment) : Except StatusError Bool := do
  let stored ← storedFencingGeneration current
  if execution.fencingGeneration < stored then
    throw (fenced stored execution.fencingGeneration)
  else if stored ≠ execution.fencingGeneration ∨ exactExecution current execution action = false then
    throw (conflict changed)
  else pure (reached current)

/-- `PollUntilContextCancel`: a context that is cancelled ends the wait. -/
def poll (key : DeploymentKey) (operation done : String)
    (check : Deployment → Except StatusError Bool) : Nat → CallProgram
  | 0 => failed (targetError operation .cancelled)
  | polls + 1 => .call (.get key) fun
    | .error err => failed (targetError operation err)
    | .ok current =>
      match check current.value with
      | .error err => failed err
      | .ok true => .done (.ok (resourceResult current done))
      | .ok false => poll key operation done check polls

variable (e : Executor) (call : Call) (execution : ExecutionContext) (key : DeploymentKey)

/-- The cluster has acted on the last change. -/
def Deployment.observed (d : Deployment) : Bool :=
  d.status.generation ≤ d.status.observedGeneration

def waitAvailable : CallProgram :=
  poll key "wait for deployment availability" "deployed"
    (pollCheck call.execution "deploy" "deployment changed while waiting for availability"
      fun current => current.observed && current.replicas.getD 1 ≤ current.status.availableReplicas)
    call.polls

def waitDeleted : CallProgram :=
  poll key "wait for logical deletion" "deleted"
    (pollCheck call.execution "delete" "deployment changed while waiting for logical deletion"
      fun current => current.replicas == some 0 && current.observed
        && current.status.availableReplicas == 0)
    call.polls

/-! ### Deciding -/

/-- What a call does with the Deployment it has read. -/
inductive Decision where
  /-- It is as asked for already. -/
  | wait
  /-- It is written; the text names the operation in an error. -/
  | update (deployment : Deployment) (operation : String)

/-- The replicas that are asked for, one by default. -/
def requestedReplicas : Except StatusError Int :=
  let value := stringInput execution.inputs "replicas"
  if value = "" then .ok 1
  else
    match canonicalInt? 32 value with
    | none => .error (invalid "replicas must be a canonical integer")
    | some parsed => .ok parsed

def Executor.desiredDeployment : Except StatusError Deployment := do
  let image := stringInput execution.inputs "image"
  if image = "" ∨ 512 < image.utf8ByteSize ∨ containsAny image [' ', '\t', '\r', '\n'] then
    throw (invalid "invalid image")
  let replicas ← requestedReplicas execution
  if replicas < 1 ∨ e.maxReplicas < replicas then
    throw (invalid ("replicas must be between 1 and " ++ toString e.maxReplicas))
  pure (setExecutionAnnotations
    { annotations := ∅
      labels := stringMap [("app.kubernetes.io/name", key.name),
        ("app.kubernetes.io/managed-by", managedByValue)]
      replicas := some replicas
      selector := stringMap [("hnb.io/workload", key.name)]
      templateLabels := stringMap [("hnb.io/workload", key.name)]
      containers := [⟨"workload", image⟩] }
    execution "deploy")

/-- The body of the loop of `deploy`, for a Deployment that exists. -/
def deployDecision (desired : Deployment) (existing : StoredDeployment) :
    Except StatusError Decision := do
  checkManagedTenant existing.value execution
  let stored ← storedFencingGeneration existing.value
  if execution.fencingGeneration < stored then
    throw (fenced stored execution.fencingGeneration)
  else if stored = execution.fencingGeneration then
    if exactExecution existing.value execution "deploy" = false
        ∨ sameDeploySpec existing.value desired = false then
      throw (conflict "equal-generation deploy is not an exact replay")
    else pure .wait
  else if existing.value.annotationAt lastActionAnnotation = "delete" then
    let expectedUid := stringInput execution.inputs "expected_uid"
    if expectedUid = "" ∨ expectedUid ≠ existing.uid then
      throw (conflict "tombstone redeploy requires matching expected_uid")
    else if sameDeployTemplate existing.value desired = false then
      throw (conflict "tombstone deployment specification conflicts with redeploy")
    else pure (.update (setExecutionAnnotations
      { existing.value with replicas := desired.replicas } execution "deploy") "redeploy tombstone")
  else if existing.value.annotationAt lastActionAnnotation ≠ "deploy"
      ∨ sameLogicalIdentity existing.value execution = false
      ∨ sameDeploySpec existing.value desired = false then
    throw (conflict "deployment logical identity or specification conflicts with takeover")
  else pure (.update (setExecutionAnnotations existing.value execution "deploy")
    "take over deployment")

/-- The body of the loop of `delete`. -/
def deleteDecision (expectedUid : String) (existing : StoredDeployment) :
    Except StatusError Decision := do
  checkManagedTenant existing.value execution
  if existing.uid ≠ expectedUid then
    throw (conflict "expected_uid does not match deployment UID")
  let stored ← storedFencingGeneration existing.value
  if execution.fencingGeneration < stored then
    throw (fenced stored execution.fencingGeneration)
  else if stored = execution.fencingGeneration then
    if exactExecution existing.value execution "delete" = false
        ∨ existing.value.replicas ≠ some 0 then
      throw (conflict "equal-generation delete is not an exact replay")
    else pure .wait
  else
  let action := existing.value.annotationAt lastActionAnnotation
  if action ≠ "deploy" ∧ action ≠ "delete" then
    throw (conflict "deployment has an invalid last action")
  else if action = "delete" ∧ sameLogicalIdentity existing.value execution = false then
    throw (conflict "delete tombstone logical identity conflicts with takeover")
  else pure (.update (setExecutionAnnotations { existing.value with replicas := some 0 } execution
    "delete") "write deployment tombstone")

/-! ### The loops -/

/-- The end of the loops. -/
def casExhausted : StatusError :=
  ⟨503, .targetUnavailable, true, "deployment changed during bounded CAS retries"⟩

/-- A decision carried out: `wait` goes on after a write, `again` after one that came too late. -/
def carryOut (existing : StoredDeployment) (wait again : CallProgram) :
    Except StatusError Decision → CallProgram
  | .error err => failed err
  | .ok .wait => wait
  | .ok (.update deployment operation) =>
    .call (.update { existing with value := deployment }) fun
    | .ok _ => wait
    | .error .conflict => again
    | .error .notFound => again
    | .error err => failed (targetError operation err)

/-- The loop of `deploy`. -/
def deployLoop (call : Call) (key : DeploymentKey) (desired : Deployment) : Nat → CallProgram
  | 0 => failed casExhausted
  | attempts + 1 => .call (.get key) fun
    | .ok existing =>
      carryOut existing (waitAvailable call key) (deployLoop call key desired attempts)
        (deployDecision call.execution desired existing)
    | .error .notFound => .call (.create key desired) fun
        | .ok _ => waitAvailable call key
        | .error .alreadyExists => deployLoop call key desired attempts
        | .error .conflict => deployLoop call key desired attempts
        | .error err => failed (targetError "create deployment" err)
    | .error err => failed (targetError "get deployment" err)

/-- The loop of `delete`. -/
def deleteLoop (call : Call) (key : DeploymentKey) (expectedUid : String) : Nat → CallProgram
  | 0 => failed casExhausted
  | attempts + 1 => .call (.get key) fun
    | .ok existing =>
      carryOut existing (waitDeleted call key) (deleteLoop call key expectedUid attempts)
        (deleteDecision call.execution expectedUid existing)
    | .error .notFound =>
      failed (conflict "deployment does not exist; expected_uid cannot be verified")
    | .error err => failed (targetError "get deployment" err)

def Executor.deploy : CallProgram :=
  match e.desiredDeployment call.execution key with
  | .error err => failed err
  | .ok desired => deployLoop call key desired maxCASAttempts

def delete : CallProgram :=
  let expectedUid := stringInput call.execution.inputs "expected_uid"
  if expectedUid = "" then failed (invalid "expected_uid is required")
  else deleteLoop call key expectedUid maxCASAttempts

def Executor.validateResource (inputs : List (String × Json)) : Except StatusError DeploymentKey :=
  let resourceNamespace := stringInput inputs "namespace"
  let name := stringInput inputs "name"
  if e.allowed.contains resourceNamespace = false then
    .error ⟨403, .scopeDenied, false, "namespace " ++ quoted resourceNamespace ++ " is not allowed"⟩
  else if isDns1123Label resourceNamespace = false then .error (invalid "invalid namespace")
  else if isDns1123Subdomain name = false then .error (invalid "invalid deployment name")
  else .ok ⟨resourceNamespace, name⟩

/-- The checks of `Execute`. -/
def Executor.check : Except StatusError DeploymentKey := do
  if execution.hasIdentity = false then
    throw (invalid "tenant, operation, step, and idempotency key are required")
  if isCanonicalUuid execution.executionAttemptId = false then
    throw (invalid "execution_attempt_id must be a canonical UUID")
  if execution.fencingGeneration ≤ 0 then throw (invalid "fencing_generation must be positive")
  e.validateResource execution.inputs

def Executor.execute : CallProgram :=
  match e.check call.execution with
  | .error err => failed err
  | .ok key =>
  if call.execution.stepType = "deploy" then
    match validateInputKeys call.execution.inputs
      ["namespace", "name", "image", "replicas", "expected_uid"] with
    | .error err => failed err
    | .ok () => e.deploy call key
  else if call.execution.stepType = "delete" then
    match validateInputKeys call.execution.inputs ["namespace", "name", "expected_uid"] with
    | .error err => failed err
    | .ok () => delete call key
  else failed ⟨400, .unsupportedAction, false,
    "unsupported step type " ++ quoted call.execution.stepType⟩

end HnbCloud.KubernetesProvider
