import HnbCloud.Engine.RuntimeIntent
import HnbCloud.Operation.SubmitRequest
import Mathlib.Data.List.Sort

set_option autoImplicit false

/-! # Planning

`Engine.ProcessWithContext` of platform-api: a validated intent becomes an execution plan. The steps
of a release intent depend on its kind alone. A cluster or storage intent becomes one step, for the
provider that the registry resolves; a cluster intent has to be in the compatibility matrix as well.

The registry is left open, as are the two hash functions. -/

namespace HnbCloud.Engine

open Operation List Messaging Json

/-! ## The compatibility matrix -/

/-- `compatibilityMatrixRow`. -/
structure MatrixRow where
  (targetKind providerId observationSource : String)
  actions : List (String × String)

/-- `CompatibilityMatrix`, its document. -/
structure CompatibilityMatrix where
  (matrixVersion providerProtocolVersion : String)
  (effectiveAt expiresAt : Int)
  rows : List MatrixRow

structure CompatibilityDecision where
  (matrixVersion providerProtocolVersion targetKind action status providerId : String)
  observationSource : String
  (effectiveAt expiresAt : Int)

/-- Why there is no plan. -/
inductive PlanError where
  /-- A `CompatibilityError`. -/
  | compatibility (code reason : String)
  | intent (err : IntentError)
  | resolver (text : String)
  | invalidDag (text : String)
  | stepCount (count : Nat)

/-- `runtime-target-compatibility-matrix.json`; the instants in seconds. -/
def CompatibilityMatrix.default : CompatibilityMatrix where
  matrixVersion := "1.0.0"
  providerProtocolVersion := "2.0.0"
  effectiveAt := 1785542400
  expiresAt := 1817078400
  rows :=
    [{ targetKind := "KubernetesTarget", providerId := "runtime-target.lifecycle.kubernetes",
       observationSource := "Agent",
       actions := [("create", "REQUIRED"), ("import", "REQUIRED"), ("upgrade", "REQUIRED"),
         ("unmanage", "REQUIRED")] },
     { targetKind := "EdgeRuntimeTarget", providerId := "runtime-target.lifecycle.edge",
       observationSource := "CloudCore",
       actions := [("create", "UNSUPPORTED"), ("import", "REQUIRED"), ("upgrade", "REQUIRED"),
         ("unmanage", "REQUIRED")] }]

def lifecycleAction : IntentKind → Option String
  | .createKubernetesTarget => some "create"
  | .importRuntimeTarget => some "import"
  | .upgradeRuntimeTarget => some "upgrade"
  | .deleteRuntimeTarget => some "unmanage"
  | _ => none

def CompatibilityMatrix.evaluate (m : CompatibilityMatrix) (now : Int) (kind : IntentKind)
    (targetKind : String) : Except PlanError CompatibilityDecision :=
  match lifecycleAction kind with
  | none => .error (.compatibility "TARGET_ACTION_UNSUPPORTED"
      "intent kind has no lifecycle compatibility action")
  | some action =>
  if now < m.effectiveAt ∨ m.expiresAt ≤ now then
    .error (.compatibility "PROVIDER_ROUTE_NOT_FOUND"
      "runtime target compatibility matrix is not current")
  else
  match m.rows.find? fun row => row.targetKind == targetKind with
  | none => .error (.compatibility "TARGET_ACTION_UNSUPPORTED"
      "target kind is not present in the compatibility matrix")
  | some row =>
  let status := ((row.actions.find? fun x => x.1 == action).map Prod.snd).getD ""
  if status = "UNSUPPORTED" then
    .error (.compatibility "TARGET_ACTION_UNSUPPORTED"
      "target kind does not support the requested lifecycle action")
  else .ok
    { matrixVersion := m.matrixVersion, providerProtocolVersion := m.providerProtocolVersion,
      targetKind := row.targetKind, action := action, status := status,
      providerId := row.providerId, observationSource := row.observationSource,
      effectiveAt := m.effectiveAt, expiresAt := m.expiresAt }

/-! ## Providers -/

structure ProviderResolution where
  (providerId providerVersion providerDigest evidenceRef packageId packageVersion : String)
  packageDigest : String
  provisioners : List String
  capabilityClaims : Json
  rollbackVersion : String

structure StorageDriverRequest where
  (action packageId packageVersion currentVersion kubernetesVersion : String)

structure StorageProviderResolver where
  resolveStorageProvider : String → Except PlanError ProviderResolution
  resolveStorageDriverProvider : StorageDriverRequest → Except PlanError ProviderResolution
  /-- For an action and a provider. -/
  resolveRetainedVolumeProvider : String → String → Except PlanError ProviderResolution

/-- `LifecycleProviderResolver`, and what it is besides. -/
structure ProviderRegistry where
  resolveLifecycleProvider : CompatibilityDecision → Except PlanError ProviderResolution
  storage : Option StorageProviderResolver

/-- The hash functions: SHA-256, and the version 5 UUID of a name. -/
structure Hashes where
  sha256 : Sha256
  uuidOfName : String → String

/-- `Engine`, with the clock's present reading. -/
structure Planner where
  matrix : Option CompatibilityMatrix
  providers : Option ProviderRegistry
  urls : UrlParser
  hashes : Hashes
  now : Int

/-! ## Plans -/

structure RetryPolicy where
  maxAttempts : Int
  backoff : String

structure CompensationPolicy where
  (type ownershipScope : String)

structure Step where
  (stepId stepType : String)
  providerId : String := ""
  providerVersion : String := ""
  providerDigest : String := ""
  providerProtocolVersion : String := ""
  dependsOn : List String
  targetRef : String := ""
  targetKind : String := ""
  inputSchema : String := ""
  /-- The inputs of a step without any are `nil`. -/
  inputs : Option (List (String × Json)) := none
  secretReferences : List SecretReferenceEntry := []
  idempotencyKey : String := ""
  fencingPolicy : String := ""
  retryPolicy : Option RetryPolicy := none
  timeoutSeconds : Int := 0
  compensation : Option CompensationPolicy := none

structure TargetSnapshot where
  (targetId targetKind : String)
  projectionVersion : Int
  observationSource : String

/-- `ExecutionPlan`, as far as a submission reads it. -/
structure ExecutionPlan where
  (semanticDigest releaseRef : String)
  targetSnapshot : Option TargetSnapshot
  steps : List Step

/-- The columns of a step that are persisted. -/
def Step.planStep (step : Step) : PlanStep where
  stepId := step.stepId
  stepType := step.stepType
  providerId := step.providerId
  providerVersion := step.providerVersion
  providerDigest := step.providerDigest
  dependsOn := step.dependsOn
  inputs := (step.inputs.map Json.obj).getD .null
  maxAttempts := step.retryPolicy.map RetryPolicy.maxAttempts
  timeoutSeconds := step.timeoutSeconds

/-! ## Documents -/

/-- A slice of dependencies; an empty one is `nil`. -/
def dependencyList (ds : List RetainedVolumeDependency) : Json :=
  if ds.isEmpty then .null else .arr (ds.map RetainedVolumeDependency.marshal)

/-- The key by which `IntentSemanticDigest` sorts secret references. -/
def SecretReferenceEntry.sortKey (ref : SecretReferenceEntry) : String :=
  ref.provider ++ "\x00" ++ ref.scope ++ "\x00" ++ ref.name ++ "\x00" ++ ref.version

/-- The document `IntentSemanticDigest` hashes. Maps are taken in the order in which they are
    held. -/
def RuntimeIntent.semanticDocument (intent : RuntimeIntent) : Json :=
  let spec := intent.spec
  let retained := intent.kind.isRetainedVolume
  .obj ([("apiVersion", .str intent.apiVersion), ("kind", .str intent.kind.text)]
    ++ textField "releaseId" spec.releaseId ++ textField "targetRef" spec.targetRef
    ++ textField "scopeRef" spec.scopeRef ++ textField "targetId" spec.targetId
    ++ textField "targetKind" spec.targetKind
    ++ numField "expectedVersion" spec.expectedVersion
    ++ textField "bindingId" spec.bindingId ++ numField "bindingVersion" spec.bindingVersion
    ++ textField "offeringId" spec.offeringId
    ++ numField "offeringVersion" spec.offeringVersion
    ++ textField "storageClassName" spec.storageClassName
    ++ textField "storageClassUid" spec.storageClassUid
    ++ textField "storageClassResourceVersion" spec.storageClassResourceVersion
    ++ textField "installationId" spec.installationId ++ textField "packageId" spec.packageId
    ++ textField "packageVersion" spec.packageVersion
    ++ textField "currentVersion" spec.currentVersion
    ++ textField "desiredVersion" spec.desiredVersion ++ textField "displayName" spec.displayName
    ++ textField "kubernetesVersion" spec.kubernetesVersion
    ++ (if retained then
        textField "volumeId" spec.volumeId
          ++ textField "workflowProviderRef" spec.workflowProviderRef
          ++ [("persistentVolume", spec.persistentVolume.marshal),
            ("persistentVolumeClaim", spec.persistentVolumeClaim.marshal),
            ("podDependencies", dependencyList spec.podDependencies),
            ("statefulSetDependencies", dependencyList spec.statefulSetDependencies)]
      else [])
    ++ textField "cloudCoreEndpoint" spec.cloudCoreEndpoint
    ++ pointerField "credentialSecretRef" SecretReferenceEntry.marshal spec.credentialSecretRef
    ++ listField "nodeGroupMappings" .obj (spec.nodeGroupMappings.map fun x => (x.1, .str x.2))
    ++ listField "parameters" .obj spec.parameters
    ++ listField "secretReferences" .arr ((spec.secretReferences.insertionSort
        fun a b => a.sortKey ≤ b.sortKey).map SecretReferenceEntry.marshal))

def RuntimeIntent.computeIntentDigest (hashes : Hashes) (intent : RuntimeIntent) : String :=
  "sha256:" ++ hashes.sha256.document intent.semanticDocument

def Step.document (step : Step) : Json :=
  .obj ([("stepId", .str step.stepId), ("stepType", .str step.stepType)]
    ++ textField "providerId" step.providerId ++ textField "providerVersion" step.providerVersion
    ++ textField "providerDigest" step.providerDigest
    ++ textField "providerProtocolVersion" step.providerProtocolVersion
    ++ [("dependsOn", .strings step.dependsOn)]
    ++ textField "targetRef" step.targetRef ++ textField "targetKind" step.targetKind
    ++ textField "inputSchema" step.inputSchema ++ listField "inputs" .obj (step.inputs.getD [])
    ++ listField "secretReferences" .arr (step.secretReferences.map SecretReferenceEntry.marshal)
    ++ textField "idempotencyKey" step.idempotencyKey
    ++ textField "fencingPolicy" step.fencingPolicy
    ++ (step.retryPolicy.map fun policy => ("retryPolicy",
        Json.obj [("maxAttempts", .num policy.maxAttempts), ("backoff", .str policy.backoff)])).toList
    ++ numField "timeoutSeconds" step.timeoutSeconds
    ++ (step.compensation.map fun policy => ("compensation", Json.obj [("type", .str policy.type),
          ("ownershipScope", .str policy.ownershipScope)])).toList)

def CompatibilityDecision.document (d : CompatibilityDecision) : Json :=
  .obj [("matrixVersion", .str d.matrixVersion),
    ("providerProtocolVersion", .str d.providerProtocolVersion), ("targetKind", .str d.targetKind),
    ("action", .str d.action), ("status", .str d.status), ("providerId", .str d.providerId),
    ("observationSource", .str d.observationSource), ("effectiveAt", .str (toString d.effectiveAt)),
    ("expiresAt", .str (toString d.expiresAt))]

def TargetSnapshot.document (t : TargetSnapshot) : Json :=
  .obj [("targetId", .str t.targetId), ("targetKind", .str t.targetKind),
    ("projectionVersion", .num t.projectionVersion),
    ("observationSource", .str t.observationSource)]

section Plans

variable (p : Planner) (hashes : Hashes) (tenantId : String) (intent : RuntimeIntent)

/-! ## Steps -/

def lifecycleStepIdempotencyKey : String :=
  "step:" ++ hashes.sha256.text (tenantId ++ "\x00" ++ intent.kind.text ++ "\x00"
    ++ intent.idempotencyKey)

def lifecycleSecretReferences (spec : IntentSpec) : List SecretReferenceEntry :=
  match spec.credentialSecretRef with
  | none => spec.secretReferences
  | some ref =>
    if ref ∈ spec.secretReferences then spec.secretReferences
    else spec.secretReferences ++ [ref]

/-- `generateSteps`: `stepsForInstall`, `stepsForUninstall`, `stepsForUpgrade`, `stepsForRollback` and
    `stepsForConfigChange`. -/
def generateSteps : IntentKind → List Step
  | .installRelease =>
    [{ stepId := "install.validate", stepType := "validate", dependsOn := [] },
     { stepId := "install.deploy", stepType := "helm", dependsOn := ["install.validate"] },
     { stepId := "install.verify", stepType := "verify", dependsOn := ["install.deploy"] }]
  | .uninstallRelease =>
    [{ stepId := "uninstall.verify", stepType := "verify", dependsOn := [] },
     { stepId := "uninstall.resources", stepType := "helm", dependsOn := [] }]
  | .upgradeRelease =>
    [{ stepId := "upgrade.snapshot", stepType := "snapshot", dependsOn := [] },
     { stepId := "upgrade.validate", stepType := "validate", dependsOn := ["upgrade.snapshot"] },
     { stepId := "upgrade.canary", stepType := "helm", dependsOn := ["upgrade.validate"] },
     { stepId := "upgrade.verify", stepType := "verify", dependsOn := ["upgrade.canary"] }]
  | .rollbackRelease =>
    [{ stepId := "rollback.snapshot", stepType := "snapshot", dependsOn := [] },
     { stepId := "rollback.apply", stepType := "helm", dependsOn := ["rollback.snapshot"] },
     { stepId := "rollback.verify", stepType := "verify", dependsOn := ["rollback.apply"] }]
  | .changeConfiguration =>
    [{ stepId := "config.validate", stepType := "validate", dependsOn := [] },
     { stepId := "config.update", stepType := "config", dependsOn := ["config.validate"] },
     { stepId := "config.reconfigure", stepType := "config", dependsOn := ["config.update"] },
     { stepId := "config.verify", stepType := "verify", dependsOn := ["config.reconfigure"] }]
  | _ => []

/-- The part of a lifecycle step's type that the action gives. -/
def lifecycleOperation : String → String
  | "create" => "provision-and-register"
  | "import" => "register"
  | "upgrade" => "upgrade"
  | "unmanage" => "unregister"
  | _ => ""

/-- The target of a lifecycle step: a new one is named by the tenant and the intent. -/
def lifecycleTargetId : String :=
  if intent.spec.targetId ≠ "" then intent.spec.targetId
  else hashes.uuidOfName ("hnb.runtime-target\x00" ++ tenantId ++ "\x00"
    ++ intent.computeIntentDigest hashes)

/-- The inputs of a lifecycle step, in the order of their names. -/
def lifecycleInputs (decision : CompatibilityDecision) : List (String × Json) :=
  let spec := intent.spec
  let desiredVersion :=
    if spec.desiredVersion = "" then spec.kubernetesVersion else spec.desiredVersion
  [("action", .str decision.action)] ++ textField "cloudCoreEndpoint" spec.cloudCoreEndpoint
    ++ pointerField "credentialSecretRef" SecretReferenceEntry.marshal spec.credentialSecretRef
    ++ textField "desiredVersion" desiredVersion ++ textField "displayName" spec.displayName
    ++ [("fencingGeneration", .num 1),
      ("idempotencyKey", .str (lifecycleStepIdempotencyKey hashes tenantId intent))]
    ++ listField "nodeGroupMappings" .obj (spec.nodeGroupMappings.map fun x => (x.1, .str x.2))
    ++ [("observationVersion", .num spec.expectedVersion), ("schemaVersion", .str "1.0.0"),
      ("targetId", .str (lifecycleTargetId hashes tenantId intent)),
      ("targetKind", .str decision.targetKind)]

def lifecycleSteps (decision : CompatibilityDecision) (provider : ProviderResolution) :
    List Step × TargetSnapshot :=
  let targetId := lifecycleTargetId hashes tenantId intent
  let edge := decision.targetKind == "EdgeRuntimeTarget"
  let stepType := "runtime_target." ++ (if edge then "edge" else "kubernetes") ++ "."
    ++ lifecycleOperation decision.action
  ([{ stepId := stepType
      stepType := stepType
      providerId := provider.providerId
      providerVersion := provider.providerVersion
      providerDigest := provider.providerDigest
      providerProtocolVersion := decision.providerProtocolVersion
      dependsOn := []
      targetRef := targetId
      targetKind := decision.targetKind
      inputSchema := if edge then
          "https://schemas.hnb.cloud/runtime-target/v1/edge-lifecycle-step-input.schema.json"
        else "https://schemas.hnb.cloud/runtime-target/v1/kubernetes-lifecycle-step-input.schema.json"
      inputs := some (lifecycleInputs hashes tenantId intent decision)
      secretReferences := lifecycleSecretReferences intent.spec
      idempotencyKey := lifecycleStepIdempotencyKey hashes tenantId intent
      fencingPolicy := "monotonic-worker-lease-v2"
      retryPolicy := some ⟨3, "exponential"⟩
      timeoutSeconds := if decision.action = "create" then 1800 else 900
      compensation := some (
        if decision.action = "create" then ⟨"unregister", "operation-owned-only"⟩
        else if decision.action = "import" then ⟨"unregister", "management-relation-only"⟩
        else ⟨"none", "none"⟩) }],
    { targetId := targetId, targetKind := decision.targetKind,
      projectionVersion := intent.spec.expectedVersion,
      observationSource := decision.observationSource })

/-- What the steps of the storage kinds have in common: one step for a Kubernetes target. -/
def storageStep (provider : ProviderResolution) (stepType inputSchema : String)
    (inputs : List (String × Json)) (secretReferences : List SecretReferenceEntry)
    (fencingPolicy : String) (retryPolicy : RetryPolicy) (timeoutSeconds : Int)
    (compensation : CompensationPolicy) : Step where
  stepId := stepType
  stepType := stepType
  providerId := provider.providerId
  providerVersion := provider.providerVersion
  providerDigest := provider.providerDigest
  providerProtocolVersion := "2.0.0"
  dependsOn := []
  targetRef := intent.spec.targetId
  targetKind := "KubernetesTarget"
  inputSchema := inputSchema
  inputs := some inputs
  secretReferences := secretReferences
  idempotencyKey := lifecycleStepIdempotencyKey hashes tenantId intent
  fencingPolicy := fencingPolicy
  retryPolicy := some retryPolicy
  timeoutSeconds := timeoutSeconds
  compensation := some compensation

def storageSnapshot (observationSource : String) : TargetSnapshot where
  targetId := intent.spec.targetId
  targetKind := "KubernetesTarget"
  projectionVersion := intent.spec.expectedVersion
  observationSource := observationSource

def retainedVolumeSteps (action : String) (provider : ProviderResolution) :
    List Step × TargetSnapshot :=
  let spec := intent.spec
  ([storageStep hashes tenantId intent provider ("storage.retained-volume." ++ action)
      "https://schemas.hnb.cloud/storage/v1/retained-volume-workflow-step-input.schema.json"
      [("approvalPolicy", .str "explicit-operation-approval"),
        ("fencingGeneration", .num spec.expectedVersion),
        ("idempotencyKey", .str (lifecycleStepIdempotencyKey hashes tenantId intent)),
        ("persistentVolume", spec.persistentVolume.marshal),
        ("persistentVolumeClaim", spec.persistentVolumeClaim.marshal),
        ("podDependencies", dependencyList spec.podDependencies),
        ("providerConformanceEvidenceRef", .str provider.evidenceRef),
        ("schemaVersion", .str "1.0.0"),
        ("statefulSetDependencies", dependencyList spec.statefulSetDependencies),
        ("targetId", .str spec.targetId), ("targetProjectionVersion", .num spec.expectedVersion),
        ("volumeId", .str spec.volumeId), ("workflow", .str action)]
      [] "target-pv-pvc-dependency-snapshot-and-worker-lease" ⟨1, "none"⟩ 3600 ⟨"none", "none"⟩],
    storageSnapshot intent "provider.storage-retained-volume-preflight")

def storageDriverSteps (action : String) (provider : ProviderResolution) :
    List Step × TargetSnapshot :=
  let spec := intent.spec
  ([storageStep hashes tenantId intent provider ("storage.driver." ++ action)
      "https://schemas.hnb.cloud/storage/v1/storage-driver-lifecycle-step-input.schema.json"
      ([("action", .str action), ("capabilityClaims", provider.capabilityClaims)]
        ++ textField "currentVersion" spec.currentVersion
        ++ [("fencingGeneration", .num spec.expectedVersion),
          ("idempotencyKey", .str (lifecycleStepIdempotencyKey hashes tenantId intent)),
          ("installationId", .str spec.installationId),
          ("kubernetesVersion", .str spec.kubernetesVersion),
          ("packageDigest", .str provider.packageDigest), ("packageId", .str provider.packageId),
          ("packageVersion", .str provider.packageVersion)]
        ++ listField "parameters" .obj spec.parameters
        ++ [("provisioners", .strings provider.provisioners)]
        ++ textField "rollbackVersion" provider.rollbackVersion
        ++ [("schemaVersion", .str "1.0.0"), ("targetId", .str spec.targetId),
          ("targetKind", .str "KubernetesTarget"),
          ("targetProjectionVersion", .num spec.expectedVersion)])
      (lifecycleSecretReferences spec) "monotonic-worker-lease-v2" ⟨3, "exponential"⟩ 900
      (if action = "install" then ⟨"rollback", "operation-owned-only"⟩
        else if action = "upgrade" then ⟨"rollback", "management-relation-only"⟩
        else ⟨"none", "none"⟩)],
    storageSnapshot intent "Agent")

def storageBindingSteps (action : String) (provider : ProviderResolution) :
    List Step × TargetSnapshot :=
  let spec := intent.spec
  ([storageStep hashes tenantId intent provider ("storage.binding." ++ action)
      "https://schemas.hnb.cloud/storage/v1/storage-class-binding-step-input.schema.json"
      [("action", .str action), ("bindingId", .str spec.bindingId),
        ("bindingVersion", .num spec.bindingVersion),
        ("fencingGeneration", .num spec.expectedVersion),
        ("idempotencyKey", .str (lifecycleStepIdempotencyKey hashes tenantId intent)),
        ("offeringId", .str spec.offeringId), ("offeringVersion", .num spec.offeringVersion),
        ("schemaVersion", .str "1.0.0"), ("storageClassName", .str spec.storageClassName),
        ("storageClassResourceVersion", .str spec.storageClassResourceVersion),
        ("storageClassUid", .str spec.storageClassUid), ("targetId", .str spec.targetId),
        ("targetKind", .str "KubernetesTarget"),
        ("targetProjectionVersion", .num spec.expectedVersion)]
      [] "target-projection-and-storageclass-resource-version" ⟨3, "exponential"⟩ 300
      ⟨"none", "none"⟩],
    storageSnapshot intent "runtime-target.storage-inventory")

/-! ## The plan -/

/-- What planning finds out before it checks the steps. -/
structure Draft where
  steps : List Step
  compatibility : Option CompatibilityDecision := none
  targetSnapshot : Option TargetSnapshot := none
  providerVersions : List (String × String) := [("platform", "1.0")]
  artifactDigests : List String := []

def Planner.draftCluster : Except PlanError Draft :=
  match p.matrix with
  | none => .error (.compatibility "PROVIDER_ROUTE_NOT_FOUND"
      "runtime target compatibility matrix is unavailable")
  | some matrix =>
  match matrix.evaluate p.now intent.kind intent.spec.targetKind with
  | .error err => .error err
  | .ok decision =>
  match p.providers with
  | none => .error (.compatibility "PROVIDER_ROUTE_NOT_FOUND"
      "lifecycle provider registry is unavailable")
  | some providers =>
  match providers.resolveLifecycleProvider decision with
  | .error (.compatibility code reason) => .error (.compatibility code reason)
  | .error _ => .error (.compatibility "PROVIDER_ROUTE_NOT_FOUND"
      "no eligible lifecycle provider is available")
  | .ok provider =>
  if provider.providerId ≠ decision.providerId ∨ provider.providerVersion = ""
      ∨ provider.providerDigest = "" then
    .error (.compatibility "PROVIDER_INCOMPATIBLE" "lifecycle provider resolution is incomplete")
  else
  let planned := lifecycleSteps p.hashes tenantId intent decision provider
  .ok { steps := planned.1
        compatibility := some decision
        targetSnapshot := some planned.2
        providerVersions := [(provider.providerId, provider.providerVersion)]
        artifactDigests := [provider.providerDigest] }

def storageDriverAction : IntentKind → String
  | .installStorageDriver => "install"
  | .upgradeStorageDriver => "upgrade"
  | .uninstallStorageDriver => "uninstall"
  | _ => ""

def Planner.draftStorage : Except PlanError Draft :=
  match p.providers.bind ProviderRegistry.storage with
  | none => .error (.compatibility "PROVIDER_ROUTE_NOT_FOUND"
      "storage provider registry is unavailable")
  | some resolver =>
  if intent.kind.isStorageDriver then
    let action := storageDriverAction intent.kind
    match resolver.resolveStorageDriverProvider
        { action := action, packageId := intent.spec.packageId,
          packageVersion := intent.spec.packageVersion,
          currentVersion := intent.spec.currentVersion,
          kubernetesVersion := intent.spec.kubernetesVersion } with
    | .error err => .error err
    | .ok provider =>
      let planned := storageDriverSteps p.hashes tenantId intent action provider
      .ok { steps := planned.1
            targetSnapshot := some planned.2
            providerVersions := [(provider.providerId, provider.providerVersion)]
            artifactDigests := [provider.providerDigest, provider.packageDigest] }
  else if intent.kind.isRetainedVolume then
    let action := if intent.kind = .sanitizeRetainedVolume then "sanitize" else "manual-release"
    match resolver.resolveRetainedVolumeProvider action intent.spec.workflowProviderRef with
    | .error err => .error err
    | .ok provider =>
      let planned := retainedVolumeSteps p.hashes tenantId intent action provider
      .ok { steps := planned.1
            targetSnapshot := some planned.2
            providerVersions := [(provider.providerId, provider.providerVersion)]
            artifactDigests := [provider.providerDigest] }
  else
    let action := if intent.kind = .reconcileStorageClassBinding then "reconcile" else "import"
    match resolver.resolveStorageProvider action with
    | .error err => .error err
    | .ok provider =>
      if provider.providerId ≠ "kubernetes-provider" ∨ provider.providerVersion = ""
          ∨ provider.providerDigest = "" then
        .error (.compatibility "PROVIDER_INCOMPATIBLE" "storage provider resolution is incomplete")
      else
      let planned := storageBindingSteps p.hashes tenantId intent action provider
      .ok { steps := planned.1
            targetSnapshot := some planned.2
            providerVersions := [(provider.providerId, provider.providerVersion)]
            artifactDigests := [provider.providerDigest] }

def Planner.draft : Except PlanError Draft :=
  if intent.kind.isCluster then p.draftCluster tenantId intent
  else if intent.kind.isStorage then p.draftStorage tenantId intent
  else .ok { steps := generateSteps intent.kind }

def computePlanDigest (draft : Draft) : String :=
  "sha256:" ++ hashes.sha256.document (.obj
    ([("tenant_id", .str tenantId), ("intent_digest", .str (intent.computeIntentDigest hashes)),
      ("steps", .arr (draft.steps.map Step.document))]
      ++ (draft.compatibility.map fun d => ("compatibility", d.document)).toList
      ++ (draft.targetSnapshot.map fun t => ("targetSnapshot", t.document)).toList
      ++ listField "providerVersions" .obj (draft.providerVersions.map fun x => (x.1, .str x.2))
      ++ listField "artifactDigests" .arr (draft.artifactDigests.map .str)))

/-- The release a plan is stored under: that of the intent, or what stands in its place. -/
def releaseRef (targetSnapshot : Option TargetSnapshot) : String :=
  if intent.kind.isStorageDriver then "storage-driver:" ++ intent.spec.installationId
  else if intent.kind.isRetainedVolume then "retained-volume:" ++ intent.spec.volumeId
  else if intent.kind.isStorage then "storage-binding:" ++ intent.spec.bindingId
  else if intent.kind.requiresReleaseId then intent.spec.releaseId
  else "target:" ++ (targetSnapshot.map TargetSnapshot.targetId).getD ""

def validateDag (steps : List Step) : Except String Unit :=
  StepGraph.validate (steps.map fun step => (step.stepId, step.dependsOn))

/-- `PlanContext`. -/
def Planner.plan : Except PlanError ExecutionPlan :=
  match p.draft tenantId intent with
  | .error err => .error err
  | .ok draft =>
  match validateDag draft.steps with
  | .error err => .error (.invalidDag err)
  | .ok () =>
  if draft.steps = [] ∨ 256 < draft.steps.length then .error (.stepCount draft.steps.length)
  else .ok
    { semanticDigest := computePlanDigest p.hashes tenantId intent draft
      releaseRef := releaseRef intent draft.targetSnapshot
      targetSnapshot := draft.targetSnapshot
      steps := draft.steps }

/-- `ProcessWithContext`, with the intent that validation leaves. -/
def Planner.process (tenantId : String) : Except PlanError (RuntimeIntent × ExecutionPlan) :=
  match intent.validateWithScope p.urls tenantId with
  | .error err => .error (.intent err)
  | .ok intent =>
  match p.plan tenantId intent with
  | .error err => .error err
  | .ok plan => .ok (intent, plan)

end Plans

/-! ## What a plan has -/

section Specs

variable {p : Planner} {tenantId : String} {intent intent' : RuntimeIntent}

theorem generateSteps_stepType (kind : IntentKind) :
    ∀ step ∈ generateSteps kind, step.stepType ≠ "" := by
  cases kind <;> simp [generateSteps]

theorem append_ne_empty {a b : String} (h : a ≠ "") : a ++ b ≠ "" := by
  intro hab
  exact h (String.append_eq_empty_iff.1 hab).1

theorem lifecycleSteps_stepType (decision : CompatibilityDecision) (provider : ProviderResolution) :
    ∀ step ∈ (lifecycleSteps p.hashes tenantId intent decision provider).1, step.stepType ≠ "" := by
  intro step hstep
  simp only [lifecycleSteps, mem_singleton] at hstep
  subst hstep
  exact append_ne_empty (append_ne_empty (append_ne_empty (by decide)))

theorem Planner.draftCluster_stepType {draft : Draft}
    (h : p.draftCluster tenantId intent = .ok draft) : ∀ step ∈ draft.steps, step.stepType ≠ "" := by
  unfold draftCluster at h
  split at h
  · simp at h
  split at h
  · simp at h
  split at h
  · simp at h
  split at h
  · simp at h
  · simp at h
  split_ifs at h
  cases h
  exact lifecycleSteps_stepType _ _

theorem Planner.draftStorage_stepType {draft : Draft}
    (h : p.draftStorage tenantId intent = .ok draft) : ∀ step ∈ draft.steps, step.stepType ≠ "" := by
  unfold draftStorage at h
  split at h
  · simp at h
  split at h
  · simp only at h
    split at h
    · simp at h
    cases h
    simp only [storageDriverSteps, storageStep, mem_singleton, forall_eq]
    exact append_ne_empty (by decide)
  split at h
  · simp only at h
    split at h
    · simp at h
    cases h
    simp only [retainedVolumeSteps, storageStep, mem_singleton, forall_eq]
    exact append_ne_empty (by decide)
  · simp only at h
    split at h
    · simp at h
    split at h
    · simp at h
    cases h
    simp only [storageBindingSteps, storageStep, mem_singleton, forall_eq]
    exact append_ne_empty (by decide)

variable {plan : ExecutionPlan}

theorem Planner.plan_stepType (h : p.plan tenantId intent = .ok plan) :
    ∀ step ∈ plan.steps, step.stepType ≠ "" := by
  unfold Planner.plan at h
  split at h
  · simp at h
  next draft hdraft =>
  split at h
  · simp at h
  split at h
  · simp at h
  cases h
  unfold Planner.draft at hdraft
  split at hdraft
  · exact draftCluster_stepType hdraft
  split at hdraft
  · exact draftStorage_stepType hdraft
  · cases hdraft
    exact generateSteps_stepType intent.kind

/-- What `ProcessWithContext` returns is planned for a tenant, for the intent it was given. -/
theorem Planner.process_ok (h : p.process intent tenantId = .ok (intent', plan)) :
    tenantId ≠ "" ∧ intent'.kind = intent.kind ∧ intent'.idempotencyKey = intent.idempotencyKey
      ∧ p.plan tenantId intent' = .ok plan := by
  unfold Planner.process at h
  split at h
  · simp at h
  next validated hvalidated =>
  split at h
  · simp at h
  next planned hplanned =>
  cases h
  obtain ⟨htenant, hkind, hkey⟩ := RuntimeIntent.validateWithScope_ok hvalidated
  exact ⟨htenant, hkind, hkey, hplanned⟩

end Specs

end HnbCloud.Engine
