import HnbCloud.Lib.Text
import HnbCloud.Lib.Uuid
import HnbCloud.Messaging.Envelope
import HnbCloud.Operation.StaleAdmission

set_option autoImplicit false

/-! # Runtime intents

`ParseRuntimeIntent` and `IntentValidator` of platform-api (`internal/engine/intent.go`): the decoding
of an intent from the body of a request and the rules for its kind. Some rules also fill in fields
(`targetRef`, `scopeRef`, the normalized endpoint), so a check returns the specification it leaves.

What `url.Parse` makes of an endpoint is left open: the results hold for every parser. Where the
source ranges over a map of checks, the model goes through them in the order of the source text. -/

namespace HnbCloud.Engine

open Operation

/-! ## The intent -/

structure SecretReferenceEntry where
  (provider scope name version : String)
deriving DecidableEq, Inhabited

structure RetainedVolumeResource where
  (resourceNamespace name uid resourceVersion phase reclaimPolicy : String)
  deletionObserved : Bool
deriving DecidableEq, Inhabited

structure RetainedVolumeDependency where
  (resourceNamespace name uid resourceVersion : String)
deriving DecidableEq, Inhabited

structure IntentSpec where
  (releaseId targetRef scopeRef targetId targetKind : String)
  expectedVersion : Int
  bindingId : String
  bindingVersion : Int
  offeringId : String
  offeringVersion : Int
  (storageClassName storageClassUid storageClassResourceVersion installationId packageId : String)
  (packageVersion currentVersion desiredVersion displayName kubernetesVersion : String)
  cloudCoreEndpoint : String
  credentialSecretRef : Option SecretReferenceEntry
  nodeGroupMappings : List (String × String)
  riskConfirmation : Option RiskConfirmation
  parameters : List (String × Json)
  secretReferences : List SecretReferenceEntry
  (volumeId workflowProviderRef : String)
  (persistentVolume persistentVolumeClaim : RetainedVolumeResource)
  (podDependencies statefulSetDependencies : List RetainedVolumeDependency)

/-- `RuntimeIntent`, with its metadata. -/
structure RuntimeIntent where
  apiVersion : String
  kind : IntentKind
  (idempotencyKey correlationId : String)
  spec : IntentSpec

/-- The errors of parsing and validation: of the decoder, or a `ValidationError`. -/
inductive IntentError where
  | decode (what : String)
  | validation (field reason : String)
deriving DecidableEq, Repr

end HnbCloud.Engine

namespace HnbCloud.Operation.IntentKind

/-! ## Kinds -/

/-- `intentKindValid`, with the kind a valid text stands for. -/
def valid? (text : String) : Option IntentKind :=
  [installRelease, uninstallRelease, upgradeRelease, rollbackRelease, changeConfiguration,
    createKubernetesTarget, importRuntimeTarget, upgradeRuntimeTarget, deleteRuntimeTarget,
    importStorageClassBinding, reconcileStorageClassBinding, installStorageDriver,
    upgradeStorageDriver, uninstallStorageDriver, releaseRetainedVolume,
    sanitizeRetainedVolume].find? fun kind => kind.text == text

/-- `IsClusterIntentKind`. -/
def isCluster : IntentKind → Bool
  | createKubernetesTarget | importRuntimeTarget | upgradeRuntimeTarget | deleteRuntimeTarget => true
  | _ => false

/-- `IsRetainedVolumeIntentKind`. -/
def isRetainedVolume : IntentKind → Bool
  | releaseRetainedVolume | sanitizeRetainedVolume => true
  | _ => false

/-- `IsStorageDriverIntentKind`. -/
def isStorageDriver : IntentKind → Bool
  | installStorageDriver | upgradeStorageDriver | uninstallStorageDriver => true
  | _ => false

/-- `IsStorageIntentKind`. -/
def isStorage (kind : IntentKind) : Bool :=
  kind == importStorageClassBinding || kind == reconcileStorageClassBinding
    || kind.isStorageDriver || kind.isRetainedVolume

def requiresReleaseId : IntentKind → Bool
  | installRelease | uninstallRelease | upgradeRelease | rollbackRelease | changeConfiguration =>
    true
  | _ => false

end HnbCloud.Operation.IntentKind

namespace HnbCloud.Engine

open Operation Json

/-! ## Decoding -/

def assignBool (old : Bool) : Json → Option Bool
  | .bool b => some b
  | .null => some old
  | _ => none

/-- A `map[string]string`. -/
def assignTextMap (old : List (String × String)) : Json → Option (List (String × String))
  | .null => some []
  | .obj fields => fields.foldlM (fun m field =>
    (assignText "" field.2).map fun value => setEntry m field.1 value) old
  | _ => none

/-- A `map[string]any`. -/
def assignAnyMap (old : List (String × Json)) : Json → Option (List (String × Json))
  | .null => some []
  | .obj fields => some (fields.foldl (fun m field => setEntry m field.1 field.2) old)
  | _ => none

/-- A structure, decoded into the one that is there. -/
def SecretReferenceEntry.unmarshal (old : SecretReferenceEntry) (data : Json) :
    Option SecretReferenceEntry := do
  let fields ← data.fields?
  let provider ← decodeField assignText old.provider "provider" fields
  let scope ← decodeField assignText old.scope "scope" fields
  let name ← decodeField assignText old.name "name" fields
  let version ← decodeField assignText old.version "version" fields
  return ⟨provider, scope, name, version⟩

def unmarshalRiskConfirmation (old : RiskConfirmation) (data : Json) : Option RiskConfirmation := do
  let fields ← data.fields?
  let acknowledged ← decodeField assignBool old.acknowledged "acknowledged" fields
  let confirmation ← decodeField assignText old.confirmation "confirmation" fields
  let reason ← decodeField assignText old.reason "reason" fields
  return ⟨acknowledged, confirmation, reason⟩

/-- `UnmarshalJSON` of the resource starts from an empty one. -/
def RetainedVolumeResource.unmarshal (data : Json) : Option RetainedVolumeResource := do
  let fields ← data.fields?
  let resourceNamespace ← decodeText "namespace" fields
  let name ← decodeText "name" fields
  let uid ← decodeText "uid" fields
  let resourceVersion ← decodeText "resourceVersion" fields
  let phase ← decodeText "phase" fields
  let reclaimPolicy ← decodeText "reclaimPolicy" fields
  let deletionObserved ← decodeField assignBool false "deletionObserved" fields
  return ⟨resourceNamespace, name, uid, resourceVersion, phase, reclaimPolicy, deletionObserved⟩

def RetainedVolumeDependency.unmarshal (data : Json) : Option RetainedVolumeDependency := do
  let fields ← data.fields?
  let resourceNamespace ← decodeText "namespace" fields
  let name ← decodeText "name" fields
  let uid ← decodeText "uid" fields
  let resourceVersion ← decodeText "resourceVersion" fields
  return ⟨resourceNamespace, name, uid, resourceVersion⟩

/-- A pointer to a structure. -/
def assignPointer {α : Type} (zero : α) (unmarshal : α → Json → Option α) (old : Option α) :
    Json → Option (Option α)
  | .null => some none
  | data => (unmarshal (old.getD zero) data).map some

/-- A slice of structures. -/
def assignSlice {α : Type} (unmarshal : Json → Option α) (_ : List α) : Json → Option (List α)
  | .null => some []
  | .arr items => items.mapM unmarshal
  | _ => none

/-- `json.Unmarshal(sp, &intent.Spec)`. -/
def IntentSpec.unmarshal (data : Json) : Option IntentSpec := do
  let fields ← data.fields?
  let releaseId ← decodeText "releaseId" fields
  let targetRef ← decodeText "targetRef" fields
  let scopeRef ← decodeText "scopeRef" fields
  let targetId ← decodeText "targetId" fields
  let targetKind ← decodeText "targetKind" fields
  let expectedVersion ← decodeInt "expectedVersion" fields
  let bindingId ← decodeText "bindingId" fields
  let bindingVersion ← decodeInt "bindingVersion" fields
  let offeringId ← decodeText "offeringId" fields
  let offeringVersion ← decodeInt "offeringVersion" fields
  let storageClassName ← decodeText "storageClassName" fields
  let storageClassUid ← decodeText "storageClassUid" fields
  let storageClassResourceVersion ← decodeText "storageClassResourceVersion" fields
  let installationId ← decodeText "installationId" fields
  let packageId ← decodeText "packageId" fields
  let packageVersion ← decodeText "packageVersion" fields
  let currentVersion ← decodeText "currentVersion" fields
  let desiredVersion ← decodeText "desiredVersion" fields
  let displayName ← decodeText "displayName" fields
  let kubernetesVersion ← decodeText "kubernetesVersion" fields
  let cloudCoreEndpoint ← decodeText "cloudCoreEndpoint" fields
  let credentialSecretRef ← decodeField
    (assignPointer ⟨"", "", "", ""⟩ SecretReferenceEntry.unmarshal) none "credentialSecretRef" fields
  let nodeGroupMappings ← decodeField assignTextMap [] "nodeGroupMappings" fields
  let riskConfirmation ← decodeField
    (assignPointer ⟨false, "", ""⟩ unmarshalRiskConfirmation) none "riskConfirmation" fields
  let parameters ← decodeField assignAnyMap [] "parameters" fields
  let secretReferences ← decodeField
    (assignSlice (SecretReferenceEntry.unmarshal ⟨"", "", "", ""⟩)) [] "secretReferences" fields
  let volumeId ← decodeText "volumeId" fields
  let workflowProviderRef ← decodeText "workflowProviderRef" fields
  let persistentVolume ← decodeField (fun _ => RetainedVolumeResource.unmarshal) default
    "persistentVolume" fields
  let persistentVolumeClaim ← decodeField (fun _ => RetainedVolumeResource.unmarshal) default
    "persistentVolumeClaim" fields
  let podDependencies ← decodeField (assignSlice RetainedVolumeDependency.unmarshal) []
    "podDependencies" fields
  let statefulSetDependencies ← decodeField (assignSlice RetainedVolumeDependency.unmarshal) []
    "statefulSetDependencies" fields
  return ⟨releaseId, targetRef, scopeRef, targetId, targetKind, expectedVersion, bindingId,
    bindingVersion, offeringId, offeringVersion, storageClassName, storageClassUid,
    storageClassResourceVersion, installationId, packageId, packageVersion, currentVersion,
    desiredVersion, displayName, kubernetesVersion, cloudCoreEndpoint, credentialSecretRef,
    nodeGroupMappings, riskConfirmation, parameters, secretReferences, volumeId,
    workflowProviderRef, persistentVolume, persistentVolumeClaim, podDependencies,
    statefulSetDependencies⟩

/-! ## The rules of the kinds -/

structure ParsedUrl where
  (scheme hostname port : String)
  hasUser : Bool
  rawQuery : String
  forceQuery : Bool
  (fragment text : String)

/-- `url.Parse`. -/
structure UrlParser where
  parse : String → Option ParsedUrl

def normalizeCloudCoreEndpoint (urls : UrlParser) (raw : String) : Except String String :=
  if raw = "" ∨ 512 < raw.utf8ByteSize ∨ containsAny raw ['\x00', '\r', '\n', '\t'] = true then
    .error "must be a bounded absolute URL"
  else
  match urls.parse raw with
  | none => .error "must use https or wss with a hostname"
  | some u =>
    if (u.scheme ≠ "https" ∧ u.scheme ≠ "wss") ∨ u.hostname = "" then
      .error "must use https or wss with a hostname"
    else if u.hasUser = true ∨ u.rawQuery ≠ "" ∨ u.forceQuery = true ∨ u.fragment ≠ "" then
      .error "userinfo, query, and fragment are forbidden"
    else if u.port = "" then .ok u.text
    else
    match Messaging.parseDigits 0 u.port.toList with
    | none => .error "port is invalid"
    | some value => if value < 1 ∨ 65535 < value then .error "port is invalid" else .ok u.text

/-- `boundedRetainedIdentity`. -/
def boundedIdentity (value : String) (limit : Nat) : Bool :=
  decide (trimSpace value ≠ "") && decide (value.utf8ByteSize ≤ limit)
    && !containsAny value ['\x00', '\r', '\n']

/-- `validRetainedResource`. -/
def RetainedVolumeResource.valid (resource : RetainedVolumeResource) (namespaceRequired : Bool) :
    Bool :=
  boundedIdentity resource.name 253 && boundedIdentity resource.uid 128
    && boundedIdentity resource.resourceVersion 128
    && (!namespaceRequired || boundedIdentity resource.resourceNamespace 253)

/-- The first field of these that is no UUID. -/
def checkUuids : List (String × String) → Except IntentError Unit
  | [] => .ok ()
  | (field, value) :: rest =>
    if isUuid value then checkUuids rest else .error (.validation field "must be a valid UUID")

/-- The first field of these that is no bounded identity. -/
def checkIdentities (limit : Nat) : List (String × String) → Except IntentError Unit
  | [] => .ok ()
  | (field, value) :: rest =>
    if boundedIdentity value limit then checkIdentities limit rest
    else .error (.validation field "must be a bounded non-empty identity")

section Kinds

variable (urls : UrlParser) (kind : IntentKind) (spec : IntentSpec)

def validateRetainedVolumeIntentSpec : Except IntentError IntentSpec :=
  if isUuid spec.targetId = false ∨ spec.targetKind ≠ "KubernetesTarget"
      ∨ spec.expectedVersion < 1 then
    .error (.validation "spec.targetId" "a fenced KubernetesTarget is required")
  else if boundedIdentity spec.volumeId 128 = false
      ∨ boundedIdentity spec.workflowProviderRef 256 = false then
    .error (.validation "spec.volumeId" "volume and provider identities are required")
  else if spec.persistentVolume.valid false = false ∨ spec.persistentVolume.reclaimPolicy ≠ "Retain"
      ∨ spec.persistentVolume.phase ≠ "Released" then
    .error (.validation "spec.persistentVolume"
      "a Released PV with Retain reclaim policy is required")
  else if spec.persistentVolumeClaim.valid true = false
      ∨ spec.persistentVolumeClaim.deletionObserved = false then
    .error (.validation "spec.persistentVolumeClaim" "deleted PVC evidence is required")
  else if spec.podDependencies ≠ [] ∨ spec.statefulSetDependencies ≠ [] then
    .error (.validation "spec"
      "active Pod or StatefulSet dependencies prohibit retained-volume release")
  else if spec.parameters.isEmpty = false ∨ spec.secretReferences ≠ []
      ∨ spec.credentialSecretRef ≠ none then
    .error (.validation "spec" "retained-volume intents accept only typed observation evidence")
  else .ok { spec with
    targetRef := spec.targetId
    scopeRef := "retainedVolume:" ++ spec.volumeId }

/-- The first parameter of a storage driver that is no sanitized scalar. -/
def checkDriverParameters : List (String × Json) → Except IntentError Unit
  | [] => .ok ()
  | (key, value) :: rest =>
    match value with
    | .null | .bool _ | .num _ => checkDriverParameters rest
    | .str s =>
      if 4096 < s.utf8ByteSize ∨ containsAny s ['\x00', '\r', '\n'] = true then
        .error (.validation ("spec.parameters." ++ key) "string value is invalid")
      else checkDriverParameters rest
    | .arr _ | .obj _ =>
      .error (.validation ("spec.parameters." ++ key) "only scalar sanitized values are allowed")

def validateStorageDriverIntentSpec : Except IntentError IntentSpec :=
  match checkUuids [("spec.targetId", spec.targetId), ("spec.installationId", spec.installationId)]
  with
  | .error err => .error err
  | .ok () =>
  if spec.targetKind ≠ "KubernetesTarget" ∨ spec.expectedVersion < 1 then
    .error (.validation "spec" "KubernetesTarget and target version are required")
  else
  match checkIdentities 256 [("spec.packageId", spec.packageId),
      ("spec.packageVersion", spec.packageVersion)] with
  | .error err => .error err
  | .ok () =>
  if trimSpace spec.kubernetesVersion = "" then
    .error (.validation "spec.kubernetesVersion" "required")
  else if kind = .upgradeStorageDriver ∧ trimSpace spec.currentVersion = "" then
    .error (.validation "spec.currentVersion" "required for upgrade")
  else if kind ≠ .upgradeStorageDriver ∧ spec.currentVersion ≠ "" then
    .error (.validation "spec.currentVersion" "only valid for upgrade")
  else if 32 < spec.parameters.length then
    .error (.validation "spec.parameters" "max 32 properties")
  else
  match checkDriverParameters spec.parameters with
  | .error err => .error err
  | .ok () => .ok { spec with
    targetRef := spec.targetId
    scopeRef := "storageDriverInstallation:" ++ spec.installationId }

def validateStorageIntentSpec : Except IntentError IntentSpec :=
  match checkUuids [("spec.targetId", spec.targetId), ("spec.bindingId", spec.bindingId),
      ("spec.offeringId", spec.offeringId)] with
  | .error err => .error err
  | .ok () =>
  if spec.targetKind ≠ "KubernetesTarget" then
    .error (.validation "spec.targetKind" "must be KubernetesTarget")
  else if spec.expectedVersion < 1 ∨ spec.offeringVersion < 1 then
    .error (.validation "spec" "target and offering versions must be at least 1")
  else if kind = .reconcileStorageClassBinding ∧ spec.bindingVersion < 1 then
    .error (.validation "spec.bindingVersion" "must be at least 1")
  else
  match checkIdentities 253 [("spec.storageClassName", spec.storageClassName),
      ("spec.storageClassUid", spec.storageClassUid),
      ("spec.storageClassResourceVersion", spec.storageClassResourceVersion)] with
  | .error err => .error err
  | .ok () =>
  if spec.parameters.isEmpty = false ∨ spec.secretReferences ≠ []
      ∨ spec.credentialSecretRef ≠ none then
    .error (.validation "spec"
      "storage binding intents accept only typed identity fields and no secret values")
  else .ok { spec with
    targetRef := spec.targetId
    scopeRef := "storageClassBinding:" ++ spec.bindingId }

def checkNewTarget : Except IntentError Unit :=
  if trimSpace spec.displayName = "" then .error (.validation "spec.displayName" "required")
  else if spec.credentialSecretRef = none then
    .error (.validation "spec.credentialSecretRef" "required")
  else .ok ()

/-- The switch over the kinds in `validateClusterIntentSpec`. -/
def validateClusterKind : Except IntentError IntentSpec :=
  match kind with
  | .createKubernetesTarget =>
    -- The creation of an edge target is left to the compatibility matrix, which refuses it.
    if spec.targetKind = "KubernetesTarget" then
      match checkNewTarget spec with
      | .error err => .error err
      | .ok () => .ok spec
    else .ok spec
  | .importRuntimeTarget =>
    match checkNewTarget spec with
    | .error err => .error err
    | .ok () =>
    if spec.targetKind = "EdgeRuntimeTarget" then
      match normalizeCloudCoreEndpoint urls spec.cloudCoreEndpoint with
      | .error reason => .error (.validation "spec.cloudCoreEndpoint" reason)
      | .ok normalized => .ok { spec with cloudCoreEndpoint := normalized }
    else .ok spec
  | .upgradeRuntimeTarget | .deleteRuntimeTarget =>
    if isUuid spec.targetId = false then
      .error (.validation "spec.targetId" "must be a valid UUID")
    else if spec.expectedVersion < 1 then
      .error (.validation "spec.expectedVersion" "must be at least 1")
    else if kind = .upgradeRuntimeTarget ∧ trimSpace spec.desiredVersion = "" then
      .error (.validation "spec.desiredVersion" "required")
    else .ok { spec with targetRef := spec.targetId }
  | _ => .ok spec

def validateClusterIntentSpec : Except IntentError IntentSpec :=
  if spec.targetKind ≠ "KubernetesTarget" ∧ spec.targetKind ≠ "EdgeRuntimeTarget" then
    .error (.validation "spec.targetKind" "must be KubernetesTarget or EdgeRuntimeTarget")
  else
  match validateClusterKind urls kind spec with
  | .error err => .error err
  | .ok spec' =>
    if (spec'.credentialSecretRef.map fun ref => trimSpace ref.name) = some "" then
      .error (.validation "spec.credentialSecretRef.name" "required")
    else .ok spec'

/-- The rules of the intent's kind, as the parser and the validator apply them. -/
def validateKind : Except IntentError IntentSpec :=
  if kind.requiresReleaseId then
    if trimSpace spec.releaseId = "" then
      .error (.validation "spec.releaseId" "required for release-scoped intents")
    else if trimSpace spec.targetRef = "" then .error (.validation "spec.targetRef" "required")
    else if trimSpace spec.scopeRef = "" then .error (.validation "spec.scopeRef" "required")
    else .ok spec
  else if kind.isStorageDriver then validateStorageDriverIntentSpec kind spec
  else if kind.isRetainedVolume then validateRetainedVolumeIntentSpec spec
  else if kind.isStorage then validateStorageIntentSpec kind spec
  else validateClusterIntentSpec urls kind spec

end Kinds

/-! ## Parsing and validation -/

def forbiddenIntentParamKeys : List String :=
  ["steps", "command", "commands", "providerid", "providercommand", "providercommands",
    "credential", "credentials", "targetcredential", "targetcredentials", "artifactbytes", "fencing",
    "fencingtoken", "policyresult", "policyresults", "approvalresult", "approvalresults"]

/-- The first parameter with a forbidden name. -/
def checkParameterKeys : List (String × Json) → Except IntentError Unit
  | [] => .ok ()
  | (key, _) :: rest =>
    if forbiddenIntentParamKeys.contains (toLower key) then
      .error (.validation "spec.parameters" ("forbidden key " ++ quoted key ++ " is not allowed"))
    else checkParameterKeys rest

/-- The fields of the specification that a body may have. -/
def specFields : List String :=
  ["releaseId", "targetRef", "scopeRef", "targetId", "targetKind", "expectedVersion",
    "desiredVersion", "bindingId", "bindingVersion", "offeringId", "offeringVersion",
    "storageClassName", "storageClassUid", "storageClassResourceVersion", "installationId",
    "packageId", "packageVersion", "currentVersion", "displayName", "kubernetesVersion",
    "cloudCoreEndpoint", "credentialSecretRef", "nodeGroupMappings", "riskConfirmation",
    "parameters", "secretReferences"]

/-- The first field of the specification that it may not have. -/
def checkSpecFields : List (String × Json) → Except IntentError Unit
  | [] => .ok ()
  | (name, _) :: rest =>
    if specFields.contains name then checkSpecFields rest
    else .error (.validation "spec" ("unknown field " ++ quoted name ++ " is not permitted"))

section Fields

variable (fields : List (String × Json))

/-- A top-level field of the body; the last one under a name counts. -/
def rawField (name : String) : Option Json :=
  ((fields.filter fun field => field.1 == name).getLast?).map Prod.snd

def parseHeader : Except IntentError (String × IntentKind) :=
  match rawField fields "apiVersion" with
  | none => .error (.validation "apiVersion" "required")
  | some apiVersion =>
  match assignText "" apiVersion with
  | none => .error (.decode "apiVersion")
  | some apiVersion =>
  if apiVersion ≠ "hnb.io/v1" then .error (.validation "apiVersion" "must be hnb.io/v1")
  else
  match rawField fields "kind" with
  | none => .error (.validation "kind" "required")
  | some kind =>
  match assignText "" kind with
  | none => .error (.decode "kind")
  | some kind =>
  match IntentKind.valid? kind with
  | none => .error (.validation "kind" ("unsupported kind " ++ quoted kind))
  | some kind => .ok (apiVersion, kind)

/-- `json.Unmarshal(md, &intent.Metadata)`. -/
def unmarshalMetadata (data : Json) : Option (String × String) := do
  let fields ← data.fields?
  let idempotencyKey ← decodeText "idempotencyKey" fields
  let correlationId ← decodeText "correlationId" fields
  return (idempotencyKey, correlationId)

/-- The idempotency key and the correlation id of a body. -/
def parseMetadata : Except IntentError (String × String) :=
  match rawField fields "metadata" with
  | none => .error (.validation "metadata" "required")
  | some metadata =>
  match unmarshalMetadata metadata with
  | none => .error (.decode "metadata")
  | some (idempotencyKey, correlationId) =>
  if trimSpace idempotencyKey = "" then
    .error (.validation "metadata.idempotencyKey" "required, non-empty")
  else if 128 < idempotencyKey.utf8ByteSize then
    .error (.validation "metadata.idempotencyKey" "max 128 characters")
  else if correlationId ≠ "" ∧ isUuid correlationId = false then
    .error (.validation "metadata.correlationId" "must be a valid UUID")
  else .ok (idempotencyKey, correlationId)

/-- The specification of a body. -/
def parseSpec : Except IntentError IntentSpec :=
  match rawField fields "spec" with
  | none => .error (.validation "spec" "required")
  | some data =>
  match data.fields? with
  | none => .error (.decode "spec")
  | some specRaw =>
  match checkSpecFields specRaw with
  | .error err => .error err
  | .ok () =>
  match IntentSpec.unmarshal data with
  | none => .error (.decode "spec")
  | some spec => .ok spec

end Fields

/-- A confirmation that the parser refuses. -/
def badRiskConfirmation (confirmation : RiskConfirmation) : Bool :=
  !confirmation.acknowledged || decide (confirmation.confirmation.utf8ByteSize < 16)
    || decide (2048 < confirmation.confirmation.utf8ByteSize)
    || decide (512 < confirmation.reason.utf8ByteSize)

/-- The reference of a release intent is too long. -/
def IntentSpec.refsTooLong (spec : IntentSpec) : Bool :=
  decide (256 < spec.releaseId.utf8ByteSize) || decide (256 < spec.targetRef.utf8ByteSize)
    || decide (256 < spec.scopeRef.utf8ByteSize)

def parseRuntimeIntent (urls : UrlParser) (body : Json) : Except IntentError RuntimeIntent :=
  match body.fields? with
  | none => .error (.decode "parse body")
  | some fields =>
  match parseHeader fields with
  | .error err => .error err
  | .ok (apiVersion, kind) =>
  match parseMetadata fields with
  | .error err => .error err
  | .ok (idempotencyKey, correlationId) =>
  match parseSpec fields with
  | .error err => .error err
  | .ok spec =>
  match validateKind urls kind spec with
  | .error err => .error err
  | .ok spec =>
  if spec.refsTooLong then .error (.validation "spec" "fields exceed max length 256")
  else if (spec.riskConfirmation.map badRiskConfirmation) = some true then
    .error (.validation "spec.riskConfirmation" "invalid confirmation")
  else
  match checkParameterKeys spec.parameters with
  | .error err => .error err
  | .ok () =>
  if 64 < spec.parameters.length then .error (.validation "spec.parameters" "max 64 properties")
  else if 32 < spec.secretReferences.length then
    .error (.validation "spec.secretReferences" "max 32 items")
  else .ok ⟨apiVersion, kind, idempotencyKey, correlationId, spec⟩

/-- The names a body may have at the top. -/
def topLevelFields : List String := ["apiVersion", "kind", "metadata", "spec"]

/-- `ValidateNoExtraFields`, of a body that is an object. -/
def validateNoExtraFields (body : Json) : Except String Unit :=
  match (body.fields?.getD []).find? fun field => topLevelFields.contains field.1 = false with
  | none => .ok ()
  | some field => .error ("unknown field " ++ quoted field.1 ++ " is not permitted")

/-- The first secret reference without a name. -/
def checkSecretNames (index : Nat) : List SecretReferenceEntry → Except IntentError Unit
  | [] => .ok ()
  | ref :: rest =>
    if trimSpace ref.name = "" then
      .error (.validation ("spec.secretReferences[" ++ toString index ++ "].name") "required")
    else checkSecretNames (index + 1) rest

/-- `Validate`, with the intent it leaves. -/
def RuntimeIntent.validate (urls : UrlParser) (intent : RuntimeIntent) :
    Except IntentError RuntimeIntent :=
  match validateKind urls intent.kind intent.spec with
  | .error err => .error err
  | .ok spec =>
  if spec.refsTooLong then .error (.validation "spec" "field exceeds max length 256")
  else
  match checkParameterKeys spec.parameters with
  | .error err => .error err
  | .ok () =>
  if 64 < spec.parameters.length then .error (.validation "spec.parameters" "max 64 properties")
  else if 32 < spec.secretReferences.length then
    .error (.validation "spec.secretReferences" "max 32 items")
  else
  match checkSecretNames 0 spec.secretReferences with
  | .error err => .error err
  | .ok () => .ok { intent with spec := spec }

def RuntimeIntent.validateWithScope (urls : UrlParser) (intent : RuntimeIntent)
    (tenantId : String) : Except IntentError RuntimeIntent :=
  match intent.validate urls with
  | .error err => .error err
  | .ok intent =>
    if tenantId = "" then .error (.validation "tenantId" "required for scope validation")
    else .ok intent

/-- Validation with a scope fills in the specification and needs a tenant. -/
theorem RuntimeIntent.validateWithScope_ok {urls : UrlParser} {intent intent' : RuntimeIntent}
    {tenantId : String} (h : intent.validateWithScope urls tenantId = .ok intent') :
    tenantId ≠ "" ∧ intent'.kind = intent.kind ∧ intent'.idempotencyKey = intent.idempotencyKey := by
  unfold validateWithScope at h
  split at h
  · simp at h
  next validated hvalidated =>
  split_ifs at h with htenant
  cases h
  unfold validate at hvalidated
  split at hvalidated
  · simp at hvalidated
  split at hvalidated
  · simp at hvalidated
  split at hvalidated
  · simp at hvalidated
  split at hvalidated
  · simp at hvalidated
  split at hvalidated
  · simp at hvalidated
  split at hvalidated
  · simp at hvalidated
  cases hvalidated
  exact ⟨htenant, rfl, rfl⟩

/-! ## The encoding of an intent -/

section Encoding

open Messaging List

def SecretReferenceEntry.marshal (ref : SecretReferenceEntry) : Json :=
  .obj ([("provider", .str ref.provider), ("scope", .str ref.scope), ("name", .str ref.name)]
    ++ textField "version" ref.version)

def marshalRiskConfirmation (risk : RiskConfirmation) : Json :=
  .obj ([("acknowledged", .bool risk.acknowledged), ("confirmation", .str risk.confirmation)]
    ++ textField "reason" risk.reason)

/-- `MarshalJSON` of the resource. -/
def RetainedVolumeResource.marshal (resource : RetainedVolumeResource) : Json :=
  .obj (textField "namespace" resource.resourceNamespace
    ++ [("name", .str resource.name), ("uid", .str resource.uid),
      ("resourceVersion", .str resource.resourceVersion)]
    ++ textField "phase" resource.phase ++ textField "reclaimPolicy" resource.reclaimPolicy
    ++ if resource.deletionObserved then [("deletionObserved", .bool true)] else [])

def RetainedVolumeDependency.marshal (dependency : RetainedVolumeDependency) : Json :=
  .obj [("namespace", .str dependency.resourceNamespace), ("name", .str dependency.name),
    ("uid", .str dependency.uid), ("resourceVersion", .str dependency.resourceVersion)]

/-- A map, by its keys. -/
def marshalMap (m : List (String × Json)) : Json :=
  .obj (m.mergeSort fun a b => decide (a.1 ≤ b.1))

/-- The fields of the specification in the order of the structure. `omitempty` leaves out no
    structure, so the two resources are always written. -/
def IntentSpec.marshal (spec : IntentSpec) : List (String × Json) :=
  [("releaseId", .str spec.releaseId), ("targetRef", .str spec.targetRef),
    ("scopeRef", .str spec.scopeRef)]
  ++ textField "targetId" spec.targetId ++ textField "targetKind" spec.targetKind
  ++ numField "expectedVersion" spec.expectedVersion ++ textField "bindingId" spec.bindingId
  ++ numField "bindingVersion" spec.bindingVersion ++ textField "offeringId" spec.offeringId
  ++ numField "offeringVersion" spec.offeringVersion
  ++ textField "storageClassName" spec.storageClassName
  ++ textField "storageClassUid" spec.storageClassUid
  ++ textField "storageClassResourceVersion" spec.storageClassResourceVersion
  ++ textField "installationId" spec.installationId ++ textField "packageId" spec.packageId
  ++ textField "packageVersion" spec.packageVersion
  ++ textField "currentVersion" spec.currentVersion
  ++ textField "desiredVersion" spec.desiredVersion ++ textField "displayName" spec.displayName
  ++ textField "kubernetesVersion" spec.kubernetesVersion
  ++ textField "cloudCoreEndpoint" spec.cloudCoreEndpoint
  ++ pointerField "credentialSecretRef" SecretReferenceEntry.marshal spec.credentialSecretRef
  ++ listField "nodeGroupMappings" (fun m => marshalMap (m.map fun x => (x.1, .str x.2)))
    spec.nodeGroupMappings
  ++ pointerField "riskConfirmation" marshalRiskConfirmation spec.riskConfirmation
  ++ listField "parameters" marshalMap spec.parameters
  ++ listField "secretReferences" (fun refs => .arr (refs.map SecretReferenceEntry.marshal))
    spec.secretReferences
  ++ textField "volumeId" spec.volumeId
  ++ textField "workflowProviderRef" spec.workflowProviderRef
  ++ [("persistentVolume", spec.persistentVolume.marshal),
    ("persistentVolumeClaim", spec.persistentVolumeClaim.marshal)]
  ++ listField "podDependencies" (fun ds => .arr (ds.map RetainedVolumeDependency.marshal))
    spec.podDependencies
  ++ listField "statefulSetDependencies"
    (fun ds => .arr (ds.map RetainedVolumeDependency.marshal)) spec.statefulSetDependencies

/-- `json.Marshal(intent)`. -/
def RuntimeIntent.marshal (intent : RuntimeIntent) : Json :=
  .obj [("apiVersion", .str intent.apiVersion), ("kind", .str intent.kind.text),
    ("metadata", .obj [("idempotencyKey", .str intent.idempotencyKey),
      ("correlationId", .str intent.correlationId)]),
    ("spec", .obj intent.spec.marshal)]

variable {urls : UrlParser} {fields : List (String × Json)}

theorem checkSpecFields_ok (h : checkSpecFields fields = .ok ()) :
    ∀ field ∈ fields, field.1 ∈ specFields := by
  induction fields with
  | nil => simp
  | cons field rest ih =>
    rw [checkSpecFields] at h
    split_ifs at h with hname
    exact forall_mem_cons.2 ⟨by simpa using hname, ih h⟩

/-- A body that is accepted has a specification, all of whose fields are permitted, and passes the
    rules of its kind. -/
theorem parseRuntimeIntent_ok {body : Json} {intent : RuntimeIntent}
    (h : parseRuntimeIntent urls body = .ok intent) :
    ∃ fields data specRaw spec, body.fields? = some fields ∧ rawField fields "spec" = some data
      ∧ data.fields? = some specRaw ∧ (∀ field ∈ specRaw, field.1 ∈ specFields)
      ∧ IntentSpec.unmarshal data = some spec
      ∧ validateKind urls intent.kind spec = .ok intent.spec := by
  unfold parseRuntimeIntent parseSpec at h
  split at h
  · simp at h
  next fields hfields =>
  split at h
  · simp at h
  split at h
  · simp at h
  split at h
  · simp at h
  next spec hspec =>
  split at h
  · simp at h
  next spec' hkind =>
  split at h
  · simp at h
  split at h
  · simp at h
  split at h
  · simp at h
  split_ifs at h
  cases h
  split at hspec
  · simp at hspec
  next data hdata =>
  split at hspec
  · simp at hspec
  next specRaw hspecRaw =>
  split at hspec
  · simp at hspec
  next hpermitted =>
  split at hspec
  · simp at hspec
  next hunmarshal =>
  cases hspec
  exact ⟨fields, data, specRaw, spec, hfields, hdata, hspecRaw, checkSpecFields_ok hpermitted,
    hunmarshal, hkind⟩

/-- No permitted name is that of the volume, whatever its case. -/
theorem volumeId_unmarshal {data : Json} {spec : IntentSpec} (hfields : data.fields? = some fields)
    (hpermitted : ∀ field ∈ fields, field.1 ∈ specFields)
    (h : IntentSpec.unmarshal data = some spec) : spec.volumeId = "" := by
  have hnames : ∀ name ∈ specFields, sameName name "volumeId" = false := by decide
  have hvolume : decodeText "volumeId" fields = some "" :=
    decodeField_of_absent _ _ _ fun field hfield => hnames _ (hpermitted field hfield)
  have hbind : ∀ {α β : Type} {x : Option α} {f : α → Option β} {P : β → Prop},
      (∀ a, x = some a → ∀ b, f a = some b → P b) → ∀ b, (x >>= f) = some b → P b := by
    intro α β x f P hall b hb
    obtain ⟨a, ha, hf⟩ := Option.bind_eq_some_iff.1 hb
    exact hall a ha b hf
  refine (?_ : ∀ spec, IntentSpec.unmarshal data = some spec → spec.volumeId = "") spec h
  refine hbind fun fields' hfields' => ?_
  obtain rfl : fields' = fields := by simpa [hfields'] using hfields
  iterate 26 refine hbind fun _ _ => ?_
  refine hbind fun volumeId hvolumeId => ?_
  iterate 5 refine hbind fun _ _ => ?_
  rintro _ ⟨⟩
  simpa [hvolume] using hvolumeId.symm

/-- A specification with what this kind asks for. -/
def specOf (kind : IntentKind) : List (String × Json) :=
  let texts := fun names : List String => names.map fun name =>
    (name, str "00000000-0000-4000-8000-000000000001")
  let target := [("targetKind", .str "KubernetesTarget"), ("expectedVersion", .num 1)]
    ++ texts ["targetId"]
  if kind.requiresReleaseId then texts ["releaseId", "targetRef", "scopeRef"]
  else if kind.isCluster then target ++ texts ["desiredVersion", "displayName"]
    ++ [("credentialSecretRef", .obj (texts ["name"]))]
  else if kind.isStorageDriver then target
    ++ texts ["installationId", "packageId", "packageVersion", "kubernetesVersion"]
    ++ if kind = .upgradeStorageDriver then texts ["currentVersion"] else []
  else target ++ texts ["bindingId", "offeringId", "storageClassName", "storageClassUid",
      "storageClassResourceVersion"]
    ++ [("bindingVersion", .num 1), ("offeringVersion", .num 1)]

def bodyOf (kind : IntentKind) : Json :=
  .obj [("apiVersion", .str "hnb.io/v1"), ("kind", .str kind.text),
    ("metadata", .obj [("idempotencyKey", .str "k1")]), ("spec", .obj (specOf kind))]

/-- No encoding of an intent is accepted, because the parser permits neither of the resources that
    are always written. It reaches the kinds that need no volume. -/
theorem parseRuntimeIntent_refuses_marshal (urls) (intent result : RuntimeIntent) (kind : IntentKind) :
    parseRuntimeIntent urls intent.marshal ≠ .ok result
    ∧ ((∃ urls body intent, parseRuntimeIntent urls body = .ok intent ∧ intent.kind = kind)
      ↔ kind.isRetainedVolume = false) := by
  refine ⟨fun h => ?_, ⟨?_, fun hkind => ?_⟩⟩
  · obtain ⟨_, data, specRaw, _, ⟨⟩, hdata, hraw, hpermitted, -⟩ := parseRuntimeIntent_ok h
    obtain rfl : .obj intent.spec.marshal = data := by simpa [rawField] using hdata
    obtain rfl : intent.spec.marshal = specRaw := by simpa [fields?] using hraw
    refine absurd (hpermitted ("persistentVolume", intent.spec.persistentVolume.marshal) ?_)
      (by decide : "persistentVolume" ∉ specFields)
    exact mem_append_left _ (mem_append_left _ (mem_append_right _ mem_cons_self))
  · rintro ⟨urls, body, intent, h, rfl⟩
    obtain ⟨_, _, _, spec, -, -, hraw, hpermitted, hspec, hkind⟩ := parseRuntimeIntent_ok h
    have hvolume := volumeId_unmarshal hraw hpermitted hspec
    by_contra hretained
    have hrules : validateKind urls intent.kind spec = validateRetainedVolumeIntentSpec spec := by
      cases hk : intent.kind <;> simp [hk, IntentKind.isRetainedVolume] at hretained <;> rfl
    have hblank : boundedIdentity "" 128 = false := by decide
    rw [hrules, validateRetainedVolumeIntentSpec, hvolume] at hkind
    split at hkind
    · simp at hkind
    · simp [hblank] at hkind
  · have hparsed : (parseRuntimeIntent ⟨fun _ => none⟩ (bodyOf kind)).toOption.map
        RuntimeIntent.kind = some kind := by
      revert hkind
      cases kind <;> decide +kernel
    exact ⟨_, _, except_eq_ok_of_map hparsed⟩

/-- An intent that was accepted is refused when it is encoded. -/
theorem encoded_intent_refused :
    ∃ intent, parseRuntimeIntent ⟨fun _ => none⟩ (bodyOf .installRelease) = .ok intent
      ∧ (intent.validate ⟨fun _ => none⟩).isOk = true
      ∧ parseRuntimeIntent ⟨fun _ => none⟩ intent.marshal = .error (.validation "spec"
          "unknown field \"persistentVolume\" is not permitted") :=
  ⟨_, rfl, by decide +kernel, by rfl⟩

end Encoding

end HnbCloud.Engine
