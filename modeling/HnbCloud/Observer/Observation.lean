import HnbCloud.Lib.Text
import HnbCloud.Lib.Uuid
import HnbCloud.Messaging.Envelope

set_option autoImplicit false

/-! # Observations of a runtime target

What an observer (the agent of a Kubernetes cluster, or CloudCore for an edge runtime) reports to
platform-api: an observation with a generation and a sequence number, or a source reset that
establishes a new generation. `ValidateObservation` and `ValidateSourceReset` bind a message to the
identity of the observer before the projector sees it.

The body of a request is taken as decoded: `ObservationWire` and `SourceResetWire` are what
`json.Unmarshal` leaves, and the text of a decoding error is left out. Instants are microseconds. An
absent collection (`none`) is a nil slice; the nodes are nil exactly if there are none, because the
validated list is built by appending.

The ids of targets and messages are UUIDs in the database. A target id is replaced by what the
database reads in it before anything is looked up; an event id stays as it was sent, because `Accept`
compares the text with the id it has loaded, and is read where it is stored. -/

namespace HnbCloud.Observer

open Messaging

/-! ## Identities -/

/-- `Identity`: the observer as its token names it. -/
structure Identity where
  (tenantId targetId targetKind observerId observerKind : String)
deriving DecidableEq

def Identity.valid (id : Identity) : Bool :=
  id.tenantId != "" && id.targetId != "" && id.targetKind != "" && id.observerId != ""
    && id.observerKind != ""

inductive TargetKind where
  | kubernetesTarget
  | edgeRuntimeTarget
deriving DecidableEq

def TargetKind.text : TargetKind → String
  | kubernetesTarget => "KubernetesTarget"
  | edgeRuntimeTarget => "EdgeRuntimeTarget"

inductive ObservationSource where
  | agent
  | cloudcore
deriving DecidableEq

def observerSourceFor : TargetKind → ObservationSource
  | .edgeRuntimeTarget => .cloudcore
  | .kubernetesTarget => .agent

inductive InventoryMode where
  | full
  | delta
deriving DecidableEq

/-! ## The parts of an observation -/

structure TargetState where
  (lifecycleState healthState connectivityState : String)
  (lastKnownStateAt staleThresholdSeconds : Int)
  runtimeVersion : String
deriving DecidableEq

structure Resources where
  (cpuMillis memoryBytes : Int)
  gpuCount : Int := 0
  npuCount : Int := 0
deriving DecidableEq

/-- `Capability.Content`, with the columns `capabilityContent` leaves out when they are empty. -/
structure Capability where
  (snapshotId digest : String)
  kubernetesVersion : String := ""
  kubeEdgeVersion : String := ""
  runtimeVersion : String
  architectures : List String
  resources : Resources
  cniPlugins : List String := []
  csiDrivers : List String := []
  gatewayApiVersions : List String := []
  securityFeatures : List String := []
  storageClasses : List String := []
deriving DecidableEq

structure Node where
  nodeId : String
  name : String := ""
  lifecycleState : String := ""
  healthState : String := ""
  connectivityState : String := ""
  freshness : String := ""
  observedAt : Int := zeroTime
  lastKnownStateAt : Int := zeroTime
  deleted : Bool := false
  runtimeVersion : String := ""
  kubeletVersion : String := ""
  architecture : String := ""
  resources : Resources := { cpuMillis := 0, memoryBytes := 0 }
  labels : List (String × String) := []
deriving DecidableEq

/-- `KubernetesResourceIdentity`. -/
structure ResourceIdentity where
  (uid resourceVersion name source : String)
  observedAt : Int
  deleted : Bool := false
deriving DecidableEq

/-- A storage fact: the identity that all of them embed, and what is particular to its kind. -/
structure Fact (δ : Type) where
  identity : ResourceIdentity
  detail : δ
deriving DecidableEq

/-- `StorageClassFact`. -/
structure StorageClassDetail where
  provisioner : String := ""
  parameters : List (String × String) := []
  reclaimPolicy : String := ""
  volumeBindingMode : String := ""
  allowVolumeExpansion : Option Bool := none
  isDefault : Option Bool := none
  mountOptions : List String := []
  allowedTopologies : List (List (String × String)) := []
deriving DecidableEq

/-- `CSIDriverFact`. -/
structure CsiDriverDetail where
  attachRequired : Option Bool := none
  podInfoOnMount : Option Bool := none
  storageCapacity : Option Bool := none
  fsGroupPolicy : String := ""
  requiresRepublish : Option Bool := none
  seLinuxMount : Option Bool := none
  volumeLifecycleModes : List String := []
deriving DecidableEq

/-- `CSINodeDriverFact`. -/
structure CsiNodeDriver where
  (name nodeId : String)
  allocatableCount : Option Int := none
  topologyKeys : List String := []
deriving DecidableEq

/-- `CSINodeFact`. -/
structure CsiNodeDetail where
  drivers : List CsiNodeDriver := []
deriving DecidableEq

/-- `CSIStorageCapacityFact`. -/
structure CsiStorageCapacityDetail where
  «namespace» : String := ""
  storageClassName : String := ""
  capacityBytes : Option Int := none
  maximumVolumeSizeBytes : Option Int := none
  nodeTopology : List (String × String) := []
deriving DecidableEq

/-- `VolumeAttachmentFact`. -/
structure VolumeAttachmentDetail where
  attacher : String := ""
  nodeName : String := ""
  persistentVolumeName : String := ""
  attached : Option Bool := none
  attachError : String := ""
  detachError : String := ""
deriving DecidableEq

/-- `VolumeSnapshotClassFact`. -/
structure VolumeSnapshotClassDetail where
  driver : String := ""
  deletionPolicy : String := ""
  parameters : List (String × String) := []
deriving DecidableEq

/-- `VolumeSnapshotFact`. -/
structure VolumeSnapshotDetail where
  «namespace» : String := ""
  volumeSnapshotClassName : String := ""
  sourceKind : String := ""
  sourceName : String := ""
  boundVolumeSnapshotContentName : String := ""
  readyToUse : Option Bool := none
  restoreSizeBytes : Option Int := none
  error : String := ""
deriving DecidableEq

/-- `VolumeSnapshotContentFact`. -/
structure VolumeSnapshotContentDetail where
  driver : String := ""
  deletionPolicy : String := ""
  snapshotHandle : String := ""
  volumeSnapshotNamespace : String := ""
  volumeSnapshotName : String := ""
  readyToUse : Option Bool := none
  restoreSizeBytes : Option Int := none
  error : String := ""
deriving DecidableEq

structure SnapshotApi where
  status : String
  apiVersion : String := ""
  source : String
  observedAt : Int
deriving DecidableEq

structure StorageInventory where
  storageClasses : Option (List (Fact StorageClassDetail)) := none
  csiDrivers : Option (List (Fact CsiDriverDetail)) := none
  csiNodes : Option (List (Fact CsiNodeDetail)) := none
  csiStorageCapacities : Option (List (Fact CsiStorageCapacityDetail)) := none
  volumeAttachments : Option (List (Fact VolumeAttachmentDetail)) := none
  volumeSnapshotClasses : Option (List (Fact VolumeSnapshotClassDetail)) := none
  volumeSnapshots : Option (List (Fact VolumeSnapshotDetail)) := none
  volumeSnapshotContents : Option (List (Fact VolumeSnapshotContentDetail)) := none
  snapshotApi : Option SnapshotApi := none
deriving DecidableEq

/-! ## Messages -/

structure ObservationWire where
  (schemaVersion eventId tenantId targetId targetKind observerId observerKind : String)
  (observerGeneration sequence observedAt : Int)
  inventoryMode : String
  target : Option TargetState
  capability : Option Capability
  nodes : List Node
  storageInventory : Option StorageInventory
deriving DecidableEq

/-- `Observation`: a message that has been validated. -/
structure Observation where
  (eventId tenantId targetId : String)
  targetKind : TargetKind
  observerId : String
  (observerGeneration sequence observedAt : Int)
  inventoryMode : InventoryMode
  target : Option TargetState
  capability : Option Capability
  nodes : List Node
  storageInventory : Option StorageInventory
  generation_pos : 1 ≤ observerGeneration
  sequence_pos : 1 ≤ sequence
deriving DecidableEq

structure SourceResetWire where
  (schemaVersion eventId tenantId targetId targetKind observerId observerKind : String)
  (previousObserverGeneration newObserverGeneration observedAt : Int)
  (observerLeaseId reason : String)
deriving DecidableEq

structure SourceReset where
  (eventId tenantId targetId : String)
  targetKind : TargetKind
  observerId : String
  (previousObserverGeneration newObserverGeneration observedAt : Int)
  observerLeaseId : String
  previous_pos : 1 ≤ previousObserverGeneration
  increases : previousObserverGeneration < newObserverGeneration
deriving DecidableEq

/-- The body of a request: its size, and the fields of the object it holds, if it is one. -/
structure Payload (ω : Type) where
  size : Nat
  fields : Option (List String)
  /-- What `json.Unmarshal` makes of it. -/
  decoded : Option ω

/-! ## Validation -/

def observationSchemaVersion : String := "1.0.0"

def maxObservationPayload : Nat := 1048576

def maxClockSkew : Int := 300000000

def observationAllowedFields : List String :=
  ["schemaVersion", "eventId", "tenantId", "targetId", "targetKind", "observerId", "observerKind",
    "observerGeneration", "sequence", "observedAt", "inventoryMode", "target", "capability", "nodes",
    "storageInventory"]

def sourceResetAllowedFields : List String :=
  ["schemaVersion", "eventId", "tenantId", "targetId", "targetKind", "observerId", "observerKind",
    "previousObserverGeneration", "newObserverGeneration", "observedAt", "observerLeaseId", "reason"]

def rejectUnknownFields (fields : Option (List String)) (allowed : List String) :
    Except String Unit :=
  match fields with
  | none => .error "invalid JSON"
  | some fields =>
  match fields.find? fun field => !allowed.contains field with
  | some field => .error ("unknown field " ++ quoted field)
  | none => .ok ()

def validateKindSource (targetKind observerKind : String) : Except String TargetKind :=
  if targetKind = "KubernetesTarget" ∧ observerKind ≠ "Agent" then
    .error "KubernetesTarget requires observerKind Agent"
  else if targetKind = "EdgeRuntimeTarget" ∧ observerKind ≠ "CloudCore" then
    .error "EdgeRuntimeTarget requires observerKind CloudCore"
  else if targetKind = "KubernetesTarget" then .ok .kubernetesTarget
  else if targetKind = "EdgeRuntimeTarget" then .ok .edgeRuntimeTarget
  else .error ("unsupported targetKind " ++ quoted targetKind)

/-- The clause of `validateIdentityBinding` for one of the columns. -/
def bound (column observed expected identity : String) : Except String Unit :=
  if observed ≠ expected then
    .error ("observation " ++ column ++ " " ++ quoted observed ++ " does not match " ++ identity ++ " "
      ++ quoted expected)
  else .ok ()

def validateIdentityBinding (id : Identity) (raw : ObservationWire) : Except String Unit := do
  bound "tenant" raw.tenantId id.tenantId "observer tenant"
  bound "target" raw.targetId id.targetId "observer target"
  bound "targetKind" raw.targetKind id.targetKind "observer targetKind"
  bound "observerId" raw.observerId id.observerId "identity observerId"
  bound "observerKind" raw.observerKind id.observerKind "identity observerKind"

/-- `inventoryMode`. -/
def InventoryMode.valid? : String → Option InventoryMode
  | "Full" => some .full
  | "Delta" => some .delta
  | _ => none

/-- The identities of a collection. -/
def identities {δ : Type} (facts : Option (List (Fact δ))) : List ResourceIdentity :=
  (facts.getD []).map Fact.identity

/-- The loop of `validateStorageInventory` over the resources of one kind. -/
def checkIdentities (now : Int) (mode : InventoryMode) (kind : String) (seen : List String) :
    List ResourceIdentity → Except String Unit
  | [] => .ok ()
  | resource :: rest =>
    if resource.uid = "" ∨ resource.resourceVersion = "" ∨ resource.name = ""
        ∨ resource.source = "" ∨ resource.observedAt = zeroTime then
      .error ("storageInventory " ++ kind
        ++ " requires uid, resourceVersion, name, source, and observedAt")
    else if now + maxClockSkew < resource.observedAt then
      .error ("storageInventory " ++ kind ++ " " ++ quoted resource.uid
        ++ " observedAt is too far in the future")
    else if mode = .full ∧ resource.deleted = true then
      .error ("full inventory cannot declare a deleted " ++ kind ++ " " ++ quoted resource.uid)
    else if seen.contains resource.uid then
      .error ("storageInventory contains duplicate " ++ kind ++ " UID " ++ quoted resource.uid)
    else checkIdentities now mode kind (resource.uid :: seen) rest

def SnapshotApi.check (now : Int) (api : SnapshotApi) : Except String Unit :=
  if api.status ≠ "Installed" ∧ api.status ≠ "NotInstalled" ∧ api.status ≠ "Unsupported" then
    .error ("storageInventory snapshotApi has invalid status " ++ quoted api.status)
  else if api.status = "Installed" ∧ api.apiVersion = "" then
    .error "installed snapshotApi requires apiVersion"
  else if api.source = "" ∨ api.observedAt = zeroTime ∨ now + maxClockSkew < api.observedAt then
    .error "storageInventory snapshotApi requires valid source and observedAt"
  else .ok ()

def validateStorageInventory (now : Int) (inventory : StorageInventory) (mode : InventoryMode) :
    Except String Unit := do
  if mode = .full ∧ (inventory.storageClasses = none ∨ inventory.csiDrivers = none
      ∨ inventory.csiNodes = none ∨ inventory.csiStorageCapacities = none
      ∨ inventory.volumeAttachments = none ∨ inventory.snapshotApi = none) then
    throw "full storageInventory requires all core resource collections"
  if inventory = {} then
    throw "storageInventory must contain at least one resource collection"
  match inventory.snapshotApi with
  | none => pure ()
  | some api => api.check now
  checkIdentities now mode "StorageClass" [] (identities inventory.storageClasses)
  checkIdentities now mode "CSIDriver" [] (identities inventory.csiDrivers)
  checkIdentities now mode "CSINode" [] (identities inventory.csiNodes)
  checkIdentities now mode "CSIStorageCapacity" [] (identities inventory.csiStorageCapacities)
  checkIdentities now mode "VolumeAttachment" [] (identities inventory.volumeAttachments)
  checkIdentities now mode "VolumeSnapshotClass" [] (identities inventory.volumeSnapshotClasses)
  checkIdentities now mode "VolumeSnapshot" [] (identities inventory.volumeSnapshots)
  checkIdentities now mode "VolumeSnapshotContent" [] (identities inventory.volumeSnapshotContents)

/-- `Observation` from the wire, once its head has been checked. -/
def ObservationWire.observation (raw : ObservationWire) (mode : InventoryMode) (kind : TargetKind)
    (hnumbers : ¬ (raw.observerGeneration < 1 ∨ raw.sequence < 1)) : Observation where
  eventId := raw.eventId
  tenantId := raw.tenantId
  targetId := raw.targetId
  targetKind := kind
  observerId := raw.observerId
  observerGeneration := raw.observerGeneration
  sequence := raw.sequence
  observedAt := raw.observedAt
  inventoryMode := mode
  target := raw.target
  capability := raw.capability
  nodes := raw.nodes
  storageInventory := raw.storageInventory
  generation_pos := by omega
  sequence_pos := by omega

/-- `ValidateObservation`, by this clock. -/
def validateObservation (now : Int) (id : Identity) (payload : Payload ObservationWire) :
    Except String Observation := do
  if id.valid = false then throw "observer identity is incomplete"
  if payload.size = 0 then throw "empty observation payload"
  if maxObservationPayload < payload.size then
    throw ("observation payload exceeds " ++ toString maxObservationPayload ++ " bytes")
  rejectUnknownFields payload.fields observationAllowedFields
  let raw ← match payload.decoded with
    | none => throw "invalid observation JSON"
    | some raw => pure raw
  if raw.schemaVersion ≠ observationSchemaVersion then
    throw ("unsupported observation schema version " ++ quoted raw.schemaVersion)
  if isUuid raw.eventId = false then throw "eventId must be a UUID"
  if isUuid raw.targetId = false then throw "targetId must be a UUID"
  if hnumbers : raw.observerGeneration < 1 ∨ raw.sequence < 1 then
    throw "observerGeneration and sequence must be >= 1"
  else
    let mode ← match InventoryMode.valid? raw.inventoryMode with
      | none => throw "inventoryMode must be Full or Delta"
      | some mode => pure mode
    if raw.observedAt = zeroTime then throw "observedAt is required"
    if now + maxClockSkew < raw.observedAt then throw "observedAt is too far in the future"
    let kind ← validateKindSource raw.targetKind raw.observerKind
    validateIdentityBinding id raw
    if mode = .full then
      match raw.nodes.find? fun node => node.deleted with
      | some node => throw ("full inventory cannot declare a deleted node " ++ quoted node.nodeId)
      | none => pure ()
    match raw.storageInventory with
    | none => pure ()
    | some inventory =>
      if kind ≠ .kubernetesTarget ∨ raw.observerKind ≠ "Agent" then
        throw "storageInventory is only valid for KubernetesTarget Agent observations"
      validateStorageInventory now inventory mode
    return raw.observation mode kind hnumbers

def validateSourceReset (id : Identity) (payload : Payload SourceResetWire) :
    Except String SourceReset := do
  if id.valid = false then throw "observer identity is incomplete"
  if payload.size = 0 ∨ maxObservationPayload < payload.size then
    throw "invalid source-reset payload size"
  rejectUnknownFields payload.fields sourceResetAllowedFields
  let raw ← match payload.decoded with
    | none => throw "invalid source-reset JSON"
    | some raw => pure raw
  if raw.schemaVersion ≠ observationSchemaVersion then
    throw "unsupported source-reset schema version"
  if isUuid raw.eventId = false then throw "eventId must be a UUID"
  if isUuid raw.targetId = false then throw "targetId must be a UUID"
  if isUuid raw.observerLeaseId = false then throw "observerLeaseId must be a UUID"
  if hgenerations : raw.previousObserverGeneration < 1
      ∨ raw.newObserverGeneration ≤ raw.previousObserverGeneration then
    throw "newObserverGeneration must be greater than previousObserverGeneration"
  else
    let kind ← validateKindSource raw.targetKind raw.observerKind
    if raw.tenantId ≠ id.tenantId ∨ raw.targetId ≠ id.targetId ∨ raw.targetKind ≠ id.targetKind
        ∨ raw.observerId ≠ id.observerId ∨ raw.observerKind ≠ id.observerKind then
      throw "source-reset identity mismatch"
    return {
      eventId := raw.eventId
      tenantId := raw.tenantId
      targetId := raw.targetId
      targetKind := kind
      observerId := raw.observerId
      previousObserverGeneration := raw.previousObserverGeneration
      newObserverGeneration := raw.newObserverGeneration
      observedAt := raw.observedAt
      observerLeaseId := raw.observerLeaseId
      previous_pos := by omega
      increases := by omega }

/-! ## Ids -/

/-- An observation as `LoadCursor` asks for its cursor: the target id is read as the database reads
    it, which takes fewer forms than the validation. -/
def readObservation (now : Int) (id : Identity) (payload : Payload ObservationWire) :
    Except String Observation := do
  let o ← (validateObservation now id payload).mapError ("validate observation: " ++ ·)
  match uuidValue? o.targetId with
  | none => throw ("load cursor: " ++ uuidError o.targetId)
  | some targetId => return { o with targetId := targetId }

/-- A source reset as the first statement of `ApplySourceReset` asks for its cursor. -/
def readSourceReset (id : Identity) (payload : Payload SourceResetWire) :
    Except String SourceReset := do
  let reset ← (validateSourceReset id payload).mapError ("validate source-reset: " ++ ·)
  match uuidValue? reset.targetId with
  | none => throw (uuidError reset.targetId)
  | some targetId => return { reset with targetId := targetId }

end HnbCloud.Observer
