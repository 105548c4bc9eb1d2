import HnbCloud.Observer.Observation

set_option autoImplicit false

/-! # The projection of observations

The tables that the projector writes, and its statements. A write is applied to a database together
with what the statement saw: an `UPDATE` changes the rows that it found, an upsert decides by the key
whether it inserts. `none` is a statement that a constraint of the schema refuses.

`saveObservation` is the transaction of `SaveObservation`: target, capability snapshot, nodes and
storage, then the cursor and the inbox, all of them or none. Columns that only keep `now()` are left
out. -/

namespace HnbCloud.Observer

/-! ## Rows -/

/-- The columns of `runtime_targets` that observations write. -/
structure TargetRow where
  (id tenantId : String)
  lifecycleState : Option String := none
  healthState : Option String := none
  connectivityState : Option String := none
  lastKnownStateAt : Option Int := none
  staleThresholdSeconds : Int := 300
  observationSource : Option ObservationSource := none
  observationSourceId : Option String := none
  observationGeneration : Option Int := none
  observationRevision : Option Int := none
  observedAt : Option Int := none
  projectionVersion : Int := 0
deriving DecidableEq

/-- A row of `capability_snapshots`. No statement that writes one names `kube_version`. -/
structure CapabilityRow where
  (targetId tenantId : String)
  targetKind : TargetKind
  observationSource : ObservationSource
  observationSourceId : String
  (observationGeneration observationRevision : Int)
  contentDigest : String
  snapshot : Capability
  observedAt : Int
  kubeVersion : Option String := none
deriving DecidableEq

inductive NodeRole where
  | controlPlane
  | worker
  | edge
deriving DecidableEq

inductive NodeStatus where
  | ready
  | notReady
  | unknown
deriving DecidableEq

/-- A row of `runtime_target_nodes`. -/
structure NodeRow where
  (targetId tenantId sourceNodeUid name : String)
  role : NodeRole
  nodeStatus : NodeStatus
  (arch kubeletVersion : String)
  (observedAt lastKnownStateAt : Int)
  (lifecycleState healthState connectivityState : String)
  observationSource : ObservationSource
  observationSourceId : String
  (observationGeneration observationRevision : Int)
  labels : List (String × String)
  capacity : Resources
  deletedAt : Option Int
deriving DecidableEq

inductive ResourceKind where
  | storageClass
  | csiDriver
  | csiNode
  | csiStorageCapacity
  | volumeAttachment
  | volumeSnapshotClass
  | volumeSnapshot
  | volumeSnapshotContent
deriving DecidableEq

def ResourceKind.text : ResourceKind → String
  | storageClass => "StorageClass"
  | csiDriver => "CSIDriver"
  | csiNode => "CSINode"
  | csiStorageCapacity => "CSIStorageCapacity"
  | volumeAttachment => "VolumeAttachment"
  | volumeSnapshotClass => "VolumeSnapshotClass"
  | volumeSnapshot => "VolumeSnapshot"
  | volumeSnapshotContent => "VolumeSnapshotContent"

def storageResourceKinds : List ResourceKind :=
  [.storageClass, .csiDriver, .csiNode, .csiStorageCapacity, .volumeAttachment, .volumeSnapshotClass,
    .volumeSnapshot, .volumeSnapshotContent]

/-- What `json.Marshal` of a storage fact keeps. -/
inductive Attributes where
  | storageClass (fact : Fact StorageClassDetail)
  | csiDriver (fact : Fact CsiDriverDetail)
  | csiNode (fact : Fact CsiNodeDetail)
  | csiStorageCapacity (fact : Fact CsiStorageCapacityDetail)
  | volumeAttachment (fact : Fact VolumeAttachmentDetail)
  | volumeSnapshotClass (fact : Fact VolumeSnapshotClassDetail)
  | volumeSnapshot (fact : Fact VolumeSnapshotDetail)
  | volumeSnapshotContent (fact : Fact VolumeSnapshotContentDetail)
  | csiNodeDriver (driver : CsiNodeDriver)
deriving DecidableEq

/-- A row of `runtime_target_storage_inventory`. Its `observation_source` is always `agent`. -/
structure StorageRow where
  (tenantId targetId : String)
  resourceKind : ResourceKind
  (resourceUid resourceVersion name : String)
  «namespace» : Option String
  driverName : Option String
  source : String
  (observedAt staleAfter : Int)
  observationSourceId : String
  (observationGeneration observationRevision : Int)
  attributes : Attributes
  deletedAt : Option Int
deriving DecidableEq

inductive EvidenceKind where
  | csiDriverRegistration
  | csiNodeRegistration
  | storageClassReference
  | volumeAttachmentReference
  | volumeSnapshotClassReference
  | volumeSnapshotContentReference
deriving DecidableEq

def EvidenceKind.text : EvidenceKind → String
  | csiDriverRegistration => "CSIDriverRegistration"
  | csiNodeRegistration => "CSINodeRegistration"
  | storageClassReference => "StorageClassReference"
  | volumeAttachmentReference => "VolumeAttachmentReference"
  | volumeSnapshotClassReference => "VolumeSnapshotClassReference"
  | volumeSnapshotContentReference => "VolumeSnapshotContentReference"

/-- A row of `runtime_target_storage_driver_evidence`. -/
structure EvidenceRow where
  (tenantId targetId : String)
  evidenceKind : EvidenceKind
  resourceKind : ResourceKind
  (resourceUid driverName source : String)
  (observedAt staleAfter : Int)
  observationSourceId : String
  (observationGeneration observationRevision : Int)
  details : Attributes
  deletedAt : Option Int
deriving DecidableEq

open EvidenceRow

/-- A row of `runtime_target_storage_snapshot_api`. -/
structure SnapshotApiRow where
  (tenantId targetId status : String)
  apiVersion : Option String
  source : String
  (observedAt staleAfter : Int)
  observationSourceId : String
  (observationGeneration observationRevision : Int)
deriving DecidableEq

inductive SyncState where
  | discovered
  | imported
  | active
  | drifted
  | rejected
  | retired
deriving DecidableEq

inductive Freshness where
  | fresh
  | stale
  | unknown
deriving DecidableEq

/-- `status` of the condition `Drifted`. -/
inductive DriftStatus where
  | «true»
  | «false»
  | unknown
deriving DecidableEq

/-- `reason` of the condition `Drifted`. -/
inductive DriftReason where
  | inSync
  | staleObservation
  | storageClassMissing
  | storageClassUidChanged
  | storageClassResourceVersionChanged
  | storageClassConfigurationChanged
deriving DecidableEq

/-- The condition of a binding. -/
structure DriftCondition where
  status : DriftStatus
  reason : DriftReason
  observedAt : Int
  freshness : Freshness
deriving DecidableEq

/-- The columns of `storage_class_bindings` that the drift projection reads or writes. -/
structure BindingRow where
  (id tenantId targetId storageClassName storageClassUid storageClassResourceVersion : String)
  syncState : SyncState
  isDefault : Bool
  topology : List (String × List String)
  source : String
  observedAt : Int
  freshness : Freshness
  conditions : List DriftCondition := []
  observationGeneration : Option Int := none
  observationRevision : Option Int := none
deriving DecidableEq

/-- A row of `runtime_target_observation_cursors`. -/
structure CursorRow where
  (tenantId targetId : String)
  observationSource : ObservationSource
  observationSourceId : String
  (observationGeneration observationRevision : Int)
  (payloadDigest lastMessageId : String)
  observedAt : Int
deriving DecidableEq

/-- A row of `runtime_target_observation_inbox`. -/
structure InboxRow where
  (messageId tenantId targetId : String)
  observationSource : ObservationSource
  observationSourceId : String
  (observationGeneration observationRevision : Int)
  payloadDigest : String
  observedAt : Int
  processed : Bool
  processingError : Option String := none
deriving DecidableEq

/-! ## Keys -/

/-- `(tenant_id, target_id)`. -/
structure TargetKey where
  (tenantId targetId : String)
deriving DecidableEq

structure CapabilityKey where
  target : TargetKey
  contentDigest : String
deriving DecidableEq

structure NodeKey where
  target : TargetKey
  sourceNodeUid : String
deriving DecidableEq

structure StorageKey where
  target : TargetKey
  resourceKind : ResourceKind
  resourceUid : String
deriving DecidableEq

structure EvidenceKey where
  target : TargetKey
  evidenceKind : EvidenceKind
  (resourceUid driverName : String)
deriving DecidableEq

@[ext]
structure CursorKey where
  target : TargetKey
  observationSource : ObservationSource
  observationSourceId : String
deriving DecidableEq

def CapabilityRow.key (row : CapabilityRow) : CapabilityKey :=
  ⟨⟨row.tenantId, row.targetId⟩, row.contentDigest⟩

def NodeRow.key (row : NodeRow) : NodeKey := ⟨⟨row.tenantId, row.targetId⟩, row.sourceNodeUid⟩

def StorageRow.key (row : StorageRow) : StorageKey :=
  ⟨⟨row.tenantId, row.targetId⟩, row.resourceKind, row.resourceUid⟩

def EvidenceRow.key (row : EvidenceRow) : EvidenceKey :=
  ⟨⟨row.tenantId, row.targetId⟩, row.evidenceKind, row.resourceUid, row.driverName⟩

def SnapshotApiRow.key (row : SnapshotApiRow) : TargetKey := ⟨row.tenantId, row.targetId⟩

def CursorRow.key (row : CursorRow) : CursorKey :=
  ⟨⟨row.tenantId, row.targetId⟩, row.observationSource, row.observationSourceId⟩

/-- What the projector keeps about targets. -/
structure Projection where
  targets : Table TargetRow String TargetRow.id
  capabilities : Table CapabilityRow CapabilityKey CapabilityRow.key
  nodes : Table NodeRow NodeKey NodeRow.key
  storage : Table StorageRow StorageKey StorageRow.key
  evidence : Table EvidenceRow EvidenceKey key
  snapshotApis : Table SnapshotApiRow TargetKey SnapshotApiRow.key
  bindings : Table BindingRow String BindingRow.id

/-- The database of the projector. -/
structure DB extends Projection where
  cursors : Table CursorRow CursorKey CursorRow.key
  inbox : Table InboxRow String InboxRow.messageId

/-! ## Statements that write -/

/-- What a tombstone takes from its observation. -/
structure Stamp where
  target : TargetKey
  (observationGeneration observationRevision observedAt : Int)
deriving DecidableEq

/-- What the drift projection finds about a binding. -/
structure Drift where
  status : DriftStatus
  reason : DriftReason
  freshness : Freshness
  (observedAt observationGeneration observationRevision : Int)
deriving DecidableEq

/-- The statements that write, with their parameters. -/
inductive Write where
  | projectTarget (stamp : Stamp) (source : ObservationSource) (sourceId : String)
      (state : TargetState)
  | insertCapabilitySnapshot (row : CapabilityRow)
  | upsertNode (row : NodeRow)
  | tombstoneNode (stamp : Stamp) (uid : String)
  | advanceProjectionVersion (target : TargetKey)
  | upsertStorage (row : StorageRow)
  | tombstoneStorage (stamp : Stamp) (kind : ResourceKind) (uid : String)
  | tombstoneEvidence (stamp : Stamp) (kind : ResourceKind) (uid : String)
  | replaceEvidence (stamp : Stamp) (kind : ResourceKind) (uid : String)
  | upsertEvidence (row : EvidenceRow)
  | tombstoneMissingStorage (stamp : Stamp) (kind : ResourceKind) (present : List String)
  | tombstoneMissingEvidence (stamp : Stamp) (kind : ResourceKind) (present : List String)
  | upsertSnapshotApi (row : SnapshotApiRow)
  | projectBinding (target : TargetKey) (id : String) (drift : Drift)
  | upsertCursor (row : CursorRow)
  | upsertInbox (row : InboxRow)
  | resetCursors (target : TargetKey) (sourceId : String) (generation observedAt : Int)
  | insertInbox (row : InboxRow)
  | recordGap (row : InboxRow)
deriving DecidableEq

def lifecycleStates : List String :=
  ["UNKNOWN", "REGISTERING", "PROVISIONING", "ACTIVE", "UPGRADING", "FAILED", "DELETING", "TERMINATED"]

def healthStates : List String := ["UNKNOWN", "HEALTHY", "DEGRADED", "UNHEALTHY"]

def connectivityStates : List String := ["UNKNOWN", "CONNECTED", "DISCONNECTED"]

/-- The `CHECK`s of `runtime_targets`, and the range of an `INTEGER`. -/
def TargetState.fits (state : TargetState) : Bool :=
  lifecycleStates.contains state.lifecycleState && healthStates.contains state.healthState
    && connectivityStates.contains state.connectivityState
    && decide (-2147483648 ≤ state.staleThresholdSeconds)
    && decide (state.staleThresholdSeconds ≤ 2147483647)

/-- The `CHECK`s of the snapshot API. -/
def SnapshotApiRow.fits (row : SnapshotApiRow) : Bool :=
  ["Installed", "NotInstalled", "Unsupported"].contains row.status
    && (row.status != "Installed" || row.apiVersion.isSome)

/-- `WHERE id = … AND tenant_id = …`. -/
def TargetRow.is (row : TargetRow) (target : TargetKey) : Bool :=
  row.id == target.targetId && row.tenantId == target.tenantId

/-- The foreign key to `runtime_targets(id, tenant_id)`. -/
def Projection.hasTarget (db : Projection) (target : TargetKey) : Bool :=
  db.targets.rows.any fun row => row.is target

def TargetRow.observed (stamp : Stamp) (source : ObservationSource) (sourceId : String)
    (state : TargetState) (row : TargetRow) : TargetRow :=
  { row with
    lifecycleState := some state.lifecycleState
    healthState := some state.healthState
    connectivityState := some state.connectivityState
    lastKnownStateAt := some state.lastKnownStateAt
    staleThresholdSeconds := state.staleThresholdSeconds
    observationSource := some source
    observationSourceId := some sourceId
    observationGeneration := some stamp.observationGeneration
    observationRevision := some stamp.observationRevision
    observedAt := some stamp.observedAt }

theorem TargetRow.id_observed (stamp : Stamp) (source : ObservationSource) (sourceId : String)
    (state : TargetState) (row : TargetRow) : (row.observed stamp source sourceId state).id = row.id :=
  rfl

def TargetRow.advanced (row : TargetRow) : TargetRow :=
  { row with projectionVersion := row.projectionVersion + 1 }

theorem TargetRow.id_advanced (row : TargetRow) : row.advanced.id = row.id := rfl

def NodeRow.tombstoned (stamp : Stamp) (row : NodeRow) : NodeRow :=
  { row with deletedAt := some stamp.observedAt }

theorem NodeRow.key_tombstoned (stamp : Stamp) (row : NodeRow) :
    (row.tombstoned stamp).key = row.key := rfl

def StorageRow.tombstoned (stamp : Stamp) (row : StorageRow) : StorageRow :=
  { row with
    deletedAt := some stamp.observedAt
    observationGeneration := stamp.observationGeneration
    observationRevision := stamp.observationRevision }

theorem StorageRow.key_tombstoned (stamp : Stamp) (row : StorageRow) :
    (row.tombstoned stamp).key = row.key := rfl

def EvidenceRow.tombstoned (stamp : Stamp) (row : EvidenceRow) : EvidenceRow :=
  { row with
    deletedAt := some stamp.observedAt
    observationGeneration := stamp.observationGeneration
    observationRevision := stamp.observationRevision }

theorem EvidenceRow.key_tombstoned (stamp : Stamp) (row : EvidenceRow) :
    (row.tombstoned stamp).key = row.key := rfl

/-- `sync_state` stays what it is when the drift is unknown. -/
def Drift.syncState (drift : Drift) (current : SyncState) : SyncState :=
  match drift.status with
  | .unknown => current
  | .true => .drifted
  | .false => .active

def BindingRow.drifted (drift : Drift) (row : BindingRow) : BindingRow :=
  { row with
    syncState := drift.syncState row.syncState
    source := "runtime_target_storage_inventory"
    observedAt := drift.observedAt
    freshness := drift.freshness
    conditions := [⟨drift.status, drift.reason, drift.observedAt, drift.freshness⟩]
    observationGeneration := some drift.observationGeneration
    observationRevision := some drift.observationRevision }

theorem BindingRow.id_drifted (drift : Drift) (row : BindingRow) : (row.drifted drift).id = row.id :=
  rfl

/-- The cursor after a source reset. `last_message_id` stays. -/
def CursorRow.reset (generation observedAt : Int) (row : CursorRow) : CursorRow :=
  { row with
    observationGeneration := generation
    observationRevision := 0
    payloadDigest := ""
    observedAt := observedAt }

theorem CursorRow.key_reset (generation observedAt : Int) (row : CursorRow) :
    (row.reset generation observedAt).key = row.key := rfl

def InboxRow.processedAs (new : InboxRow) (row : InboxRow) : InboxRow :=
  { row with
    payloadDigest := new.payloadDigest
    observedAt := new.observedAt
    processed := true
    processingError := none }

theorem InboxRow.messageId_processedAs (new row : InboxRow) :
    (new.processedAs row).messageId = row.messageId := rfl

def InboxRow.gapped (new : InboxRow) (row : InboxRow) : InboxRow :=
  { row with processingError := new.processingError }

theorem InboxRow.messageId_gapped (new row : InboxRow) :
    (new.gapped row).messageId = row.messageId := rfl

/-- `WHERE tenant_id = … AND target_id = … AND observation_source_id = …`. -/
def CursorRow.belongsTo (row : CursorRow) (target : TargetKey) (sourceId : String) : Bool :=
  decide (row.key.target = target) && row.observationSourceId == sourceId

/-- The columns of the second unique index of the inbox. -/
def InboxRow.revision (row : InboxRow) : CursorKey × Int × Int :=
  (⟨⟨row.tenantId, row.targetId⟩, row.observationSource, row.observationSourceId⟩,
    row.observationGeneration, row.observationRevision)

/-- The columns of the second unique index of the snapshots. -/
def CapabilityRow.revision (row : CapabilityRow) : CursorKey × Int × Int :=
  (⟨⟨row.tenantId, row.targetId⟩, row.observationSource, row.observationSourceId⟩,
    row.observationGeneration, row.observationRevision)

/-- An insert into the inbox: no row may have its message id or its revision. -/
def DB.insertInbox? (db : DB) (row : InboxRow) : Option DB :=
  if (uuidValue? row.messageId).isNone then none
  else if db.hasTarget ⟨row.tenantId, row.targetId⟩ = false then none
  else if db.inbox.rows.any fun other => other.revision == row.revision then none
  else (db.inbox.insert? row).map fun inbox => { db with inbox := inbox }

/-- An insert into the inbox with a clause for a message id that is there. -/
def DB.upsertInbox? (db : DB) (row : InboxRow) (conflict : InboxRow → InboxRow)
    (hconflict : ∀ r, (conflict r).messageId = r.messageId) : Option DB :=
  match db.inbox.get? row.messageId with
  | some _ => some { db with inbox := db.inbox.update row.messageId conflict hconflict }
  | none => db.insertInbox? row

/-- An insert of a snapshot. The conflict clause is for the digest only. -/
def DB.insertCapability? (db : DB) (row : CapabilityRow) : Option DB :=
  match db.capabilities.get? row.key with
  | some _ => some db
  | none =>
    if db.hasTarget row.key.target = false then none
    else if db.capabilities.rows.any fun other => other.revision == row.revision then none
    else (db.capabilities.insert? row).map fun rows => { db with capabilities := rows }

/-- A change that the foreign key to the target allows. -/
def DB.referring (db : DB) (target : TargetKey) (change : DB → DB) : Option DB :=
  if db.hasTarget target = true then some (change db) else none

/-- A statement, applied to a database. `seen` is what it found when it ran. -/
def Write.perform? (seen : DB) : Write → DB → Option DB
  | projectTarget stamp source sourceId state, db =>
    if (seen.hasTarget stamp.target && !state.fits) = true then none
    else some { db with
      targets := db.targets.updateFound seen.targets (fun row => row.is stamp.target)
        (TargetRow.observed stamp source sourceId state)
        (TargetRow.id_observed stamp source sourceId state) }
  | insertCapabilitySnapshot row, db => db.insertCapability? row
  | upsertNode row, db => db.referring row.key.target fun db => { db with nodes := db.nodes.put row }
  | tombstoneNode stamp uid, db =>
    some { db with
      nodes := db.nodes.updateFound seen.nodes (fun row => row.key == ⟨stamp.target, uid⟩)
        (NodeRow.tombstoned stamp) (NodeRow.key_tombstoned stamp) }
  | advanceProjectionVersion target, db =>
    some { db with
      targets := db.targets.updateFound seen.targets (fun row => row.is target)
        TargetRow.advanced TargetRow.id_advanced }
  | upsertStorage row, db =>
    db.referring row.key.target fun db => { db with storage := db.storage.put row }
  | tombstoneStorage stamp kind uid, db =>
    some { db with
      storage := db.storage.updateFound seen.storage
        (fun row => row.key == ⟨stamp.target, kind, uid⟩) (StorageRow.tombstoned stamp)
        (StorageRow.key_tombstoned stamp) }
  | tombstoneEvidence stamp kind uid, db =>
    some { db with
      evidence := db.evidence.updateFound seen.evidence
        (fun row => row.key.target == stamp.target && row.resourceKind == kind
          && row.resourceUid == uid)
        (tombstoned stamp) (key_tombstoned stamp) }
  | replaceEvidence stamp kind uid, db =>
    some { db with
      evidence := db.evidence.updateFound seen.evidence
        (fun row => row.key.target == stamp.target && row.resourceKind == kind
          && row.resourceUid == uid && row.deletedAt.isNone)
        (tombstoned stamp) (key_tombstoned stamp) }
  | upsertEvidence row, db =>
    db.referring row.key.target fun db => { db with evidence := db.evidence.put row }
  | tombstoneMissingStorage stamp kind present, db =>
    some { db with
      storage := db.storage.updateFound seen.storage
        (fun row => row.key.target == stamp.target && row.resourceKind == kind
          && row.deletedAt.isNone && !present.contains row.resourceUid)
        (StorageRow.tombstoned stamp) (StorageRow.key_tombstoned stamp) }
  | tombstoneMissingEvidence stamp kind present, db =>
    some { db with
      evidence := db.evidence.updateFound seen.evidence
        (fun row => row.key.target == stamp.target && row.resourceKind == kind
          && row.deletedAt.isNone && !present.contains row.resourceUid)
        (tombstoned stamp) (key_tombstoned stamp) }
  | upsertSnapshotApi row, db =>
    if row.fits = false then none
    else db.referring row.key fun db => { db with snapshotApis := db.snapshotApis.put row }
  | projectBinding target id drift, db =>
    some { db with
      bindings := db.bindings.updateFound seen.bindings
        (fun row => row.tenantId == target.tenantId && row.targetId == target.targetId
          && row.id == id)
        (BindingRow.drifted drift) (BindingRow.id_drifted drift) }
  | upsertCursor row, db =>
    if (uuidValue? row.lastMessageId).isNone then none
    else db.referring row.key.target fun db => { db with cursors := db.cursors.put row }
  | upsertInbox row, db => db.upsertInbox? row row.processedAs row.messageId_processedAs
  | resetCursors target sourceId generation observedAt, db =>
    some { db with
      cursors := db.cursors.updateFound seen.cursors (fun row => row.belongsTo target sourceId)
        (CursorRow.reset generation observedAt)
        (CursorRow.key_reset generation observedAt) }
  | insertInbox row, db => db.insertInbox? row
  | recordGap row, db => db.upsertInbox? row row.gapped row.messageId_gapped

section Reads

variable (db : Projection) (target : TargetKey)

/-! ## Statements that read -/

def Projection.currentNodeIds : List String :=
  (db.nodes.rows.filter fun row => row.key.target == target && row.deletedAt.isNone).map
    NodeRow.sourceNodeUid

/-- `SELECT stale_threshold_seconds`. -/
def Projection.staleThreshold? : Option Int :=
  (db.targets.rows.find? fun row => row.is target).map TargetRow.staleThresholdSeconds

/-- The bindings whose drift is projected, in the order of the table. -/
def Projection.driftBindings : List BindingRow :=
  db.bindings.rows.filter fun row =>
    row.tenantId == target.tenantId && row.targetId == target.targetId && row.syncState != .retired

/-- `ORDER BY observation_generation DESC, observation_revision DESC, resource_uid`. -/
def StorageRow.before (a b : StorageRow) : Bool :=
  if a.observationGeneration ≠ b.observationGeneration then
    decide (b.observationGeneration < a.observationGeneration)
  else if a.observationRevision ≠ b.observationRevision then
    decide (b.observationRevision < a.observationRevision)
  else decide (a.resourceUid < b.resourceUid)

def Projection.latestObservedStorageClass (name : String) : Option StorageRow :=
  (db.storage.rows.filter fun row =>
    row.key.target == target && row.resourceKind == .storageClass && row.name == name
      && row.deletedAt.isNone).foldl
    (fun best row => match best with
      | none => some row
      | some best => if row.before best then some row else some best) none

/-- The row that `LoadCursor` takes: any row of the observer, whatever its source. -/
def DB.loadCursor (db : DB) (target : TargetKey) (observerId : String) : Option CursorRow :=
  db.cursors.rows.find? fun row => row.belongsTo target observerId

end Reads

/-! ## The drift of a binding -/

/-- The values of a key in `allowedTopologies`. -/
def topologyValues (allowed : List (List (String × String))) (key : String) : List String :=
  allowed.flatMap fun term => (term.filter fun entry => entry.1 == key).map Prod.snd

/-- `storageClassTopology`: the values under each key. -/
def storageClassTopology (allowed : List (List (String × String))) : List (String × List String) :=
  (allowed.flatten.map Prod.fst).dedup.map fun key => (key, topologyValues allowed key)

/-- `reflect.DeepEqual` of the two sorted topologies. -/
def sameTopology (a b : List (String × List String)) : Bool :=
  let sorted (topology : List (String × List String)) (key : String) : Option (List String) :=
    (topology.lookup key).map List.mergeSort
  (a ++ b).all fun entry => sorted a entry.1 == sorted b entry.1

/-- `isDefault` and `allowedTopologies` of stored attributes. -/
def Attributes.configuration : Attributes → Bool × List (List (String × String))
  | storageClass fact => (fact.detail.isDefault.getD false, fact.detail.allowedTopologies)
  | _ => (false, [])

/-- Seconds, in microseconds. -/
def seconds (n : Int) : Int := n * 1000000

/-- The drift of one binding, given the storage class that is observed under its name. -/
def bindingDrift (now : Int) (o : Observation) (staleThresholdSeconds : Int)
    (binding : BindingRow) : Option StorageRow → Drift
  | none =>
    if o.observedAt + seconds staleThresholdSeconds < now then
      ⟨.unknown, .staleObservation, .stale, o.observedAt, o.observerGeneration, o.sequence⟩
    else ⟨.true, .storageClassMissing, .fresh, o.observedAt, o.observerGeneration, o.sequence⟩
  | some observed =>
    let found (status : DriftStatus) (reason : DriftReason) (freshness : Freshness) : Drift :=
      ⟨status, reason, freshness, observed.observedAt, observed.observationGeneration,
        observed.observationRevision⟩
    if observed.staleAfter < now then found .unknown .staleObservation .stale
    else if observed.resourceUid ≠ binding.storageClassUid then
      found .true .storageClassUidChanged .fresh
    else if observed.resourceVersion ≠ binding.storageClassResourceVersion then
      found .true .storageClassResourceVersionChanged .fresh
    else if observed.attributes.configuration.1 ≠ binding.isDefault ∨ sameTopology binding.topology
          (storageClassTopology observed.attributes.configuration.2) = false then
      found .true .storageClassConfigurationChanged .fresh
    else found .false .inSync .fresh

variable (o : Observation)

/-! ## What an observation writes -/

/-- A statement with the words that its error is wrapped in. -/
structure Statement where
  context : String
  write : Write
deriving DecidableEq

def Observation.targetKey : TargetKey := ⟨o.tenantId, o.targetId⟩

def Observation.source : ObservationSource := observerSourceFor o.targetKind

def Observation.cursorKey : CursorKey := ⟨o.targetKey, o.source, o.observerId⟩

def Observation.stamp : Stamp :=
  ⟨o.targetKey, o.observerGeneration, o.sequence, o.observedAt⟩

def targetStatements : List Statement :=
  match o.target with
  | none => []
  | some state =>
    [⟨"project target", .projectTarget o.stamp o.source o.observerId state⟩]

/-- `insertCapabilitySnapshot`. The digest is the one of the whole observation. -/
def capabilityStatements (digest : String) : List Statement :=
  match o.capability with
  | none => []
  | some capability =>
    [⟨"insert capability snapshot", .insertCapabilitySnapshot
      { targetId := o.targetId, tenantId := o.tenantId, targetKind := o.targetKind
        observationSource := o.source, observationSourceId := o.observerId
        observationGeneration := o.observerGeneration, observationRevision := o.sequence
        contentDigest := digest, snapshot := capability, observedAt := o.observedAt }⟩]

/-- The role that `projectNodes` gives a node. -/
def nodeRole (kind : TargetKind) (node : Node) : NodeRole :=
  match kind with
  | .edgeRuntimeTarget => .edge
  | .kubernetesTarget =>
    if (node.labels.lookup "node-role.kubernetes.io/control-plane").getD "" ≠ "" then .controlPlane
    else .worker

def nodeStatus (connectivity : String) : NodeStatus :=
  if connectivity = "CONNECTED" then .ready
  else if connectivity = "DISCONNECTED" then .notReady
  else .unknown

def Observation.nodeRow (node : Node) : NodeRow where
  targetId := o.targetId
  tenantId := o.tenantId
  sourceNodeUid := node.nodeId
  name := node.name
  role := nodeRole o.targetKind node
  nodeStatus := nodeStatus node.connectivityState
  arch := node.architecture
  kubeletVersion := node.kubeletVersion
  observedAt := node.observedAt
  lastKnownStateAt := node.lastKnownStateAt
  lifecycleState := node.lifecycleState
  healthState := node.healthState
  connectivityState := node.connectivityState
  observationSource := o.source
  observationSourceId := o.observerId
  observationGeneration := o.observerGeneration
  observationRevision := o.sequence
  labels := node.labels
  capacity := node.resources
  deletedAt := none

/-- The statement of `projectNodes` for one node of the report. -/
def nodeStatement (node : Node) : Statement :=
  if node.deleted then ⟨"tombstone node", .tombstoneNode o.stamp node.nodeId⟩
  else ⟨"upsert node", .upsertNode (o.nodeRow node)⟩

/-- `projectNodes`, after it has read the nodes that are there. -/
def nodeStatements (existing : List String) : List Statement :=
  o.nodes.map (nodeStatement o) ++
    match o.inventoryMode with
    | .delta => []
    | .full =>
      (existing.filter fun id => !(o.nodes.map Node.nodeId).contains id).map fun id =>
        ⟨"tombstone missing node", .tombstoneNode o.stamp id⟩

/-- `storageProjectionRecord`. -/
structure StorageRecord where
  kind : ResourceKind
  identity : ResourceIdentity
  «namespace» : String := ""
  driverName : String := ""
  attributes : Attributes
  evidence : List (EvidenceKind × String × Attributes) := []
deriving DecidableEq

/-- `evidence`: none without a driver. -/
def evidenceOf (kind : EvidenceKind) (driverName : String) (details : Attributes) :
    List (EvidenceKind × String × Attributes) :=
  if driverName = "" then [] else [(kind, driverName, details)]

def driverRecord (kind : ResourceKind) (evidenceKind : EvidenceKind) (identity : ResourceIdentity)
    (driverName : String) (attributes : Attributes) : StorageRecord where
  kind := kind
  identity := identity
  driverName := driverName
  attributes := attributes
  evidence := evidenceOf evidenceKind driverName attributes

def storageProjectionRecords (inventory : StorageInventory) : List StorageRecord :=
  (inventory.storageClasses.getD []).map (fun fact =>
    driverRecord .storageClass .storageClassReference fact.identity fact.detail.provisioner
      (.storageClass fact))
  ++ (inventory.csiDrivers.getD []).map (fun fact =>
    driverRecord .csiDriver .csiDriverRegistration fact.identity fact.identity.name
      (.csiDriver fact))
  ++ (inventory.csiNodes.getD []).map (fun fact =>
    { kind := .csiNode, identity := fact.identity, attributes := .csiNode fact
      evidence := fact.detail.drivers.flatMap fun driver =>
        evidenceOf .csiNodeRegistration driver.name (.csiNodeDriver driver) })
  ++ (inventory.csiStorageCapacities.getD []).map (fun fact =>
    { kind := .csiStorageCapacity, identity := fact.identity, «namespace» := fact.detail.namespace
      attributes := .csiStorageCapacity fact })
  ++ (inventory.volumeAttachments.getD []).map (fun fact =>
    driverRecord .volumeAttachment .volumeAttachmentReference fact.identity fact.detail.attacher
      (.volumeAttachment fact))
  ++ (inventory.volumeSnapshotClasses.getD []).map (fun fact =>
    driverRecord .volumeSnapshotClass .volumeSnapshotClassReference fact.identity fact.detail.driver
      (.volumeSnapshotClass fact))
  ++ (inventory.volumeSnapshots.getD []).map (fun fact =>
    { kind := .volumeSnapshot, identity := fact.identity, «namespace» := fact.detail.namespace
      attributes := .volumeSnapshot fact })
  ++ (inventory.volumeSnapshotContents.getD []).map (fun fact =>
    driverRecord .volumeSnapshotContent .volumeSnapshotContentReference fact.identity
      fact.detail.driver (.volumeSnapshotContent fact))

/-- `NULLIF(…, '')`. -/
def nullIfEmpty (text : String) : Option String := if text = "" then none else some text

def Observation.storageRow (record : StorageRecord) (staleAfter : Int) : StorageRow where
  tenantId := o.tenantId
  targetId := o.targetId
  resourceKind := record.kind
  resourceUid := record.identity.uid
  resourceVersion := record.identity.resourceVersion
  name := record.identity.name
  «namespace» := nullIfEmpty record.namespace
  driverName := nullIfEmpty record.driverName
  source := record.identity.source
  observedAt := record.identity.observedAt
  staleAfter := staleAfter
  observationSourceId := o.observerId
  observationGeneration := o.observerGeneration
  observationRevision := o.sequence
  attributes := record.attributes
  deletedAt := none

def Observation.evidenceRow (record : StorageRecord) (staleAfter : Int)
    (evidence : EvidenceKind × String × Attributes) : EvidenceRow where
  tenantId := o.tenantId
  targetId := o.targetId
  evidenceKind := evidence.1
  resourceKind := record.kind
  resourceUid := record.identity.uid
  driverName := evidence.2.1
  source := record.identity.source
  observedAt := record.identity.observedAt
  staleAfter := staleAfter
  observationSourceId := o.observerId
  observationGeneration := o.observerGeneration
  observationRevision := o.sequence
  details := evidence.2.2
  deletedAt := none

/-- `replaceStorageDriverEvidence`. -/
def evidenceStatements (record : StorageRecord) (staleAfter : Int) : List Statement :=
  ⟨"replace " ++ record.kind.text ++ " driver evidence",
    .replaceEvidence o.stamp record.kind record.identity.uid⟩
  :: record.evidence.map fun evidence =>
    ⟨"upsert " ++ evidence.1.text ++ " driver evidence",
      .upsertEvidence (o.evidenceRow record staleAfter evidence)⟩

/-- The statements of `projectStorageInventory` for one record. -/
def recordStatements (staleThresholdSeconds : Int) (record : StorageRecord) : List Statement :=
  if record.identity.deleted then
    [⟨"tombstone storage " ++ record.kind.text,
        .tombstoneStorage o.stamp record.kind record.identity.uid⟩,
      ⟨"tombstone " ++ record.kind.text ++ " driver evidence",
        .tombstoneEvidence o.stamp record.kind record.identity.uid⟩]
  else
    let staleAfter := record.identity.observedAt + seconds staleThresholdSeconds
    ⟨"upsert storage " ++ record.kind.text, .upsertStorage (o.storageRow record staleAfter)⟩
      :: evidenceStatements o record staleAfter

/-- The uids of one kind that a report holds. -/
def presentUids (records : List StorageRecord) (kind : ResourceKind) : List String :=
  (records.filter fun record => record.kind == kind).map fun record => record.identity.uid

/-- What a full inventory does to the resources that it does not hold. -/
def missingStatements (records : List StorageRecord) : List Statement :=
  match o.inventoryMode with
  | .delta => []
  | .full => storageResourceKinds.flatMap fun kind =>
    [⟨"tombstone missing storage " ++ kind.text,
        .tombstoneMissingStorage o.stamp kind (presentUids records kind)⟩,
      ⟨"tombstone missing " ++ kind.text ++ " driver evidence",
        .tombstoneMissingEvidence o.stamp kind (presentUids records kind)⟩]

def snapshotApiStatements (staleThresholdSeconds : Int) : Option SnapshotApi → List Statement
  | none => []
  | some api =>
    [⟨"upsert snapshot API evidence", .upsertSnapshotApi
      { tenantId := o.tenantId, targetId := o.targetId, status := api.status
        apiVersion := nullIfEmpty api.apiVersion, source := api.source
        observedAt := api.observedAt
        staleAfter := api.observedAt + seconds staleThresholdSeconds
        observationSourceId := o.observerId, observationGeneration := o.observerGeneration
        observationRevision := o.sequence }⟩]

/-- `projectStorageInventory` up to the drift, after it has read the threshold. -/
def storageStatements (inventory : StorageInventory) (staleThresholdSeconds : Int) :
    List Statement :=
  let records := storageProjectionRecords inventory
  records.flatMap (recordStatements o staleThresholdSeconds) ++ missingStatements o records
    ++ snapshotApiStatements o staleThresholdSeconds inventory.snapshotApi

def bindingStatement (binding : BindingRow) (drift : Drift) : Statement :=
  ⟨"project storage binding drift", .projectBinding o.targetKey binding.id drift⟩

def Observation.cursorRow (digest : String) : CursorRow where
  tenantId := o.tenantId
  targetId := o.targetId
  observationSource := o.source
  observationSourceId := o.observerId
  observationGeneration := o.observerGeneration
  observationRevision := o.sequence
  payloadDigest := digest
  lastMessageId := uuidText o.eventId
  observedAt := o.observedAt

def Observation.inboxRow (digest : String) (processed : Bool) (processingError : Option String) :
    InboxRow where
  messageId := uuidText o.eventId
  tenantId := o.tenantId
  targetId := o.targetId
  observationSource := o.source
  observationSourceId := o.observerId
  observationGeneration := o.observerGeneration
  observationRevision := o.sequence
  payloadDigest := digest
  observedAt := o.observedAt
  processed := processed
  processingError := processingError

end HnbCloud.Observer
