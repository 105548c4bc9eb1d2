import HnbCloud.Observer.Token

set_option autoImplicit false

/-! # The cluster agent

The agent lists the nodes and the storage of its cluster, and reports them to the observation endpoint:
a full inventory first, then what has changed against the inventory that it reported last. The numbers
of its reports and that inventory are kept in memory. A number is taken, and the inventory replaced,
before the request is sent; what becomes of the request changes neither of them.

A report is kept as it is decoded at the other end, and the size of its encoding is given by a
function. The order of Go's maps is that of the lists. -/

namespace HnbCloud.Observer

/-! ## Storage deltas -/

/-- `append([]T(nil), facts...)`: a copy, which is nil if there are no facts. -/
def cloneCollection {α : Type} : Option (List α) → Option (List α)
  | some [] => none
  | facts => facts

/-- `cloneStorageInventory`. -/
def StorageInventory.clone (inventory : StorageInventory) : StorageInventory where
  storageClasses := cloneCollection inventory.storageClasses
  csiDrivers := cloneCollection inventory.csiDrivers
  csiNodes := cloneCollection inventory.csiNodes
  csiStorageCapacities := cloneCollection inventory.csiStorageCapacities
  volumeAttachments := cloneCollection inventory.volumeAttachments
  volumeSnapshotClasses := cloneCollection inventory.volumeSnapshotClasses
  volumeSnapshots := cloneCollection inventory.volumeSnapshots
  volumeSnapshotContents := cloneCollection inventory.volumeSnapshotContents
  snapshotApi := inventory.snapshotApi

def normalizeCoreStorageCollections (inventory : StorageInventory) : StorageInventory :=
  { inventory with
    storageClasses := some (inventory.storageClasses.getD [])
    csiDrivers := some (inventory.csiDrivers.getD [])
    csiNodes := some (inventory.csiNodes.getD [])
    csiStorageCapacities := some (inventory.csiStorageCapacities.getD [])
    volumeAttachments := some (inventory.volumeAttachments.getD []) }

section Facts

variable {δ : Type}

def Fact.uid (fact : Fact δ) : String := fact.identity.uid

/-- The map of `diffFacts`: facts by their UID, the later one of two. -/
def factsByUid (facts : List (Fact δ)) : Table (Fact δ) String Fact.uid :=
  facts.foldl Table.put .empty

def changedFrom (old : Table (Fact δ) String Fact.uid) (fact : Fact δ) : Bool :=
  match old.get? fact.uid with
  | none => true
  | some prior => prior.identity.resourceVersion != fact.identity.resourceVersion

/-- The loop of `diffFacts`: the facts that have changed, and what is left of the old ones. -/
def changedFacts (old : Table (Fact δ) String Fact.uid) :
    List (Fact δ) → List (Fact δ) × Table (Fact δ) String Fact.uid
  | [] => ([], old)
  | fact :: rest =>
    let later := changedFacts (old.deleteWhere fun prior => prior.uid == fact.uid) rest
    (if changedFrom old fact then fact :: later.1 else later.1, later.2)

/-- A fact whose resource is gone. -/
def Fact.tombstone (observedAt : Int) (fact : Fact δ) : Fact δ :=
  { fact with identity := { fact.identity with deleted := true, observedAt := observedAt } }

def diffFacts (previous current : Option (List (Fact δ))) (observedAt : Int) :
    Option (List (Fact δ)) :=
  let diff := changedFacts (factsByUid (previous.getD [])) (current.getD [])
  cloneCollection (some (diff.1 ++ diff.2.rows.map (Fact.tombstone observedAt)))

end Facts

def storageInventoryEmpty (inventory : StorageInventory) : Bool :=
  (inventory.storageClasses.getD []).isEmpty && (inventory.csiDrivers.getD []).isEmpty
    && (inventory.csiNodes.getD []).isEmpty && (inventory.csiStorageCapacities.getD []).isEmpty
    && (inventory.volumeAttachments.getD []).isEmpty
    && (inventory.volumeSnapshotClasses.getD []).isEmpty
    && (inventory.volumeSnapshots.getD []).isEmpty
    && (inventory.volumeSnapshotContents.getD []).isEmpty && inventory.snapshotApi.isNone

/-- What `diffStorageInventory` collects. -/
def storageDelta (previous current : StorageInventory) (observedAt : Int) : StorageInventory where
  storageClasses := diffFacts previous.storageClasses current.storageClasses observedAt
  csiDrivers := diffFacts previous.csiDrivers current.csiDrivers observedAt
  csiNodes := diffFacts previous.csiNodes current.csiNodes observedAt
  csiStorageCapacities :=
    diffFacts previous.csiStorageCapacities current.csiStorageCapacities observedAt
  volumeAttachments := diffFacts previous.volumeAttachments current.volumeAttachments observedAt
  volumeSnapshotClasses :=
    diffFacts previous.volumeSnapshotClasses current.volumeSnapshotClasses observedAt
  volumeSnapshots := diffFacts previous.volumeSnapshots current.volumeSnapshots observedAt
  volumeSnapshotContents :=
    diffFacts previous.volumeSnapshotContents current.volumeSnapshotContents observedAt
  snapshotApi := if previous.snapshotApi = current.snapshotApi then none else current.snapshotApi

def diffStorageInventory (previous current : Option StorageInventory) (observedAt : Int) :
    Option StorageInventory :=
  match current with
  | none => none
  | some current =>
  match previous with
  | none => some current.clone
  | some previous =>
    let delta := storageDelta previous current observedAt
    if storageInventoryEmpty delta then none else some (normalizeCoreStorageCollections delta)

/-! ## The producer -/

/-- `Producer`. The cache of nodes is a map from their ids. -/
structure Producer where
  identity : Identity
  (generation sequence : Int)
  lastInventory : Table Node String Node.nodeId
  lastStorageInventory : Option StorageInventory

def newProducer (identity : Identity) (generation sequence : Int) : Producer where
  identity := identity
  generation := if generation < 1 then 1 else generation
  sequence := if sequence < 1 then 1 else sequence
  lastInventory := .empty
  lastStorageInventory := none

/-- The cache of these nodes: of two with one id the later one stays. -/
def inventoryOf (nodes : List Node) : Table Node String Node.nodeId :=
  nodes.foldl Table.put .empty

/-- `nodesEqual`. Names, labels and the runtime's version are not compared. -/
def nodesEqual (a b : Node) : Bool :=
  a.nodeId == b.nodeId && a.healthState == b.healthState
    && a.connectivityState == b.connectivityState && a.lifecycleState == b.lifecycleState
    && a.architecture == b.architecture && a.kubeletVersion == b.kubeletVersion
    && a.resources == b.resources

/-- The parts of a report. -/
structure Report where
  observedAt : Int
  target : Option TargetState
  capability : Option Capability
  nodes : List Node
  storage : Option StorageInventory

/-- `newObservation`: the next number is taken. -/
def Producer.newObservation (p : Producer) (eventId mode : String) (report : Report) :
    Producer × ObservationWire :=
  ({ p with sequence := p.sequence + 1 },
    { schemaVersion := "1.0.0"
      eventId := eventId
      tenantId := p.identity.tenantId
      targetId := p.identity.targetId
      targetKind := p.identity.targetKind
      observerId := p.identity.observerId
      observerKind := p.identity.observerKind
      observerGeneration := p.generation
      sequence := p.sequence
      observedAt := report.observedAt
      inventoryMode := mode
      target := report.target
      capability := report.capability
      nodes := report.nodes
      storageInventory := report.storage })

def maxPayloadBytes : Nat := 1048576

/-- The nodes that `DeltaFromCacheWithStorage` reports as changed. -/
def Producer.changedNodes (p : Producer) (current : List Node) : List Node :=
  current.filter fun node =>
    match p.lastInventory.get? node.nodeId with
    | none => true
    | some prev => !nodesEqual prev node

/-- The tombstones of the nodes that are gone. -/
def Producer.removedNodes (p : Producer) (current : List Node) : List Node :=
  (p.lastInventory.rows.filter fun node => !(current.map Node.nodeId).contains node.nodeId).map
    fun node => { nodeId := node.nodeId, deleted := true }

section Encode

variable (size : ObservationWire → Nat)

def Producer.fullWithStorage (p : Producer) (eventId : String) (report : Report) :
    Producer × Option ObservationWire :=
  let storage := report.storage.map fun storage => normalizeCoreStorageCollections storage.clone
  let (p, o) := p.newObservation eventId "Full" { report with storage := storage }
  if maxPayloadBytes < size o then (p, none)
  else ({ p with lastInventory := inventoryOf report.nodes, lastStorageInventory := storage }, some o)

def Producer.deltaFromCacheWithStorage (p : Producer) (eventId : String) (report : Report) :
    Producer × Option ObservationWire :=
  let delta : Report := { report with
      nodes := p.changedNodes report.nodes ++ p.removedNodes report.nodes
      storage := diffStorageInventory p.lastStorageInventory report.storage report.observedAt }
  let (p, o) := p.newObservation eventId "Delta" delta
  if maxPayloadBytes < size o then (p, none)
  else
    let storage := match report.storage with
      | none => p.lastStorageInventory
      | some storage => some storage.clone
    ({ p with lastInventory := inventoryOf report.nodes, lastStorageInventory := storage }, some o)

/-! ## Reports -/

/-- What a cycle of `ReportOnce` has discovered. -/
structure Discovery where
  observedAt : Int
  nodes : List Node
  capability : Capability
  storage : StorageInventory

/-- The report of `ReportOnce`. -/
def Discovery.report (d : Discovery) : Report where
  observedAt := d.observedAt
  target := some
    { lifecycleState := "ACTIVE", healthState := "HEALTHY", connectivityState := "CONNECTED"
      lastKnownStateAt := d.observedAt, staleThresholdSeconds := 300
      runtimeVersion := d.capability.kubernetesVersion }
  capability := some d.capability
  nodes := d.nodes
  storage := some d.storage

/-- `ReportOnce` up to the request, after the discovery: a full inventory if none is cached. -/
def Producer.reportOnce (p : Producer) (eventId : String) (d : Discovery) :
    Producer × Option ObservationWire :=
  if p.lastInventory.rows = [] then p.fullWithStorage size eventId d.report
  else p.deltaFromCacheWithStorage size eventId d.report

def ObservationWire.encodedFields (raw : ObservationWire) : List String :=
  ["schemaVersion", "eventId", "tenantId", "targetId", "targetKind", "observerId", "observerKind",
    "observerGeneration", "sequence", "observedAt", "inventoryMode"]
    ++ (if raw.target.isSome then ["target"] else [])
    ++ (if raw.capability.isSome then ["capability"] else [])
    ++ (if raw.nodes.isEmpty then [] else ["nodes"])
    ++ (if raw.storageInventory.isSome then ["storageInventory"] else [])

/-- The body of the request. -/
def ObservationWire.payload (raw : ObservationWire) : Payload ObservationWire :=
  ⟨size raw, some raw.encodedFields, some raw⟩

end Encode

/-! ## The agent and the endpoint -/

/-- A request to the endpoint by anyone else: it is no observation by this observer. -/
structure ForeignRequest (identity : Identity) where
  request : Request
  foreign : ∀ now id o, (request.body.message now id).observed = some o →
    ¬ (o.targetKey = identity.target ∧ o.observerId = identity.observerId)

/-- What happens to an agent and the endpoint. -/
inductive AgentEvent (identity : Identity) where
  /-- The agent's process is started, with the generation it is configured for. -/
  | start (generation : Int)
  /-- A cycle of `ReportOnce`, up to its request. -/
  | report (eventId : String) (discovery : Discovery)
  /-- The request of a report arrives, once more or for the first time. -/
  | deliver (now : Int) (i : Nat) (bearer : Option Token)
  /-- The request of someone else arrives, such as a source reset. -/
  | request (now : Int) (foreign : ForeignRequest identity)

/-- The agent, its requests so far, and the database of the endpoint. -/
structure AgentSystem where
  db : DB
  /-- The producer of the process that is running. -/
  process : Option Producer
  /-- Every report that was encoded, in order. -/
  sent : List ObservationWire

section System

variable (endpoint : Endpoint) (size : ObservationWire → Nat) (identity : Identity)

/-- A step of the agent or of the endpoint, with the status that the endpoint answers. Neither a
    request that is lost nor a response that is lost is a step: the agent goes on in the same way. -/
def AgentSystem.step (s : AgentSystem) : AgentEvent identity → AgentSystem × Option Nat
  | .start generation => ({ s with process := some (newProducer identity generation 1) }, none)
  | .report eventId discovery =>
    match s.process with
    | none => (s, none)
    | some p =>
      let (p, o) := p.reportOnce size eventId discovery
      ({ s with process := some p, sent := s.sent ++ o.toList }, none)
  | .deliver now i bearer =>
    match s.sent[i]? with
    | none => (s, none)
    | some raw =>
      let (db, status) := endpoint.handle now ⟨bearer, .observation (raw.payload size)⟩ s.db
      ({ s with db := db }, some status)
  | .request now foreign =>
    let (db, status) := endpoint.handle now foreign.request s.db
    ({ s with db := db }, some status)

def agentSystem : Machine AgentSystem (AgentEvent identity) (Option Nat) where
  step s event := s.step endpoint size identity event

end System

end HnbCloud.Observer
