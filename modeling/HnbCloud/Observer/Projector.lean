import HnbCloud.Lib.Machine
import HnbCloud.Observer.Projection

set_option autoImplicit false

/-! # The projector

`Accept` and `ApplyReset`, one message after the other. An observation is admitted by the cursor of
its observer: the first one has to be number 1 of generation 1, every other one is the successor of
the last one in the generation that is established. A source reset raises the generation and starts
its numbers again.

`LoadCursor` looks for the cursor by tenant, target and observer id, while the cursor's primary key
has the observation source in it too. -/

namespace HnbCloud.Observer

open List DB Write CursorRow

variable {db db' : DB} {target : TargetKey} {statements : List Statement} {o : Observation}
  {now : Int} {digest : String}

/-! ## One transaction after the other -/

/-- Statements in order. The first one that is refused ends the transaction. -/
def issue (db : DB) : List Statement → Except String DB
  | [] => .ok db
  | statement :: rest =>
    match statement.write.perform? db db with
    | none => .error statement.context
    | some db => issue db rest

/-- `projectNodes`, which is left out for a report without nodes. -/
def projectNodes (o : Observation) (db : DB) : Except String DB :=
  if o.nodes = [] then .ok db
  else issue db (nodeStatements o (db.currentNodeIds o.targetKey))

/-- The loop of `projectStorageBindingDrift`. -/
def projectStorageBindingDrift (now : Int) (o : Observation) (staleThresholdSeconds : Int) :
    List BindingRow → DB → Except String DB
  | [], db => .ok db
  | binding :: rest, db => do
      let observed := db.latestObservedStorageClass o.targetKey binding.storageClassName
      let drift := bindingDrift now o staleThresholdSeconds binding observed
      let db ← issue db [bindingStatement o binding drift]
      projectStorageBindingDrift now o staleThresholdSeconds rest db

def versionStatements (o : Observation) : List Statement :=
  [⟨"advance storage projection version", .advanceProjectionVersion o.targetKey⟩]

/-- `projectStorageInventory`, with the version that is advanced before it. -/
def projectStorageInventory (now : Int) (o : Observation) (db : DB) : Except String DB :=
  match o.storageInventory with
  | none => .ok db
  | some inventory => do
      let db ← issue db (versionStatements o)
      match db.staleThreshold? o.targetKey with
      | none => .error "load storage freshness threshold"
      | some threshold =>
        let db ← issue db (storageStatements o inventory threshold)
        projectStorageBindingDrift now o threshold (db.driftBindings o.targetKey) db

/-- The end of `SaveObservation`. -/
def cursorStatements (o : Observation) (digest : String) : List Statement :=
  [⟨"update cursor", .upsertCursor (o.cursorRow digest)⟩,
    ⟨"record inbox", .upsertInbox (o.inboxRow digest true none)⟩]

def saveObservation (now : Int) (o : Observation) (digest : String) (db : DB) :
    Except String DB := do
  let db ← issue db (targetStatements o ++ capabilityStatements o digest)
  let db ← projectNodes o db
  let db ← projectStorageInventory now o db
  issue db (cursorStatements o digest)

section Reset

variable (reset : SourceReset)

def SourceReset.targetKey : TargetKey := ⟨reset.tenantId, reset.targetId⟩

def SourceReset.inboxRow : InboxRow where
  messageId := uuidText reset.eventId
  tenantId := reset.tenantId
  targetId := reset.targetId
  observationSource := observerSourceFor reset.targetKind
  observationSourceId := reset.observerId
  observationGeneration := reset.newObserverGeneration
  observationRevision := 0
  payloadDigest := ""
  observedAt := reset.observedAt
  processed := true

/-- The checks of `ApplySourceReset` on the generation that it has locked. -/
def SourceReset.check : Option Int → Except String Unit
  | none => .error "source-reset on unknown observer generation"
  | some previous =>
    if previous ≠ reset.previousObserverGeneration then
      .error ("source-reset previousObserverGeneration "
        ++ toString reset.previousObserverGeneration ++ " does not match committed "
        ++ toString previous)
    else if reset.newObserverGeneration ≤ previous then
      .error ("source-reset newObserverGeneration must exceed committed generation "
        ++ toString previous)
    else .ok ()

/-- What `ApplySourceReset` writes. -/
def resetStatements : List Statement :=
  [⟨"apply source-reset cursor", .resetCursors reset.targetKey reset.observerId
      reset.newObserverGeneration reset.observedAt⟩,
    ⟨"record source-reset inbox", .insertInbox reset.inboxRow⟩]

def applySourceReset (db : DB) : Except String DB := do
  reset.check ((db.loadCursor reset.targetKey reset.observerId).map observationGeneration)
  issue db (resetStatements reset)

end Reset

/-! ## Messages -/

/-- What `Digest` hashes: the parts of an observation, without its head. -/
structure Content where
  target : Option TargetState
  capability : Option Capability
  nodes : List Node
  storageInventory : Option StorageInventory
deriving DecidableEq

def Observation.content (o : Observation) : Content :=
  ⟨o.target, o.capability, o.nodes, o.storageInventory⟩

/-- What the cursor makes of an observation. -/
inductive Admission where
  | save
  | replay
  | gap (expected : Int)
  | fenced
  | conflict
deriving DecidableEq

/-- The decision of `Accept`. -/
def admission (digest : String) (o : Observation) : Option CursorRow → Admission
  | none => if o.observerGeneration ≠ 1 ∨ o.sequence ≠ 1 then .gap 1 else .save
  | some current =>
    if o.observerGeneration < current.observationGeneration then .fenced
    else if current.observationGeneration < o.observerGeneration then .fenced
    else if o.sequence < current.observationRevision then .replay
    else if o.sequence = current.observationRevision then
      if o.eventId = current.lastMessageId ∨ digest = current.payloadDigest then .replay
      else .conflict
    else if current.observationRevision + 1 < o.sequence then
      .gap (current.observationRevision + 1)
    else .save

/-- What a message is answered with. -/
inductive Answer where
  | accepted
  | replay
  | gap
  | fenced
  | rejected (error : String)
deriving DecidableEq

def conflictError (o : Observation) : String :=
  "observation sequence " ++ toString o.sequence ++ " conflicts with committed sequence"

/-- What `RecordGap` writes. -/
def gapRow (o : Observation) (digest : String) (expected : Int) : InboxRow :=
  o.inboxRow digest false (some ("sequence gap: expected " ++ toString expected))

section Accept

variable (hash : Content → String)

/-- `Accept`, for an observation that has been validated. -/
def acceptObservation (now : Int) (o : Observation) (db : DB) : DB × Answer :=
  let digest := hash o.content
  match admission digest o (db.loadCursor o.targetKey o.observerId) with
  | .save =>
    match saveObservation now o digest db with
    | .ok saved => (saved, .accepted)
    | .error error => (db, .rejected error)
  | .replay => (db, .replay)
  -- An error of `RecordGap` is dropped.
  | .gap expected =>
    (((recordGap (gapRow o digest expected)).perform? db db).getD db, .gap)
  | .fenced => (db, .fenced)
  | .conflict => (db, .rejected (conflictError o))

def accept (now : Int) (id : Identity) (payload : Payload ObservationWire) (db : DB) : DB × Answer :=
  match readObservation now id payload with
  | .error error => (db, .rejected error)
  | .ok o => acceptObservation hash now o db

def applyReset (id : Identity) (payload : Payload SourceResetWire) (db : DB) : DB × Answer :=
  match readSourceReset id payload with
  | .error error => (db, .rejected error)
  | .ok reset =>
    match applySourceReset reset db with
    | .ok db => (db, .accepted)
    | .error error => (db, .rejected error)

/-- A request to the projector. -/
inductive Message where
  | observation (now : Int) (id : Identity) (payload : Payload ObservationWire)
  | reset (id : Identity) (payload : Payload SourceResetWire)

/-- The projector, one message after the other. -/
def projector : Machine DB Message Answer where
  step db message :=
    match message with
    | .observation now id payload => accept hash now id payload db
    | .reset id payload => applyReset id payload db

end Accept

/-! ## What statements leave alone -/

/-- The statement is not about cursors. -/
def Write.keepsCursors : Write → Bool
  | upsertCursor _ => false
  | resetCursors _ _ _ _ => false
  | _ => true

/-- The statement is not about nodes. -/
def Write.keepsNodes : Write → Bool
  | upsertNode _ => false
  | tombstoneNode _ _ => false
  | _ => true

/-- The statement is not about capability snapshots. -/
def Write.keepsCapabilities : Write → Bool
  | insertCapabilitySnapshot _ => false
  | _ => true

/-- The statement leaves cursors, nodes and capability snapshots alone. -/
def Write.isStorage (write : Write) : Bool :=
  write.keepsCursors && write.keepsNodes && write.keepsCapabilities

/-- The statement is about cursors or the inbox only. -/
def Write.keepsProjection : Write → Bool
  | upsertCursor _ => true
  | upsertInbox _ => true
  | resetCursors _ _ _ _ => true
  | insertInbox _ => true
  | recordGap _ => true
  | _ => false

theorem DB.referring_eq_some {change : DB → DB}
    (h : db.referring target change = some db') : change db = db' := by
  unfold referring at h
  split_ifs at h
  exact Option.some.inj h

theorem DB.insertInbox?_eq_some {row : InboxRow} (h : db.insertInbox? row = some db') :
    ∃ inbox, db' = { db with inbox := inbox } := by
  unfold insertInbox? at h
  split_ifs at h
  obtain ⟨inbox, -, rfl⟩ := Option.map_eq_some_iff.1 h
  exact ⟨inbox, rfl⟩

theorem DB.upsertInbox?_eq_some {row : InboxRow} {conflict : InboxRow → InboxRow}
    {hconflict : ∀ r, (conflict r).messageId = r.messageId}
    (h : db.upsertInbox? row conflict hconflict = some db') :
    ∃ inbox, db' = { db with inbox := inbox } := by
  unfold upsertInbox? at h
  split at h
  · exact ⟨_, (Option.some.inj h).symm⟩
  · exact insertInbox?_eq_some h

theorem DB.insertCapability?_eq_some {row : CapabilityRow}
    (h : db.insertCapability? row = some db') :
    ∃ rows, db' = { db with capabilities := rows }
      ∧ ∀ other ∈ rows.rows, other ∈ db.capabilities.rows ∨ other = row := by
  unfold insertCapability? at h
  split at h
  · exact ⟨db.capabilities, (Option.some.inj h).symm, fun _ => .inl⟩
  split_ifs at h
  obtain ⟨rows, hrows, rfl⟩ := Option.map_eq_some_iff.1 h
  exact ⟨rows, rfl, fun _ => (Table.mem_insert? hrows).1⟩

theorem Write.perform?_upsertCursor {seen : DB} {row : CursorRow}
    (h : (upsertCursor row).perform? seen db = some db') :
    { db with cursors := db.cursors.put row } = db' := by
  simp only [perform?] at h
  split_ifs at h
  exact referring_eq_some h

theorem Write.perform?_frame {seen : DB} {write : Write} (h : write.perform? seen db = some db') :
    (write.keepsCursors = true → db'.cursors = db.cursors)
    ∧ (write.keepsNodes = true → db'.nodes = db.nodes)
    ∧ (write.keepsCapabilities = true → db'.capabilities = db.capabilities) := by
  cases write with
  | insertCapabilitySnapshot =>
    obtain ⟨rows, rfl, -⟩ := insertCapability?_eq_some h
    exact ⟨fun _ => rfl, fun _ => rfl, nofun⟩
  | upsertInbox | recordGap =>
    obtain ⟨inbox, rfl⟩ := upsertInbox?_eq_some h
    exact ⟨fun _ => rfl, fun _ => rfl, fun _ => rfl⟩
  | insertInbox =>
    obtain ⟨inbox, rfl⟩ := insertInbox?_eq_some h
    exact ⟨fun _ => rfl, fun _ => rfl, fun _ => rfl⟩
  | upsertCursor =>
    rw [← perform?_upsertCursor h]
    simp [keepsCursors]
  | upsertNode | upsertStorage | upsertEvidence =>
    simp only [perform?] at h
    rw [← referring_eq_some h]
    simp [keepsNodes]
  | upsertSnapshotApi =>
    simp only [perform?] at h
    split_ifs at h
    rw [← referring_eq_some h]
    simp
  | projectTarget =>
    simp only [perform?] at h
    split_ifs at h
    rw [← Option.some.inj h]
    simp
  | resetCursors | tombstoneNode | advanceProjectionVersion | tombstoneStorage | tombstoneEvidence
  | replaceEvidence | tombstoneMissingStorage | tombstoneMissingEvidence | projectBinding =>
    rw [← Option.some.inj h]
    simp [keepsCursors, keepsNodes]

theorem Write.perform?_cursors {seen : DB} {write : Write}
    (hwrite : write.keepsCursors = true) (h : write.perform? seen db = some db') :
    db'.cursors = db.cursors :=
  (perform?_frame h).1 hwrite

theorem Write.perform?_projection {seen : DB} {write : Write}
    (hwrite : write.keepsProjection = true) (h : write.perform? seen db = some db') :
    db'.toProjection = db.toProjection := by
  cases write with
  | upsertCursor => rw [← perform?_upsertCursor h]
  | resetCursors => rw [← Option.some.inj h]
  | upsertInbox | recordGap =>
    obtain ⟨inbox, rfl⟩ := upsertInbox?_eq_some h
    rfl
  | insertInbox =>
    obtain ⟨inbox, rfl⟩ := insertInbox?_eq_some h
    rfl
  | _ => simp [keepsProjection] at hwrite

theorem issue_related {R : DB → DB → Prop} (hrefl : ∀ db, R db db)
    (htrans : ∀ a b c, R a b → R b c → R a c)
    (hR : ∀ statement ∈ statements, ∀ db db', statement.write.perform? db db = some db' → R db db') (h : issue db statements = .ok db') : R db db' := by
  induction statements generalizing db with
  | nil =>
    obtain rfl : db = db' := by simpa [issue] using h
    exact hrefl db
  | cons statement _ ih =>
    simp only [issue] at h
    split at h
    · simp at h
    next mid hmid =>
    have hfirst : R db mid := hR statement mem_cons_self db mid hmid
    have hrest : R mid db' := ih (fun s hs => hR s (mem_cons_of_mem _ hs)) h
    exact htrans db mid db' hfirst hrest

theorem issue_cursors (hkeeps : ∀ statement ∈ statements, statement.write.keepsCursors = true)
    (h : issue db statements = .ok db') : db'.cursors = db.cursors :=
  issue_related (R := fun a b => b.cursors = a.cursors) (fun _ => rfl)
    (fun _ _ _ hab hbc => hbc.trans hab)
    (fun statement hs _ _ hperform => perform?_cursors (hkeeps statement hs) hperform) h

theorem issue_projection (hkeeps : ∀ statement ∈ statements, statement.write.keepsProjection = true)
    (h : issue db statements = .ok db') : db'.toProjection = db.toProjection :=
  issue_related (R := fun a b => b.toProjection = a.toProjection) (fun _ => rfl)
    (fun _ _ _ hab hbc => hbc.trans hab)
    (fun statement hs _ _ hperform => perform?_projection (hkeeps statement hs) hperform) h

/-- Two databases with the same cursors, nodes and capability snapshots. -/
def SameBesideStorage (db db' : DB) : Prop :=
  db'.cursors = db.cursors ∧ db'.nodes = db.nodes ∧ db'.capabilities = db.capabilities

theorem SameBesideStorage.trans {mid : DB} (h : SameBesideStorage db mid)
    (h' : SameBesideStorage mid db') : SameBesideStorage db db' :=
  ⟨h'.1.trans h.1, h'.2.1.trans h.2.1, h'.2.2.trans h.2.2⟩

theorem Write.isStorage_iff {write : Write} : write.isStorage = true ↔ write.keepsCursors = true
    ∧ write.keepsNodes = true ∧ write.keepsCapabilities = true := by
  simp [isStorage, and_assoc]

theorem issue_isStorage (hstorage : ∀ statement ∈ statements, statement.write.isStorage = true)
    (h : issue db statements = .ok db') : SameBesideStorage db db' :=
  issue_related (fun _ => ⟨rfl, rfl, rfl⟩) (fun _ _ _ => .trans) (fun statement hs _ _ hperform =>
    (isStorage_iff.1 (hstorage statement hs)).imp (perform?_frame hperform).1
      (.imp (perform?_frame hperform).2.1 (perform?_frame hperform).2.2)) h

/-! ## What the parts of an observation are about -/

theorem headStatements_keep (o : Observation) (digest : String) :
    ∀ statement ∈ targetStatements o ++ capabilityStatements o digest,
      statement.write.keepsCursors = true ∧ statement.write.keepsNodes = true := by
  intro statement hmem
  rcases mem_append.1 hmem with hmem | hmem
  · unfold targetStatements at hmem
    split at hmem
    · simp at hmem
    · rw [mem_singleton.1 hmem]
      exact ⟨rfl, rfl⟩
  · unfold capabilityStatements at hmem
    split at hmem
    · simp at hmem
    · rw [mem_singleton.1 hmem]
      exact ⟨rfl, rfl⟩

theorem nodeStatements_keep (o : Observation) (existing : List String) :
    ∀ statement ∈ nodeStatements o existing,
      statement.write.keepsCursors = true ∧ statement.write.keepsCapabilities = true := by
  intro statement hmem
  rcases mem_append.1 hmem with hmem | hmem
  · obtain ⟨node, -, rfl⟩ := mem_map.1 hmem
    unfold nodeStatement
    split <;> exact ⟨rfl, rfl⟩
  · split at hmem
    · simp at hmem
    · obtain ⟨id, -, rfl⟩ := mem_map.1 hmem
      exact ⟨rfl, rfl⟩

theorem recordStatements_isStorage (o : Observation) (threshold : Int) (record : StorageRecord) :
    ∀ statement ∈ recordStatements o threshold record, statement.write.isStorage = true := by
  intro statement hmem
  unfold recordStatements at hmem
  split at hmem
  · simp only [mem_cons, not_mem_nil, or_false] at hmem
    rcases hmem with rfl | rfl <;> rfl
  rcases mem_cons.1 hmem with rfl | hmem
  · rfl
  rcases mem_cons.1 hmem with rfl | hmem
  · rfl
  obtain ⟨evidence, -, rfl⟩ := mem_map.1 hmem
  rfl

theorem storageStatements_isStorage (o : Observation) (inventory : StorageInventory)
    (threshold : Int) :
    ∀ statement ∈ storageStatements o inventory threshold, statement.write.isStorage = true := by
  intro statement hmem
  rcases mem_append.1 hmem with hmem | hmem
  · rcases mem_append.1 hmem with hmem | hmem
    · obtain ⟨record, -, hmem⟩ := mem_flatMap.1 hmem
      exact recordStatements_isStorage o threshold record statement hmem
    unfold missingStatements at hmem
    split at hmem
    · simp at hmem
    · obtain ⟨kind, -, hmem⟩ := mem_flatMap.1 hmem
      simp only [mem_cons, not_mem_nil, or_false] at hmem
      rcases hmem with rfl | rfl <;> rfl
  · unfold snapshotApiStatements at hmem
    split at hmem
    · simp at hmem
    · rw [mem_singleton.1 hmem]
      rfl

theorem projectNodes_cursors (h : projectNodes o db = .ok db') : db'.cursors = db.cursors := by
  unfold projectNodes at h
  split at h
  · rw [← Except.ok.inj h]
  · exact issue_cursors (fun statement hs => (nodeStatements_keep o _ statement hs).1) h

theorem projectStorageBindingDrift_same {threshold : Int} {bindings : List BindingRow}
    (h : projectStorageBindingDrift now o threshold bindings db = .ok db') :
    SameBesideStorage db db' := by
  induction bindings generalizing db with
  | nil =>
    obtain rfl := Except.ok.inj h
    exact ⟨rfl, rfl, rfl⟩
  | cons _ _ ih =>
    obtain ⟨mid, hmid, hrest⟩ := except_bind_eq_ok h
    exact (issue_isStorage (by simp [bindingStatement]; rfl) hmid).trans (ih hrest)

theorem projectStorageInventory_same (h : projectStorageInventory now o db = .ok db') :
    SameBesideStorage db db' := by
  unfold projectStorageInventory at h
  split at h
  · obtain rfl := Except.ok.inj h
    exact ⟨rfl, rfl, rfl⟩
  next inventory _ =>
  obtain ⟨advanced, hadvanced, h⟩ := except_bind_eq_ok h
  have hversion : SameBesideStorage db advanced :=
    issue_isStorage (by simp [versionStatements]; rfl) hadvanced
  split at h
  · simp at h
  next threshold _ =>
  obtain ⟨stored, hstored, h⟩ := except_bind_eq_ok h
  have hstorage := issue_isStorage (storageStatements_isStorage o inventory threshold) hstored
  exact (hversion.trans hstorage).trans (projectStorageBindingDrift_same h)

/-! ## What the two transactions do to the cursors -/

theorem saveObservation_cursors (h : saveObservation now o digest db = .ok db') :
    db'.cursors = db.cursors.put (o.cursorRow digest) := by
  obtain ⟨head, hhead, h⟩ := except_bind_eq_ok h
  obtain ⟨nodes, hnodes, h⟩ := except_bind_eq_ok h
  obtain ⟨storage, hstorage, h⟩ := except_bind_eq_ok h
  have hbefore : storage.cursors = db.cursors := (projectStorageInventory_same hstorage).1.trans
      ((projectNodes_cursors hnodes).trans
        (issue_cursors (fun statement hs => (headStatements_keep o digest statement hs).1) hhead))
  simp only [cursorStatements, issue] at h
  split at h
  · simp at h
  next saved hsaved =>
  have hcursor : saved.cursors = storage.cursors.put (o.cursorRow digest) := by
    rw [← perform?_upsertCursor hsaved]
  split at h
  · simp at h
  next recorded hrecorded =>
  have hinbox : recorded.cursors = saved.cursors := perform?_cursors rfl hrecorded
  rw [← Except.ok.inj h, hinbox, hcursor, hbefore]

def resetCursorsOf (reset : SourceReset) (cursors : Table CursorRow CursorKey key) :
    Table CursorRow CursorKey key :=
  cursors.updateWhere (fun row => row.belongsTo reset.targetKey reset.observerId)
    (CursorRow.reset reset.newObserverGeneration reset.observedAt)
    (key_reset reset.newObserverGeneration reset.observedAt)

/-- A source reset finds the generation it names, and moves every cursor of its observer. -/
theorem applySourceReset_ok {reset : SourceReset} (h : applySourceReset reset db = .ok db') :
    (∃ current, db.loadCursor reset.targetKey reset.observerId = some current
      ∧ current.observationGeneration = reset.previousObserverGeneration)
    ∧ db'.cursors = resetCursorsOf reset db.cursors ∧ db'.toProjection = db.toProjection := by
  obtain ⟨u, hcheck, h⟩ := except_bind_eq_ok h
  refine ⟨?_, ?_, ?_⟩
  · rcases hload : db.loadCursor reset.targetKey reset.observerId with _ | current
    · simp [hload, SourceReset.check] at hcheck
    · refine ⟨current, rfl, ?_⟩
      by_contra hne
      simp [hload, SourceReset.check, hne] at hcheck
  · simp only [resetStatements, issue, perform?] at h
    split at h
    · simp at h
    next recorded hrecorded =>
    obtain ⟨inbox, rfl⟩ := insertInbox?_eq_some hrecorded
    rw [← Except.ok.inj h]
    exact Table.updateFound_self db.cursors _ _ _
  · refine issue_projection ?_ h
    intro statement hmem
    simp only [resetStatements, mem_cons, not_mem_nil, or_false] at hmem
    rcases hmem with rfl | rfl <;> rfl

/-! ## What a message does -/

def Message.observed : Message → Option Observation
  | observation now id payload => (readObservation now id payload).toOption
  | reset _ _ => none

def Message.resets : Message → Option SourceReset
  | observation _ _ _ => none
  | reset id payload => (readSourceReset id payload).toOption

/-- Everything that a message can do to the cursors and to the projection. -/
inductive Does (hash : Content → String) (db : DB) (message : Message) : Answer → DB → Prop where
  | saved (o : Observation) (db' : DB) (valid : message.observed = some o)
      (admitted : admission (hash o.content) o (db.loadCursor o.targetKey o.observerId) = .save)
      (cursors : db'.cursors = db.cursors.put (o.cursorRow (hash o.content)))
      (now : Int) (transaction : saveObservation now o (hash o.content) db = .ok db') :
      Does hash db message .accepted db'
  | raised (reset : SourceReset) (current : CursorRow) (db' : DB)
      (valid : message.resets = some reset)
      (established : db.loadCursor reset.targetKey reset.observerId = some current)
      (previous : current.observationGeneration = reset.previousObserverGeneration)
      (cursors : db'.cursors = resetCursorsOf reset db.cursors)
      (projection : db'.toProjection = db.toProjection) :
      Does hash db message .accepted db'
  | refused (answer : Answer) (db' : DB) (refused : answer ≠ .accepted)
      (cursors : db'.cursors = db.cursors) (projection : db'.toProjection = db.toProjection) :
      Does hash db message answer db'

theorem acceptObservation_does (hash : Content → String)
    {message : Message} (valid : message.observed = some o) :
    Does hash db message (acceptObservation hash now o db).2 (acceptObservation hash now o db).1 := by
  unfold acceptObservation
  dsimp only
  split
  · next hadmitted =>
    split
    · next saved hsaved =>
      exact .saved o saved valid hadmitted (saveObservation_cursors hsaved) now hsaved
    · exact .refused _ _ (by simp) rfl rfl
  · exact .refused _ _ (by simp) rfl rfl
  · next expected _ =>
    -- The gap is noted in the inbox, if the inbox takes it.
    rcases hgap : (recordGap (gapRow o (hash o.content) expected)).perform? db db with _ | db'
    · exact .refused _ _ (by simp) rfl rfl
    · exact .refused _ _ (by simp) (perform?_cursors rfl hgap) (perform?_projection rfl hgap)
  · exact .refused _ _ (by simp) rfl rfl
  · exact .refused _ _ (by simp) rfl rfl

theorem projector_does (hash : Content → String) (db : DB) (message : Message) :
    Does hash db message ((projector hash).answer db message) ((projector hash).next db message) := by
  cases message with
  | observation now id payload =>
    show Does hash db _ (accept hash now id payload db).2 (accept hash now id payload db).1
    unfold accept
    split
    · exact .refused _ _ (by simp) rfl rfl
    · next o hvalid =>
      exact acceptObservation_does hash (by simp [Message.observed, hvalid, Except.toOption])
  | reset id payload =>
    show Does hash db _ (applyReset id payload db).2 (applyReset id payload db).1
    unfold applyReset
    split
    · exact .refused _ _ (by simp) rfl rfl
    next reset hvalid =>
    split
    · next db' hreset =>
      obtain ⟨⟨current, hload, hprevious⟩, hcursors, hprojection⟩ := applySourceReset_ok hreset
      have hresets : (Message.reset id payload).resets = some reset := by
        simp [Message.resets, hvalid, Except.toOption]
      exact .raised reset current db' hresets hload hprevious hcursors hprojection
    · exact .refused _ _ (by simp) rfl rfl

/-! ## Generations -/

/-- The cursors of one observer have one generation, whatever their sources. -/
def OneGeneration (db : DB) : Prop :=
  ∀ row ∈ db.cursors.rows, ∀ row' ∈ db.cursors.rows, row.key.target = row'.key.target →
    row.observationSourceId = row'.observationSourceId →
    row.observationGeneration = row'.observationGeneration

theorem CursorRow.belongsTo_iff {row : CursorRow} {sourceId : String} :
    row.belongsTo target sourceId = true
      ↔ row.key.target = target ∧ row.observationSourceId = sourceId := by
  simp [belongsTo]

variable {observerId : String} {current : CursorRow}

theorem DB.loadCursor_eq_some (h : db.loadCursor target observerId = some current) :
    current ∈ db.cursors.rows ∧ current.key.target = target
      ∧ current.observationSourceId = observerId := by
  have hbelongs : current.belongsTo target observerId = true := by simpa using find?_some h
  exact ⟨mem_of_find?_eq_some h, belongsTo_iff.1 hbelongs⟩

theorem DB.loadCursor_eq_none
    (h : db.loadCursor target observerId = none) {row : CursorRow} (hrow : row ∈ db.cursors.rows)
    (htarget : row.key.target = target) : row.observationSourceId ≠ observerId := by
  intro hid
  have := List.find?_eq_none.1 h row hrow
  exact this (belongsTo_iff.2 ⟨htarget, hid⟩)

theorem admission_save (h : admission digest o (some current) = .save) :
    o.observerGeneration = current.observationGeneration
      ∧ o.sequence = current.observationRevision + 1 := by
  simp only [admission] at h
  split at h
  · simp at h
  split at h
  · simp at h
  split at h
  · simp at h
  split at h
  · split at h <;> exact absurd h (by simp)
  split_ifs at h
  constructor <;> omega

theorem admission_save_first
    (h : admission digest o none = .save) : o.observerGeneration = 1 ∧ o.sequence = 1 := by
  simp only [admission] at h
  split_ifs at h with hfirst
  simpa [not_or] using hfirst

end HnbCloud.Observer
