import HnbCloud.Lib.ReadCommitted
import HnbCloud.Observer.Sequence

set_option autoImplicit false

/-! # Concurrent observations and resets

`Accept` and `ApplyReset` statement by statement, for any number of calls at once under READ
COMMITTED. A cursor has two locks. Its row is locked by whoever writes it and by the `FOR UPDATE` of a
reset, once there is a row. Its entry in the primary key is locked by an upsert, so that two first
observations do not both insert it; a reset neither sees nor waits for a row that is not committed.
The rows of the other tables are not locked here, which leaves more interleavings than there are.

`Accept` reads the cursor in a statement of its own, before the transaction, and writes it at the end
without looking again. Between the two another call can move it. -/

namespace HnbCloud.Observer

open ReadCommitted List Option Table CursorRow

/-! ## Statements -/

/-- The statements of the projector. -/
inductive Stmt where
  | loadCursor (target : TargetKey) (observerId : String)
  | currentNodeIds (target : TargetKey)
  | staleThreshold (target : TargetKey)
  | driftBindings (target : TargetKey)
  | latestObservedStorageClass (target : TargetKey) (name : String)
  /-- `SELECT observation_generation … FOR UPDATE`. -/
  | lockGeneration (target : TargetKey) (observerId : String)
  | write (write : Write)

open Stmt

def Stmt.Answer : Stmt → Type
  | loadCursor _ _ => Option CursorRow
  | currentNodeIds _ => List String
  | staleThreshold _ => Option Int
  | driftBindings _ => List BindingRow
  | latestObservedStorageClass _ _ => Option StorageRow
  | lockGeneration _ _ => Option Int
  | write _ => Bool

def cursorKeys (target : TargetKey) (observerId : String) : List CursorKey :=
  [⟨target, .agent, observerId⟩, ⟨target, .cloudcore, observerId⟩]

inductive CursorLock where
  /-- Its entry in the primary key. -/
  | entry (k : CursorKey)
  | row (k : CursorKey)
deriving DecidableEq

/-- The locks that a statement waits for. -/
def Stmt.locks : Stmt → List CursorLock
  | lockGeneration target observerId => (cursorKeys target observerId).map .row
  | write (.upsertCursor row) => [.entry row.key, .row row.key]
  | write (.resetCursors target observerId _ _) => (cursorKeys target observerId).map .row
  | _ => []

/-- A statement that only reads. -/
def reading {ρ : Type} (answer : ρ) : Executed DB CursorLock ρ := ⟨answer, some, []⟩

def DB.rowLocks (db : DB) (keys : List CursorKey) : List CursorLock :=
  (keys.filter fun k => (db.cursors.get? k).isSome).map .row

def Write.kept (view : DB) : Write → List CursorLock
  | upsertCursor row => .entry row.key :: view.rowLocks [row.key]
  | resetCursors target observerId _ _ => view.rowLocks (cursorKeys target observerId)
  | _ => []

open Write

/-- What a statement does. -/
def Stmt.exec (view : DB) : (stmt : Stmt) → Executed DB CursorLock stmt.Answer
  | loadCursor target observerId => reading (view.loadCursor target observerId)
  | currentNodeIds target => reading (view.currentNodeIds target)
  | staleThreshold target => reading (view.staleThreshold? target)
  | driftBindings target => reading (view.driftBindings target)
  | latestObservedStorageClass target name => reading (view.latestObservedStorageClass target name)
  | lockGeneration target observerId =>
    ⟨(view.loadCursor target observerId).map observationGeneration, some,
      view.rowLocks (cursorKeys target observerId)⟩
  | write statement =>
    match statement.perform? view view with
    | none => reading (false : Bool)
    | some _ => ⟨(true : Bool), statement.perform? view, statement.kept view⟩

theorem DB.rowLocks_subset (db : DB) (keys : List CursorKey) :
    db.rowLocks keys ⊆ keys.map CursorLock.row :=
  map_subset _ (filter_subset_self _)

variable {db : DB}

theorem Write.kept_subset (view : DB) (write : Write) :
    write.kept view ⊆ (Stmt.write write).locks := by
  cases write with
  | upsertCursor row => exact cons_subset_cons _ (view.rowLocks_subset [row.key])
  | resetCursors target observerId => exact view.rowLocks_subset (cursorKeys target observerId)
  | _ => exact nil_subset _

/-- The database of the projector, statement by statement. -/
def observerDatabase : Database DB CursorLock Stmt Stmt.Answer where
  waits := locks
  exec := exec
  kept_subset := by
    intro view stmt
    cases stmt with
    | write write =>
      simp only [exec]
      split
      · exact nil_subset _
      · exact write.kept_subset view
    | lockGeneration target observerId => exact view.rowLocks_subset (cursorKeys target observerId)
    | _ => exact nil_subset _

/-! ## Scripts -/

/-- What is left of a transaction. -/
abbrev Script := Program Stmt Stmt.Answer (Verdict Answer)

/-- Statements in order, and then the rest. The first one that is refused rolls back. -/
def issuing : List Statement → Script → Script
  | [], rest => rest
  | statement :: statements, rest =>
    .call (.write statement.write) fun done =>
      match (done : Bool) with
      | true => issuing statements rest
      | false => .done (.rollback (.rejected statement.context))

/-- `projectNodes`. -/
def nodesScript (o : Observation) (rest : Script) : Script :=
  if o.nodes = [] then rest
  else .call (.currentNodeIds o.targetKey) fun existing => issuing (nodeStatements o existing) rest

/-- The loop of `projectStorageBindingDrift`. -/
def driftScript (now : Int) (o : Observation) (threshold : Int) (rest : Script) :
    List BindingRow → Script
  | [] => rest
  | binding :: bindings =>
    .call (.latestObservedStorageClass o.targetKey binding.storageClassName) fun observed =>
      issuing [bindingStatement o binding (bindingDrift now o threshold binding observed)]
        (driftScript now o threshold rest bindings)

/-- `projectStorageInventory`. -/
def storageScript (now : Int) (o : Observation) (rest : Script) : Script :=
  match o.storageInventory with
  | none => rest
  | some inventory =>
    issuing (versionStatements o) <|
      .call (.staleThreshold o.targetKey) fun threshold =>
        match (threshold : Option Int) with
        | none => .done (.rollback (.rejected "load storage freshness threshold"))
        | some threshold =>
          issuing (storageStatements o inventory threshold) <|
            .call (.driftBindings o.targetKey) fun bindings =>
              driftScript now o threshold rest bindings

/-- `SaveObservation`. -/
def saveScript (now : Int) (o : Observation) (digest : String) : Script :=
  issuing (targetStatements o ++ capabilityStatements o digest) <|
    nodesScript o <| storageScript now o <|
      issuing (cursorStatements o digest) (.done (.commit .accepted))

/-- What `Accept` does with the cursor that it has loaded. -/
def admittedScript (now : Int) (o : Observation) (digest : String) : Admission → Script
  | .save => saveScript now o digest
  | .replay => .done (.rollback .replay)
  | .gap expected =>
    .call (.write (.recordGap (gapRow o digest expected))) fun done =>
      match (done : Bool) with
      | true => .done (.commit .gap)
      | false => .done (.rollback .gap)
  | .fenced => .done (.rollback .fenced)
  | .conflict => .done (.rollback (.rejected (conflictError o)))

/-- `Accept`, for an observation that has been validated. -/
def acceptScript (hash : Content → String) (now : Int) (o : Observation) : Script :=
  .call (.loadCursor o.targetKey o.observerId) fun current =>
    admittedScript now o (hash o.content) (admission (hash o.content) o current)

/-- `ApplySourceReset`. -/
def resetScript (reset : SourceReset) : Script :=
  .call (.lockGeneration reset.targetKey reset.observerId) fun previous =>
    match reset.check previous with
    | .error error => .done (.rollback (.rejected error))
    | .ok () => issuing (resetStatements reset) (.done (.commit .accepted))

/-- The transaction of a message. -/
def script (hash : Content → String) : Message → Script
  | .observation now id payload =>
    match readObservation now id payload with
    | .error error => .done (.rollback (.rejected error))
    | .ok o => acceptScript hash now o
  | .reset id payload =>
    match readSourceReset id payload with
    | .error error => .done (.rollback (.rejected error))
    | .ok reset => resetScript reset

/-! ## A message alone -/

/-- The end of a transaction, given what its first part has come to. -/
def continued (committed : DB) (rest : Script) : Except String DB → Option (DB × Answer)
  | .ok view => serial observerDatabase committed rest view
  | .error error => some (committed, .rejected error)

variable (committed : DB)

theorem serial_issuing (statements : List Statement) (rest : Script) (view : DB) :
    serial observerDatabase committed (issuing statements rest) view
      = continued committed rest (issue view statements) := by
  induction statements generalizing view with
  | nil => rfl
  | cons statement _ ih =>
    rcases h : statement.write.perform? view view with _ | view'
    · simp [issuing, serial, observerDatabase, exec, issue, h, reading, continued]
    · have hrest := ih view'
      simp only [observerDatabase] at hrest
      simp [issuing, serial, observerDatabase, exec, issue, h, hrest]

variable {view : DB}

theorem serial_read {stmt : Stmt} (next : stmt.Answer → Script)
    {answer : stmt.Answer} (h : stmt.exec view = reading answer) :
    serial observerDatabase committed (.call stmt next) view
      = serial observerDatabase committed (next answer) view := by
  simp [serial, observerDatabase, h, reading]

variable {rest : Script}

/-- A script for the second part goes on where the first part has ended. -/
theorem continued_bind {committed : DB} {script : Script} {f : DB → Except String DB}
    (h : ∀ view, serial observerDatabase committed script view = continued committed rest (f view))
    (x : Except String DB) : continued committed script x = continued committed rest (x >>= f) := by
  cases x with
  | error => rfl
  | ok view => exact h view

variable (hash : Content → String) (now : Int) (o : Observation)

theorem serial_nodesScript (rest : Script) (view : DB) :
    serial observerDatabase committed (nodesScript o rest) view
      = continued committed rest (projectNodes o view) := by
  unfold nodesScript projectNodes
  split
  · rfl
  · refine (serial_read committed _ rfl).trans ?_
    exact serial_issuing committed (nodeStatements o (view.currentNodeIds o.targetKey)) rest view

theorem serial_driftScript (threshold : Int) (rest : Script) (bindings : List BindingRow)
    (view : DB) :
    serial observerDatabase committed (driftScript now o threshold rest bindings) view
      = continued committed rest (projectStorageBindingDrift now o threshold bindings view) := by
  induction bindings generalizing view with
  | nil => rfl
  | cons _ _ ih =>
    refine (serial_read committed _ rfl).trans ?_
    exact (serial_issuing committed _ _ view).trans (continued_bind ih _)

theorem serial_storageScript (rest : Script) (view : DB) :
    serial observerDatabase committed (storageScript now o rest) view
      = continued committed rest (projectStorageInventory now o view) := by
  unfold storageScript projectStorageInventory
  rcases o.storageInventory with _ | inventory
  · rfl
  refine (serial_issuing committed _ _ view).trans (continued_bind ?_ _)
  intro advanced
  refine (serial_read committed _ rfl).trans ?_
  rcases advanced.staleThreshold? o.targetKey with _ | threshold
  · rfl
  refine (serial_issuing committed _ _ advanced).trans (continued_bind ?_ _)
  intro stored
  refine (serial_read committed _ rfl).trans ?_
  exact serial_driftScript committed now o threshold rest _ stored

variable (digest : String)

theorem serial_saveScript (view : DB) :
    serial observerDatabase committed (saveScript now o digest) view
      = continued committed (.done (.commit .accepted)) (saveObservation now o digest view) := by
  refine (serial_issuing committed _ _ view).trans (continued_bind ?_ _)
  intro head
  refine (serial_nodesScript committed o _ head).trans (continued_bind ?_ _)
  intro nodes
  refine (serial_storageScript committed now o _ nodes).trans (continued_bind ?_ _)
  intro storage
  exact serial_issuing committed _ _ storage

theorem serial_acceptScript (db : DB) :
    serial observerDatabase db (acceptScript hash now o) db
      = some (acceptObservation hash now o db) := by
  show serial observerDatabase db (admittedScript now o (hash o.content)
    (admission (hash o.content) o (db.loadCursor o.targetKey o.observerId))) db = _
  unfold acceptObservation
  dsimp only
  cases admission (hash o.content) o (db.loadCursor o.targetKey o.observerId) with
  | save =>
    refine (serial_saveScript db now o (hash o.content) db).trans ?_
    cases saveObservation now o (hash o.content) db with
    | error | ok => rfl
  | replay | fenced | conflict => rfl
  | gap expected =>
    rcases h : (recordGap (gapRow o (hash o.content) expected)).perform? db db with _ | db'
    · simp [admittedScript, serial, observerDatabase, exec, h, reading]
    · simp [admittedScript, serial, observerDatabase, exec, h]

variable (reset : SourceReset)

theorem serial_resetScript (db : DB) : serial observerDatabase db (resetScript reset) db
      = continued db (.done (.commit .accepted)) (applySourceReset reset db) := by
  simp only [resetScript, serial, observerDatabase, exec, bind_some, applySourceReset]
  cases reset.check
      ((db.loadCursor reset.targetKey reset.observerId).map observationGeneration) with
  | error error => rfl
  | ok u => exact serial_issuing db (resetStatements reset) (.done (.commit .accepted)) db

variable (message : Message)

/-- A message that nobody interrupts does what the projector does with it. -/
theorem serial_script (db : DB) :
    serial observerDatabase db (script hash message) db = some ((projector hash).step db message) := by
  cases message with
  | observation now id payload =>
    simp only [script, projector, accept]
    cases readObservation now id payload with
    | error => rfl
    | ok o => exact serial_acceptScript hash now o db
  | reset id payload =>
    simp only [script, projector, applyReset]
    cases readSourceReset id payload with
    | error => rfl
    | ok reset =>
      refine (serial_resetScript reset db).trans ?_
      dsimp only
      cases applySourceReset reset db with
      | error | ok => rfl

end HnbCloud.Observer
