import HnbCloud.Operation.System

set_option autoImplicit false

/-! # Leases and fencing

Workers compete for a step through its lease. This module proves what the fencing is for, over all
interleavings of the engine: the generations granted for a step grow strictly, a lease is granted
only when none is live, a step takes at most one result, and a worker that comes back with a lease
that has expired or been superseded changes nothing.

A lease outlives its row: `SaveStepRetry` and the commits delete the row, and the step retains the
token of its last lease. That is why the generation a step retains, and not the row, says whether a
lease has been superseded. A lease without a row has no time left either: nothing can extend it. -/

namespace HnbCloud.Operation

open Messaging Table Request

/-! ## Vocabulary -/

/-- The lease that the transaction of a call grants, with its step. -/
def Call.granted (db : DB) : Call → Option (String × Lease)
  | acquireLease operationId stepId ownerId expectedVersion duration leaseId skipped =>
    match (Operation.acquireLease db operationId stepId ownerId expectedVersion duration leaseId
      skipped).2 with
    | .ok lease => some (stepId, lease)
    | .error _ => none
  | _ => none

open Call

/-- The lease that a request grants. An aborted transaction grants none; one whose answer is lost
    does, though no worker learns of it. -/
def Request.granted (db : DB) (request : Request) : Option (String × Lease) :=
  match request.fate with
  | .aborted _ => none
  | .answered | .replyLost => request.call.granted db

/-- The lease that a renewal, a retry or a commit presents, with its step and its owner. -/
def Call.presents : Call → Option (String × String × Lease)
  | renewLease stepId ownerId lease _ => some (stepId, ownerId, lease)
  | saveStepRetry _ stepId ownerId lease _ _ => some (stepId, ownerId, lease)
  | commitStepSuccess _ stepId _ ownerId lease _ _ _ => some (stepId, ownerId, lease)
  | commitStepFailure _ stepId _ ownerId lease _ _ _ _ => some (stepId, ownerId, lease)
  | _ => none

def DB.liveLeases (db : DB) (stepId : String) : List LeaseRow :=
  db.leases.rows.filter fun row => decide (row.stepId = stepId) && decide (db.now < row.expiresAt)

/-- The owner's lease has no time left: its row says so, or is gone. -/
def DB.LeaseExpired (db : DB) (stepId ownerId : String) (lease : Lease) : Prop :=
  ∀ row, db.leases.get? stepId = some row → row.ownerId = ownerId → row.leaseId = lease.id →
    row.fencingGeneration = lease.generation → row.expiresAt ≤ db.now

/-- A later lease has been granted for the step. -/
def DB.LeaseSuperseded (db : DB) (stepId : String) (lease : Lease) : Prop :=
  ∃ step, db.steps.get? stepId = some step ∧ lease.generation < step.fencingGeneration

/-- The step is there and `pending` or `running`. -/
def DB.stepActive (db : DB) (stepId : String) : Bool :=
  (db.steps.get? stepId).any fun step => step.status.isActive

/-- The tables a worker's write is about are as they were. -/
structure SameTables (db db' : DB) : Prop where
  steps : db'.steps = db.steps
  operations : db'.operations = db.operations
  audit : db'.audit = db.audit
  readModel : db'.readModel = db.readModel
  outbox : db'.outbox = db.outbox

abbrev EngineEntry := Machine.Entry DB Request (Except StoreError Answer)

/-- The step leaves `pending` and `running` in this entry. -/
def leavesActive (stepId : String) (entry : EngineEntry) : Bool :=
  entry.pre.stepActive stepId && !entry.post.stepActive stepId

/-! ## One request -/

section Request

variable {db : DB} {request : Request} {stepId ownerId : String} {lease : Lease}

theorem Call.granted_eq_some {call : Call} (h : call.granted db = some (stepId, lease)) :
    ∃ operationId ownerId expectedVersion duration op step,
      Grantable db operationId stepId expectedVersion lease op step
        ∧ ∀ sha, (call.run sha db).1 = db.grantLease stepId ownerId lease duration := by
  cases call with
  | acquireLease operationId stepId' ownerId expectedVersion duration leaseId skipped =>
    simp only [granted] at h
    rcases hacquire : Operation.acquireLease db operationId stepId' ownerId expectedVersion
      duration leaseId skipped with ⟨db', err | lease'⟩
    · simp [hacquire] at h
    obtain ⟨rfl, rfl⟩ : stepId' = stepId ∧ lease' = lease := by simpa [hacquire] using h
    obtain ⟨op, step, hgrant, rfl⟩ := acquireLease_ok hacquire
    exact ⟨operationId, ownerId, expectedVersion, duration, op, step, hgrant,
      fun sha => by simp [Call.run, hacquire]⟩
  | submitOperation | submitIntent | approveOperation | rejectOperation | cancelOperation
  | renewLease | saveStepRetry | commitStepSuccess | commitStepFailure | tick | observe =>
    simp [granted] at h

/-- A granted lease was grantable, and the grant is what happened to the database. -/
theorem Request.granted_eq_some (h : request.granted db = some (stepId, lease)) :
    ∃ operationId ownerId expectedVersion duration op step,
      Grantable db operationId stepId expectedVersion lease op step
        ∧ ∀ sha, (engine sha).next db request = db.grantLease stepId ownerId lease duration := by
  obtain ⟨call, fate⟩ := request
  cases fate with
  | aborted => simp [Request.granted] at h
  | answered | replyLost => exact granted_eq_some h

theorem DB.leaseHeld_of_expired (h : db.LeaseExpired stepId ownerId lease) :
    db.leaseHeld stepId ownerId lease = false := by
  rw [Bool.eq_false_iff]
  intro hheld
  obtain ⟨row, hrow, howner, hid, hgeneration, hlive⟩ :=
    (db.leaseHeld_iff stepId ownerId lease).1 hheld
  have := h row hrow howner hid hgeneration
  omega

section Stale

variable (h : db.LeaseExpired stepId ownerId lease ∨ db.LeaseSuperseded stepId lease)
include h

theorem DB.not_fenced_of_stale {step : StepRow} (hstep : db.steps.get? stepId = some step) :
    ¬ (step.fencedBy lease = true ∧ db.leaseHeld stepId ownerId lease = true) := by
  rintro ⟨hfenced, hheld⟩
  rcases h with hexpired | ⟨step', hstep', hgeneration⟩
  · simp [db.leaseHeld_of_expired hexpired] at hheld
  · obtain rfl : step = step' := by simpa [hstep] using hstep'
    have := ((step.fencedBy_iff lease).1 hfenced).2
    omega

theorem commitStepResult_of_stale (operationId key : String) (expected : Int)
    (outcome : StepOutcome) (result : StepResult) (events : List OutboxEvent) :
    ∃ err, commitStepResult db operationId stepId key ownerId lease expected outcome result events
      = (db, .error err) := by
  rcases commitStepResult_cases db operationId stepId key ownerId lease expected outcome result
    events with ⟨op, step, outbox, hcommit, -, -⟩ | herror
  · have hstep := (DB.stepOf_eq_some_iff.1 hcommit.stored).1
    obtain rfl : step.id = stepId := key_of_get? hstep
    have hfenced := (db.fenced_iff step ownerId lease).1 hcommit.fenced
    exact absurd hfenced.2 (DB.not_fenced_of_stale h hstep)
  · exact herror

/-- The transaction of a call that presents a stale lease is refused. -/
theorem Call.run_of_stale (sha : Sha256) {call : Call}
    (hpresents : call.presents = some (stepId, ownerId, lease)) :
    ∃ err, call.run sha db = (db, .error err) := by
  cases call with
  | renewLease _ _ _ duration =>
    cases hpresents
    rcases renewLease_cases db stepId ownerId lease duration with
      ⟨step, hstep, hfenced, hheld, -⟩ | ⟨-, heq⟩
    · exact absurd ⟨hfenced, hheld⟩ (DB.not_fenced_of_stale h hstep)
    · exact ⟨.leaseLost, by simp [Call.run, heq, Except.map]⟩
  | saveStepRetry operationId _ _ _ expected result =>
    cases hpresents
    rcases saveStepRetry_cases db operationId stepId ownerId lease expected result with
      ⟨step, hstep, -, hfenced, -⟩ | ⟨-, heq⟩
    · have hstep := (DB.stepOf_eq_some_iff.1 hstep).1
      obtain rfl : step.id = stepId := key_of_get? hstep
      exact absurd ((db.fenced_iff step ownerId lease).1 hfenced).2
        (DB.not_fenced_of_stale h hstep)
    · exact ⟨.leaseLost, by simp [Call.run, heq, Except.map]⟩
  | commitStepSuccess operationId _ key _ _ expected result event =>
    cases hpresents
    obtain ⟨err, heq⟩ := commitStepResult_of_stale h operationId key expected .succeeded
      result [event]
    exact ⟨err, by simp [Call.run, Operation.commitStepSuccess, heq, Except.map]⟩
  | commitStepFailure operationId _ key _ _ expected result event failedEvent =>
    cases hpresents
    obtain ⟨err, heq⟩ := commitStepResult_of_stale h operationId key expected .failed
      result [event, failedEvent]
    exact ⟨err, by simp [Call.run, Operation.commitStepFailure, heq, Except.map]⟩
  | submitOperation | submitIntent | approveOperation | rejectOperation | cancelOperation
  | acquireLease | tick | observe => simp [presents] at hpresents

theorem engine_of_stale (sha : Sha256)
    (hpresents : request.call.presents = some (stepId, ownerId, lease)) :
    (∃ err, (engine sha).answer db request = .error err)
      ∧ SameTables db ((engine sha).next db request) := by
  obtain ⟨err, heq⟩ := run_of_stale h sha hpresents
  show (∃ err, (request.run sha db).2 = .error err) ∧ SameTables db (request.run sha db).1
  unfold Request.run
  cases request.fate with
  | answered =>
    simp only [heq, Fate.apply]
    exact ⟨⟨err, rfl⟩, ⟨rfl, rfl, rfl, rfl, rfl⟩⟩
  | aborted => exact ⟨⟨_, rfl⟩, ⟨rfl, rfl, rfl, rfl, rfl⟩⟩
  | replyLost =>
    simp only [heq, Fate.apply]
    exact ⟨⟨_, rfl⟩, ⟨rfl, rfl, rfl, rfl, rfl⟩⟩

end Stale

end Request

/-! ## Runs -/

section Runs

variable (sha : Sha256) (start : DB) (requests : List Request) (stepId : String)

/-- Along a run every granted generation is larger than the ones granted before. -/
theorem trace_generations_increase :
    ((engine sha).trace start requests).Pairwise fun entry entry' =>
      ∀ lease lease', entry.call.granted entry.pre = some (stepId, lease) →
        entry'.call.granted entry'.pre = some (stepId, lease') →
        lease.generation < lease'.generation := by
  -- What a grant leaves behind is the sequence, which never goes back below it.
  refine (engine sha).trace_pairwise (P := fun _ => True)
    (J := fun entry db => ∀ lease, entry.call.granted entry.pre = some (stepId, lease) →
      lease.generation ≤ db.fencingSeq) (fun _ _ _ => trivial) ?_ ?_ ?_ trivial requests
  · intro db request _ lease hgranted
    change request.granted db = some (stepId, lease) at hgranted
    obtain ⟨_, _, _, _, _, _, _, hnext⟩ := granted_eq_some hgranted
    rw [hnext sha]
    exact Nat.le_refl _
  · intro entry db request _ hJ lease hgranted
    exact Nat.le_trans (hJ lease hgranted) (engine_effect sha db request).fencingSeq_le
  · intro entry db request _ hJ lease lease' hgranted hgranted'
    obtain ⟨_, _, _, _, _, _, hgrant, _⟩ := granted_eq_some hgranted'
    exact Nat.lt_of_le_of_lt (hJ lease hgranted) hgrant.drawn

/-- After a grant, every lease with a smaller generation is superseded for good. -/
theorem trace_superseded : ((engine sha).trace start requests).Pairwise fun entry entry' =>
      ∀ lease lease', entry.call.granted entry.pre = some (stepId, lease') →
        lease.generation < lease'.generation → entry'.pre.LeaseSuperseded stepId lease := by
  refine (engine sha).trace_pairwise (P := fun _ => True)
    (J := fun entry db => ∀ lease', entry.call.granted entry.pre = some (stepId, lease') →
      ∃ step, db.steps.get? stepId = some step ∧ lease'.generation ≤ step.fencingGeneration)
    (fun _ _ _ => trivial) ?_ ?_ ?_ trivial requests
  · intro db request _ lease' hgranted
    change request.granted db = some (stepId, lease') at hgranted
    obtain ⟨_, _, _, _, _, step, hgrant, hnext⟩ := granted_eq_some hgranted
    rw [hnext sha]
    exact ⟨step.retain lease', db.steps.get?_update_self stepId (StepRow.retain lease')
      (fun _ => rfl) (DB.stepOf_eq_some_iff.1 hgrant.stored).1, Nat.le_refl _⟩
  · intro entry db request _ hJ lease' hgranted
    obtain ⟨step, hstep, hle⟩ := hJ lease' hgranted
    obtain ⟨step', hstep', hevolves⟩ := (engine_effect sha db request).step_evolves hstep
    exact ⟨step', hstep', Nat.le_trans hle hevolves.generation⟩
  · intro entry db request _ hJ lease lease' hgranted hlt
    obtain ⟨step, hstep, hle⟩ := hJ lease' hgranted
    exact ⟨step, hstep, Nat.lt_of_lt_of_le hlt hle⟩

theorem trace_leavesActive_le_one :
    ((engine sha).trace start requests).countP (leavesActive stepId) ≤ 1 := by
  refine countP_le_one_of_pairwise ?_
  -- A step that has left is there, and stays as it is.
  refine (engine sha).trace_pairwise (P := fun _ => True)
    (J := fun entry db => leavesActive stepId entry = true →
      ∃ step, db.steps.get? stepId = some step ∧ step.status.isActive = false)
    (fun _ _ _ => trivial) ?_ ?_ ?_ trivial requests
  · intro db request _ hleaves
    obtain ⟨hpre, hpost⟩ : db.stepActive stepId = true
        ∧ ((engine sha).next db request).stepActive stepId = false := by
      simpa [leavesActive, Machine.entry] using hleaves
    obtain ⟨step, hstep, -⟩ := (Option.any_eq_true _ _).1 hpre
    obtain ⟨step', hstep', -⟩ := (engine_effect sha db request).step_evolves hstep
    refine ⟨step', hstep', ?_⟩
    simpa [DB.stepActive, hstep'] using hpost
  · intro entry db request _ hJ hleaves
    obtain ⟨step, hstep, hdone⟩ := hJ hleaves
    obtain ⟨step', hstep', hevolves⟩ := (engine_effect sha db request).step_evolves hstep
    obtain rfl := hevolves.frozen hdone
    exact ⟨step', hstep', hdone⟩
  · intro entry db request _ hJ hleaves
    obtain ⟨step, hstep, hdone⟩ := hJ hleaves
    simp [leavesActive, Machine.entry, DB.stepActive, hstep, hdone]

theorem DB.liveLeases_length_le_one (db : DB) : (db.liveLeases stepId).length ≤ 1 :=
  db.leases.rows_length_le_one_of_key stepId fun row => decide (db.now < row.expiresAt)

theorem liveLeases_of_granted {stepId : String} {db : DB} {request : Request} {lease : Lease}
    (h : request.granted db = some (stepId, lease)) : db.liveLeases stepId = [] := by
  obtain ⟨_, _, _, _, _, _, hgrant, _⟩ := granted_eq_some h
  rw [DB.liveLeases, List.filter_eq_nil_iff]
  intro row hrow hlive
  simp only [Bool.and_eq_true, decide_eq_true_eq] at hlive
  have hget : db.leases.get? stepId = some row := hlive.1 ▸ get?_of_mem hrow
  have := hgrant.free row hget
  omega

/-- **Fencing.** In every interleaving of the engine and for every step: the generations granted
    for it grow strictly; no state has two live leases of it, and one is granted only when none is
    live; the step leaves `pending` and `running` at most once; and a renewal, a retry or a commit
    that presents an expired or a superseded lease gets an error and changes no table, where a lease
    is superseded from the moment a later one is granted. -/
theorem leases_fence_step (now : Int) :
    let trace := (engine sha).trace (DB.empty now) requests
    (trace.Pairwise fun entry entry' =>
      ∀ lease lease', entry.call.granted entry.pre = some (stepId, lease) →
        entry'.call.granted entry'.pre = some (stepId, lease') →
        lease.generation < lease'.generation)
    ∧ (∀ entry ∈ trace, (entry.pre.liveLeases stepId).length ≤ 1
        ∧ (entry.post.liveLeases stepId).length ≤ 1
        ∧ ∀ lease, entry.call.granted entry.pre = some (stepId, lease) →
          entry.pre.liveLeases stepId = [])
    ∧ trace.countP (leavesActive stepId) ≤ 1
    ∧ (∀ entry ∈ trace, ∀ ownerId lease,
        entry.call.call.presents = some (stepId, ownerId, lease) →
        entry.pre.LeaseExpired stepId ownerId lease ∨ entry.pre.LeaseSuperseded stepId lease →
        (∃ err, entry.result = .error err) ∧ SameTables entry.pre entry.post)
    ∧ (trace.Pairwise fun entry entry' =>
        ∀ lease lease', entry.call.granted entry.pre = some (stepId, lease') →
          lease.generation < lease'.generation → entry'.pre.LeaseSuperseded stepId lease) := by
  refine ⟨trace_generations_increase sha _ requests stepId, ?_,
    trace_leavesActive_le_one sha _ requests stepId, ?_, trace_superseded sha _ requests stepId⟩
  · refine (engine sha).trace_forall (P := fun _ => True) (fun _ _ _ => trivial) ?_ trivial requests
    intro db request _
    exact ⟨db.liveLeases_length_le_one stepId, DB.liveLeases_length_le_one stepId _,
      fun lease h => liveLeases_of_granted h⟩
  · refine (engine sha).trace_forall (P := fun _ => True) (fun _ _ _ => trivial) ?_ trivial requests
    intro db request _ ownerId lease hpresents hstale
    exact engine_of_stale hstale sha hpresents

end Runs

end HnbCloud.Operation
