import HnbCloud.Driver.HttpRunner
import HnbCloud.Engine.Submission
import HnbCloud.Lifecycle.Server

set_option autoImplicit false

/-! # Planned lifecycle steps

A lifecycle step from the plan to the provider: platform-api plans the intent and stores the step, the
worker leases the step and posts it, and the lifecycle provider compares the inputs of the step with
the execution they come with. The inputs are written when the plan is made. Their idempotency key is a
digest of the intent, while the execution carries the key of the step's row, which is put together from
the key of the operation; their generation is always 1, while that of the execution is drawn with the
lease. -/

namespace HnbCloud.Operation

/-! ## What a step keeps from its plan -/

/-- The columns of a step that its plan decides. -/
structure StepRow.SamePlan (step step' : StepRow) : Prop where
  stepType : step'.stepType = step.stepType
  providerId : step'.providerId = step.providerId
  providerVersion : step'.providerVersion = step.providerVersion
  providerDigest : step'.providerDigest = step.providerDigest
  idempotencyKey : step'.idempotencyKey = step.idempotencyKey
  stepInput : step'.stepInput = step.stepInput

theorem StepRow.SamePlan.refl (step : StepRow) : step.SamePlan step := ⟨rfl, rfl, rfl, rfl, rfl, rfl⟩

theorem StepRow.SamePlan.trans {a b c : StepRow} (h : a.SamePlan b) (h' : b.SamePlan c) :
    a.SamePlan c :=
  ⟨h'.stepType.trans h.stepType, h'.providerId.trans h.providerId,
    h'.providerVersion.trans h.providerVersion, h'.providerDigest.trans h.providerDigest,
    h'.idempotencyKey.trans h.idempotencyKey, h'.stepInput.trans h.stepInput⟩

theorem Effect.step_samePlan {db db' : DB} {stepId : String} {step : StepRow} (h : Effect db db')
    (hstep : db.steps.get? stepId = some step) :
    ∃ step', db'.steps.get? stepId = some step' ∧ step.SamePlan step' := by
  obtain ⟨more, hbecomes, -⟩ := h.steps_become
  obtain ⟨step', hstep', hstep⟩ := hbecomes.get? hstep
  refine ⟨step', hstep', ?_⟩
  cases hstep <;> exact ⟨rfl, rfl, rfl, rfl, rfl, rfl⟩

theorem engine_samePlan (sha : Sha256) {db : DB} {stepId : String} {step : StepRow}
    (hstep : db.steps.get? stepId = some step) (history : List Request) :
    ∃ step', ((engine sha).run db history).steps.get? stepId = some step'
      ∧ step.SamePlan step' := by
  refine (engine sha).run_induction
    (P := fun s => ∃ step', s.steps.get? stepId = some step' ∧ step.SamePlan step') ?_
    ⟨step, hstep, .refl step⟩ history
  rintro s request ⟨current, hcurrent, hsame⟩
  obtain ⟨next, hnext, hsame'⟩ := (engine_effect sha s request).step_samePlan hcurrent
  exact ⟨next, hnext, hsame.trans hsame'⟩

/-- The steps of an intent that is accepted are stored as they are planned. -/
theorem submitIntent_step (sha : Sha256) (db : DB) (cmd : IntentSubmitCommand) (ids : FreshIds)
    (hnew : (submitIntent sha db cmd ids).1 ≠ db) {i : Nat} {step : PlanStep}
    (hstep : cmd.steps[i]? = some step) :
    (submitIntent sha db cmd ids).1.steps.get? (ids.step i)
      = some (StepRow.ofPlanStep ids.operation (ids.step i) cmd.lookupKey step) := by
  rcases submitIntent_cases sha db cmd ids with hsame | ⟨planId, planDigest, correlationId, -, h⟩
  · exact absurd hsame hnew
  refine Table.get?_of_mem (r := StepRow.ofPlanStep ids.operation (ids.step i) cmd.lookupKey step) ?_
  rw [h.stepRows]
  refine List.mem_append_right _ (List.mem_map.2 ⟨(step, i), ?_, rfl⟩)
  exact List.mem_zipIdx_iff_getElem?.2 hstep

end HnbCloud.Operation

namespace HnbCloud.Engine

theorem Planner.plan_cluster {p : Planner} {tenantId : String} {intent : RuntimeIntent}
    {plan : ExecutionPlan} (h : p.plan tenantId intent = .ok plan)
    (hkind : intent.kind.isCluster = true) :
    ∃ step decision, plan.steps = [step]
      ∧ step.inputs = some (lifecycleInputs p.hashes tenantId intent decision) := by
  unfold Planner.plan at h
  split at h
  · simp at h
  next draft hdraft =>
  split at h
  · simp at h
  split at h
  · simp at h
  cases h
  rw [Planner.draft, if_pos hkind] at hdraft
  unfold draftCluster at hdraft
  split at hdraft
  · simp at hdraft
  split at hdraft
  · simp at hdraft
  next decision hdecision =>
  split at hdraft
  · simp at hdraft
  split at hdraft
  · simp at hdraft
  · simp at hdraft
  split_ifs at hdraft
  cases hdraft
  exact ⟨_, decision, rfl, rfl⟩

end HnbCloud.Engine

namespace HnbCloud.Lifecycle

open Provider Driver Engine

/-! ## The two keys -/

/-- The key in the inputs has one colon, if the digits of a digest have none. -/
theorem count_colon_lifecycleStepIdempotencyKey {hashes : Hashes}
    (hhex : ∀ text, ':' ∉ (hashes.sha256.text text).toList) (tenantId : String)
    (intent : RuntimeIntent) :
    (lifecycleStepIdempotencyKey hashes tenantId intent).toList.count ':' = 1 := by
  unfold lifecycleStepIdempotencyKey
  rw [String.toList_append, List.count_append, List.count_eq_zero_of_not_mem (hhex _)]
  decide

theorem four_le_count_colon (cmd : Operation.IntentSubmitCommand) (planStepId : String) :
    4 ≤ (Operation.stepIdempotencyKey cmd.lookupKey planStepId).toList.count ':' := by
  have hcolon : (":" : String).toList.count ':' = 1 := by decide
  simp only [Operation.stepIdempotencyKey, Operation.IntentSubmitCommand.lookupKey,
    String.toList_append, List.count_append, hcolon]
  omega

/-! ## The checks of the provider -/

theorem executionContext_ok {kind : ManagerKind} {request : ExecutionRequest}
    {execution : ExecutionContext} (h : executionContext kind request = .ok execution) :
    execution.inputs = request.inputs ∧ execution.idempotencyKey = request.idempotencyKey := by
  unfold executionContext at h
  split at h
  · simp at h
  split_ifs at h
  cases h
  exact ⟨rfl, rfl⟩

theorem input?_append_of_ne {inputs : List (String × Json)} {key : String}
    (h : ∀ input ∈ inputs, input.1 ≠ key) (more : List (String × Json)) :
    input? (inputs ++ more) key = input? more key := by
  have hnone : inputs.find? (fun input => input.1 == key) = none := by
    rw [List.find?_eq_none]
    intro input hinput
    simpa using h input hinput
  rw [input?, input?, List.find?_append, hnone, Option.none_or]

/-- The generation and the key in the inputs of a planned step, and what stands before them. -/
theorem lifecycleInputs_eq (hashes : Hashes) (tenantId : String)
    (intent : RuntimeIntent) (decision : CompatibilityDecision) :
    ∃ before after, lifecycleInputs hashes tenantId intent decision
        = before ++ (("fencingGeneration", .num 1)
          :: ("idempotencyKey", .str (lifecycleStepIdempotencyKey hashes tenantId intent))
          :: after)
      ∧ ∀ input ∈ before, input.1 ≠ "fencingGeneration" ∧ input.1 ≠ "idempotencyKey" := by
  unfold lifecycleInputs
  rw [List.append_assoc, List.append_assoc]
  refine ⟨_, _, rfl, ?_⟩
  intro input hinput
  simp only [List.mem_append, List.mem_singleton, Json.pointerField, Option.mem_toList,
    Option.map_eq_some_iff] at hinput
  rcases hinput with (((rfl | h) | ⟨ref, -, rfl⟩) | h) | h
  · simp
  · simp [Json.mem_textField h]
  · simp
  · simp [Json.mem_textField h]
  · simp [Json.mem_textField h]

theorem readInput_lifecycleInputs (hashes : Hashes) (tenantId : String)
    (intent : RuntimeIntent) (decision : CompatibilityDecision) :
    let input := readInput (lifecycleInputs hashes tenantId intent decision)
    input.idempotencyKey = lifecycleStepIdempotencyKey hashes tenantId intent
      ∧ input.fencingGeneration = 1 := by
  obtain ⟨before, after, hinputs, hbefore⟩ := lifecycleInputs_eq hashes tenantId intent decision
  constructor
  · show stringInput _ "idempotencyKey" = _
    rw [stringInput, hinputs, input?_append_of_ne fun input h => (hbefore input h).2]
    rfl
  · show intInput _ "fencingGeneration" = _
    rw [intInput, hinputs, input?_append_of_ne fun input h => (hbefore input h).1]
    rfl

/-- No execution of a planned lifecycle step passes the checks of the provider: whatever has happened to
    the step since it was stored, whatever lease the worker holds and whatever provider it is sent to.
    The digits of a digest are no colons. -/
theorem planned_execution_refused (p : Planner)
    (hhex : ∀ text, ':' ∉ (p.hashes.sha256.text text).toList)
    {intent intent' : RuntimeIntent} {tenantId : String} {plan : ExecutionPlan}
    (hplan : p.process intent tenantId = .ok (intent', plan))
    (hkind : intent.kind.isCluster = true)
    {cmd : Operation.IntentSubmitCommand} (hcmd : cmd.steps = plan.steps.map Step.planStep)
    (sha : Operation.Sha256) (db : Operation.DB) (ids : Operation.FreshIds)
    (hnew : (Operation.submitIntent sha db cmd ids).1 ≠ db) {i : Nat} (hi : i < cmd.steps.length)
    (history : List Operation.Request) {row : Operation.StepRow}
    (hrow : ((Operation.engine sha).run (Operation.submitIntent sha db cmd ids).1 history).steps.get?
      (ids.step i) = some row)
    (op : Operation.OperationRow) {request : Operation.StepRequest}
    (hkey : row.idempotencyKey = request.idempotencyKey) (lease : Operation.Lease)
    (runner : Driver.HttpRunner) {posted : ExecuteRequest}
    (hposted : runner.post (Operation.executionContext op row request lease) = .ok posted)
    (urls : UrlParser) (kind : ManagerKind) {execution : ExecutionContext}
    (hexecution : executionContext kind posted.execution = .ok execution) :
    ∃ err, parseLifecycleInput urls kind.profile execution = .error err := by
  obtain ⟨-, hkind', -, hplanned⟩ := Planner.process_ok hplan
  obtain ⟨step, decision, hsteps, hinputs⟩ := Planner.plan_cluster hplanned (hkind' ▸ hkind)
  rw [hsteps, List.map_singleton] at hcmd
  have hget : cmd.steps[i]? = some step.planStep := by
    rw [hcmd] at hi ⊢
    obtain rfl : i = 0 := by simpa using hi
    rfl
  -- What the worker reads is the step of the plan.
  obtain ⟨row', hrow', hsame⟩ := Operation.engine_samePlan sha
    (Operation.submitIntent_step sha db cmd ids hnew hget) history
  obtain rfl : row' = row := Option.some.inj (hrow'.symm.trans hrow)
  obtain ⟨config, rfl⟩ := Driver.HttpRunner.post_ok hposted
  obtain ⟨hposted_inputs, hposted_key⟩ := executionContext_ok hexecution
  have hexecution_inputs : execution.inputs
      = lifecycleInputs p.hashes tenantId intent' decision := by
    rw [hposted_inputs]
    show inputFields row'.stepInput = _
    rw [hsame.stepInput]
    show inputFields ((step.inputs.map Json.obj).getD .null) = _
    rw [hinputs]
    rfl
  have hexecution_key : execution.idempotencyKey
      = Operation.stepIdempotencyKey cmd.lookupKey step.stepId := by
    rw [hposted_key]
    show request.idempotencyKey = _
    rw [← hkey, hsame.idempotencyKey]
    rfl
  rcases hparse : parseLifecycleInput urls kind.profile execution with err | input
  · exact ⟨err, rfl⟩
  -- The provider compares the two keys, and they have different numbers of colons.
  obtain ⟨action, ref, -, -, hcheck, -⟩ :=
    (parseLifecycleInput_ok_iff urls kind.profile execution input).1 hparse
  have hequal := ((checkInput_ok_iff kind.profile execution action _).1 hcheck).2.2.2.2.1
  rw [hexecution_inputs, (readInput_lifecycleInputs ..).1, hexecution_key] at hequal
  have hone := count_colon_lifecycleStepIdempotencyKey hhex tenantId intent'
  have hfour := four_le_count_colon cmd step.stepId
  rw [hequal] at hone
  omega

/-! ## A removal -/

/-- What the registry resolves every lifecycle step to. -/
def removalProvider : ProviderResolution where
  providerId := "runtime-target.lifecycle.kubernetes"
  providerVersion := "1.0.0"
  providerDigest := "sha256:d"
  evidenceRef := ""
  packageId := ""
  packageVersion := ""
  packageDigest := ""
  provisioners := []
  capabilityClaims := .null
  rollbackVersion := ""

/-- A planner with the matrix of the release, on the first day it is in force. -/
def removalPlanner : Planner where
  matrix := some CompatibilityMatrix.default
  providers := some ⟨fun _ => .ok removalProvider, none⟩
  urls := ⟨fun _ => none⟩
  hashes := ⟨⟨fun _ => "d", fun _ => "d"⟩, id⟩
  now := 1785542400

/-- A Kubernetes target is no longer to be managed. -/
def removal : RuntimeIntent where
  apiVersion := "hnb.io/v1"
  kind := .deleteRuntimeTarget
  idempotencyKey := "k1"
  correlationId := ""
  spec :=
    { targetSpec "00000000-0000-4000-8000-000000000010" "KubernetesTarget" "tenant:t1" 1 with
      targetRef := "00000000-0000-4000-8000-000000000010" }

def removalPlan : ExecutionPlan where
  semanticDigest := "sha256:d"
  releaseRef := "target:00000000-0000-4000-8000-000000000010"
  targetSnapshot := some
    { targetId := "00000000-0000-4000-8000-000000000010", targetKind := "KubernetesTarget"
      projectionVersion := 1, observationSource := "Agent" }
  steps := (lifecycleSteps removalPlanner.hashes "t1" removal
    { matrixVersion := "1.0.0", providerProtocolVersion := "2.0.0", targetKind := "KubernetesTarget"
      action := "unmanage", status := "REQUIRED"
      providerId := "runtime-target.lifecycle.kubernetes", observationSource := "Agent"
      effectiveAt := 1785542400, expiresAt := 1817078400 } removalProvider).1

def removalCommand : Operation.IntentSubmitCommand :=
  submitCommand removalPlanner
    ⟨"t1", "alice", "", "00000000-0000-4000-8000-000000000009", rfl⟩ removal removalPlan

/-- The ids of the submission. -/
def removalIds : Operation.FreshIds where
  plan := "00000000-0000-4000-8000-000000000001"
  operation := "00000000-0000-4000-8000-000000000002"
  intent := "00000000-0000-4000-8000-000000000003"
  correlation := "00000000-0000-4000-8000-000000000004"
  step _ := "00000000-0000-4000-8000-000000000005"
  message _ := "00000000-0000-4000-8000-000000000006"

/-- The database with the removal. -/
def removalDb : Operation.DB :=
  (Operation.submitIntent removalPlanner.hashes.sha256 (Operation.DB.empty 0) removalCommand
    removalIds).1

/-- The first lease of its step. -/
def removalLease : Operation.Lease := ⟨"00000000-0000-4000-8000-000000000007", 1⟩

/-- The step under the lease. -/
def removalRow : Operation.StepRow :=
  Operation.StepRow.retain removalLease (.ofPlanStep removalIds.operation (removalIds.step 0)
    removalCommand.lookupKey (removalCommand.steps.head (by decide)))

/-- The removal is approved, and a worker takes the lease. -/
def removalHistory : List Operation.Request :=
  [⟨.approveOperation removalIds.operation "t1" "bob" "" removalIds, .answered⟩,
   ⟨.acquireLease removalIds.operation (removalIds.step 0) "w1" 0 60 removalLease.id 0, .answered⟩]

def removalRunner : Driver.HttpRunner where
  providers _ := some ⟨"2.0.0", "1.0.0", "sha256:d", rfl⟩

/-- The execution of the step under its lease. -/
def removalExecution : Operation.ExecutionContext :=
  Operation.executionContext
    (Operation.OperationRow.ofIntent (Operation.DB.empty 0) removalCommand removalIds "" "" "")
    removalRow
    { operationId := removalRow.operationId, stepId := removalRow.id
      stepType := removalRow.stepType, idempotencyKey := removalRow.idempotencyKey
      expectedVersion := 0, executionContext := "" } removalLease

theorem planned_execution_refused_of_removal :
    ∃ posted execution err, removalRunner.post removalExecution = .ok posted
      ∧ executionContext .kubernetes posted.execution = .ok execution
      ∧ parseLifecycleInput removalPlanner.urls ManagerKind.kubernetes.profile execution
        = .error err := by
  have hplan : removalPlanner.process removal "t1" = .ok (removal, removalPlan) := rfl
  have hhex : ∀ text, ':' ∉ (removalPlanner.hashes.sha256.text text).toList := by
    intro text
    show ':' ∉ "d".toList
    decide
  have hcmd : removalCommand.steps = removalPlan.steps.map Step.planStep := rfl
  have hnew : removalDb ≠ Operation.DB.empty 0 := by
    intro hsame
    have hlength : removalDb.steps.rows.length = 1 := by decide +kernel
    rw [hsame] at hlength
    exact absurd hlength (by decide)
  have hrow : ((Operation.engine removalPlanner.hashes.sha256).run removalDb
      removalHistory).steps.get? (removalIds.step 0) = some removalRow := rfl
  have hposted : removalRunner.post removalExecution
      = .ok (executeRequest ⟨"2.0.0", "1.0.0", "sha256:d", rfl⟩ removalExecution) := rfl
  obtain ⟨execution, hexecution⟩ : ∃ execution, executionContext .kubernetes
      (executeRequest ⟨"2.0.0", "1.0.0", "sha256:d", rfl⟩ removalExecution).execution
      = .ok execution := ⟨_, rfl⟩
  obtain ⟨err, herr⟩ := planned_execution_refused removalPlanner hhex hplan rfl hcmd _ _ removalIds
    hnew (Nat.lt_succ_self 0) removalHistory hrow _ rfl _ removalRunner hposted removalPlanner.urls
    .kubernetes hexecution
  exact ⟨_, execution, err, hposted, hexecution, herr⟩

/-- The generation of the lease, and what the provider answers to the execution. -/
def removalAnswer : Option (Nat × String) :=
  let db := (Operation.engine removalPlanner.hashes.sha256).run removalDb removalHistory
  match db.operations.get? removalIds.operation, db.steps.get? (removalIds.step 0),
    db.leases.get? (removalIds.step 0) with
  | some op, some row, some lease =>
    let request : Operation.StepRequest :=
      { operationId := op.id, stepId := row.id, stepType := row.stepType
        idempotencyKey := row.idempotencyKey, expectedVersion := 0, executionContext := "" }
    match removalRunner.post (Operation.executionContext op row request
      ⟨lease.leaseId, lease.fencingGeneration⟩) with
    | .error _ => none
    | .ok posted =>
    match executionContext .kubernetes posted.execution with
    | .error _ => none
    | .ok execution =>
    match parseLifecycleInput removalPlanner.urls ManagerKind.kubernetes.profile execution with
    | .error err => some (lease.fencingGeneration, err.text)
    | .ok _ => none
  | _, _, _ => none

/-- The removal of a target is planned, stored, approved and leased with the first generation there is.
    The provider refuses it all the same. -/
theorem removal_refused :
    removalAnswer = some (1, "inputs.idempotencyKey must match execution idempotency_key") := by
  decide +kernel

end HnbCloud.Lifecycle
