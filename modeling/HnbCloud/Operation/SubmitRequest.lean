import HnbCloud.Lib.Text
import HnbCloud.Lib.Uuid
import HnbCloud.Operation.PlatformStore

set_option autoImplicit false

/-! # Validation of a submitted operation

`toSubmitCommand` of platform-api turns the request of `handleSubmitOperation` into the command for
`SubmitOperation`, or refuses it. The handler has by then replaced the tenant, the initiator and the
correlation id by those of the caller's token.

The checks on a step's inputs range over a map in the source; the model goes through them in the
order of the list, so of several errors it reports the first. -/

namespace HnbCloud.Operation

def maxIdempotencyKeyLength : Nat := 128

def maxSteps : Nat := 100

def maxInputValueLength : Nat := 4096

def maxSecretRefLength : Nat := 512

/-! ## Requests -/

structure SubmitStepRequest where
  (id name stepType providerId : String)
  dependsOn : List String
  optional : Bool
  inputs : List (String × String)
  secretReference : String
  (maxRetries timeoutSeconds : Int)

structure ClusterSelector where
  labelSelector : List (String × String)
  (region zone : String)
  clusterIds : List String

structure SchedulingPolicy where
  strategy : String
  selector : Option ClusterSelector

structure SubmitOperationRequest where
  (tenantId projectId environmentId namespaceId releaseId operationType idempotencyKey : String)
  (initiatedBy correlationId : String)
  targetClusterIds : List String
  schedulingPolicy : Option SchedulingPolicy
  tags : List (String × String)
  steps : List SubmitStepRequest

/-! ## One step -/

/-- `sensitiveKeyPattern`, its alternatives written out. -/
def sensitiveKeyPattern : List String :=
  ["password", "passwd", "secret", "token", "credential", "privatekey", "private_key",
    "private-key", "apikey", "api_key", "api-key"]

/-- `privateKeyMaterialPattern`: between the two parts of the header only capitals and blanks. -/
def privateKeyMaterial (value : String) : Bool :=
  value.toList.tails.any fun tail =>
    let rest := tail.drop "-----BEGIN ".length
    "-----BEGIN ".toList.isPrefixOf tail
      && (List.range ((rest.takeWhile fun c => c.isUpper || c == ' ').length + 1)).any fun k =>
        "PRIVATE KEY-----".toList.isPrefixOf (rest.drop k)

def checkInput (stepId : String) (input : String × String) : Except String Unit :=
  if Json.sameName input.1 "secretReference" then
    .error ("step " ++ quoted stepId ++ ": use the secretReference field instead of an input named "
      ++ quoted input.1)
  else if sensitiveKeyPattern.any (fun pattern => occursFolded pattern input.1)
      && !hasLowerSuffix input.1 "reference" then
    .error ("step " ++ quoted stepId ++ ": input " ++ quoted input.1
      ++ " looks like a plaintext secret; pass a secretReference instead")
  else if maxInputValueLength < input.2.utf8ByteSize then
    .error ("step " ++ quoted stepId ++ ": input " ++ quoted input.1 ++ " value exceeds "
      ++ toString maxInputValueLength ++ " characters")
  else if privateKeyMaterial input.2 then
    .error ("step " ++ quoted stepId ++ ": input " ++ quoted input.1
      ++ " contains private key material; pass a secretReference instead")
  else .ok ()

/-- The loop over the inputs. -/
def checkInputs (stepId : String) : List (String × String) → Except String Unit
  | [] => .ok ()
  | input :: rest =>
    match checkInput stepId input with
    | .error err => .error err
    | .ok () => checkInputs stepId rest

def checkSecretReference (stepId secretReference : String) : Except String Unit :=
  if maxSecretRefLength < secretReference.utf8ByteSize then
    .error ("step " ++ quoted stepId ++ ": secretReference exceeds " ++ toString maxSecretRefLength
      ++ " characters")
  else if containsAny secretReference [' ', '\t', '\n', '\r'] then
    .error ("step " ++ quoted stepId ++ ": secretReference must not contain whitespace")
  else .ok ()

/-- The id of a step: its own, or its place from one. -/
def SubmitStepRequest.planStepId (req : SubmitStepRequest) (index : Nat) : String :=
  if trimSpace req.id = "" then "step-" ++ toString (index + 1) else trimSpace req.id

/-- The step of a request, with the defaults of its limits. -/
def SubmitStepRequest.input (req : SubmitStepRequest) (index : Nat) : StepInput where
  planStepId := req.planStepId index
  name := trimSpace req.name
  stepType := trimSpace req.stepType
  providerId := trimSpace req.providerId
  dependsOn := req.dependsOn
  optional := req.optional
  inputs := req.inputs
  secretReference := trimSpace req.secretReference
  maxRetries := if req.maxRetries = 0 then 3 else req.maxRetries
  timeoutSeconds := if req.timeoutSeconds = 0 then 300 else req.timeoutSeconds

def toStepInput (req : SubmitStepRequest) (index : Nat) : Except String StepInput :=
  let step := req.input index
  if step.name = "" then .error ("step " ++ quoted step.planStepId ++ ": name is required")
  else if step.stepType = "" then
    .error ("step " ++ quoted step.planStepId ++ ": stepType is required")
  else if step.timeoutSeconds < 0 then
    .error ("step " ++ quoted step.planStepId ++ ": timeoutSeconds must be positive")
  else if req.maxRetries < 0 ∨ 9 < req.maxRetries then
    .error ("step " ++ quoted step.planStepId ++ ": maxRetries must be between 0 and 9")
  else
  match checkInputs step.planStepId step.inputs with
  | .error err => .error err
  | .ok () =>
  match checkSecretReference step.planStepId step.secretReference with
  | .error err => .error err
  | .ok () => .ok step

/-- The loop over the steps. -/
def toStepInputs (operationKey : String) (seen : List String) (index : Nat) :
    List SubmitStepRequest → Except String (List StepInput)
  | [] => .ok []
  | req :: rest =>
  match toStepInput req index with
  | .error err => .error err
  | .ok step =>
  if step.planStepId ∈ seen then .error ("duplicate step id " ++ quoted step.planStepId)
  else if maxIdempotencyKeyLength
      < (stepIdempotencyKey operationKey step.planStepId).utf8ByteSize then
    .error ("derived step idempotency key for step " ++ quoted step.planStepId ++ " exceeds "
      ++ toString maxIdempotencyKeyLength ++ " characters")
  else
  match toStepInputs operationKey (step.planStepId :: seen) (index + 1) rest with
  | .error err => .error err
  | .ok steps => .ok (step :: steps)

/-! ## Dependencies -/

abbrev StepGraph := List (String × List String)

/-- The state of Kahn's algorithm: the steps that are free, and how many dependencies each of the
    others waits for. -/
structure KahnState where
  queue : List String
  indegree : String → Int

/-- A dependency of a step is resolved. -/
def KahnState.release (s : KahnState) (dependent : String) : KahnState where
  queue := if s.indegree dependent - 1 = 0 then s.queue ++ [dependent] else s.queue
  indegree := fun id => if id = dependent then s.indegree id - 1 else s.indegree id

/-- A step is taken from the queue: every dependency on it is resolved. -/
def KahnState.visit (graph : StepGraph) (current : String) (s : KahnState) : KahnState :=
  graph.foldl (fun s step =>
    step.2.foldl (fun s dep => if dep = current then s.release step.1 else s) s) s

/-- The number of steps that are resolved, in at most so many rounds. -/
def KahnState.resolve (graph : StepGraph) : Nat → KahnState → Nat
  | 0, _ => 0
  | fuel + 1, s =>
    match s.queue with
    | [] => 0
    | current :: rest => resolve graph fuel (visit graph current { s with queue := rest }) + 1

/-- The dependency graph has a cycle: Kahn's algorithm does not resolve every step. A step is
    queued once, so there are no more rounds than steps. -/
def StepGraph.cyclic (graph : StepGraph) : Bool :=
  let start : KahnState :=
    { queue := (graph.filter fun step => step.2.isEmpty).map Prod.fst
      indegree := fun id => ((graph.find? fun step => step.1 = id).map fun step =>
        (step.2.length : Int)).getD 0 }
  KahnState.resolve graph graph.length start ≠ graph.length

/-- The first dependency of the list that names no step, or the step itself. -/
def StepGraph.badDependency (graph : StepGraph) : Option String :=
  (graph.flatMap fun step => step.2.map fun dep => (step.1, dep)).findSome? fun x =>
    if (graph.map Prod.fst).contains x.2 = false then
      some ("step " ++ quoted x.1 ++ " depends on unknown step " ++ quoted x.2)
    else if x.2 = x.1 then some ("step " ++ quoted x.1 ++ " depends on itself")
    else none

/-- The check that `validateDependencies` and the planner's `validateDAG` make. -/
def StepGraph.validate (graph : StepGraph) : Except String Unit :=
  match graph.badDependency with
  | some err => .error err
  | none => if graph.cyclic then .error "step dependencies contain a cycle" else .ok ()

def validateDependencies (steps : List StepInput) : Except String Unit :=
  StepGraph.validate (steps.map fun step => (step.planStepId, step.dependsOn))

/-! ## The command -/

def validateSchedulingPolicy : Option SchedulingPolicy → Except String Unit
  | none => .ok ()
  | some policy =>
    if policy.strategy ≠ "Duplicated" ∧ policy.strategy ≠ "Divide" then
      .error "schedulingPolicy.strategy must be 'Duplicated' or 'Divide'"
    else
    match policy.selector with
    | none => .ok ()
    | some selector =>
      if selector.labelSelector = [] ∧ selector.region = "" ∧ selector.zone = ""
          ∧ selector.clusterIds = [] then
        .error "schedulingPolicy.selector must specify at least one criterion"
      else .ok ()

def resolveClusterIds (policy : SchedulingPolicy) : List String :=
  (policy.selector.map ClusterSelector.clusterIds).getD []

/-- `IsValidOperationType`, with the type a valid text stands for. -/
def OperationType.valid? (text : String) : Option OperationType :=
  [OperationType.deploy, .upgrade, .rollback, .scale, .backup, .restore, .switchover, .delete, .gc,
    .ota, .configChange, .storageReclaim].find? fun type => type.text == text

def toSubmitCommand (req : SubmitOperationRequest) : Except String SubmitCommand :=
  let idempotencyKey := trimSpace req.idempotencyKey
  let correlationId := trimSpace req.correlationId
  if trimSpace req.tenantId = "" then .error "tenantId is required"
  else if trimSpace req.namespaceId = "" then .error "namespaceId is required"
  else if trimSpace req.releaseId = "" then .error "releaseId is required"
  else if trimSpace req.initiatedBy = "" then .error "initiatedBy is required"
  else
  match OperationType.valid? (trimSpace req.operationType) with
  | none => .error ("operationType " ++ quoted req.operationType ++ " is not supported")
  | some operationType =>
  if idempotencyKey = "" then .error "idempotencyKey is required"
  else if maxIdempotencyKeyLength < idempotencyKey.utf8ByteSize then
    .error ("idempotencyKey exceeds " ++ toString maxIdempotencyKeyLength ++ " characters")
  else if correlationId ≠ "" ∧ isUuid correlationId = false then
    .error "correlationId must be a UUID"
  else if req.steps = [] then .error "at least one step is required"
  else if maxSteps < req.steps.length then
    .error ("at most " ++ toString maxSteps ++ " steps are allowed")
  else
  match toStepInputs idempotencyKey [] 0 req.steps with
  | .error err => .error err
  | .ok steps =>
  match validateDependencies steps with
  | .error err => .error err
  | .ok () =>
  match validateSchedulingPolicy req.schedulingPolicy with
  | .error err => .error err
  | .ok () => .ok
      { tenantId := trimSpace req.tenantId
        projectId := trimSpace req.projectId
        environmentId := trimSpace req.environmentId
        namespaceId := trimSpace req.namespaceId
        releaseId := trimSpace req.releaseId
        operationType := operationType
        idempotencyKey := idempotencyKey
        initiatedBy := trimSpace req.initiatedBy
        correlationId := correlationId
        targetClusterIds := (req.schedulingPolicy.map resolveClusterIds).getD req.targetClusterIds
        tags := req.tags
        steps := steps }

/-! ## What a command has passed -/

theorem SubmitStepRequest.planStepId_ne_empty (req : SubmitStepRequest) (index : Nat) :
    req.planStepId index ≠ "" := by
  unfold planStepId
  split
  · intro h
    have hlength := congrArg String.length h
    simp at hlength
  · assumption

theorem toStepInput_ok {req : SubmitStepRequest} {index : Nat} {step : StepInput}
    (h : toStepInput req index = .ok step) : step = req.input index ∧ step.stepType ≠ "" := by
  unfold toStepInput at h
  simp only at h
  split at h
  · simp at h
  split at h
  · simp at h
  next htype =>
  split at h
  · simp at h
  split at h
  · simp at h
  split at h
  · simp at h
  split at h
  · simp at h
  simp only [Except.ok.injEq] at h
  exact ⟨h.symm, h ▸ htype⟩

/-- A step that the worker can be sent a command for. -/
structure StepInput.Valid (operationKey : String) (step : StepInput) : Prop where
  planStepId : step.planStepId ≠ ""
  stepType : step.stepType ≠ ""
  key : (stepIdempotencyKey operationKey step.planStepId).utf8ByteSize ≤ maxIdempotencyKeyLength

theorem toStepInputs_ok {operationKey : String} {seen : List String} {index : Nat}
    {reqs : List SubmitStepRequest} {steps : List StepInput}
    (h : toStepInputs operationKey seen index reqs = .ok steps) :
    ∀ step ∈ steps, step.Valid operationKey := by
  induction reqs generalizing seen index steps with
  | nil =>
    simp only [toStepInputs, Except.ok.injEq] at h
    simp [← h]
  | cons req _ ih =>
    rw [toStepInputs] at h
    split at h
    · simp at h
    next step hstep =>
    obtain ⟨rfl, htype⟩ := toStepInput_ok hstep
    split_ifs at h with _ hkey
    split at h
    · simp at h
    next tail htail =>
    cases h
    intro step' hstep'
    rcases List.mem_cons.1 hstep' with rfl | hmem
    · exact ⟨req.planStepId_ne_empty index, htype, Nat.le_of_not_lt hkey⟩
    · exact ih htail step' hmem

/-- What of a command the commands of its steps depend on. -/
structure SubmitCommand.Valid (cmd : SubmitCommand) : Prop where
  tenantId : cmd.tenantId ≠ ""
  correlationId : cmd.correlationId = "" ∨ isUuid cmd.correlationId = true
  steps : ∀ step ∈ cmd.steps, step.Valid cmd.idempotencyKey

variable {cmd : SubmitCommand}

theorem toSubmitCommand_ok {req : SubmitOperationRequest}
    (h : toSubmitCommand req = .ok cmd) : cmd.Valid := by
  unfold toSubmitCommand at h
  simp only at h
  split at h
  · simp at h
  next htenant =>
  split at h
  · simp at h
  split at h
  · simp at h
  split at h
  · simp at h
  split at h
  · simp at h
  split at h
  · simp at h
  split at h
  · simp at h
  split at h
  · simp at h
  next hcorrelation =>
  split at h
  · simp at h
  split at h
  · simp at h
  split at h
  · simp at h
  next steps hsteps =>
  split at h
  · simp at h
  split at h
  · simp at h
  cases h
  refine ⟨htenant, ?_, toStepInputs_ok hsteps⟩
  by_cases hempty : trimSpace req.correlationId = ""
  · exact .inl hempty
  · simp only [not_and, Bool.not_eq_false] at hcorrelation
    exact .inr (hcorrelation hempty)

/-! ## The keys of two operations -/

/-- The second key goes on where the first ends, with a colon and the beginning of the first one's
    step; the second one's step is the rest, after one more colon. -/
def Continues (key planStepId key' planStepId' : String) : Prop :=
  ∃ mid, key'.toList = key.toList ++ ':' :: mid
    ∧ planStepId.toList = mid ++ ':' :: planStepId'.toList

theorem stepIdempotencyKey_eq_iff {key key' planStepId planStepId' : String} (hne : key ≠ key') :
    stepIdempotencyKey key planStepId = stepIdempotencyKey key' planStepId'
      ↔ Continues key planStepId key' planStepId' ∨ Continues key' planStepId' key planStepId := by
  have hlists : key.toList ≠ key'.toList := fun h => hne (String.toList_inj.1 h)
  rw [Continues, Continues, ← append_separator_eq_iff hlists, ← String.toList_inj]
  simp [stepIdempotencyKey]

/-- A command for a step of the operation. -/
def SubmitCommand.IsCommand (cmd : SubmitCommand) (event : Messaging.OutboxEvent) : Prop :=
  ∃ db ids planId planDigest now actorId messageId extra, ∃ x ∈ cmd.steps.zipIdx,
    event = stepRequestedEvent now (.ofCommand db cmd ids planId planDigest)
      (.ofInput ids.operation (ids.step x.2) cmd.idempotencyKey x.1 x.2) actorId messageId extra

theorem SubmitCommand.Valid.key_iff (h : cmd.Valid) (key : String) :
    (∃ event, cmd.IsCommand event ∧ event.idempotencyKey = key)
      ↔ ∃ step ∈ cmd.steps, stepIdempotencyKey cmd.idempotencyKey step.planStepId = key := by
  have hid : ∀ step ∈ cmd.steps, ∀ index, step.planStepIdAt index = step.planStepId :=
    fun step hstep _ => if_pos (h.steps step hstep).planStepId
  constructor
  · rintro ⟨_, ⟨_, _, _, _, _, _, _, _, ⟨step, index⟩, hx, rfl⟩, rfl⟩
    have hstep := List.fst_mem_of_mem_zipIdx hx
    exact ⟨step, hstep, by rw [← hid step hstep index]; rfl⟩
  · rintro ⟨step, hstep, rfl⟩
    obtain ⟨index, hindex, rfl⟩ := List.mem_iff_getElem.1 hstep
    refine ⟨_, ⟨.empty 0, ⟨"", "", "", "", fun _ => "", fun _ => ""⟩, "", "", 0, "", "", [],
      (_, index), List.mk_mem_zipIdx_iff_getElem?.2 (List.getElem?_eq_getElem hindex), rfl⟩, ?_⟩
    rw [← hid _ hstep index]
    rfl

/-- **Derived keys.** Two accepted requests with different keys: no command of the one
    has the key of a command of the other, and none is taken for one in the outbox, exactly if
    neither key continues the other into a step. -/
theorem step_commands_apart_iff {req req' : SubmitOperationRequest} {cmd cmd' : SubmitCommand}
    (hcmd : toSubmitCommand req = .ok cmd) (hcmd' : toSubmitCommand req' = .ok cmd')
    (hkey : cmd.idempotencyKey ≠ cmd'.idempotencyKey) :
    (∀ event event', cmd.IsCommand event → cmd'.IsCommand event' →
      event.idempotencyKey ≠ event'.idempotencyKey ∧ event.sameCommand event' = false)
      ↔ ∀ step ∈ cmd.steps, ∀ step' ∈ cmd'.steps,
        ¬ Continues cmd.idempotencyKey step.planStepId cmd'.idempotencyKey step'.planStepId
          ∧ ¬ Continues cmd'.idempotencyKey step'.planStepId cmd.idempotencyKey step.planStepId := by
  have hvalid := toSubmitCommand_ok hcmd
  have hvalid' := toSubmitCommand_ok hcmd'
  constructor
  · intro h step hstep step' hstep'
    obtain ⟨event, hevent, heq⟩ := (hvalid.key_iff _).2 ⟨step, hstep, rfl⟩
    obtain ⟨event', hevent', heq'⟩ := (hvalid'.key_iff _).2 ⟨step', hstep', rfl⟩
    have hne := (h event event' hevent hevent').1
    rw [heq, heq', Ne, stepIdempotencyKey_eq_iff hkey] at hne
    exact not_or.1 hne
  · intro h event event' hevent hevent'
    obtain ⟨step, hstep, heq⟩ := (hvalid.key_iff _).1 ⟨event, hevent, rfl⟩
    obtain ⟨step', hstep', heq'⟩ := (hvalid'.key_iff _).1 ⟨event', hevent', rfl⟩
    have hne : event.idempotencyKey ≠ event'.idempotencyKey := by
      rw [← heq, ← heq', Ne, stepIdempotencyKey_eq_iff hkey]
      exact not_or.2 (h step hstep step' hstep')
    exact ⟨hne, by simp [Messaging.OutboxEvent.sameCommand, hne]⟩

/-- A deployment of one step under these names. -/
def keyedRequest (idempotencyKey stepId : String) : SubmitOperationRequest :=
  ⟨"t1", "", "", "ns1", "r1", "deploy", idempotencyKey, "alice", "", [], none, [],
    [⟨stepId, "install", "helm", "", [], false, [], "", 0, 0⟩]⟩

/-- Its command. -/
def keyedCommand (idempotencyKey stepId : String) : SubmitCommand :=
  ⟨"t1", "", "", "ns1", "r1", .deploy, idempotencyKey, "alice", "", [], [],
    [⟨stepId, "install", "helm", "", [], false, [], "", 3, 300⟩]⟩

deriving instance DecidableEq for StepInput, SubmitCommand

theorem step_commands_meet : ¬ ∀ event event', (keyedCommand "a" "b:c").IsCommand event →
    (keyedCommand "a:b" "c").IsCommand event' →
      event.idempotencyKey ≠ event'.idempotencyKey ∧ event.sameCommand event' = false := by
  have haccepted : toSubmitCommand (keyedRequest "a" "b:c") = .ok (keyedCommand "a" "b:c")
      ∧ toSubmitCommand (keyedRequest "a:b" "c") = .ok (keyedCommand "a:b" "c") := by
    decide +kernel
  intro h
  have hapart := (step_commands_apart_iff haccepted.1 haccepted.2 (by decide)).1 h
  exact (hapart _ (.head _) _ (.head _)).1 ⟨['b'], rfl, rfl⟩

/-- Both requests are accepted, and the one that comes second fails on the command of the other. -/
theorem unrelated_submission_fails :
    let submit n db cmd := submitOperation ⟨id, fun _ => ""⟩ db cmd
      ⟨"p" ++ n, "op" ++ n, "", "c1", fun _ => "s" ++ n, fun _ => "m" ++ n⟩
    let first := submit "1" (.empty 0) (keyedCommand "a" "b:c")
    toSubmitCommand (keyedRequest "a" "b:c") = .ok (keyedCommand "a" "b:c")
      ∧ toSubmitCommand (keyedRequest "a:b" "c") = .ok (keyedCommand "a:b" "c")
      ∧ first.2.isOk = true ∧ (submit "2" first.1 (keyedCommand "a:b" "c")).2
        = .error (.database "insert step-requested outbox event") := by
  exact ⟨by decide +kernel, by decide +kernel, rfl, rfl⟩

end HnbCloud.Operation
