import HnbCloud.Lifecycle.Manager
import HnbCloud.Provider.Wire

set_option autoImplicit false

/-! # The server of the lifecycle provider

`handleExecute` of runtime-target-lifecycle-provider, for a request whose body has been decoded: the
inputs are checked, the secret is resolved, the manager applies the action, and the observer of the
target is registered or removed. -/

namespace HnbCloud.Lifecycle

open Provider

def executionContext (kind : ManagerKind) (request : ExecutionRequest) :
    Except StatusError ExecutionContext :=
  match h : parseGeneration request.fencingGeneration with
  | none => .error (invalid "fencing_generation must be a canonical positive decimal string")
  | some generation =>
  if request.providerId ≠ kind.profile.providerId then
    .error (invalid ("provider_id " ++ quoted request.providerId ++ " does not match "
      ++ quoted kind.profile.providerId))
  else if request.providerProtocolVersion ≠ contractVersion then
    .error (invalid ("provider_protocol_version " ++ quoted request.providerProtocolVersion
      ++ " is not supported"))
  else .ok
    { stepId := request.stepId, operationId := request.operationId, tenantId := request.tenantId,
      projectId := request.projectId, environmentId := request.environmentId,
      stepType := request.stepType, inputs := request.inputs, providerId := request.providerId,
      providerVersion := request.providerVersion, providerDigest := request.providerDigest,
      providerProtocolVersion := request.providerProtocolVersion, checkpoint := request.checkpoint,
      idempotencyKey := request.idempotencyKey, executionAttemptId := request.executionAttemptId,
      fencingGeneration := generation
      int64 := ⟨(of_parseGeneration h).1.1, (of_parseGeneration h).1.2⟩ }

def writeFailure (err : StatusError) (request : ExecutionRequest) : HttpResponse where
  code := err.httpCode
  body :=
    { status := "failed"
      executionAttemptId := request.executionAttemptId
      fencingGeneration := toString (bestEffortInt request.fencingGeneration)
      error := err.text
      errorCode := some err.errorCode
      retryable := some err.retryable }

/-- The outputs of a manager are texts. -/
def Result.wire (result : Result) : Provider.Result where
  outputs := result.outputs.map fun output => (output.1, .str output.2)
  checkpoint := result.checkpoint

/-- What is left of a request. -/
abbrev RequestProgram : Type := LifecycleProgram HttpResponse

/-- The observer is registered or removed, and the answer is written. -/
def observe (kind : ManagerKind) (execution : ExecutionContext) (input : LifecycleInput)
    (result : Result) : RequestProgram :=
  let answer (operation : String) : Except ObjectError Unit → RequestProgram
    | .ok () => .done (resultResponse execution result.wire none)
    | .error err => .done (resultResponse execution result.wire (some (targetError operation err)))
  if input.action = "create" ∨ input.action = "import" then
    .call (.register kind execution.tenantId input.targetId input.targetKind
      kind.profile.observationKind) (answer "register observer")
  else if input.action = "unmanage" then
    .call (.unregister kind execution.tenantId input.targetId) (answer "unregister observer")
  else .done (resultResponse execution result.wire none)

/-- `Apply`, and what follows it. A result that comes with an error is empty. -/
def applyAndObserve (kind : ManagerKind) (execution : ExecutionContext) (input : LifecycleInput) :
    RequestProgram :=
  apply kind execution input fun
  | .error err => .done (resultResponse execution {} (some err))
  | .ok result => observe kind execution input result

/-- `execution.Inputs["_resolvedSecretContent"] = secret`. -/
def withSecret (execution : ExecutionContext) (secret : String) : ExecutionContext :=
  { execution with inputs := (execution.inputs.filter fun input =>
      input.1 != "_resolvedSecretContent") ++ [("_resolvedSecretContent", .str secret)] }

/-- `handleExecute`, from the decoded request on. -/
def handleExecute (urls : Engine.UrlParser) (kind : ManagerKind) (request : ExecuteRequest) :
    RequestProgram :=
  if request.schemaVersion ≠ contractVersion then
    .done (writeFailure (invalid ("unsupported schema version " ++ quoted request.schemaVersion))
      request.execution)
  else
  match executionContext kind request.execution with
  | .error err => .done (writeFailure err request.execution)
  | .ok execution =>
  match parseLifecycleInput urls kind.profile execution with
  | .error err => .done (resultResponse execution {} (some err))
  | .ok input =>
  match input.credentialSecretRef with
  | none => applyAndObserve kind execution input
  | some ref =>
  .call (.resolveSecret execution.tenantId kind.profile.providerId kind.profile.secretPurpose ref) fun
  | .error err => .done (resultResponse execution {} (some err))
  | .ok secret => applyAndObserve kind (withSecret execution secret) input

/-- `handleExecute`, from the body on. -/
def handleBody (urls : Engine.UrlParser) (kind : ManagerKind) : Body → RequestProgram
  | .invalid text read =>
    .done (writeFailure (invalid ("invalid request: " ++ text)) read.execution)
  | .trailing read => .done (writeFailure (invalid "unexpected trailing JSON") read.execution)
  | .request request => handleExecute urls kind request

end HnbCloud.Lifecycle
