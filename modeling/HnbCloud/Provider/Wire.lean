import HnbCloud.Provider.Contract

set_option autoImplicit false

/-! # What the providers write

The response of a provider to an execution, and its encoding. The three programs have the same fields
here. The response of edge-provider has two more, which none of its paths sets and which are left out
of the document when they are empty. -/

namespace HnbCloud.Provider

open StatusError Provider Json

structure ExecuteRequest where
  schemaVersion : String
  execution : ExecutionRequest

/-- `executeResponse`. An empty error code is none. -/
structure ExecuteResponse where
  schemaVersion : String := contractVersion
  (status executionAttemptId : String)
  idempotencyKey : String := ""
  fencingGeneration : String
  providerVersion : String := ""
  providerDigest : String := ""
  providerProtocolVersion : String := ""
  outputs : List (String × Json) := []
  checkpoint : String := ""
  error : String := ""
  errorCode : Option ErrorCode := none
  retryable : Option Bool := none

structure HttpResponse where
  code : Nat
  body : ExecuteResponse

/-- `Result` of a provider. -/
structure Result where
  outputs : List (String × Json) := []
  checkpoint : String := ""

/-- `json.Encode`. -/
def ExecuteResponse.document (r : ExecuteResponse) : Json :=
  .obj ([("schemaVersion", .str r.schemaVersion), ("status", .str r.status),
      ("executionAttemptId", .str r.executionAttemptId),
      ("idempotencyKey", .str r.idempotencyKey), ("fencingGeneration", .str r.fencingGeneration),
      ("providerVersion", .str r.providerVersion), ("providerDigest", .str r.providerDigest),
      ("providerProtocolVersion", .str r.providerProtocolVersion)]
    ++ listField "outputs" .obj r.outputs ++ textField "checkpoint" r.checkpoint
    ++ textField "error" r.error ++ pointerField "errorCode" (fun code => .str code.text) r.errorCode
    ++ pointerField "retryable" .bool r.retryable)

/-- The response that tells of a result: `writeFailureResult`, if there is an error. -/
def resultResponse (execution : ExecutionContext) (result : Result) (err : Option StatusError) :
    HttpResponse where
  code := (err.map httpCode).getD 200
  body :=
    { status := if err.isSome then "failed" else "succeeded"
      executionAttemptId := execution.executionAttemptId
      idempotencyKey := execution.idempotencyKey
      fencingGeneration := toString execution.fencingGeneration
      providerVersion := execution.providerVersion
      providerDigest := execution.providerDigest
      providerProtocolVersion := execution.providerProtocolVersion
      outputs := result.outputs
      checkpoint := result.checkpoint
      error := (err.map text).getD ""
      errorCode := err.map errorCode
      retryable := err.map retryable }

/-- What the decoder of a handler makes of a body: a request, or what it had read before its error. -/
inductive Body where
  | invalid (text : String) (read : ExecuteRequest)
  | trailing (read : ExecuteRequest)
  | request (request : ExecuteRequest)

/-! ## The handler of kubernetes-provider and edge-provider

The two programs have the same handler, each around its own executor. -/

def writeFailure (err : StatusError) (request : ExecutionRequest) : HttpResponse where
  code := err.httpCode
  body :=
    { status := "failed"
      executionAttemptId := request.executionAttemptId
      fencingGeneration := request.fencingGeneration
      error := err.text
      errorCode := some err.errorCode
      retryable := some err.retryable }

def ExecutionRequest.executionContext (request : ExecutionRequest) :
    Except StatusError ExecutionContext :=
  match h : parseGeneration request.fencingGeneration with
  | none => .error (invalid "fencing_generation must be a canonical positive decimal string")
  | some generation =>
  if request.providerProtocolVersion ≠ "" ∧ request.providerProtocolVersion ≠ contractVersion then
    .error (invalid ("provider_protocol_version "
      ++ quoted request.providerProtocolVersion ++ " is not supported"))
  else .ok
    { stepId := request.stepId, operationId := request.operationId, tenantId := request.tenantId,
      projectId := request.projectId, environmentId := request.environmentId,
      stepType := request.stepType, inputs := request.inputs, providerId := request.providerId,
      providerVersion := request.providerVersion, providerDigest := request.providerDigest,
      providerProtocolVersion := request.providerProtocolVersion, checkpoint := request.checkpoint,
      idempotencyKey := request.idempotencyKey, executionAttemptId := request.executionAttemptId,
      fencingGeneration := generation, int64 := (of_parseGeneration h).1 }

/-- `POST /v2/steps:execute`, for what the executor makes of an execution. An error that is no
    `StatusError` has the details `statusDetails` gives it. -/
def handleSteps (execute : ExecutionContext → Result × Option StatusError) : Body → HttpResponse
  | .invalid text read => writeFailure (invalid ("invalid request: " ++ text)) read.execution
  | .trailing read => writeFailure (invalid "unexpected trailing JSON") read.execution
  | .request request =>
  if request.schemaVersion ≠ contractVersion then
    writeFailure (invalid ("unsupported schema version " ++ quoted request.schemaVersion))
      request.execution
  else
  match request.execution.executionContext with
  | .error err => writeFailure err request.execution
  | .ok execution => resultResponse execution (execute execution).1 (execute execution).2

variable (execution : ExecutionContext)

@[simp] theorem status_resultResponse_some (result : Result)
    (err : StatusError) : (resultResponse execution result (some err)).body.status = "failed" := rfl

end HnbCloud.Provider
