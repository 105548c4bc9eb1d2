import HnbCloud.Operation.Worker
import HnbCloud.Provider.Wire

set_option autoImplicit false

/-! # The worker's side of a provider call

`HTTPRunner.Execute` of operation-worker: the execution of a step is posted to the provider it is
planned for, and the response is decoded and compared with what was asked. The decoder refuses
members it does not know.

The number of bytes of a response is given by a function; reading the body is taken not to fail. -/

namespace HnbCloud.Driver

open List Json

open Operation (ErrorCode Execution ExecutionContext ExecutionError)
open Provider (contractVersion parseGeneration ExecuteRequest)

def maxResponseSize : Nat := 1048576

def isLifecycleProvider (providerId : String) : Bool :=
  providerId == "runtime-target.lifecycle.kubernetes" || providerId == "runtime-target.lifecycle.edge"

def requiresPinnedProvider (execution : ExecutionContext) : Bool :=
  isLifecycleProvider execution.providerId
    || "storage.driver.".toList.isPrefixOf execution.stepType.toList

/-- An `ErrorCode` is a text. -/
def codeText : ErrorCode → String
  | .invalidRequest => "INVALID_REQUEST"
  | .scopeDenied => "SCOPE_DENIED"
  | .unsupportedAction => "UNSUPPORTED_ACTION"
  | .resourceConflict => "RESOURCE_CONFLICT"
  | .fenced => "FENCED"
  | .targetUnavailable => "TARGET_UNAVAILABLE"
  | .cancelled => "CANCELLED"
  | .internal => "INTERNAL"

/-- `validErrorCode`, with the code. -/
def validErrorCode (text : String) : Option ErrorCode :=
  [ErrorCode.invalidRequest, .scopeDenied, .unsupportedAction, .resourceConflict, .fenced,
    .targetUnavailable, .cancelled, .internal].find? fun code => codeText code == text

structure ProviderError where
  code : ErrorCode
  message : String
  retryable : Bool := false
  httpStatus : Nat := 0

/-- `Error()`. -/
def ProviderError.text (e : ProviderError) : String :=
  let message := if e.message = "" then "provider did not supply an error" else e.message
  if e.httpStatus ≠ 0 then
    "runtime provider error " ++ codeText e.code ++ " (HTTP " ++ toString e.httpStatus ++ "): "
      ++ message
  else "runtime provider error " ++ codeText e.code ++ ": " ++ message

/-- The error as the worker's handler sees it. -/
def ProviderError.executionError (e : ProviderError) : ExecutionError :=
  .provider e.code e.retryable e.text

def protocolError (status : Nat) (message : String) : ProviderError :=
  if 500 ≤ status then ⟨.internal, message, true, status⟩
  else ⟨.invalidRequest, message, false, status⟩

def classifyRetryable (status : Nat) (code : ErrorCode) : Bool :=
  if 500 ≤ status then true
  else if status = 400 ∨ status = 403 ∨ status = 409 then false
  else code = .targetUnavailable ∨ code = .cancelled ∨ code = .internal

/-! ## The request -/

/-- `ProviderConfig`, what an execution reads of it. `NewHTTPRunner` takes only this protocol. -/
structure ProviderConfig where
  (protocolVersion providerVersion providerDigest : String)
  supported : protocolVersion = contractVersion

structure HttpRunner where
  providers : String → Option ProviderConfig

/-- The inputs of a step; `null` is no map. -/
def inputFields : Json → List (String × Json)
  | .obj fields => fields
  | _ => []

/-- `executeRequest`, as the runner fills it. -/
def executeRequest (config : ProviderConfig) (execution : ExecutionContext) : ExecuteRequest where
  schemaVersion := contractVersion
  execution :=
    { stepId := execution.stepId
      operationId := execution.operationId
      tenantId := execution.tenantId
      projectId := execution.projectId
      environmentId := execution.environmentId
      stepType := execution.stepType
      inputs := inputFields execution.inputs
      providerId := execution.providerId
      providerVersion := execution.providerVersion
      providerDigest := execution.providerDigest
      providerProtocolVersion := config.protocolVersion
      checkpoint := execution.checkpoint
      idempotencyKey := execution.idempotencyKey
      executionAttemptId := execution.executionAttemptId
      fencingGeneration := toString execution.fencingGeneration }

/-- What is posted, or why nothing is. -/
def HttpRunner.post (runner : HttpRunner) (execution : ExecutionContext) :
    Except ProviderError ExecuteRequest :=
  let provider := quoted execution.providerId
  match runner.providers execution.providerId with
  | none => .error { code := .invalidRequest
                     message := "runtime provider " ++ provider ++ " is not configured" }
  | some config =>
  if isUuid execution.executionAttemptId = false then
    .error { code := .invalidRequest, message := "execution attempt ID must be a UUID" }
  else if execution.fencingGeneration = 0 then
    .error { code := .invalidRequest, message := "fencing generation must be positive" }
  else if requiresPinnedProvider execution
      ∧ (execution.providerVersion = "" ∨ execution.providerDigest = "") then
    .error { code := .invalidRequest
             message := "lifecycle provider " ++ provider
               ++ " requires pinned providerVersion and providerDigest" }
  else if requiresPinnedProvider execution ∧ execution.providerVersion ≠ config.providerVersion then
    .error { code := .invalidRequest
             message := "lifecycle provider " ++ provider ++ " pinned version "
               ++ quoted execution.providerVersion ++ " does not match configured version "
               ++ quoted config.providerVersion }
  else if requiresPinnedProvider execution ∧ execution.providerDigest ≠ config.providerDigest then
    .error { code := .invalidRequest
             message := "lifecycle provider " ++ provider ++ " pinned digest "
               ++ quoted execution.providerDigest ++ " does not match configured digest "
               ++ quoted config.providerDigest }
  else .ok (executeRequest config execution)

theorem HttpRunner.post_ok {runner : HttpRunner} {execution : ExecutionContext}
    {posted : ExecuteRequest} (h : runner.post execution = .ok posted) :
    ∃ config, posted = executeRequest config execution := by
  unfold post at h
  split at h
  · simp at h
  next config hconfig =>
  split_ifs at h
  exact ⟨config, (Except.ok.inj h).symm⟩

/-! ## The response -/

structure ExecuteResponse where
  schemaVersion : String := ""
  executionAttemptId : String := ""
  idempotencyKey : String := ""
  fencingGeneration : String := ""
  providerVersion : String := ""
  providerDigest : String := ""
  status : String := ""
  /-- No map is `nil`. -/
  outputs : Option (List (String × String)) := none
  checkpoint : String := ""
  errorCode : String := ""
  error : String := ""
  retryable : Option Bool := none

/-- What a value is called in the decoder's errors. -/
def kindName : Json → String
  | .null => "null"
  | .bool _ => "bool"
  | .num _ => "number"
  | .str _ => "string"
  | .arr _ => "array"
  | .obj _ => "object"

def mismatch (value : Json) (field type : String) : String :=
  "json: cannot unmarshal " ++ kindName value ++ " into Go struct field executeResponse." ++ field
    ++ " of type " ++ type

/-- A text member; `null` leaves what is there. -/
def textMember (field type : String) (value : Json) (old : String) : Except String String :=
  match value with
  | .str text => .ok text
  | .null => .ok old
  | _ => .error (mismatch value field type)

/-- The entries of a map of texts, each put over the entry of the same key. -/
def mapEntries (field : String) : List (String × Json) → List (String × String) →
    Except String (List (String × String))
  | [], m => .ok m
  | (key, value) :: entries, m => do
      let text ← textMember field "string" value ""
      mapEntries field entries (m.filter (fun entry => entry.1 != key) ++ [(key, text)])

/-- A map of texts; `null` is no map. -/
def mapMember (field : String) (value : Json) (old : Option (List (String × String))) :
    Except String (Option (List (String × String))) :=
  match value with
  | .obj entries => (mapEntries field entries (old.getD [])).map some
  | .null => .ok none
  | _ => .error (mismatch value field "map[string]string")

/-- A `*bool`; `null` is `nil`. -/
def boolMember (field : String) (value : Json) : Except String (Option Bool) :=
  match value with
  | .bool b => .ok (some b)
  | .null => .ok none
  | _ => .error (mismatch value field "bool")

/-- A member of a response. -/
def ExecuteResponse.assign (r : ExecuteResponse) (name : String) (value : Json) :
    Except String ExecuteResponse :=
  if sameName name "schemaVersion" then
    (textMember "schemaVersion" "string" value r.schemaVersion).map fun text => { r with schemaVersion := text }
  else if sameName name "executionAttemptId" then
    (textMember "executionAttemptId" "string" value r.executionAttemptId).map fun text => { r with executionAttemptId := text }
  else if sameName name "idempotencyKey" then
    (textMember "idempotencyKey" "string" value r.idempotencyKey).map fun text => { r with idempotencyKey := text }
  else if sameName name "fencingGeneration" then
    (textMember "fencingGeneration" "string" value r.fencingGeneration).map fun text => { r with fencingGeneration := text }
  else if sameName name "providerVersion" then
    (textMember "providerVersion" "string" value r.providerVersion).map fun text => { r with providerVersion := text }
  else if sameName name "providerDigest" then
    (textMember "providerDigest" "string" value r.providerDigest).map fun text => { r with providerDigest := text }
  else if sameName name "status" then
    (textMember "status" "string" value r.status).map fun text => { r with status := text }
  else if sameName name "outputs" then
    (mapMember "outputs" value r.outputs).map fun m => { r with outputs := m }
  else if sameName name "checkpoint" then
    (textMember "checkpoint" "string" value r.checkpoint).map fun text => { r with checkpoint := text }
  else if sameName name "errorCode" then
    (textMember "errorCode" "driver.ErrorCode" value r.errorCode).map fun text => { r with errorCode := text }
  else if sameName name "error" then
    (textMember "error" "string" value r.error).map fun text => { r with error := text }
  else if sameName name "retryable" then
    (boolMember "retryable" value).map fun b => { r with retryable := b }
  else .error ("json: unknown field " ++ quoted name)

/-- `decodeResponse`. The first error is the one that is returned. -/
def decodeResponse (size : Json → Nat) (body : Json) : Except String ExecuteResponse :=
  if maxResponseSize < size body then
    .error ("response exceeds " ++ toString maxResponseSize ++ " bytes")
  else
  match body with
  | .obj members => members.foldlM (fun r member => r.assign member.1 member.2) {}
  | .null => .ok {}
  | _ => .error ("json: cannot unmarshal " ++ kindName body
      ++ " into Go value of type driver.executeResponse")

/-- What `Execute` returns for a response. -/
def receive (size : Json → Nat) (execution : ExecutionContext) (code : Nat) (body : Json) :
    Execution :=
  let provider := "runtime provider " ++ quoted execution.providerId ++ " returned "
  match decodeResponse size body with
  | .error err =>
    { outputs := none, checkpoint := ""
      error := some (protocolError code (provider ++ "invalid response: " ++ err)).executionError }
  | .ok result =>
  let failed (err : ProviderError) : Execution :=
    { outputs := result.outputs, checkpoint := result.checkpoint, error := some err.executionError }
  let refused (text : String) : Execution := failed (protocolError code (provider ++ text))
  if result.schemaVersion ≠ contractVersion then
    refused ("unsupported schema version " ++ quoted result.schemaVersion)
  else if result.executionAttemptId ≠ execution.executionAttemptId then
    refused "mismatched execution attempt ID"
  else if result.idempotencyKey ≠ "" ∧ result.idempotencyKey ≠ execution.idempotencyKey then
    refused "mismatched idempotency key"
  else if requiresPinnedProvider execution ∧ result.providerVersion ≠ execution.providerVersion then
    refused "mismatched providerVersion"
  else if requiresPinnedProvider execution ∧ result.providerDigest ≠ execution.providerDigest then
    refused "mismatched providerDigest"
  else
  match parseGeneration result.fencingGeneration with
  | none => refused "invalid fencing generation: must be a canonical positive decimal string"
  | some generation =>
  if generation ≠ execution.fencingGeneration then refused "mismatched fencing generation"
  else if result.status ≠ "succeeded" ∧ result.status ≠ "failed" then
    refused ("unknown status " ++ quoted result.status)
  else if result.status = "succeeded" then
    if code < 200 ∨ 300 ≤ code then refused ("success with HTTP " ++ toString code)
    else if result.error ≠ "" ∨ result.errorCode ≠ "" ∨ result.retryable ≠ none then
      refused "success with error fields"
    else { outputs := result.outputs, checkpoint := result.checkpoint, error := none }
  else
  match validErrorCode result.errorCode with
  | none => refused "incomplete failure fields"
  | some errorCode =>
  if result.error = "" ∨ result.retryable = none then refused "incomplete failure fields"
  else failed ⟨errorCode, result.error, classifyRetryable code errorCode, code⟩

/-- What becomes of a request that is posted. -/
inductive Exchange where
  /-- There is no token for the provider. -/
  | unauthorized (text : String)
  | failed (text : String)
  | response (code : Nat) (body : Json)

def HttpRunner.execute (runner : HttpRunner) (size : Json → Nat)
    (exchange : ExecuteRequest → Exchange) (execution : ExecutionContext) : Execution :=
  let unavailable (text : String) : Execution :=
    { outputs := none, checkpoint := ""
      error := some (ProviderError.executionError
        { code := .targetUnavailable, message := text, retryable := true }) }
  match runner.post execution with
  | .error err => { outputs := none, checkpoint := "", error := some err.executionError }
  | .ok posted =>
  match exchange posted with
  | .unauthorized text => unavailable
      ("load credential for runtime provider " ++ quoted execution.providerId ++ ": " ++ text)
  | .failed text => unavailable
      ("call runtime provider " ++ quoted execution.providerId ++ ": " ++ text)
  | .response code body => receive size execution code body

/-! ## Members the decoder does not know -/

/-- A fold that meets an element no accumulator gets past ends in an error. -/
theorem foldlM_error_of_mem {α β : Type} {f : β → α → Except String β} {xs : List α} {x : α}
    (hmem : x ∈ xs) (hx : ∀ b, ∃ err, f b x = .error err) (b : β) :
    ∃ err, xs.foldlM f b = .error err := by
  induction xs generalizing b with
  | nil => simp at hmem
  | cons y _ ih =>
    rw [foldlM_cons]
    rcases hy : f b y with err | b'
    · exact ⟨err, rfl⟩
    rcases mem_cons.1 hmem with rfl | hmem
    · -- The element itself is never got past.
      obtain ⟨err, herr⟩ := hx b
      exact absurd (hy.symm.trans herr) (by simp)
    · exact ih hmem b'

/-- The members of a response the runner knows. -/
def memberNames : List String :=
  ["schemaVersion", "executionAttemptId", "idempotencyKey", "fencingGeneration", "providerVersion",
    "providerDigest", "status", "outputs", "checkpoint", "errorCode", "error", "retryable"]

/-- A response with a member the runner does not know is not decoded. -/
theorem decodeResponse_unknown (size : Json → Nat) {members : List (String × Json)} {name : String}
    {value : Json} (hname : ∀ known ∈ memberNames, sameName name known = false)
    (h : (name, value) ∈ members) : ∃ err, decodeResponse size (.obj members) = .error err := by
  unfold decodeResponse
  split
  · exact ⟨_, rfl⟩
  · refine foldlM_error_of_mem h ?_ _
    intro r
    simp only [memberNames, forall_mem_cons, not_mem_nil, false_implies, implies_true, and_true]
      at hname
    exact ⟨"json: unknown field " ++ quoted name, by simp [ExecuteResponse.assign, hname]⟩

end HnbCloud.Driver
