import HnbCloud.Driver.HttpRunner
import HnbCloud.Lifecycle.Server

set_option autoImplicit false

/-! # The worker and the three providers

The worker posts an execution to kubernetes-provider, edge-provider or
runtime-target-lifecycle-provider and reads what the handler there writes. Writer and reader have
their own types for the response. The writers have one member more, `providerProtocolVersion`, which
is written even when it is empty, and the reader refuses members it does not know: no response of a
provider is ever decoded. -/

namespace HnbCloud.Driver

open Operation (Execution)
open Provider (Body ExecuteRequest HttpResponse StatusError handleSteps)

/-- The handlers, each with what its answers depend on. -/
inductive Handler where
  | kubernetes (execute : Provider.ExecutionContext → Provider.Result × Option StatusError)
  | edge (execute : Provider.ExecutionContext → Provider.Result × Option StatusError)
  | lifecycle (urls : Engine.UrlParser) (kind : Lifecycle.ManagerKind)

/-- The handler may answer this body with this response. -/
def Handler.Writes : Handler → Body → HttpResponse → Prop
  | .kubernetes execute, body, response => response = handleSteps execute body
  | .edge execute, body, response => response = handleSteps execute body
  | .lifecycle urls kind, body, response => (Lifecycle.handleBody urls kind body).Ends response

/-- What the worker is to make of a response: it is decoded, an execution succeeds with the outputs
    and the checkpoint of the response exactly if that says so, and otherwise the error has the code of
    the response. -/
structure Faithful (size : Json → Nat) (response : HttpResponse) (returned : Execution) :
    Prop where
  decoded : ∃ result, decodeResponse size response.body.document = .ok result
  success : (returned.error = none
      ∧ (returned.outputs.getD []).map (fun output => (output.1, Json.str output.2))
        = response.body.outputs
      ∧ returned.checkpoint = response.body.checkpoint) ↔ response.body.status = "succeeded"
  failure : response.body.status ≠ "succeeded" → ∃ code retryable text,
    returned.error = some (.provider code retryable text)
      ∧ response.body.errorCode.map Provider.ErrorCode.text = some (codeText code)

theorem decodeResponse_document (size : Json → Nat) (response : Provider.ExecuteResponse) :
    ∃ err, decodeResponse size response.document = .error err := by
  have hunknown : ∀ known ∈ memberNames,
      Json.sameName "providerProtocolVersion" known = false := by decide
  refine decodeResponse_unknown size hunknown
    (?_ : ("providerProtocolVersion", Json.str response.providerProtocolVersion) ∈ _)
  simp

/-- On no path of a handler does the worker return what the handler wrote: every response becomes
    an error of the protocol. -/
theorem response_never_returned (runner : HttpRunner) (size : Json → Nat)
    (exchange : ExecuteRequest → Exchange) {execution : Operation.ExecutionContext}
    {posted : ExecuteRequest} (hposted : runner.post execution = .ok posted) (handler : Handler) :
    ∀ body response, handler.Writes body response →
      exchange posted = .response response.code response.body.document →
      ¬ Faithful size response (runner.execute size exchange execution)
        ∧ ∃ text, runner.execute size exchange execution
          = { outputs := none, checkpoint := ""
              error := some (protocolError response.code ("runtime provider "
                ++ quoted execution.providerId ++ " returned invalid response: "
                ++ text)).executionError } := by
  intro body response _ hexchange
  obtain ⟨err, herr⟩ := decodeResponse_document size response.body
  constructor
  · intro h
    obtain ⟨result, hresult⟩ := h.decoded
    exact absurd (hresult.symm.trans herr) (by simp)
  · refine ⟨err, ?_⟩
    simp only [HttpRunner.execute, hposted, hexchange, receive, herr, String.append_assoc]
    rfl

/-! ## A step that succeeded -/

def sampleRunner : HttpRunner where
  providers id := if id = "kubernetes-provider" then some ⟨"2.0.0", "1", "d", rfl⟩ else none

def sampleExecution : Operation.ExecutionContext where
  stepId := "00000000-0000-4000-8000-000000000005"
  operationId := "00000000-0000-4000-8000-000000000002"
  tenantId := "t1"
  projectId := "p1"
  environmentId := "e1"
  stepType := "deploy"
  inputs := .obj []
  providerId := "kubernetes-provider"
  providerVersion := "1"
  providerDigest := "d"
  checkpoint := ""
  idempotencyKey := "k1"
  executionAttemptId := "00000000-0000-4000-8000-000000000009"
  fencingGeneration := 7
  targetClusterIds := []

/-- The executor has deployed. -/
def deployed : Provider.Result × Option StatusError :=
  ({ outputs := [("uid", .str "u1")], checkpoint := "deployed" }, none)

/-- What the runner posts for it. -/
def sampleRequest : ExecuteRequest := executeRequest ⟨"2.0.0", "1", "d", rfl⟩ sampleExecution

/-- What the handler answers. -/
def sampleResponse : HttpResponse := handleSteps (fun _ => deployed) (.request sampleRequest)

theorem response_never_returned_of_deployed : sampleRunner.post sampleExecution = .ok sampleRequest
      ∧ ¬ Faithful (fun _ => 0) sampleResponse (sampleRunner.execute (fun _ => 0)
          (fun _ => .response sampleResponse.code sampleResponse.body.document) sampleExecution) := by
  have hposted : sampleRunner.post sampleExecution = .ok sampleRequest := rfl
  exact ⟨hposted, (response_never_returned sampleRunner (fun _ => 0) _ hposted
    (.kubernetes fun _ => deployed) (.request sampleRequest) sampleResponse rfl rfl).1⟩

/-- The provider has deployed and says so with HTTP 200; the worker returns a permanent error and
    none of the outputs. -/
theorem succeeded_returned_as_error :
    let returned := sampleRunner.execute (fun _ => 0)
      (fun posted => .response (handleSteps (fun _ => deployed) (.request posted)).code
        (handleSteps (fun _ => deployed) (.request posted)).body.document) sampleExecution
    sampleResponse.body.status = "succeeded" ∧ sampleResponse.code = 200 ∧ returned.outputs = none
      ∧ returned.error = some (.provider .invalidRequest false ("runtime provider error"
        ++ " INVALID_REQUEST (HTTP 200): runtime provider \"kubernetes-provider\" returned invalid"
        ++ " response: json: unknown field \"providerProtocolVersion\"")) := by
  refine ⟨?_, ?_, ?_, ?_⟩
  · decide +kernel
  · decide +kernel
  · rfl
  · rfl

end HnbCloud.Driver
