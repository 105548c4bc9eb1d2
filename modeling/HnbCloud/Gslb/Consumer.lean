import HnbCloud.Gslb.Service
import HnbCloud.Messaging.Envelope

set_option autoImplicit false

/-! # The command consumer of the traffic controller

`gslb-controller/internal/consumer/consumer.go`: the controller executes the plan of a switch request
when a command tells it to, and only while the request is approved or dispatched. The command is
decoded here on its own terms: the service that writes it and the relay that publishes it share no
type with this reader. -/

namespace HnbCloud.Gslb

open Messaging

/-! ## The command -/

structure CommandPayload where
  (requestId serviceId : String)
  /-- A `json.RawMessage`. -/
  plan : Option Json

open CommandPayload

/-- `json.Unmarshal(data, &payload)`. -/
def CommandPayload.unmarshal (data : Json) : Option CommandPayload := do
  let fields ← data.fields?
  let requestId ← Json.decodeText "requestId" fields
  let serviceId ← Json.decodeText "serviceId" fields
  let plan ← Json.decodeRaw "plan" fields
  return ⟨requestId, serviceId, plan⟩

/-! ## HandleCommand -/

/-- The calls of the consumer. -/
inductive ControllerOp where
  | getRequest (id : String)
  /-- `Transition`: the row moves only out of one of the states `source`. -/
  | transition (id : String) (source : List RequestStatus) (target : RequestStatus)
      (errorMsg : String)
  | executePlan (plan : Plan)
  | emitStatusChanged (request : SwitchRequest) (status : RequestStatus) (errorMsg : String)

/-- What a call answers; an error is its text. -/
abbrev ControllerOp.Reply : ControllerOp → Type
  | getRequest .. => Except String (Option SwitchRequest)
  | transition .. => Except String Unit
  | executePlan .. => Except String Unit
  | emitStatusChanged .. => Except String Unit

/-- The errors of `HandleCommand`. -/
inductive CommandError where
  | parse
  | missingFields
  /-- `errRejected`: the request is not in an executable state. -/
  | rejected (text : String)
  | failed (text : String)
deriving DecidableEq, Repr

/-- A program of the consumer. -/
abbrev ControllerProgram := Program ControllerOp ControllerOp.Reply (Except CommandError Unit)

/-- The end of an execution that has failed. The answers of the two calls are not looked at. -/
def failExecution (request : SwitchRequest) (requestId err : String) : ControllerProgram :=
  .call (.transition requestId [.dispatched] .failed err) fun _ =>
  .call (.emitStatusChanged request .failed err) fun _ =>
  .done (.error (.failed err))

def completeExecution (request : SwitchRequest) (requestId : String) : ControllerProgram :=
  .call (.transition requestId [.dispatched] .succeeded "") fun
  | .error err => .done (.error (.failed err))
  | .ok () =>
  .call (.emitStatusChanged request .succeeded "") fun
  | .error err => .done (.error (.failed err))
  | .ok () => .done (.ok ())

/-- The execution of the plan in a command, once the request is dispatched. -/
def executeCommand (request : SwitchRequest) (requestId : String) (planData : Json) :
    ControllerProgram :=
  match Plan.unmarshal planData with
  | none =>
    .call (.transition requestId [.dispatched] .failed "invalid plan payload") fun _ =>
    .done (.error (.failed "invalid plan payload"))
  | some plan =>
  .call (.executePlan plan) fun
  | .error err => failExecution request requestId err
  | .ok () => completeExecution request requestId

def handleCommand (data : Json) : ControllerProgram :=
  match unmarshal data with
  | none => .done (.error .parse)
  | some payload =>
  match payload.plan with
  | none => .done (.error .missingFields)
  | some planData =>
  if payload.requestId = "" then .done (.error .missingFields) else
  .call (.getRequest payload.requestId) fun
  | .error err => .done (.error (.failed err))
  | .ok none => .done (.error (.rejected "request not found"))
  | .ok (some request) =>
  if request.status ≠ .approved ∧ request.status ≠ .dispatched then
    .done (.error (.rejected ("status " ++ request.status.text)))
  else if request.status = .approved then
    -- Of several handlers only one moves the request; the others give up.
    .call (.transition payload.requestId [.approved] .dispatched "") fun
    | .error _ => .done (.error (.rejected "concurrent dispatch"))
    | .ok () => executeCommand request payload.requestId planData
  else executeCommand request payload.requestId planData

/-! ## The operations of a command -/

section Within

variable {P : ControllerOp → Prop} {A : (op : ControllerOp) → op.Reply → Prop}

theorem within_executeCommand {request : SwitchRequest} {requestId : String} {planData : Json}
    (hmove : ∀ target ∈ [RequestStatus.succeeded, .failed], ∀ err,
      P (.transition requestId [.dispatched] target err))
    (hexecute : ∀ plan, Plan.unmarshal planData = some plan → P (.executePlan plan))
    (hemit : ∀ status err, P (.emitStatusChanged request status err)) :
    (executeCommand request requestId planData).Within P A := by
  unfold executeCommand
  split
  · exact ⟨hmove .failed (by simp) _, fun _ _ => trivial⟩
  next plan hplan =>
  refine ⟨hexecute plan hplan, fun answer _ => ?_⟩
  cases answer with
  | error => exact ⟨hmove .failed (by simp) _, fun _ _ => ⟨hemit _ _, fun _ _ => trivial⟩⟩
  | ok =>
    refine ⟨hmove .succeeded (by simp) _, fun answer _ => ?_⟩
    cases answer with
    | error => trivial
    | ok => exact ⟨hemit _ _, fun answer _ => by cases answer <;> trivial⟩

theorem within_handleCommand {data : Json}
    (hget : ∀ payload, unmarshal data = some payload → P (.getRequest payload.requestId))
    (hmove : ∀ payload, unmarshal data = some payload → ∀ source target err,
      source = [.approved] ∧ target = .dispatched
        ∨ source = [.dispatched] ∧ target ∈ [RequestStatus.succeeded, .failed] →
      P (.transition payload.requestId source target err))
    (hexecute : ∀ payload planData plan, unmarshal data = some payload →
      payload.requestId ≠ "" → payload.plan = some planData → Plan.unmarshal planData = some plan →
      P (.executePlan plan))
    (hemit : ∀ payload, unmarshal data = some payload → ∀ request status err,
      A (.getRequest payload.requestId) (.ok (some request)) →
      P (.emitStatusChanged request status err)) : (handleCommand data).Within P A := by
  unfold handleCommand
  split
  · trivial
  next payload hpayload =>
  split
  · trivial
  next planData hplan =>
  split
  · trivial
  next hne =>
  refine ⟨hget payload hpayload, fun answer hanswer => ?_⟩
  rcases answer with err | _ | request
  · trivial
  · trivial
  have hrest : (executeCommand request payload.requestId planData).Within P A :=
    within_executeCommand (fun target htarget err => hmove payload hpayload _ _ _ (.inr ⟨rfl, htarget⟩))
      (fun plan => hexecute payload planData plan hpayload hne hplan)
      fun status err => hemit payload hpayload request status err hanswer
  dsimp only
  split
  · trivial
  split
  · refine ⟨hmove payload hpayload _ _ _ (.inl ⟨rfl, rfl⟩), fun answer _ => ?_⟩
    cases answer with
    | error => trivial
    | ok => exact hrest
  · exact hrest

end Within

end HnbCloud.Gslb
