import HnbCloud.Gslb.Consumer

set_option autoImplicit false

/-! # From the service to the consumer

A command goes through three programs: the service writes an event whose payload names the request
and the plan, the relay publishes the event in its envelope, and the consumer decodes what it gets.
The relay puts the payload into a field of the envelope; the consumer looks for the request and the
plan at the top of the document. It finds neither, whatever the command. -/

namespace HnbCloud.Gslb

open Messaging Iam List Json CommandPayload

/-! ## What is written -/

/-- The calls of the service that write events, with these events. -/
def RepoOp.writes : RepoOp → List Event
  | createSwitchRequest _ _ events => events
  | updateSwitchRequestStatus _ _ _ _ events => events
  | _ => []

def AppProgram.Writes (p : AppProgram) (event : Event) : Prop :=
  ∃ op, p.Calls op ∧ event ∈ op.writes

variable {trusted : TrustedContext}

section Writes

variable {event : Event}

theorem not_mem_writes {op : RepoOp} (h : op.isPlain = true) : event ∉ op.writes := by
  cases op with
  | createSwitchRequest | updateSwitchRequestStatus => simp [RepoOp.isPlain] at h
  | _ => exact not_mem_nil

variable (htype : event.messageType = commandStepRequested)

include htype

theorem command_of_submitIntent {sha : String → String} {body : Json} {pathServiceId : String}
    (h : AppProgram.Writes (submitIntent sha body pathServiceId trusted) event) :
    ∃ messageId intent request,
      event = stepRequestedEvent messageId request.planSnapshot intent trusted request := by
  obtain ⟨op, hcalls, hmem⟩ := h
  refine (within_submitIntent (P := fun op => event ∈ op.writes → _)
    (fun op hplain hmem => absurd hmem (not_mem_writes hplain))
    (fun key hmem => absurd hmem not_mem_nil) ?_).of_calls hcalls hmem
  intro intent service plan now id operationId drill submittedId commandId _ _ _ _ _ request hmem
  simp only [RepoOp.writes, submissionEvents, mem_cons] at hmem
  rcases hmem with rfl | hmem
  · simp [submittedEvent, eventIntentSubmitted, commandStepRequested] at htype
  · split at hmem
    · exact ⟨commandId, some intent, request, mem_singleton.1 hmem⟩
    · exact absurd hmem not_mem_nil

theorem command_of_approve {requestId : String}
    (h : AppProgram.Writes (approve requestId trusted) event) :
    ∃ messageId intent request,
      event = stepRequestedEvent messageId request.planSnapshot intent trusted request := by
  obtain ⟨op, hcalls, hmem⟩ := h
  refine (within_transition (P := fun op => event ∈ op.writes → _)
    (fun op hplain hmem => absurd hmem (not_mem_writes hplain))
    (fun hmem => absurd hmem not_mem_nil) ?_).of_calls hcalls hmem
  intro request _ changedId commandId _ _ _ hmem
  simp only [RepoOp.writes, decisionEvents, mem_cons] at hmem
  rcases hmem with rfl | hmem
  · simp [statusChangedEvent, eventStatusChanged, commandStepRequested] at htype
  · split at hmem
    · exact ⟨commandId, none, request, mem_singleton.1 hmem⟩
    · exact absurd hmem not_mem_nil

end Writes

/-! ## What is read -/

def envelopeFields : List String :=
  ["messageId", "messageType", "schemaVersion", "occurredAt", "tenantId", "projectId",
    "environmentId", "actorId", "correlationId", "causationId", "idempotencyKey", "aggregateId",
    "aggregateVersion", "operationId", "stepId", "expectedVersion", "payload"]

theorem marshal_fields (envelope : Envelope) :
    ∃ fields, envelope.marshal = .obj fields ∧ ∀ field ∈ fields, field.1 ∈ envelopeFields := by
  refine ⟨_, rfl, fun field hfield => ?_⟩
  simp only [mem_append, mem_cons, not_mem_nil, or_false] at hfield
  rcases hfield with ((((((((((((h | h | h | h | h) | h) | h) | h) | h) | h) | h) | h) | h) | h) | h)
    | h) | h
  -- The fields that are always there, and the optional ones.
  all_goals first
    | (rw [mem_textField h]; decide)
    | (rw [mem_numField h]; decide)
    | (rw [h]; simp [envelopeFields])

theorem commandPayload_of_message (event : OutboxEvent) :
    unmarshal event.message.data = some ⟨"", "", none⟩ := by
  obtain ⟨fields, hfields, hnames⟩ := marshal_fields event.envelope
  have habsent : ∀ name, envelopeFields.all (fun field => !sameName field name) = true →
      ∀ field ∈ fields, sameName field.1 name = false := by
    intro name hname field hfield
    simpa using all_eq_true.1 hname field.1 (hnames field hfield)
  have hrequest : decodeText "requestId" fields = some "" :=
    decodeField_of_absent _ _ _ (habsent "requestId" (by decide))
  have hservice : decodeText "serviceId" fields = some "" :=
    decodeField_of_absent _ _ _ (habsent "serviceId" (by decide))
  have hplan : decodeRaw "plan" fields = some none :=
    decodeField_of_absent _ _ _ (habsent "plan" (by decide))
  show unmarshal event.envelope.marshal = _
  rw [hfields]
  simp [unmarshal, fields?, hrequest, hservice, hplan]

theorem handleCommand_of_message (event : OutboxEvent) :
    handleCommand event.message.data = .done (.error .missingFields) := by
  rw [handleCommand, commandPayload_of_message]

/-! ## The two together -/

/-- The consumer accepts the document as the command for this request: it decodes the id and the
    plan of the request, and executes that plan. -/
def CommandAccepted (data : Json) (request : SwitchRequest) : Prop :=
  (∃ serviceId, unmarshal data = some ⟨request.id, serviceId, some request.planSnapshot⟩)
    ∧ ∃ plan, Plan.unmarshal request.planSnapshot = some plan
      ∧ (handleCommand data).Calls (.executePlan plan)

/-- Whatever a submission or an approval dispatches, the consumer does not accept what the relay
    publishes for it: it reports missing fields and executes nothing. -/
theorem dispatched_command_not_accepted (sha : String → String) (body : Json)
    (pathServiceId requestId : String) (trusted : TrustedContext) (event : Event) (now : Int)
    (hwrites : AppProgram.Writes (submitIntent sha body pathServiceId trusted) event
      ∨ AppProgram.Writes (approve requestId trusted) event)
    (htype : event.messageType = commandStepRequested) :
    ∃ messageId intent request,
      event = stepRequestedEvent messageId request.planSnapshot intent trusted request
        ∧ ¬ CommandAccepted (event.toOutbox now).message.data request
        ∧ handleCommand (event.toOutbox now).message.data = .done (.error .missingFields) := by
  obtain ⟨messageId, intent, request, hevent⟩ :=
    hwrites.elim (command_of_submitIntent htype) (command_of_approve htype)
  refine ⟨messageId, intent, request, hevent, ?_, handleCommand_of_message _⟩
  rintro ⟨-, plan, -, hcalls⟩
  rw [handleCommand_of_message] at hcalls
  exact Program.calls_done _ _ hcalls

/-! ## An approval -/

/-- A failover that waits for its approval. -/
def pendingFailover : SwitchRequest where
  id := "00000000-0000-4000-8000-000000000011"
  tenantId := "t1"
  serviceId := "00000000-0000-4000-8000-000000000012"
  intentKind := "gslb.failover"
  intentDigest := "digest"
  planSnapshot := .obj [("planId", .str "gslb-plan-1")]
  idempotencyKey := "k1"
  correlationId := "00000000-0000-4000-8000-000000000013"
  requireApproval := true
  status := .pendingApproval
  operationId := "00000000-0000-4000-8000-000000000014"
  drGroupRef := ""
  actorId := "alice"
  approvedBy := ""
  approvedAt := none
  reason := ""
  error := ""
  createdAt := 0
  updatedAt := 0

/-- Someone who may approve it. -/
def approver : TrustedContext where
  subjectId := "bob"
  tenantId := "t1"
  policyVersion := "v1"
  scopedPermissions :=
    [{ resourceKind := "gslb", resourceId := "", action := .update, tenantId := "t1",
       projectId := "", environmentId := "", namespaceId := "" }]
  projectId := ""
  environmentId := ""
  namespaceId := ""

/-- The command of its approval. -/
def failoverCommand : Event :=
  stepRequestedEvent "m2" pendingFailover.planSnapshot none approver pendingFailover

theorem approve_writes_failoverCommand :
    AppProgram.Writes (approve pendingFailover.id approver) failoverCommand := by
  refine ⟨.updateSwitchRequestStatus pendingFailover.id .approved "bob" 0
    (decisionEvents pendingFailover .approved true approver "m1" "m2"), ?_,
    mem_cons_of_mem _ mem_cons_self⟩
  exact .later (.ok (some pendingFailover)) (.later (0 : Int) (.later "m1" (.later "m2" (.here _ _))))

theorem dispatched_command_not_accepted_of_failover : ∃ messageId intent request,
      failoverCommand = stepRequestedEvent messageId request.planSnapshot intent approver request
        ∧ ¬ CommandAccepted (failoverCommand.toOutbox 0).message.data request
        ∧ handleCommand (failoverCommand.toOutbox 0).message.data = .done (.error .missingFields) :=
  dispatched_command_not_accepted id .null "" pendingFailover.id approver failoverCommand 0
    (.inr approve_writes_failoverCommand) rfl

/-- The approved failover is not executed. -/
theorem failover_command_refused :
    AppProgram.Writes (approve pendingFailover.id approver) failoverCommand
      ∧ failoverCommand.messageType = commandStepRequested
      ∧ ¬ CommandAccepted (failoverCommand.toOutbox 0).message.data pendingFailover := by
  refine ⟨approve_writes_failoverCommand, rfl, ?_⟩
  rintro ⟨⟨serviceId, hdecoded⟩, -⟩
  rw [commandPayload_of_message] at hdecoded
  simp [pendingFailover] at hdecoded

end HnbCloud.Gslb
