import HnbCloud.Gslb.Retention

set_option autoImplicit false

/-! # What a command executes

`HandleCommand` reads the request to see whether it is approved, and executes the plan that is in the
command. The plan that was approved is the one in the request, as it was submitted: nothing changes
it later, and nothing compares the two. -/

namespace HnbCloud.Gslb

open Messaging List Option Machine CommandPayload TrafficWorld

/-- By this event the command with this number executes a plan. -/
def TrafficWorld.Executes (w : TrafficWorld) (event : TrafficEvent) (command : Nat) (plan : Plan) :
    Prop :=
  ∃ n requestId next, event = .handle command n
    ∧ w.commands[command]? = some (requestId, .call (.executePlan plan) next)

def Traffic.snapshot (s : Traffic) (id : String) : Option Plan :=
  (s.requests.get? id).bind fun row => Plan.unmarshal row.planSnapshot

/-- The document is a command that names the request and carries this plan. -/
def Commands (data : Json) (requestId : String) (plan : Plan) : Prop :=
  ∃ payload planData, unmarshal data = some payload ∧ payload.requestId = requestId
    ∧ requestId ≠ "" ∧ payload.plan = some planData ∧ Plan.unmarshal planData = some plan

/-! ## The plan of a command -/

theorem calls_handleCommand {data : Json} {plan : Plan}
    (h : (handleCommand data).Calls (.executePlan plan)) :
    Commands data (commandRequestId data) plan := by
  refine (within_handleCommand
    (P := fun op => op = .executePlan plan → Commands data (commandRequestId data) plan)
    (fun _ _ h => absurd h (by simp)) (fun _ _ _ _ _ _ h => absurd h (by simp)) ?_
    fun _ _ _ _ _ _ h => absurd h (by simp)).of_calls h rfl
  intro payload planData plan' hpayload hne hplan hunmarshal heq
  obtain rfl := ControllerOp.executePlan.inj heq
  have hid : payload.requestId = commandRequestId data := by
    rw [commandRequestId, hpayload]
    rfl
  exact ⟨payload, planData, hpayload, hid, hid ▸ hne, hplan, hunmarshal⟩

/-- A command that is decoded reads its request. An approved one it dispatches first, and a dispatched
    one it executes at once. -/
theorem handleCommand_eq {data : Json} {payload : CommandPayload} {planData : Json}
    (hpayload : unmarshal data = some payload) (hne : payload.requestId ≠ "")
    (hplan : payload.plan = some planData) :
    ∃ next, handleCommand data = .call (.getRequest payload.requestId) next
      ∧ (∀ request : SwitchRequest, request.status = .approved → next (.ok (some request))
        = .call (.transition payload.requestId [.approved] .dispatched "") fun
          | .error _ => .done (.error (.rejected "concurrent dispatch"))
          | .ok () => executeCommand request payload.requestId planData)
      ∧ ∀ request : SwitchRequest, request.status = .dispatched → next (.ok (some request))
        = executeCommand request payload.requestId planData := by
  refine ⟨_, by simp only [handleCommand, hpayload, hplan, if_neg hne]; rfl, fun request hstatus => ?_,
    fun request hstatus => ?_⟩
  · simp only [hstatus]
    rfl
  · simp only [hstatus]
    rfl

/-! ## Every run -/

section Runs

variable {w : TrafficWorld} {command : Nat} {requestId : String}

theorem TrafficWorld.commands_handle {op : ControllerOp} {next : op.Reply → ControllerProgram}
    (h : w.commands[command]? = some (requestId, .call op next)) (n : ControllerNature) :
    (w.handle command n).commands[command]?
      = some (requestId, next ((controllerStore requestId).perform w.traffic op n).2) := by
  simp only [handle, h]
  exact getElem?_set_self (List.getElem?_eq_some_iff.1 h).1

/-- A command stays the one that it was, and performs what it has left. -/
def TrafficWorld.Handles (w : TrafficWorld) (command : Nat) (requestId : String)
    (p : ControllerProgram) : Prop :=
  ∃ rest, w.commands[command]? = some (requestId, rest) ∧ ∀ op, rest.Calls op → p.Calls op

theorem TrafficWorld.Handles.step {p : ControllerProgram} (h : w.Handles command requestId p)
    (sha : String → String) (event : TrafficEvent) :
    (w.step sha event).Handles command requestId p := by
  obtain ⟨rest, hrest, hcalls⟩ := h
  cases event with
  | deliver =>
    refine ⟨rest, ?_, hcalls⟩
    exact (getElem?_append_left (List.getElem?_eq_some_iff.1 hrest).1).trans hrest
  | handle command' n =>
    show (w.handle command' n).Handles command requestId p
    unfold handle
    split
    · next requestId' op next hcommand =>
      by_cases heq : command' = command
      · subst heq
        rw [hrest] at hcommand
        cases hcommand
        exact ⟨_, getElem?_set_self (List.getElem?_eq_some_iff.1 hrest).1,
          fun op' hop' => hcalls op' (.later _ hop')⟩
      · exact ⟨rest, (getElem?_set_ne heq).trans hrest, hcalls⟩
    · exact ⟨rest, hrest, hcalls⟩
  | perform call n =>
    show (w.perform call n).Handles command requestId p
    unfold perform
    split <;> exact ⟨rest, hrest, hcalls⟩
  | _ => exact ⟨rest, hrest, hcalls⟩

variable (sha : String → String)

theorem executes_commands (w : TrafficWorld) (data : Json) (events : List TrafficEvent) :
    ∀ x ∈ (trafficMachine sha).trace (w.step sha (.deliver data)) events, ∀ plan,
      x.pre.Executes x.call w.commands.length plan → Commands data (commandRequestId data) plan := by
  have hbegin : (w.step sha (.deliver data)).Handles w.commands.length (commandRequestId data)
      (handleCommand data) :=
    ⟨_, getElem?_concat_length, fun op hop => hop⟩
  refine (trafficMachine sha).trace_forall
    (P := fun v => v.Handles w.commands.length (commandRequestId data) (handleCommand data))
    (fun v event h => h.step sha event) (fun v event h plan hexecutes => ?_) hbegin events
  obtain ⟨n, requestId, next, -, hcommand⟩ := hexecutes
  obtain ⟨rest, hrest, hcalls⟩ := h
  obtain ⟨-, rfl⟩ := Prod.mk.inj (Option.some.inj (hrest.symm.trans hcommand))
  exact calls_handleCommand (hcalls _ (.here _ _))

/-- Every call of the controller goes through. -/
def answeredController : ControllerNature where
  outcome := .ok
  execution := .ok ()
  messageId := ""
  correlationId := ""

/-- A command for an approved request executes its plan, if nothing goes wrong. -/
theorem executes_of_commands (w : TrafficWorld) {data : Json} {plan : Plan}
    (happroved : w.traffic.status requestId = some .approved
      ∨ w.traffic.status requestId = some .dispatched) (h : Commands data requestId plan) :
    ∃ events, ∃ x ∈ (trafficMachine sha).trace (w.step sha (.deliver data)) events,
      x.pre.Executes x.call w.commands.length plan := by
  obtain ⟨payload, planData, hpayload, rfl, hne, hplan, hdecoded⟩ := h
  obtain ⟨next, hhandle, happrovedNext, hdispatchedNext⟩ := handleCommand_eq hpayload hne hplan
  have hid : commandRequestId data = payload.requestId := by
    rw [commandRequestId, hpayload]
    rfl
  have hbegin : (w.step sha (.deliver data)).commands[w.commands.length]?
      = some (payload.requestId, .call (.getRequest payload.requestId) next) := by
    rw [← hhandle, ← hid]
    exact getElem?_concat_length
  obtain ⟨row, hrow, hrowStatus⟩ : ∃ row, w.traffic.requests.get? payload.requestId = some row
      ∧ (row.status = .approved ∨ row.status = .dispatched) := by
    rcases happroved with hstatus | hstatus
    · obtain ⟨row, hrow, hstatus⟩ := map_eq_some_iff.1 hstatus
      exact ⟨row, hrow, .inl hstatus⟩
    · obtain ⟨row, hrow, hstatus⟩ := map_eq_some_iff.1 hstatus
      exact ⟨row, hrow, .inr hstatus⟩
  -- The states after the request has been read, and after it has been dispatched.
  let v := (w.step sha (.deliver data)).handle w.commands.length answeredController
  have hread : v.commands[w.commands.length]? = some (payload.requestId, next (.ok (some row))) := by
    rw [← hrow]
    exact commands_handle hbegin answeredController
  obtain ⟨executed, hexecutes⟩ : ∃ executed, executeCommand row payload.requestId planData
      = .call (.executePlan plan) executed := by
    rw [executeCommand, hdecoded]
    exact ⟨_, rfl⟩
  let handle := TrafficEvent.handle w.commands.length answeredController
  rcases hrowStatus with hstatus | hstatus
  · rw [happrovedNext row hstatus] at hread
    have htraffic : v.traffic = w.traffic := by
      simp only [v, TrafficWorld.handle, hbegin]
      rfl
    have hmoved : ((controllerStore payload.requestId).perform v.traffic
        (.transition payload.requestId [.approved] .dispatched "") answeredController).2 = .ok () := by
      show (ApiOutcome.ok.commit v.traffic (v.traffic.transition _ _ _ _)).2 = _
      simp [htraffic, Traffic.transition, hrow, hstatus, ApiOutcome.commit]
    have hdispatched : (v.handle w.commands.length answeredController).commands[w.commands.length]?
        = some (payload.requestId, executeCommand row payload.requestId planData) := by
      rw [commands_handle hread answeredController, hmoved]
    rw [hexecutes] at hdispatched
    exact ⟨[handle, handle, handle], _, mem_cons_of_mem _ (mem_cons_of_mem _
      mem_cons_self), answeredController, payload.requestId, _, rfl, hdispatched⟩
  · rw [hdispatchedNext row hstatus, hexecutes] at hread
    exact ⟨[handle, handle], _, mem_cons_of_mem _ mem_cons_self, answeredController,
      payload.requestId, _, rfl, hread⟩

theorem snapshot_run (w : TrafficWorld)
    (h : (w.traffic.requests.get? requestId).isSome) (events : List TrafficEvent) :
    ((trafficMachine sha).run w events).traffic.snapshot requestId = w.traffic.snapshot requestId := by
  obtain ⟨row, hrow⟩ := isSome_iff_exists.1 h
  obtain ⟨row', hrow', hsnapshot⟩ := (trafficMachine sha).run_induction
    (P := fun v => ∃ row', v.traffic.requests.get? requestId = some row'
      ∧ row'.planSnapshot = row.planSnapshot)
    (fun v event hv => by
      obtain ⟨row', hrow', hsnapshot⟩ := hv
      obtain ⟨row'', hrow'', hupdates⟩ := (v.step_keeps sha event).requests requestId row' hrow'
      exact ⟨row'', hrow'', hupdates.planSnapshot.trans hsnapshot⟩)
    ⟨row, hrow, rfl⟩ events
  rw [Traffic.snapshot, hrow', Traffic.snapshot, hrow, bind_some, bind_some, hsnapshot]

/-- Whatever happens while a command for an approved request is handled, the plan that it executes is
    the one that was submitted with the request, if and only if the plan in the command is the one
    that is stored. -/
theorem executes_snapshot_iff (sha : String → String)
    (requests : Table SwitchRequest String SwitchRequest.id) (outbox : Outbox) (now : Int)
    (before after : List TrafficEvent) (requestId : String) (data : Json)
    (hsubmitted : (((trafficMachine sha).run (.start requests outbox now)
      before).traffic.requests.get? requestId).isSome)
    (happroved : ((trafficMachine sha).run (.start requests outbox now)
        (before ++ after)).traffic.status requestId = some .approved
      ∨ ((trafficMachine sha).run (.start requests outbox now)
        (before ++ after)).traffic.status requestId = some .dispatched) :
    let run := (trafficMachine sha).run (.start requests outbox now)
    (∀ events, ∀ x ∈ (trafficMachine sha).trace (run (before ++ after ++ [.deliver data])) events,
      ∀ plan, x.pre.Executes x.call (run (before ++ after)).commands.length plan →
        commandRequestId data = requestId → (run before).traffic.snapshot requestId = some plan)
    ↔ ∀ plan, Commands data requestId plan →
        (run (before ++ after)).traffic.snapshot requestId = some plan := by
  intro run
  have hdeliver : run (before ++ after ++ [.deliver data])
      = (run (before ++ after)).step sha (.deliver data) := run_append _ _ _ _
  have hsnapshot : (run (before ++ after)).traffic.snapshot requestId
      = (run before).traffic.snapshot requestId := by
    rw [show run (before ++ after) = _ from run_append _ _ before after]
    exact snapshot_run sha (run before) hsubmitted after
  rw [hdeliver, hsnapshot]
  constructor
  · intro h plan hcommands
    obtain ⟨events, x, hx, hexecutes⟩ := executes_of_commands sha _ happroved hcommands
    obtain ⟨payload, -, hpayload, hid, -⟩ := hcommands
    refine h events x hx plan hexecutes ?_
    rw [commandRequestId, hpayload]
    exact hid
  · intro h events x hx plan hexecutes hid
    refine h plan ?_
    rw [← hid]
    exact executes_commands sha _ data events x hx plan hexecutes

end Runs

/-! ## Two commands for one request -/

/-- The failover is approved. -/
def approveFailover : List TrafficEvent :=
  [.approve pendingFailover.id approver, .perform 0 (answeredRepo "")] ++ writeDecision 0 "m1" "m2"

theorem failover_approved : ((trafficMachine id).run failoverWorld approveFailover).traffic.status
    pendingFailover.id = some .approved := by
  decide +kernel

/-- The command of the approval executes what was submitted. -/
theorem executes_snapshot_of_failover :
    let run := (trafficMachine id).run failoverWorld
    ∀ events, ∀ x ∈ (trafficMachine id).trace
        (run ([] ++ approveFailover ++ [.deliver failoverCommand.payload])) events,
      ∀ plan, x.pre.Executes x.call (run ([] ++ approveFailover)).commands.length plan →
        commandRequestId failoverCommand.payload = pendingFailover.id →
        failoverWorld.traffic.snapshot pendingFailover.id = some plan := by
  refine (executes_snapshot_iff id ⟨[pendingFailover], nodup_singleton _⟩ .empty 0 []
    approveFailover pendingFailover.id failoverCommand.payload rfl (.inl failover_approved)).2 ?_
  rintro plan ⟨payload, planData, hpayload, -, -, hplan, hdecoded⟩
  have hcommand : unmarshal failoverCommand.payload
      = some ⟨pendingFailover.id, pendingFailover.serviceId, some pendingFailover.planSnapshot⟩ := rfl
  obtain rfl := Option.some.inj (hcommand.symm.trans hpayload)
  cases hplan
  exact (snapshot_run id failoverWorld rfl approveFailover).trans hdecoded

def forgedCommand : Json :=
  .obj [("requestId", .str pendingFailover.id), ("plan", .obj [("planId", .str "gslb-plan-2")])]

/-- The approved request lets the controller execute the plan of another command. -/
theorem forged_plan_executed :
    let run := (trafficMachine id).run failoverWorld
    (run approveFailover).traffic.status pendingFailover.id = some .approved
    ∧ ∃ events, ∃ x ∈ (trafficMachine id).trace (run (approveFailover ++ [.deliver forgedCommand])) events,
        ∃ plan, x.pre.Executes x.call (run approveFailover).commands.length plan
          ∧ failoverWorld.traffic.snapshot pendingFailover.id ≠ some plan := by
  intro run
  have hcommands : Commands forgedCommand pendingFailover.id ⟨"gslb-plan-2", "", "", []⟩ :=
    ⟨⟨pendingFailover.id, "", some (.obj [("planId", .str "gslb-plan-2")])⟩, _, rfl, rfl, by decide, rfl,
      rfl⟩
  obtain ⟨events, x, hx, hexecutes⟩ := executes_of_commands id (run approveFailover)
    (.inl failover_approved) hcommands
  refine ⟨failover_approved, events, x, ?_, _, hexecutes, fun h => ?_⟩
  · rw [show run (approveFailover ++ [.deliver forgedCommand]) = _ from run_append _ _ _ _]
    exact hx
  · exact absurd (congrArg (Option.map Plan.planId) h) (by decide)

end HnbCloud.Gslb
