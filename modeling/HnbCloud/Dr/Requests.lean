import HnbCloud.Dr.Conflict
import HnbCloud.Dr.Runs

set_option autoImplicit false

/-! # The switch requests of a run

A dispatch creates the requests of a run one by one, in the tables of the traffic service, and writes
their ids into the run once, at its end. `failRun` does not write them, and a process that stops
writes nothing: what was created by then belongs to no run.

The traffic service finds a request by its own idempotency key, which is made of the key of the run
and the id of the service. Two groups that share a service, and whose runs have the same key, get one
request. -/

namespace HnbCloud.Dr

open Messaging Iam Gslb List Table Function DrStore Stage DrWorld

/-! ## How a dispatch gets its requests -/

/-- Where the requests of a dispatch come from after an operation: those it had before, and one that
    it has found or created; or those that the run had when the dispatch began. -/
inductive Gets (s s' : DrStore) (phase : Phase) (op : DrOp) (run : SwitchRun)
    (requestIds : List String) : Prop where
  | same (stage : phase.stage = .dispatching run requestIds)
  | found (tenantId serviceId idempotencyKey : String) (before : List String)
      (existing : SwitchRequest)
      (eq : op = .gslb run (.getSwitchRequestByKey tenantId serviceId idempotencyKey))
      (stage : phase.stage = .dispatching run before) (ids : requestIds = before ++ [existing.id])
      (lookup : s.traffic.requests.rows.find? (fun row => row.tenantId == tenantId
        && row.serviceId == serviceId && row.idempotencyKey == idempotencyKey) = some existing)
  | made (request : SwitchRequest) (drill : Option DrillReport) (events : List Event)
      (before : List String) (eq : op = .gslb run (.createSwitchRequest request drill events))
      (stage : phase.stage = .dispatching run before) (ids : requestIds = before ++ [request.id])
      (stored : s'.traffic.requests.get? request.id = some request)
  | created (events : List PendingEvent) (eq : op = .createRun run events) (ids : requestIds = [])
      (inserted : s.runs.insert? run = some s'.runs)
  | confirmed (found : SwitchRun) (run_eq : run = { found with status := .dataLayerCompleted })
      (ids : requestIds = found.trafficRequestIds) (stored : s.runs.get? found.id = some found)
      (pending : found.status = .dataLayerPending)

variable {run : SwitchRun} {requestIds : List String}

section Gets

variable {s : DrStore} {call : DrCall} {known : Table Member String Member.id} {phase : Phase}

theorem gets_asked {s' : DrStore} {n : DrNature} {run' : SwitchRun} {request : RepoOp}
    {before : List String} (hstage : phase.stage = .dispatching run' before)
    (hs' : s'.traffic = (repository.perform s.traffic request n.traffic).1)
    (hafter : phase.stage.submitted (Submission.seeking.after request
      (repository.perform s.traffic request n.traffic).2) = .dispatching run requestIds) :
    Gets s s' phase (.gslb run' request) run requestIds := by
  rw [hstage] at hafter
  cases request with
  | getSwitchRequestByKey tenantId serviceId idempotencyKey =>
    match hfound : (repository.perform s.traffic
        (.getSwitchRequestByKey tenantId serviceId idempotencyKey) n.traffic).2 with
    | .error err =>
      rw [hfound] at hafter
      exact .same (hstage.trans hafter)
    | .ok none =>
      rw [hfound] at hafter
      exact .same (hstage.trans hafter)
    | .ok (some existing) =>
      rw [hfound] at hafter
      obtain ⟨rfl, hids⟩ := Stage.dispatching.inj hafter
      exact .found tenantId serviceId idempotencyKey before existing rfl hstage hids.symm
        (query_answer hfound).2.symm
  | createSwitchRequest request drill events =>
    match hmade : (repository.perform s.traffic (.createSwitchRequest request drill events)
        n.traffic).2 with
    | .error err =>
      rw [hmade] at hafter
      simp [Submission.after, submitted] at hafter
    | .ok () =>
      rw [hmade] at hafter
      obtain ⟨rfl, hids⟩ := Stage.dispatching.inj hafter
      refine .made request drill events before rfl hstage hids.symm ?_
      obtain ⟨requests, outbox, hinsert, -, heq⟩ :=
        Traffic.createSwitchRequest_eq_ok (commit_eq_ok hmade)
      rw [hs'.trans heq]
      exact (get?_insert? hinsert request.id).trans (if_pos rfl)
  | _ => exact .same (hstage.trans hafter)

theorem Backed.gets (h : Backed s call known phase) {op : DrOp} (n : DrNature)
    (hallows : (drProtocol call).allows phase op)
    (hafter : ((drProtocol call).after phase op (drRepository.perform s op n).2).stage
      = .dispatching run requestIds) :
    Gets s (drRepository.perform s op n).1 phase op run requestIds := by
  cases h.stageChange n hallows with
  | same heq => exact .same (heq.symm.trans hafter)
  | rests hrest =>
    rw [hafter] at hrest
    simp [works] at hrest
  | created _ events hop _ hinsert heq =>
    obtain ⟨rfl, rfl⟩ := Stage.dispatching.inj (heq.symm.trans hafter)
    exact .created events hop rfl hinsert
  | confirmed found _ _ hstage _ hget _ heq =>
    obtain ⟨rfl, rfl⟩ := Stage.dispatching.inj (heq.symm.trans hafter)
    exact .confirmed found rfl rfl hget (h.confirming found hstage).2.1
  | asked _ _ hop heq =>
    subst hop
    obtain ⟨⟨before, hstage⟩, -⟩ := hallows
    exact gets_asked hstage rfl (heq.symm.trans hafter)

end Gets

/-! ## The requests that a run has caused -/

/-- The request is among those of its run. -/
def DrStore.recorded (s : DrStore) (c : Caused) : Bool :=
  (s.runs.get? c.runId).any fun row => row.trafficRequestIds.contains c.requestId

/-- The call has yet to write the outcome of the run. -/
def ActiveCall.WorksOn (active : ActiveCall) (runId : String) : Prop :=
  ∃ status fields events, active.program.Calls (.updateRun runId status fields events)

/-- Every request that was created for a run is recorded there, unless a call is still dispatching
    the run. -/
def DrWorld.Accounted (w : DrWorld) : Prop :=
  ∀ c ∈ w.store.caused, w.store.recorded c = true ∨ ∃ active ∈ w.calls, active.WorksOn c.runId

/-- A dispatch is given up only if it has created nothing that is not recorded: its run does not
    fail, its last update is not refused, and its process does not stop. -/
def DrWorld.Finishes (w : DrWorld) (event : DrEvent) : Prop :=
  match event with
  | .perform call n =>
    match w.performing (.perform call n) with
    | some (_, .updateRun id .failed _ _) =>
      ∀ c ∈ w.store.caused, c.runId = id → w.store.recorded c = true
    | some (_, .updateRun id .awaitingApproval _ events) =>
      (∀ c ∈ w.store.caused, c.runId = id → w.store.recorded c = true)
        ∨ (∀ text, n.outcome ≠ .refused text)
          ∧ FreshEvents w.store.traffic.outbox (events.map fun event => event w.store.traffic.now)
    | _ => True
  | .stop call => ∀ active, w.calls[call]? = some active → ∀ c ∈ w.store.caused,
      active.WorksOn c.runId → w.store.recorded c = true
  | _ => True

section Works

variable {call : DrCall} {phase : Phase}

/-- A call works on its run until the last update. -/
theorem works_after (hworks : phase.stage.works = some run) {op : DrOp}
    (hallows : (drProtocol call).allows phase op)
    (hupdate : ¬ ∃ id status fields events, op = .updateRun id status fields events)
    (answer : op.Reply) : ((drProtocol call).after phase op answer).stage.works = some run := by
  cases op with
  | updateRun id status fields events => exact absurd ⟨id, status, fields, events, rfl⟩ hupdate
  | gslb => exact (works_submitted _ _).trans hworks
  | listMembers =>
    rw [show phase.stage.works = none from hallows] at hworks
    simp at hworks
  | getRun | createRun =>
    rw [hallows.1] at hworks
    simp [works] at hworks
  | _ => exact hworks

theorem DrOp.nonempty_reply (op : DrOp) : Nonempty op.Reply := by
  cases op with
  | gslb _ op =>
    cases op with
    | now => exact ⟨(0 : Int)⟩
    | newUuid => exact ⟨""⟩
    | _ => exact ⟨.error ""⟩
  | now => exact ⟨(0 : Int)⟩
  | newUuid => exact ⟨""⟩
  | _ => exact ⟨.error ""⟩

theorem Keeps.worksOn {p : DrProgram} (h : Keeps call p phase)
    (hworks : phase.stage.works = some run) :
    ∃ status fields events, p.Calls (.updateRun run.id status fields events) := by
  induction p generalizing phase with
  | done =>
    rw [show phase.stage.works = none from h] at hworks
    simp at hworks
  | call op _ ih =>
    obtain ⟨hallows, hnext⟩ := h
    by_cases hupdate : ∃ id status fields events, op = .updateRun id status fields events
    · obtain ⟨id, status, fields, events, rfl⟩ := hupdate
      replace hallows : phase.AllowsUpdate call id status fields events := hallows
      rw [← (hallows.outcome hworks).1]
      exact ⟨status, fields, events, .here _ _⟩
    · obtain ⟨answer⟩ := op.nonempty_reply
      obtain ⟨status, fields, events, hcalls⟩ :=
        ih answer (hnext answer) (works_after hworks hallows hupdate answer)
      exact ⟨status, fields, events, .later answer hcalls⟩

end Works

/-- The request is recorded, or a call dispatches its run. -/
def DrWorld.Finds (w : DrWorld) (phase : Nat → Phase) (c : Caused) : Prop :=
  w.store.recorded c = true ∨ ∃ (i : Nat) (a : ActiveCall) (run : SwitchRun),
    w.calls[i]? = some a ∧ (phase i).stage.works = some run ∧ run.id = c.runId

/-- A request that was created for a run is recorded, or is kept by the call that dispatches the run,
    which has it among those it is going to record, unless it does not know of it. -/
structure Tracked (w : DrWorld) (phase : Nat → Phase) (c : Caused) : Prop where
  kept : ∀ i a run requestIds, w.calls[i]? = some a →
    (phase i).stage = .dispatching run requestIds → run.id = c.runId → c.requestId ∈ requestIds
  found : w.Finds phase c

section Tracked

variable {sha : String → String} {w : DrWorld} {phase : Nat → Phase} {c : Caused}

theorem DrStore.recorded_iff (s : DrStore) (c : Caused) : s.recorded c = true
    ↔ ∃ row, s.runs.get? c.runId = some row ∧ c.requestId ∈ row.trafficRequestIds := by
  simp [recorded, Option.any_eq_true]

section Performs

variable {i : Nat} {n : DrNature} {call : DrCall} {known : Table Member String Member.id} {op : DrOp}
  {next : op.Reply → DrProgram}

theorem Performs.recorded (h : Performs w phase i n call known op next) (htracked : Tracked w phase c)
    (hrecorded : w.store.recorded c = true) : (w.perform i n).store.recorded c = true := by
  rw [recorded_iff] at hrecorded ⊢
  obtain ⟨row, hrow, hmem⟩ := hrecorded
  rcases h.get?_cases hrow with hrow | ⟨status, fields, hwritten, hrow⟩
  · exact ⟨row, hrow, hmem⟩
  refine ⟨_, hrow, ?_⟩
  show c.requestId ∈ fields.trafficRequestIds.getD row.trafficRequestIds
  cases hwritten with
  | confirmed _ _ _ _ _ _ hfields =>
    rw [hfields]
    exact hmem
  | ended run _ _ hid _ _ houtcome =>
    rcases houtcome with ⟨-, hfields⟩ | ⟨-, requestIds, hstage, hfields⟩
    · rw [hfields]
      exact hmem
    · rw [hfields]
      exact htracked.kept i _ run requestIds h.atWork hstage hid.symm

variable {events : List PendingEvent} {status : RunStatus} {fields : RunFields}

/-- An update whose events are new, and which is not refused, is committed. -/
theorem updateRun_committed {s : DrStore} {id : String}
    (hrefused : ∀ text, n.outcome ≠ .refused text)
    (hfresh : FreshEvents s.traffic.outbox (events.map fun event => event s.traffic.now)) :
    (drRepository.perform s (.updateRun id status fields events) n).1.runs
      = s.runs.update id _ (SwitchRun.id_updated s.traffic.now status fields) := by
  have hsome := (insertOutboxEvents_isSome_iff s.traffic.outbox s.traffic.now _).2 hfresh
  obtain ⟨outbox, houtbox⟩ := Option.isSome_iff_exists.1 hsome
  have hupdate : ∃ s', s.updateRun id status fields events = .ok (s', ()) := by
    simp [updateRun, emit, Traffic.emit, houtbox]
  obtain ⟨s', hs'⟩ := hupdate
  have hperform : (drRepository.perform s (.updateRun id status fields events) n).1 = s' := by
    show (n.outcome.commit s (s.updateRun id status fields events)).1 = s'
    rw [hs']
    cases houtcome : n.outcome with
    | refused text => exact absurd houtcome (hrefused text)
    | ok | lost => rfl
  rw [hperform]
  exact (updateRun_eq_ok hs').1

section Kept

variable (h : Performs w phase i n call known op next)

include h

theorem Performs.getElem?_self :
    (w.perform i n).calls[i]? = some ⟨call, known, next (drRepository.perform w.store op n).2⟩ := by
  rw [h.world]
  exact getElem?_set_self (List.getElem?_eq_some_iff.1 h.atWork).1

theorem Performs.getElem?_of_ne {j : Nat} (hne : j ≠ i) : (w.perform i n).calls[j]? = w.calls[j]? := by
  rw [h.world]
  exact getElem?_set_ne (Ne.symm hne)

end Kept

/-- A request that is created belongs to the run that the call dispatches, and to no other call. -/
theorem Performs.tracked_new {request : SwitchRequest} {drill : Option DrillReport}
    {events : List Event} {next : Except String Unit → DrProgram}
    (h : Performs w phase i n call known (.gslb run (.createSwitchRequest request drill events)) next) :
    Tracked (w.perform i n) (w.phaseAfter phase (.perform i n)) ⟨run.id, request.id⟩ := by
  obtain ⟨⟨before, hbefore⟩, -⟩ := h.allows
  have hworks : (phase i).stage.works = some run := by rw [hbefore]; rfl
  refine ⟨fun j a run' requestIds ha hstage hid => ?_, .inr ⟨i, _, run, h.getElem?_self, ?_, rfl⟩⟩
  · rcases h.getElem?_cases ha with ⟨hne, ha, hphase⟩ | ⟨rfl, rfl, hphase⟩
    · rw [hphase] at hstage
      refine absurd (h.inv.alone j i a _ run' run ha h.atWork ?_ hworks hid) hne
      rw [hstage]
      rfl
    rw [hphase] at hstage
    cases hanswer : (drRepository.perform w.store
        (.gslb run (.createSwitchRequest request drill events)) n).2 with
    | error err =>
      simp only [hanswer, drProtocol, hbefore, Submission.after, submitted] at hstage
      simp at hstage
    | ok _ =>
      simp only [hanswer, drProtocol, hbefore, Submission.after, submitted,
        Stage.dispatching.injEq] at hstage
      rw [← hstage.2]
      exact mem_append_right _ (mem_singleton_self _)
  · rw [h.phases, update_self]
    exact works_after hworks h.allows (by simp) _

theorem Tracked.finds_call (h : Tracked w phase c) (call : DrCall) :
    ((drMachine sha).next w (.call call)).Finds (w.phaseAfter phase (.call call)) c := by
  refine h.found.imp_right ?_
  rintro ⟨j, a, run, ha, hworks, hid⟩
  have hlt : j < w.calls.length := (List.getElem?_eq_some_iff.1 ha).1
  refine ⟨j, a, run, (getElem?_append_left hlt).trans ha, ?_, hid⟩
  rw [phaseAfter, update_of_ne (by omega)]
  exact hworks

section Old

variable (hc : c ∈ w.store.caused) (htracked : Tracked w phase c)
include hc htracked

theorem Performs.finishes {id : String} {next : Except String Unit → DrProgram}
    (h : Performs w phase i n call known (.updateRun id status fields events) next)
    (hworks : (phase i).stage.works = some run) (hid : run.id = c.runId)
    (hfinishes : w.Finishes (.perform i n)) : (w.perform i n).store.recorded c = true := by
  have hallows : (phase i).AllowsUpdate call id status fields events := h.allows
  simp only [Finishes, h.performing] at hfinishes
  obtain ⟨row, hrow, -⟩ := h.backed.working run hworks
  obtain ⟨rfl, ⟨rfl, -⟩ | ⟨rfl, requestIds, hstage, hfields⟩⟩ := hallows.outcome hworks
  · exact h.recorded htracked (hfinishes c hc hid.symm)
  rcases hfinishes with hrecorded | ⟨hrefused, hfresh⟩
  · exact h.recorded htracked (hrecorded c hc hid.symm)
  -- The update is committed, and writes what the call has kept.
  rw [recorded_iff, h.world, updateRun_committed hrefused hfresh, ← hid,
    get?_update_self _ _ _ _ hrow]
  refine ⟨_, rfl, ?_⟩
  show c.requestId ∈ fields.trafficRequestIds.getD row.trafficRequestIds
  rw [hfields]
  exact htracked.kept i _ run requestIds h.atWork hstage hid

theorem Performs.kept (h : Performs w phase i n call known op next)
    (hafter : ((drProtocol call).after (phase i) op (drRepository.perform w.store op n).2).stage
      = .dispatching run requestIds) (hid : run.id = c.runId) : c.requestId ∈ requestIds := by
  obtain ⟨row, hrow, hstatus⟩ := h.inv.caused c hc
  cases h.backed.gets n h.allows hafter with
  | same hstage => exact htracked.kept i _ run requestIds h.atWork hstage hid
  | found _ _ _ before existing _ hstage hids _ | made request _ _ before _ hstage hids _ =>
    rw [hids]
    exact mem_append_left _ (htracked.kept i _ run before h.atWork hstage hid)
  | created _ _ _ hinsert =>
    -- A new run has caused nothing.
    simp [← hid, get?_eq_none_of_insert? hinsert] at hrow
  | confirmed found hrun _ hstored hpending =>
    -- Neither has one that waits for its data layer.
    rw [← hid, hrun] at hrow
    obtain rfl : found = row := by simpa [hstored] using hrow
    exact absurd hpending hstatus

/-- A request that had been created before is found after the operation. -/
theorem Performs.finds_old (h : Performs w phase i n call known op next)
    (hfinishes : w.Finishes (.perform i n)) :
    (w.perform i n).Finds (w.phaseAfter phase (.perform i n)) c := by
  rcases htracked.found with hrecorded | ⟨j, a, run, ha, hworks, hid⟩
  · exact .inl (h.recorded htracked hrecorded)
  by_cases hj : j = i
  swap
  · refine .inr ⟨j, a, run, (h.getElem?_of_ne hj).trans ha, ?_, hid⟩
    rw [h.phases, update_of_ne hj]
    exact hworks
  subst hj
  by_cases hupdate : ∃ id status fields events, op = .updateRun id status fields events
  · obtain ⟨id, status, fields, events, rfl⟩ := hupdate
    exact .inl (h.finishes hc htracked hworks hid hfinishes)
  · refine .inr ⟨j, _, run, h.getElem?_self, ?_, hid⟩
    rw [h.phases, update_self]
    exact works_after hworks h.allows hupdate _

theorem DrInv.finds_stop (h : DrInv w phase) (hfinishes : w.Finishes (.stop i)) :
    (w.stop i).Finds (w.phaseAfter phase (.stop i)) c := by
  rcases htracked.found with hrecorded | ⟨j, a, run, ha, hworks, hid⟩
  · exact .inl (by rwa [stop_store])
  by_cases hj : j = i
  · -- The call still had to write the outcome.
    subst hj
    have hworksOn := (h.keeps j a ha).worksOn hworks
    rw [hid] at hworksOn
    exact .inl (by rw [stop_store]; exact hfinishes a ha c hc hworksOn)
  refine .inr ⟨j, a, run, ?_, ?_, hid⟩
  · unfold DrWorld.stop
    split
    · exact (getElem?_set_ne (Ne.symm hj)).trans ha
    · exact ha
  · cases hactive : w.calls[i]? with
    | none => simpa [phaseAfter, hactive] using hworks
    | some => simpa [phaseAfter, hactive, update_of_ne hj] using hworks

end Old

end Performs

theorem DrInv.tracked_of_finds (h : DrInv w phase) (hc : c ∈ w.store.caused)
    (htracked : Tracked w phase c) {event : DrEvent}
    (hfinds : ((drMachine sha).next w event).Finds (w.phaseAfter phase event) c) :
    Tracked ((drMachine sha).next w event) (w.phaseAfter phase event) c := by
  refine ⟨fun j a run requestIds ha hstage hid => ?_, hfinds⟩
  rcases h.phase_cases ha with ⟨a', ha', hphase⟩ | hidle
    | ⟨n, call, known, op, next, rfl, hperforms, hphase⟩
  · rw [hphase] at hstage
    exact htracked.kept j a' run requestIds ha' hstage hid
  · rw [hidle] at hstage
    simp at hstage
  · rw [hphase] at hstage
    exact hperforms.kept hc htracked hstage hid

theorem DrInv.tracked (h : DrInv w phase) (htracked : ∀ c ∈ w.store.caused, Tracked w phase c)
    (event : DrEvent) (hfinishes : w.Finishes event) :
    ∀ c ∈ ((drMachine sha).next w event).store.caused,
      Tracked ((drMachine sha).next w event) (w.phaseAfter phase event) c := by
  intro c hc
  cases event with
  | perform i n =>
    rcases h.perform_cases i n with ⟨hw, hphase⟩ | ⟨call, known, op, next, hperforms⟩
    · show Tracked (w.perform i n) _ c
      replace hc : c ∈ (w.perform i n).store.caused := hc
      rw [hw] at hc
      rw [hw, hphase]
      exact htracked c hc
    have hold : c ∈ w.store.caused → Tracked ((drMachine sha).next w (.perform i n))
        (w.phaseAfter phase (.perform i n)) c := fun hc =>
      h.tracked_of_finds hc (htracked c hc) (hperforms.finds_old hc (htracked c hc) hfinishes)
    rcases hperforms.effect.caused with hsame | ⟨run, request, drill, events, rfl, hcaused⟩
    · exact hold (hsame ▸ hc)
    replace hc : c ∈ (w.perform i n).store.caused := hc
    rw [hcaused, mem_append, mem_singleton] at hc
    rcases hc with hc | rfl
    · exact hold hc
    · exact hperforms.tracked_new
  | call call => exact h.tracked_of_finds hc (htracked c hc) ((htracked c hc).finds_call call)
  | stop i =>
    have hc' : c ∈ w.store.caused := stop_store w i ▸ hc
    exact h.tracked_of_finds hc' (htracked c hc') (h.finds_stop hc' (htracked c hc') hfinishes)
  | _ => exact h.tracked_of_finds hc (htracked c hc) (htracked c hc).found

theorem DrInv.accounted (h : DrInv w phase) (htracked : ∀ c ∈ w.store.caused, Tracked w phase c) :
    w.Accounted := by
  intro c hc
  refine (htracked c hc).found.imp_right ?_
  rintro ⟨i, a, run, ha, hworks, hid⟩
  refine ⟨a, mem_of_getElem? ha, ?_⟩
  rw [← hid]
  exact (h.keeps i a ha).worksOn hworks

end Tracked

/-- As long as no dispatch is given up after it has created a request, every request that was created
    for a run is among the recorded ones, or the run is still being dispatched. -/
theorem caused_requests_accounted (sha : String → String) (s : DrStore) (events : List DrEvent)
    (hfinishes : ∀ x ∈ (drMachine sha).trace (.start s) events, x.pre.Finishes x.call) :
    ((drMachine sha).run (.start s) events).Accounted := by
  have hstart : ∃ phase, DrInv (.start s) phase
      ∧ ∀ c ∈ (start s).store.caused, Tracked (.start s) phase c :=
    ⟨fun _ => .start, drInv_start s _, fun c hc => absurd hc (by simp [start])⟩
  obtain ⟨phase, hinv, htracked⟩ := (drMachine sha).run_induction_of_trace
    (P := fun w => ∃ phase, DrInv w phase ∧ ∀ c ∈ w.store.caused, Tracked w phase c)
    (C := fun w event => w.Finishes event)
    (fun w event hevent hpre => by
      obtain ⟨phase, hinv, htracked⟩ := hpre
      exact ⟨_, hinv.next event, hinv.tracked htracked event hevent⟩) hstart hfinishes
  exact hinv.accounted htracked

/-- A check for the condition, for a world in which nothing stops. -/
def DrWorld.finishesPlainly (w : DrWorld) : DrEvent → Bool
  | .perform call n =>
    match w.performing (.perform call n) with
    | some (_, .updateRun _ .failed _ _) => false
    | some (_, .updateRun _ .awaitingApproval _ events) =>
      (match n.outcome with | .refused _ => false | _ => true)
        && (insertOutboxEvents w.store.traffic.outbox w.store.traffic.now
          (events.map fun event => event w.store.traffic.now)).isSome
    | _ => true
  | .stop _ => false
  | _ => true

theorem DrWorld.finishes_of_plainly {w : DrWorld} {event : DrEvent}
    (h : w.finishesPlainly event = true) : w.Finishes event := by
  cases event with
  | perform =>
    simp only [finishesPlainly] at h
    simp only [Finishes]
    split at h
    · simp at h
    · rw [Bool.and_eq_true, insertOutboxEvents_isSome_iff] at h
      refine .inr ⟨fun text hrefused => ?_, h.2⟩
      simp [hrefused] at h
    · trivial
  | stop => simp [finishesPlainly] at h
  | _ => trivial

/-- The failover of the group causes one request, which is recorded. -/
theorem caused_requests_accounted_of_failover :
    ((drMachine fun _ => "").run (.start emptyDrWorld.store) failoverEvents).store.caused
      = [⟨sampleUuid "25", sampleUuid "30"⟩]
    ∧ ((drMachine fun _ => "").run (.start emptyDrWorld.store) failoverEvents).Accounted := by
  obtain ⟨hplainly, hcaused⟩ :
      (∀ x ∈ (drMachine fun _ => "").trace (.start emptyDrWorld.store) failoverEvents,
        x.pre.finishesPlainly x.call = true)
      ∧ ((drMachine fun _ => "").run (.start emptyDrWorld.store) failoverEvents).store.caused
        = [⟨sampleUuid "25", sampleUuid "30"⟩] := by
    decide +kernel
  exact ⟨hcaused, caused_requests_accounted (fun _ => "") emptyDrWorld.store failoverEvents
    fun x hx => finishes_of_plainly (hplainly x hx)⟩

def unknownService (digits : String) : DrNature :=
  { answers digits with traffic := { (answers digits).traffic with service := none } }

/-- The failover of a group with two traffic services, of which the second is unknown. -/
def halfFailoverEvents : List DrEvent :=
  groupEvents
    ++ served 2 (.addMember (sampleUuid "01") "gslb_service" (sampleUuid "a1") "shop" drOperator)
      ["14", "15", "16", "17"]
    ++ served 3 (.initiateSwitch (sampleUuid "01") "failover" "outage" "k1" drOperator)
      ["20", "21", "22", "23", "24", "25", "26", "27", "28", "29", "2a", "2b", "2c", "2d", "2e", "2f",
       "30", "31", "32", "33", "34", "35"]
    ++ [.perform 3 (unknownService "36"), .perform 3 (answers "37"), .perform 3 (answers "38")]

def afterHalfFailover : DrWorld := (drMachine fun _ => "").run emptyDrWorld halfFailoverEvents

/-- The run has failed without any request, while the one that it has caused waits for approval. -/
theorem failed_dispatch_is_not_accounted :
    afterHalfFailover.store.caused = [⟨sampleUuid "25", sampleUuid "30"⟩]
      ∧ (afterHalfFailover.store.runs.get? (sampleUuid "25")).map
          (fun run => (run.status, run.trafficRequestIds)) = some (.failed, [])
      ∧ afterHalfFailover.store.traffic.status (sampleUuid "30") = some .pendingApproval
      ∧ ¬ afterHalfFailover.Accounted := by
  obtain ⟨hcaused, hrun, hstatus, hunrecorded, hdone⟩ :
      afterHalfFailover.store.caused = [⟨sampleUuid "25", sampleUuid "30"⟩]
      ∧ (afterHalfFailover.store.runs.get? (sampleUuid "25")).map
          (fun run => (run.status, run.trafficRequestIds)) = some (.failed, [])
      ∧ afterHalfFailover.store.traffic.status (sampleUuid "30") = some .pendingApproval
      ∧ afterHalfFailover.store.recorded ⟨sampleUuid "25", sampleUuid "30"⟩ = false
      ∧ ∀ active ∈ afterHalfFailover.calls,
        (match active.program with | .done _ => true | .call _ _ => false) = true := by
    decide +kernel
  refine ⟨hcaused, hrun, hstatus, fun haccounted => ?_⟩
  rcases haccounted _ (hcaused ▸ mem_singleton_self _)
    with hrecorded | ⟨active, hactive, status, fields, events, hcalls⟩
  · rw [hunrecorded] at hrecorded
    simp at hrecorded
  have hprogram := hdone active hactive
  cases hp : active.program with
  | done result =>
    rw [hp] at hcalls
    exact Program.calls_done result _ hcalls
  | call =>
    rw [hp] at hprogram
    simp at hprogram

/-! ## The requests that a run has recorded -/

/-- The request is one for a traffic member of the group, in this direction. -/
def Attached (s : DrStore) (groupId : String) (direction : Direction) (requestId : String) : Prop :=
  ∃ request, s.traffic.requests.get? requestId = some request ∧ request.drGroupRef = groupId
    ∧ request.intentKind = direction.kind.text
    ∧ ∃ m ∈ s.members.rows, m.groupId = groupId ∧ m.memberType = .gslbService
      ∧ uuidText m.refId = uuidText request.serviceId

def DrStore.AllAttached (s : DrStore) : Prop :=
  ∀ run ∈ s.runs.rows, ∀ requestId ∈ run.trafficRequestIds,
    Attached s run.groupId run.direction requestId

/-- A lookup for a run finds no request but one for the group and the direction of the run, and a
    request for a run is created by a call that names the group as the database writes it. -/
def DrWorld.findsOwn (w : DrWorld) (event : DrEvent) : Bool :=
  match w.performing event with
  | some (_, .gslb run (.getSwitchRequestByKey tenantId serviceId idempotencyKey)) =>
    w.store.traffic.requests.rows.all fun row =>
      !(row.tenantId == tenantId && uuidText row.serviceId == uuidText serviceId
        && row.idempotencyKey == idempotencyKey)
      || (row.drGroupRef == run.groupId && row.intentKind == run.direction.kind.text)
  | some (active, .gslb run (.createSwitchRequest ..)) => active.call.groupRef run == run.groupId
  | _ => true

def DrWorld.GotAttached (w : DrWorld) (phase : Nat → Phase) : Prop :=
  ∀ i a run requestIds, w.calls[i]? = some a → (phase i).stage = .dispatching run requestIds →
    ∀ requestId ∈ requestIds, Attached w.store run.groupId run.direction requestId

section Attached

variable {sha : String → String} {w : DrWorld} {phase : Nat → Phase} {s s' : DrStore}

theorem Attached.retains {groupId : String} {direction : Direction} {requestId : String}
    (h : Attached s groupId direction requestId) (hretains : s.Retains s') :
    Attached s' groupId direction requestId := by
  obtain ⟨request, hget, hgroup, hkind, m, hm, hmember⟩ := h
  obtain ⟨request', hget', hservice', hkind', hgroup'⟩ := hretains.traffic.requests requestId _ hget
  refine ⟨request', hget', hgroup'.trans hgroup, hkind'.trans hkind, m, hretains.members m hm, ?_⟩
  rw [hservice']
  exact hmember

/-- A service that a call has read among the traffic members is one of them. -/
theorem Backed.includes {call : DrCall} {known : Table Member String Member.id} {phase : Phase}
    (h : Backed s call known phase) {serviceId : String}
    (hincludes : phase.Includes run serviceId) :
    ∃ m ∈ s.members.rows, m.groupId = run.groupId ∧ m.memberType = .gslbService
      ∧ m.refId = serviceId := by
  obtain ⟨members, hread, m, hm, href⟩ := hincludes
  obtain ⟨hmem, htype⟩ := mem_filter.1 hm
  obtain ⟨hstored, hgroup⟩ := (h.read _ _ hread).1 m hmem
  exact ⟨m, hstored, hgroup, by simpa using htype, href⟩

variable (hattached : w.store.AllAttached) (hgot : w.GotAttached phase)
include hattached hgot

section Performs

variable {i : Nat} {n : DrNature} {call : DrCall} {known : Table Member String Member.id} {op : DrOp}
  {next : op.Reply → DrProgram} (h : Performs w phase i n call known op next)
include h

theorem Performs.attached (hfinds : w.findsOwn (.perform i n) = true)
    (hafter : ((drProtocol call).after (phase i) op (drRepository.perform w.store op n).2).stage
      = .dispatching run requestIds) :
    ∀ requestId ∈ requestIds, Attached (w.perform i n).store run.groupId run.direction requestId := by
  have hretains := h.effect.retains
  have hbefore : ∀ before, (phase i).stage = .dispatching run before → ∀ requestId ∈ before,
      Attached (w.perform i n).store run.groupId run.direction requestId :=
    fun before hstage requestId hmem =>
      (hgot i _ run before h.atWork hstage requestId hmem).retains hretains
  intro requestId hmem
  cases h.backed.gets n h.allows hafter with
  | same hstage => exact hbefore requestIds hstage requestId hmem
  | found _ _ _ before existing heq hstage hids hlookup =>
    subst heq hids
    rcases mem_append.1 hmem with hmem | hmem
    · exact hbefore before hstage requestId hmem
    rw [mem_singleton.1 hmem]
    have hrow := mem_of_find?_eq_some hlookup
    have hkey := find?_some hlookup
    simp only [findsOwn, h.performing, all_eq_true] at hfinds
    have hown := hfinds existing hrow
    simp only [Bool.and_eq_true, beq_iff_eq] at hkey
    simp only [hkey, beq_self_eq_true, Bool.and_self, Bool.not_true, Bool.false_or, Bool.and_eq_true,
      beq_iff_eq] at hown
    refine Attached.retains ⟨existing, get?_of_mem hrow, hown.1, hown.2, ?_⟩ hretains
    obtain ⟨m, hm, hgroup, htype, href⟩ := h.backed.includes h.allows.2
    exact ⟨m, hm, hgroup, htype, by rw [href, hkey.1.2]⟩
  | made request _ _ before heq hstage hids hstored =>
    subst heq hids
    rcases mem_append.1 hmem with hmem | hmem
    · exact hbefore before hstage requestId hmem
    rw [mem_singleton.1 hmem]
    obtain ⟨hincludes, hkind, hgroup⟩ := h.allows.2
    obtain ⟨m, hm, hmember, htype, href⟩ := h.backed.includes hincludes
    simp only [findsOwn, h.performing, beq_iff_eq] at hfinds
    refine ⟨request, ?_, hgroup.trans hfinds, hkind, m, hretains.members m hm, hmember, htype,
      congrArg _ href⟩
    rw [h.world]
    exact hstored
  | created _ _ hids =>
    rw [hids] at hmem
    simp at hmem
  | confirmed found hrun hids hstored =>
    subst hrun hids
    exact (hattached found (mem_of_get? hstored) requestId hmem).retains hretains

theorem Performs.allAttached : (w.perform i n).store.AllAttached := by
  have hretains := h.effect.retains
  have hold : ∀ row ∈ w.store.runs.rows, ∀ requestId ∈ row.trafficRequestIds,
      Attached (w.perform i n).store row.groupId row.direction requestId :=
    fun row hrow requestId hmem => (hattached row hrow requestId hmem).retains hretains
  intro row hrow requestId hmem
  cases h.effect.runs with
  | kept hruns =>
    rw [hruns] at hrow
    exact hold row hrow requestId hmem
  | created _ _ heq hinsert =>
    subst heq
    rcases (mem_insert? hinsert).1 hrow with hrow | rfl
    · exact hold row hrow requestId hmem
    · rw [h.allows.2.1] at hmem
      simp at hmem
  | updated id _ fields _ heq hruns hemit =>
    subst heq
    rw [hruns, mem_update] at hrow
    obtain ⟨row₀, hrow₀, rfl⟩ := hrow
    by_cases hid : row₀.id = id
    swap
    · rw [if_neg hid] at hmem ⊢
      exact hold row₀ hrow₀ requestId hmem
    rw [if_pos hid] at hmem ⊢
    replace hmem : requestId ∈ fields.trafficRequestIds.getD row₀.trafficRequestIds := hmem
    show Attached _ row₀.groupId row₀.direction requestId
    cases h.backed.written h.allows hemit with
    | confirmed _ _ _ _ _ _ hfields =>
      rw [hfields] at hmem
      exact hold row₀ hrow₀ requestId hmem
    | ended run _ hworks hid' _ _ houtcome =>
      rcases houtcome with ⟨-, hfields⟩ | ⟨-, requestIds, hstage, hfields⟩
      · rw [hfields] at hmem
        exact hold row₀ hrow₀ requestId hmem
      obtain ⟨row', hget, -, hgroup, hdirection⟩ := h.backed.working run hworks
      obtain rfl : row' = row₀ := by
        rw [← hid', ← hid, get?_of_mem hrow₀] at hget
        exact (Option.some.inj hget).symm
      rw [hfields] at hmem
      rw [hgroup, hdirection]
      exact (hgot i _ run requestIds h.atWork hstage requestId hmem).retains hretains

end Performs

/-- Every event whose lookup finds what is the run's own keeps all requests attached. -/
theorem DrInv.attached (h : DrInv w phase) (event : DrEvent) (hfinds : w.findsOwn event = true) :
    ((drMachine sha).next w event).store.AllAttached
      ∧ ((drMachine sha).next w event).GotAttached (w.phaseAfter phase event) := by
  have hretains := w.next_retains sha event
  refine ⟨?_, fun j a run requestIds ha hstage requestId hmem => ?_⟩
  · rcases h.runs_cases event with hruns | ⟨i, n, call, known, op, next, rfl, hperforms⟩
    · intro run hrun requestId hmem
      rw [hruns] at hrun
      exact (hattached run hrun requestId hmem).retains hretains
    · exact hperforms.allAttached hattached hgot
  rcases h.phase_cases ha with ⟨a', ha', hphase⟩ | hidle
    | ⟨n, call, known, op, next, rfl, hperforms, hphase⟩
  · rw [hphase] at hstage
    exact (hgot j a' run requestIds ha' hstage requestId hmem).retains hretains
  · rw [hidle] at hstage
    simp at hstage
  · rw [hphase] at hstage
    exact hperforms.attached hattached hgot hfinds hstage requestId hmem

end Attached

/-- As long as the lookups of the dispatches find only requests for the group and the direction of
    their run, every recorded request is one for a traffic member of the run's group, in the
    direction of the run. -/
theorem recorded_requests_attached (sha : String → String) (s : DrStore) (events : List DrEvent)
    (hstart : s.AllAttached)
    (hfinds : ∀ x ∈ (drMachine sha).trace (.start s) events, x.pre.findsOwn x.call = true) :
    ((drMachine sha).run (.start s) events).store.AllAttached := by
  have hbegin : ∃ phase, DrInv (.start s) phase ∧ (start s).store.AllAttached
      ∧ (start s).GotAttached phase :=
    ⟨fun _ => .start, drInv_start s _, hstart, fun i a run requestIds ha => absurd ha (by
      simp [start])⟩
  obtain ⟨phase, -, hattached, -⟩ := (drMachine sha).run_induction_of_trace
    (P := fun w => ∃ phase, DrInv w phase ∧ w.store.AllAttached ∧ w.GotAttached phase)
    (C := fun w event => w.findsOwn event = true)
    (fun w event hevent hpre => by
      obtain ⟨phase, hinv, hattached, hgot⟩ := hpre
      exact ⟨_, hinv.next event, hinv.attached hattached hgot event hevent⟩) hbegin hfinds
  exact hattached

/-- The failover of the group records a request of its own. -/
theorem recorded_requests_attached_of_failover :
    afterFailover.runs.rows.map SwitchRun.trafficRequestIds = [[sampleUuid "30"]]
      ∧ ((drMachine fun _ => "").run (.start emptyDrWorld.store) failoverEvents).store.AllAttached := by
  have hempty : emptyDrWorld.store.AllAttached := fun run hrun => absurd hrun (by
    simp [emptyDrWorld, start, empty])
  obtain ⟨hrecorded, hfinds⟩ : afterFailover.runs.rows.map SwitchRun.trafficRequestIds = [[sampleUuid "30"]]
      ∧ ∀ x ∈ (drMachine fun _ => "").trace (.start emptyDrWorld.store) failoverEvents,
        x.pre.findsOwn x.call = true := by
    decide +kernel
  exact ⟨hrecorded, recorded_requests_attached (fun _ => "") emptyDrWorld.store failoverEvents
    hempty hfinds⟩

/-- Two groups with one traffic service, and a failover of each with the same key. -/
def sharedServiceEvents : List DrEvent :=
  failoverEvents ++ served 3 (.createGroup "mirror" "north" "south" drOperator) ["02", "03", "04"]
    ++ served 4 (.addMember (sampleUuid "03") "gslb_service" (sampleUuid "a0") "app" drOperator)
      ["14", "15", "16", "17"]
    ++ served 5 (.initiateSwitch (sampleUuid "03") "failover" "outage" "k1" drOperator)
      ["60", "61", "62", "63", "64", "65", "66", "67", "68", "69", "6a", "6b", "6c", "6d", "6e", "6f",
       "70", "71", "72", "73", "74", "75", "76"]

def afterSharedService : DrStore := ((drMachine fun _ => "").run emptyDrWorld sharedServiceEvents).store

/-- The run of the second group has recorded the request of the first one. -/
theorem shared_service_request_is_not_attached :
    (afterSharedService.runs.get? (sampleUuid "65")).map (fun run => (run.groupId, run.trafficRequestIds))
        = some (sampleUuid "03", [sampleUuid "30"])
      ∧ (afterSharedService.traffic.requests.get? (sampleUuid "30")).map SwitchRequest.drGroupRef
        = some (sampleUuid "01")
      ∧ ¬ afterSharedService.AllAttached := by
  obtain ⟨hrun, hrequest⟩ : (afterSharedService.runs.get? (sampleUuid "65")).map
        (fun run => (run.groupId, run.trafficRequestIds)) = some (sampleUuid "03", [sampleUuid "30"])
      ∧ (afterSharedService.traffic.requests.get? (sampleUuid "30")).map SwitchRequest.drGroupRef
        = some (sampleUuid "01") := by
    decide +kernel
  refine ⟨hrun, hrequest, fun hattached => ?_⟩
  obtain ⟨run, hget, heq⟩ := Option.map_eq_some_iff.1 hrun
  obtain ⟨hgroup, hids⟩ := Prod.mk.inj heq
  obtain ⟨request, hstored, href, -⟩ := hattached run (mem_of_get? hget) (sampleUuid "30")
    (by simp [hids])
  rw [hstored, Option.map_some, href, hgroup] at hrequest
  exact absurd hrequest (by decide)

end HnbCloud.Dr
