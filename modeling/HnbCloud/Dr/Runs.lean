import HnbCloud.Dr.Protocol
import HnbCloud.Gslb.Retention

set_option autoImplicit false

/-! # Runs under concurrent calls

What the calls of `drMachine` keep true of the stored runs, for every interleaving and whatever fails.
A run that waits for its data layer is taken over by one call only: the update that confirms it also
inserts an event whose key is unique. A run that is dispatched is dispatched by one call, and is
stored as confirmed until that call has written its outcome. -/

namespace HnbCloud.Dr

open Messaging Iam Gslb List Table Function DrStore SwitchRun Stage Traffic

/-! ## What one operation does -/

variable {events : List PendingEvent} {run : SwitchRun} {id : String} {status : RunStatus}
  {fields : RunFields} {op : DrOp} {s' : DrStore}

namespace DrStore

/-- What stays: requests, events and members. -/
structure Retains (s s' : DrStore) : Prop where
  traffic : s.traffic.Retains s'.traffic
  members : ∀ m ∈ s.members.rows, m ∈ s'.members.rows

/-- What an operation does to the runs. -/
inductive RunChange (s : DrStore) (op : DrOp) (s' : DrStore) : Prop where
  | kept (runs : s'.runs = s.runs)
  | created (run : SwitchRun) (events : List PendingEvent) (eq : op = .createRun run events)
      (inserted : s.runs.insert? run = some s'.runs)
  | updated (id : String) (status : RunStatus) (fields : RunFields) (events : List PendingEvent)
      (eq : op = .updateRun id status fields events)
      (runs : s'.runs = s.runs.update id _ (id_updated s.traffic.now status fields))
      (emitted : s.traffic.emit (events.map fun event => event s.traffic.now) = .ok s'.traffic)

variable {s s' : DrStore}

theorem Retains.refl (s : DrStore) : Retains s s := ⟨.refl _, fun _ h => h⟩

theorem emit_eq_ok (h : s.emit events = .ok (s', ())) :
    s.traffic.emit (events.map fun event => event s.traffic.now) = .ok s'.traffic
      ∧ s' = { s with traffic := s'.traffic } := by
  unfold emit at h
  split at h
  · simp at h
  next traffic htraffic =>
  obtain rfl := congrArg Prod.fst (Except.ok.inj h)
  exact ⟨htraffic, rfl⟩

theorem createRun_eq_ok (h : s.createRun run events = .ok (s', ())) :
    s.runs.insert? run = some s'.runs ∧ s.Retains s' ∧ s'.caused = s.caused := by
  unfold createRun at h
  split_ifs at h
  split at h
  · simp at h
  next runs hinsert =>
  obtain ⟨hemit, hs'⟩ := emit_eq_ok h
  rw [hs']
  exact ⟨hinsert, ⟨emit_retains hemit, fun _ h => h⟩, rfl⟩

theorem updateRun_eq_ok (h : s.updateRun id status fields events = .ok (s', ())) :
    s'.runs = s.runs.update id _ (id_updated s.traffic.now status fields)
      ∧ s.traffic.emit (events.map fun event => event s.traffic.now) = .ok s'.traffic
      ∧ s.Retains s' ∧ s'.caused = s.caused := by
  obtain ⟨hemit, hs'⟩ := emit_eq_ok h
  rw [hs']
  exact ⟨rfl, hemit, ⟨emit_retains hemit, fun _ h => h⟩, rfl⟩

theorem addMember_eq_ok {member : Member} (h : s.addMember member = .ok (s', ())) :
    s.Retains s' ∧ s'.runs = s.runs ∧ s'.caused = s.caused := by
  unfold addMember at h
  split_ifs at h
  split at h
  · simp at h
  next members hinsert =>
  obtain rfl := congrArg Prod.fst (Except.ok.inj h)
  refine ⟨⟨.refl _, fun m hm => ?_⟩, rfl, rfl⟩
  exact (mem_insert? hinsert).2 (.inl hm)

theorem createGroup_eq_ok {group : Group} (h : s.createGroup group = .ok (s', ())) :
    s.Retains s' ∧ s'.runs = s.runs ∧ s'.caused = s.caused := by
  unfold createGroup at h
  split at h
  · simp at h
  split at h
  · simp at h
  · obtain rfl := congrArg Prod.fst (Except.ok.inj h)
    exact ⟨⟨.refl _, fun _ h => h⟩, rfl, rfl⟩

/-- What an operation does. -/
structure Effect (s : DrStore) (op : DrOp) (s' : DrStore) : Prop where
  retains : s.Retains s'
  runs : s.RunChange op s'
  caused : s'.caused = s.caused ∨ ∃ run request drill events,
    op = .gslb run (.createSwitchRequest request drill events)
      ∧ s'.caused = s.caused ++ [⟨run.id, request.id⟩]

theorem Effect.refl (s : DrStore) (op : DrOp) : s.Effect op s := ⟨.refl s, .kept rfl, .inl rfl⟩

end DrStore

theorem gslb_effect (s : DrStore) (run : SwitchRun) (op : RepoOp) (n : RepoNature) :
    s.Effect (.gslb run op) (s.gslb run op n).1 := by
  refine ⟨⟨repository_retains _ _ _, fun _ h => h⟩, .kept rfl, ?_⟩
  cases hcreated : created s.traffic (repository.perform s.traffic op n).1 op with
  | none => exact .inl (by simp [gslb, hcreated])
  | some requestId =>
    cases op with
    | createSwitchRequest request drill events =>
      obtain rfl : request.id = requestId := by
        simp only [created] at hcreated
        split_ifs at hcreated
        exact Option.some.inj hcreated
      exact .inr ⟨run, request, drill, events, rfl, by simp [gslb, hcreated]⟩
    | _ => simp [created] at hcreated

theorem perform_effect (s : DrStore) (op : DrOp) (n : DrNature) :
    s.Effect op (drRepository.perform s op n).1 := by
  have hquery : ∀ {α : Type} (a : α), s.Effect op (n.outcome.commit s (.ok (s, a))).1 :=
    fun a => commit_induction n.outcome (.refl s op) fun s' a' h =>
      (Prod.mk.inj (Except.ok.inj h)).1 ▸ .refl s op
  cases op with
  | createGroup =>
    refine commit_induction _ (.refl s _) fun s' _ h => ?_
    obtain ⟨hretains, hruns, hcaused⟩ := createGroup_eq_ok h
    exact ⟨hretains, .kept hruns, .inl hcaused⟩
  | addMember =>
    refine commit_induction _ (.refl s _) fun s' _ h => ?_
    obtain ⟨hretains, hruns, hcaused⟩ := addMember_eq_ok h
    exact ⟨hretains, .kept hruns, .inl hcaused⟩
  | createRun run events =>
    refine commit_induction _ (.refl s _) fun s' _ h => ?_
    obtain ⟨hinsert, hretains, hcaused⟩ := createRun_eq_ok h
    exact ⟨hretains, .created run events rfl hinsert, .inl hcaused⟩
  | updateRun id status fields events =>
    refine commit_induction _ (.refl s _) fun s' _ h => ?_
    obtain ⟨hruns, hemit, hretains, hcaused⟩ := updateRun_eq_ok h
    exact ⟨hretains, .updated id status fields events rfl hruns hemit, .inl hcaused⟩
  | getGroup =>
    refine commit_induction _ (.refl s _) fun s' _ h => ?_
    rw [getGroup_fst h]
    exact .refl s _
  | gslb run op => exact gslb_effect s run op n.traffic
  | now | newUuid => exact .refl s _
  | _ => exact hquery _

/-! ## What the phase of a call says about the store -/

/-- The confirmation of the run has been sent, under its unique key. -/
def DrStore.Confirmed (s : DrStore) (runId tenantId : String) : Prop :=
  ∃ row ∈ s.traffic.outbox.rows, row.event.tenantId = tenantId
    ∧ row.event.messageType = eventDataLayerConfirmed
    ∧ row.event.idempotencyKey = "dr-" ++ runId ++ "-" ++ eventDataLayerConfirmed

/-- The call, which found the members `known` when it began, is in this phase. -/
structure Backed (s : DrStore) (call : DrCall) (known : Table Member String Member.id)
    (phase : Phase) : Prop where
  stored : ∀ m ∈ known.rows, m ∈ s.members.rows
  read : ∀ groupId members, phase.read = some (groupId, members) →
    (∀ m ∈ members, m ∈ s.members.rows ∧ m.groupId = groupId)
      ∧ ∀ m ∈ known.rows, m.groupId = groupId → m ∈ members
  confirming : ∀ run, phase.stage = .confirming run →
    (∃ trusted, call = .confirmDataLayer run.id trusted ∧ trusted.tenantId = run.tenantId)
      ∧ run.status = .dataLayerPending
      ∧ (s.runs.get? run.id = some run ∨ s.Confirmed run.id run.tenantId)
  working : ∀ run, phase.stage.works = some run → ∃ row, s.runs.get? run.id = some row
    ∧ row.status = .dataLayerCompleted ∧ row.groupId = run.groupId ∧ row.direction = run.direction

section Backed

variable {s s' : DrStore} {call : DrCall} {known : Table Member String Member.id} {phase : Phase}

theorem DrStore.Confirmed.retains {runId tenantId : String} (h : s.Confirmed runId tenantId)
    (hretains : s.Retains s') : s'.Confirmed runId tenantId := by
  obtain ⟨row, hrow, hevent⟩ := h
  exact ⟨row, hretains.traffic.outbox row hrow, hevent⟩

theorem DrStore.Confirmed.not_emitted {messageId : String}
    {trusted : TrustedContext} {extra : List (String × Json)} {traffic : Traffic}
    (h : s.Confirmed run.id trusted.tenantId)
    (hemit : s.traffic.emit ([newEvent messageId eventDataLayerConfirmed run trusted extra].map
      fun event => event s.traffic.now) = .ok traffic) : False := by
  obtain ⟨row, hrow, htenant, htype, hkey⟩ := h
  obtain ⟨outbox, houtbox, -⟩ := Traffic.emit_eq_ok hemit
  simp only [map_cons, map_nil, insertOutboxEvents] at houtbox
  split at houtbox
  · simp at houtbox
  next outbox' hinsert =>
  have hclash : row.event.clashes (newEvent messageId eventDataLayerConfirmed run trusted extra
      s.traffic.now) = true := by
    simp [OutboxEvent.clashes, OutboxEvent.sameCommand, newEvent, htenant, htype, hkey]
  rw [(insertOutboxEvent_eq_none_iff _ _ _).2 ⟨row, hrow, hclash⟩] at hinsert
  simp at hinsert

theorem backed_start (s : DrStore) (call : DrCall) : Backed s call s.members .start where
  stored _ h := h
  read _ _ h := absurd h (by simp [Phase.start])
  confirming _ h := absurd h (by simp [Phase.start])
  working _ h := absurd h (by simp [Phase.start, works])

section Retained

variable (h : Backed s call known phase) (hretains : s.Retains s')

include h hretains

theorem Backed.idle : Backed s' call known { phase with stage := .idle } where
  stored m hm := hretains.members m (h.stored m hm)
  read groupId members hread :=
    ⟨fun m hm => ⟨hretains.members m ((h.read groupId members hread).1 m hm).1,
      ((h.read groupId members hread).1 m hm).2⟩, (h.read groupId members hread).2⟩
  confirming _ hstage := absurd hstage (by simp)
  working _ hworks := absurd hworks (by simp [works])

theorem Backed.mono
    (hconfirming : ∀ run, phase.stage = .confirming run → s.runs.get? run.id = some run →
      s'.runs.get? run.id = some run ∨ s'.Confirmed run.id run.tenantId)
    (hworking : ∀ run row, phase.stage.works = some run → s.runs.get? run.id = some row →
      row.status = .dataLayerCompleted → s'.runs.get? run.id = some row) :
    Backed s' call known phase where
  stored := (h.idle hretains).stored
  read := (h.idle hretains).read
  confirming run hstage := by
    obtain ⟨hcall, hpending, hstored⟩ := h.confirming run hstage
    refine ⟨hcall, hpending, ?_⟩
    rcases hstored with hstored | hsent
    · exact hconfirming run hstage hstored
    · exact .inr (hsent.retains hretains)
  working run hworks := by
    obtain ⟨row, hrow, hstatus, hsame⟩ := h.working run hworks
    exact ⟨row, hworking run row hworks hrow hstatus, hstatus, hsame⟩

theorem Backed.mono_of_runs_eq (hruns : s'.runs = s.runs) : Backed s' call known phase := by
  refine h.mono hretains (fun run _ hrow => .inl ?_) fun run row _ hrow _ => ?_
  · rw [hruns]
    exact hrow
  · rw [hruns]
    exact hrow

end Retained

end Backed

/-! ## The steps of a call -/

theorem mem_membersOf {s : DrStore} {groupId : String} {m : Member} :
    m ∈ s.membersOf groupId ↔ m ∈ s.members.rows ∧ m.groupId = groupId := by
  simp [membersOf, mem_insertionSort]

section Own

variable {s : DrStore} {call : DrCall} {known : Table Member String Member.id} {phase : Phase}

theorem DrStore.Effect.runs_eq (h : s.Effect op s')
    (hcreate : ∀ run events, op ≠ .createRun run events)
    (hupdate : ∀ id status fields events, op ≠ .updateRun id status fields events) :
    s'.runs = s.runs := by
  cases h.runs with
  | kept hruns => exact hruns
  | created run events heq => exact absurd heq (hcreate run events)
  | updated id status fields events heq => exact absurd heq (hupdate id status fields events)

/-- After the operation, the call is in the phase that its answer leads to. -/
abbrev BackedAfter (s : DrStore) (call : DrCall) (known : Table Member String Member.id)
    (phase : Phase) (op : DrOp) (n : DrNature) : Prop :=
  Backed (drRepository.perform s op n).1 call known
    ((drProtocol call).after phase op (drRepository.perform s op n).2)

theorem Stage.works_submitted (stage : Stage) (phase : Submission) :
    (stage.submitted phase).works = stage.works := by
  cases stage <;> cases phase <;> rfl

/-- What an update that is committed finds: a run that waits for its data layer and is now
    confirmed, or a confirmed run whose outcome the call writes. -/
inductive Written (s s' : DrStore) (phase : Phase) (id : String) (status : RunStatus)
    (fields : RunFields) : Prop where
  | confirmed (run : SwitchRun) (stage : phase.stage = .confirming run) (id_eq : id = run.id)
      (stored : s.runs.get? id = some run) (pending : run.status = .dataLayerPending)
      (status_eq : status = .dataLayerCompleted) (fields_eq : fields = {})
      (sent : s'.Confirmed id run.tenantId)
  | ended (run row : SwitchRun) (works : phase.stage.works = some run) (id_eq : id = run.id)
      (stored : s.runs.get? id = some row) (completed : row.status = .dataLayerCompleted)
      (outcome : (status = .failed ∧ fields.trafficRequestIds = none)
        ∨ status = .awaitingApproval ∧ ∃ requestIds, phase.stage = .dispatching run requestIds
          ∧ fields.trafficRequestIds = some requestIds)

/-- The update of a call that dispatches a run writes the outcome. -/
theorem Phase.AllowsUpdate.outcome (h : phase.AllowsUpdate call id status fields events)
    (hworks : phase.stage.works = some run) :
    id = run.id ∧ ((status = .failed ∧ fields.trafficRequestIds = none)
      ∨ status = .awaitingApproval ∧ ∃ requestIds, phase.stage = .dispatching run requestIds
        ∧ fields.trafficRequestIds = some requestIds) := by
  unfold Phase.AllowsUpdate at h
  split at h
  · exact h.elim
  · next hstage => simp [hstage, works] at hworks
  · next run' requestIds hstage =>
    obtain rfl : run' = run := by simpa [hstage, works] using hworks
    exact ⟨h.1, h.2.imp_right fun hawaits => ⟨hawaits.1, requestIds, hstage, hawaits.2⟩⟩
  · next run' hstage =>
    obtain rfl : run' = run := by simpa [hstage, works] using hworks
    exact ⟨h.1, .inl h.2⟩

/-- The stage of a call after an operation. -/
inductive StageChange (s s' : DrStore) (phase : Phase) (op : DrOp) (n : DrNature) (after : Stage) :
    Prop where
  | same (eq : after = phase.stage)
  /-- It dispatches no run, or none any more. -/
  | rests (rest : after.works = none)
  /-- It has inserted a run without a data layer. -/
  | created (run : SwitchRun) (events : List PendingEvent) (op_eq : op = .createRun run events)
      (completed : run.status = .dataLayerCompleted) (inserted : s.runs.insert? run = some s'.runs)
      (eq : after = .dispatching run [])
  /-- It has confirmed the data layer of a run. -/
  | confirmed (found : SwitchRun) (fields : RunFields) (events : List PendingEvent)
      (stage : phase.stage = .confirming found)
      (op_eq : op = .updateRun found.id .dataLayerCompleted fields events)
      (stored : s.runs.get? found.id = some found)
      (runs : s'.runs = s.runs.update found.id _
        (id_updated s.traffic.now .dataLayerCompleted fields))
      (eq : after = .dispatching { found with status := .dataLayerCompleted } found.trafficRequestIds)
  /-- It has asked the traffic service. -/
  | asked (run : SwitchRun) (request : RepoOp) (op_eq : op = .gslb run request)
      (eq : after = phase.stage.submitted
        (Submission.seeking.after request (repository.perform s.traffic request n.traffic).2))

section Operations

variable (h : Backed s call known phase) (n : DrNature)

include h

theorem Backed.confirms (hstage : phase.stage = .confirming run)
    (hallows : phase.AllowsUpdate call id status fields events) {traffic : Traffic}
    (hemit : s.traffic.emit (events.map fun event => event s.traffic.now) = .ok traffic) :
    id = run.id ∧ status = .dataLayerCompleted ∧ fields = {} ∧ s.runs.get? run.id = some run
      ∧ ∃ trusted, call = .confirmDataLayer run.id trusted ∧ trusted.tenantId = run.tenantId
        ∧ ∃ messageId, events = [newEvent messageId eventDataLayerConfirmed
            { run with status := .dataLayerCompleted } trusted []] := by
  obtain ⟨⟨trusted, hcall, htenant⟩, -, hstored⟩ := h.confirming run hstage
  rw [Phase.AllowsUpdate, hstage] at hallows
  obtain ⟨hid, hstatus, hfields, runId, messageId, trusted', hcall', hevents⟩ := hallows
  rw [hcall, DrCall.confirmDataLayer.injEq] at hcall'
  obtain ⟨-, rfl⟩ := hcall'
  refine ⟨hid, hstatus, hfields, ?_, trusted, hcall, htenant, messageId, hevents⟩
  rcases hstored with hstored | hsent
  · exact hstored
  rw [hevents] at hemit
  have hsent' : s.Confirmed { run with status := .dataLayerCompleted : SwitchRun }.id
      trusted.tenantId := by
    rw [htenant]
    exact hsent
  exact (hsent'.not_emitted hemit).elim

/-- An operation that is not about runs. -/
theorem Backed.same (op : DrOp) (hcreate : ∀ run events, op ≠ .createRun run events)
    (hupdate : ∀ id status fields events, op ≠ .updateRun id status fields events) :
    Backed (drRepository.perform s op n).1 call known phase :=
  h.mono_of_runs_eq (perform_effect s op n).retains ((perform_effect s op n).runs_eq hcreate hupdate)

theorem Backed.own_listMembers (groupId : String) :
    BackedAfter s call known phase (.listMembers groupId) n := by
  unfold BackedAfter
  have hsame := h.same n (.listMembers groupId) (by simp) (by simp)
  cases hanswer : (drRepository.perform s (.listMembers groupId) n).2 with
  | error => exact hsame
  | ok members =>
    obtain ⟨-, hmembers⟩ := query_answer hanswer
    refine ⟨hsame.stored, fun groupId' members' hread => ?_, hsame.confirming, hsame.working⟩
    obtain ⟨rfl, rfl⟩ : groupId = groupId' ∧ members = members' := by simpa [drProtocol] using hread
    have hmem : ∀ m, m ∈ members ↔ m ∈ s.members.rows ∧ m.groupId = groupId := fun m => by
      rw [hmembers]
      exact mem_membersOf
    refine ⟨fun m hm => ?_, fun m hm hgroup => (hmem m).2 ⟨h.stored m hm, hgroup⟩⟩
    exact ⟨(perform_effect s _ n).retains.members m ((hmem m).1 hm).1, ((hmem m).1 hm).2⟩

theorem Backed.own_getRun (id : String) {trusted : TrustedContext}
    (hcall : call = .confirmDataLayer id trusted) :
    BackedAfter s call known phase (.getRun id trusted.tenantId) n := by
  unfold BackedAfter
  have hsame := h.same n (.getRun id trusted.tenantId) (by simp) (by simp)
  cases hanswer : (drRepository.perform s (.getRun id trusted.tenantId) n).2 with
  | error => exact hsame
  | ok found =>
    cases found with
    | none => exact hsame
    | some run =>
      obtain ⟨-, hfound⟩ := query_answer hanswer
      obtain ⟨hget, htenant⟩ := Option.filter_eq_some_iff.1 hfound.symm
      have hid : run.id = id := key_of_get? hget
      show Backed _ call known (if run.status = .dataLayerPending then _ else _)
      split
      · next hpending =>
        refine ⟨hsame.stored, hsame.read, fun run' hstage => ?_, fun run' hworks =>
          absurd hworks (by simp [works])⟩
        obtain rfl : run = run' := Stage.confirming.inj hstage
        refine ⟨⟨trusted, ?_, (beq_iff_eq.1 htenant).symm⟩, hpending, .inl ?_⟩
        · rw [hid]
          exact hcall
        · rw [(perform_effect s _ n).runs_eq (by simp) (by simp), hid]
          exact hget
      · exact hsame

theorem Backed.own_createRun (run : SwitchRun) (events : List PendingEvent)
    (hstage : phase.stage = .idle) : BackedAfter s call known phase (.createRun run events) n := by
  unfold BackedAfter
  have heffect := perform_effect s (.createRun run events) n
  have hidle : Backed (drRepository.perform s (.createRun run events) n).1 call known phase := by
    have := h.idle heffect.retains
    rwa [← hstage] at this
  cases hanswer : (drRepository.perform s (.createRun run events) n).2 with
  | error => exact hidle
  | ok =>
    have hinsert := (createRun_eq_ok (commit_eq_ok hanswer)).1
    show Backed _ call known (if run.status = .dataLayerCompleted then _ else _)
    split
    · next hcompleted =>
      refine ⟨hidle.stored, hidle.read, fun run' hstage' => absurd hstage' (by simp),
        fun run' hworks => ?_⟩
      obtain rfl : run = run' := Option.some.inj hworks
      refine ⟨run, ?_, hcompleted, rfl, rfl⟩
      exact (get?_insert? hinsert run.id).trans (if_pos rfl)
    · exact hidle

theorem Backed.own_updateRun (hallows : phase.AllowsUpdate call id status fields events) :
    BackedAfter s call known phase (.updateRun id status fields events) n := by
  unfold BackedAfter
  have hidle := h.idle (perform_effect s (.updateRun id status fields events) n).retains
  cases hanswer : (drRepository.perform s (.updateRun id status fields events) n).2 with
  | error => exact hidle
  | ok =>
    obtain ⟨hruns, hemit, -⟩ := updateRun_eq_ok (commit_eq_ok hanswer)
    cases hstage : phase.stage with
    | confirming run =>
      obtain ⟨rfl, rfl, rfl, hget, -⟩ := h.confirms hstage hallows hemit
      simp only [drProtocol, hstage]
      refine ⟨hidle.stored, hidle.read, fun run' hstage' => absurd hstage' (by simp),
        fun run' hworks => ?_⟩
      cases hworks
      refine ⟨run.updated s.traffic.now .dataLayerCompleted {}, ?_, rfl, rfl, rfl⟩
      exact (congrArg (fun runs => runs.get? run.id) hruns).trans (get?_update_self _ _ _ _ hget)
    | _ => simpa only [drProtocol, hstage] using hidle

theorem Backed.own_gslb {requestIds : List String} (hstage : phase.stage = .dispatching run requestIds)
    (op : RepoOp) : BackedAfter s call known phase (.gslb run op) n := by
  have hsame := h.same n (.gslb run op) (by simp) (by simp)
  refine ⟨hsame.stored, hsame.read, fun run' hstage' => ?_, fun run' hworks => ?_⟩
  · have hworks := congrArg works hstage'
    simp only [drProtocol, hstage, works_submitted] at hworks
    simp [works] at hworks
  · exact hsame.working run' (by rwa [← works_submitted])

theorem Backed.written (hallows : phase.AllowsUpdate call id status fields events)
    (hemit : s.traffic.emit (events.map fun event => event s.traffic.now) = .ok s'.traffic) :
    Written s s' phase id status fields := by
  cases hstage : phase.stage with
  | idle =>
    rw [Phase.AllowsUpdate, hstage] at hallows
    exact hallows.elim
  | confirming run =>
    obtain ⟨rfl, rfl, rfl, hget, trusted, -, htenant, messageId, rfl⟩ :=
      h.confirms hstage hallows hemit
    refine .confirmed run hstage rfl hget (h.confirming run hstage).2.1 rfl rfl ?_
    refine ⟨OutboxRow.new s.traffic.now (newEvent messageId eventDataLayerConfirmed
      { run with status := .dataLayerCompleted } trusted [] s.traffic.now), ?_, htenant, rfl, rfl⟩
    rw [rows_emit hemit]
    exact mem_append_right _ (mem_singleton_self _)
  | dispatching run | doomed run =>
    have hworks : phase.stage.works = some run := by rw [hstage]; rfl
    obtain ⟨rfl, houtcome⟩ := hallows.outcome hworks
    obtain ⟨row, hget, hcompleted, -⟩ := h.working run hworks
    exact .ended run row hworks rfl hget hcompleted houtcome

variable (hallows : (drProtocol call).allows phase op)

include hallows

/-- The next operation of a call backs the phase that its answer leads to. -/
theorem Backed.own : BackedAfter s call known phase op n := by
  cases op with
  | listMembers groupId => exact h.own_listMembers n groupId
  | getRun id =>
    obtain ⟨-, trusted, hcall, rfl⟩ := hallows
    exact h.own_getRun n id hcall
  | createRun run events => exact h.own_createRun n run events hallows.1
  | updateRun => exact h.own_updateRun n hallows
  | gslb _ op =>
    obtain ⟨⟨requestIds, hstage⟩, -⟩ := hallows
    exact h.own_gslb n hstage op
  | _ => exact h.same n _ (by simp) (by simp)

/-- The next operation of a call keeps the phases of the other calls backed. -/
theorem Backed.other {call' : DrCall} {known' : Table Member String Member.id} {phase' : Phase}
    (h' : Backed s call' known' phase')
    (halone : ∀ run run', phase.stage.works = some run → phase'.stage.works = some run' →
      run.id ≠ run'.id) :
    Backed (drRepository.perform s op n).1 call' known' phase' := by
  have heffect := perform_effect s op n
  cases heffect.runs with
  | kept hruns => exact h'.mono_of_runs_eq heffect.retains hruns
  | created _ _ _ hinsert =>
    exact h'.mono heffect.retains (fun run' _ hget => .inl (get?_of_insert? hinsert hget))
      fun run' row _ hget _ => get?_of_insert? hinsert hget
  | updated id _ _ _ heq hruns hemit =>
    have hget_ne : ∀ {j row}, j ≠ id → s.runs.get? j = some row →
        (drRepository.perform s op n).1.runs.get? j = some row := by
      intro j row hj hget
      rw [hruns, get?_update_of_ne _ _ _ _ hj]
      exact hget
    rw [heq] at hallows
    have hwritten := h.written hallows hemit
    refine h'.mono heffect.retains (fun run' hstage' hget => ?_) fun run' row hworks' hget hstatus => ?_
    · by_cases hid : run'.id = id
      swap
      · exact .inl (hget_ne hid hget)
      rw [hid] at hget ⊢
      cases hwritten with
      | confirmed run _ _ hstored _ _ _ hsent =>
        obtain rfl : run = run' := by simpa [hstored] using hget
        exact .inr hsent
      | ended _ row _ _ hstored hcompleted =>
        obtain rfl : row = run' := by simpa [hstored] using hget
        rw [(h'.confirming row hstage').2.1] at hcompleted
        exact absurd hcompleted (by decide)
    · by_cases hid : run'.id = id
      swap
      · exact hget_ne hid hget
      rw [hid] at hget
      cases hwritten with
      | confirmed run _ _ hstored hpending =>
        obtain rfl : run = row := by simpa [hstored] using hget
        rw [hpending] at hstatus
        exact absurd hstatus (by decide)
      | ended run _ hworks hid' =>
        exact absurd (hid'.symm.trans hid.symm) (halone run run' hworks hworks')

theorem Backed.stageChange :
    StageChange s (drRepository.perform s op n).1 phase op n
      ((drProtocol call).after phase op (drRepository.perform s op n).2).stage := by
  cases op with
  | listMembers groupId =>
    refine .same ?_
    cases (drRepository.perform s (.listMembers groupId) n).2 <;> rfl
  | getRun id tenantId =>
    match (drRepository.perform s (.getRun id tenantId) n).2 with
    | .error err => exact .same rfl
    | .ok none => exact .same rfl
    | .ok (some found) =>
      simp only [drProtocol]
      split
      · exact .rests rfl
      · exact .same rfl
  | createRun run events =>
    cases hanswer : (drRepository.perform s (.createRun run events) n).2 with
    | error => exact .same rfl
    | ok =>
      simp only [drProtocol]
      split
      · next hcompleted =>
        have hinsert := (createRun_eq_ok (commit_eq_ok hanswer)).1
        exact .created run events rfl hcompleted hinsert rfl
      · exact .same rfl
  | updateRun id status fields events =>
    cases hanswer : (drRepository.perform s (.updateRun id status fields events) n).2 with
    | error => exact .rests rfl
    | ok =>
      obtain ⟨hruns, hemit, -⟩ := updateRun_eq_ok (commit_eq_ok hanswer)
      simp only [drProtocol]
      cases hstage : phase.stage with
      | confirming found =>
        obtain ⟨rfl, rfl, -, hget, -⟩ := h.confirms hstage hallows hemit
        exact .confirmed found fields events hstage rfl hget hruns rfl
      | _ => exact .rests rfl
  | gslb run request => exact .asked run request rfl rfl
  | _ => exact .same rfl

/-- A run that a call begins to dispatch was not stored as confirmed. -/
theorem Backed.works_of_completed {row : SwitchRun}
    (hworks : ((drProtocol call).after phase op (drRepository.perform s op n).2).stage.works = some run)
    (hrow : s.runs.get? run.id = some row) (hcompleted : row.status = .dataLayerCompleted) :
    phase.stage.works = some run := by
  cases h.stageChange n hallows with
  | same heq => rwa [← heq]
  | rests hrest => simp [hrest] at hworks
  | created run' _ _ _ hinsert heq =>
    rw [heq] at hworks
    cases hworks
    simp [get?_eq_none_of_insert? hinsert] at hrow
  | confirmed found _ _ hstage _ hget _ heq =>
    rw [heq] at hworks
    cases hworks
    obtain rfl : found = row := by simpa [hget] using hrow
    rw [(h.confirming found hstage).2.1] at hcompleted
    exact absurd hcompleted (by decide)
  | asked _ _ _ heq => rwa [heq, works_submitted] at hworks

end Operations

end Own

/-! ## Every run of the machine -/

/-- The calls of the world are in these phases; no two of them dispatch the same run. -/
structure DrInv (w : DrWorld) (phase : Nat → Phase) : Prop where
  keeps : ∀ i a, w.calls[i]? = some a → Keeps a.call a.program (phase i)
  backed : ∀ i a, w.calls[i]? = some a → Backed w.store a.call a.known (phase i)
  alone : ∀ i j a b run run', w.calls[i]? = some a → w.calls[j]? = some b →
    (phase i).stage.works = some run → (phase j).stage.works = some run' → run.id = run'.id → i = j
  caused : ∀ c ∈ w.store.caused, ∃ row, w.store.runs.get? c.runId = some row
    ∧ row.status ≠ .dataLayerPending

/-- The call that performs an operation with an event, and the operation. -/
def DrWorld.performing (w : DrWorld) : DrEvent → Option (ActiveCall × DrOp)
  | .perform i _ =>
    match w.calls[i]? with
    | some ⟨call, known, .call op next⟩ => some (⟨call, known, .call op next⟩, op)
    | _ => none
  | _ => none

open DrWorld

def DrWorld.phaseAfter (w : DrWorld) (phase : Nat → Phase) : DrEvent → Nat → Phase
  | .call _ => update phase w.calls.length .start
  | .perform i n =>
    match w.calls[i]? with
    | some ⟨call, _, .call op _⟩ =>
      update phase i ((drProtocol call).after (phase i) op (drRepository.perform w.store op n).2)
    | _ => phase
  | .stop i =>
    match w.calls[i]? with
    | some _ => update phase i { phase i with stage := .idle }
    | none => phase
  | _ => phase

theorem DrWorld.getElem?_of_performing {w : DrWorld} {event : DrEvent} {active : ActiveCall} (h : w.performing event = some (active, op)) :
    ∃ (i : Nat) (next : op.Reply → DrProgram),
      w.calls[i]? = some ⟨active.call, active.known, .call op next⟩ := by
  cases event with
  | perform i =>
    simp only [performing] at h
    split at h
    · next call known op' next hcall =>
      cases h
      exact ⟨i, next, hcall⟩
    · simp at h
  | _ => simp [performing] at h

/-- The call with the number `i` performs its next operation, `op`. -/
structure Performs (w : DrWorld) (phase : Nat → Phase) (i : Nat) (n : DrNature) (call : DrCall)
    (known : Table Member String Member.id) (op : DrOp) (next : op.Reply → DrProgram) : Prop where
  inv : DrInv w phase
  atWork : w.calls[i]? = some ⟨call, known, .call op next⟩
  performing : w.performing (.perform i n) = some (⟨call, known, .call op next⟩, op)
  world : w.perform i n = ⟨(drRepository.perform w.store op n).1,
    w.calls.set i ⟨call, known, next (drRepository.perform w.store op n).2⟩⟩
  phases : w.phaseAfter phase (.perform i n) = update phase i
    ((drProtocol call).after (phase i) op (drRepository.perform w.store op n).2)

/-- A call that is to perform an operation has none left, or performs its next one. -/
theorem DrInv.perform_cases {w : DrWorld} {phase : Nat → Phase} (h : DrInv w phase) (i : Nat)
    (n : DrNature) :
    (w.perform i n = w ∧ w.phaseAfter phase (.perform i n) = phase)
      ∨ ∃ call known op next, Performs w phase i n call known op next := by
  cases hcall : w.calls[i]? with
  | none => exact .inl ⟨by simp [perform, hcall], by simp [phaseAfter, hcall]⟩
  | some active =>
    obtain ⟨call, known, program⟩ := active
    cases program with
    | done => exact .inl ⟨by simp [perform, hcall], by simp [phaseAfter, hcall]⟩
    | call op next =>
      exact .inr ⟨call, known, op, next, h, hcall, by simp [DrWorld.performing, hcall],
        by simp [perform, hcall], by simp [phaseAfter, hcall]⟩

section Runs

variable {sha : String → String} {w : DrWorld} {phase : Nat → Phase}

theorem drInv_start (s : DrStore) (phase : Nat → Phase) : DrInv (.start s) phase where
  keeps _ _ h := absurd h (by simp [start])
  backed _ _ h := absurd h (by simp [start])
  alone _ _ _ _ _ _ h := absurd h (by simp [start])
  caused c hc := absurd hc (by simp [start])

theorem DrInv.traffic (h : DrInv w phase) {traffic : Traffic} (hretains : w.store.traffic.Retains traffic) :
    DrInv { w with store := { w.store with traffic := traffic } } phase :=
  ⟨h.keeps, fun i a ha => (h.backed i a ha).mono_of_runs_eq ⟨hretains, fun _ h => h⟩ rfl, h.alone,
    h.caused⟩

theorem DrInv.change (h : DrInv w phase) {w' : DrWorld} {i : Nat} {x : ActiveCall} {next : Phase}
    (hcalls : ∀ j a, w'.calls[j]? = some a → (j ≠ i ∧ w.calls[j]? = some a) ∨ (j = i ∧ a = x))
    (hkeeps : Keeps x.call x.program next) (hbacked : Backed w'.store x.call x.known next)
    (hothers : ∀ j a, j ≠ i → w.calls[j]? = some a → Backed w'.store a.call a.known (phase j))
    (halone : ∀ run, next.stage.works = some run → ∀ j a run', j ≠ i → w.calls[j]? = some a →
      (phase j).stage.works = some run' → run.id ≠ run'.id)
    (hcaused : ∀ c ∈ w'.store.caused, ∃ row, w'.store.runs.get? c.runId = some row
      ∧ row.status ≠ .dataLayerPending) :
    DrInv w' (update phase i next) := by
  refine ⟨fun j a ha => ?_, fun j a ha => ?_, fun j k a b run run' ha hb hj hk hid => ?_, hcaused⟩
  · rcases hcalls j a ha with ⟨hne, ha⟩ | ⟨rfl, rfl⟩
    · rw [update_of_ne hne]
      exact h.keeps j a ha
    · rwa [update_self]
  · rcases hcalls j a ha with ⟨hne, ha⟩ | ⟨rfl, rfl⟩
    · rw [update_of_ne hne]
      exact hothers j a hne ha
    · rwa [update_self]
  rcases hcalls j a ha with ⟨hne, ha⟩ | ⟨rfl, rfl⟩ <;>
    rcases hcalls k b hb with ⟨hne', hb⟩ | ⟨rfl, rfl⟩
  · rw [update_of_ne hne] at hj
    rw [update_of_ne hne'] at hk
    exact h.alone j k a b run run' ha hb hj hk hid
  · rw [update_of_ne hne] at hj
    rw [update_self] at hk
    exact absurd hid.symm (halone run' hk j a run hne ha hj)
  · rw [update_self] at hj
    rw [update_of_ne hne'] at hk
    exact absurd hid (halone run hj k b run' hne' hb hk)
  · rfl

theorem DrInv.call (h : DrInv w phase) (call : DrCall) :
    DrInv { w with calls := w.calls ++ [⟨call, w.store.members, call.program sha⟩] }
      (update phase w.calls.length .start) := by
  refine h.change (fun j a ha => getElem?_append_cases ha) (keeps_program sha call)
    (backed_start w.store call) (fun j a _ ha => h.backed j a ha) (fun run hworks => ?_) h.caused
  simp [Phase.start, works] at hworks

theorem DrInv.stop (h : DrInv w phase) (i : Nat) : DrInv (w.stop i) (w.phaseAfter phase (.stop i)) := by
  simp only [DrWorld.stop, phaseAfter]
  cases hactive : w.calls[i]? with
  | none => exact h
  | some active =>
    refine h.change (x := { active with program := DrWorld.stopped })
      (fun j a ha => getElem?_set_cases ha) (keeps_done rfl)
      ((h.backed i active hactive).idle (.refl _)) (fun j a _ ha => h.backed j a ha)
      (fun run hworks => ?_) h.caused
    simp [works] at hworks

section Performs

variable {i : Nat} {n : DrNature} {call : DrCall} {known : Table Member String Member.id} {op : DrOp}
  {next : op.Reply → DrProgram} (h : Performs w phase i n call known op next)

include h

theorem Performs.backed : Backed w.store call known (phase i) := h.inv.backed i _ h.atWork

theorem Performs.allows : (drProtocol call).allows (phase i) op := (h.inv.keeps i _ h.atWork).1

theorem Performs.effect : w.store.Effect op (w.perform i n).store := by
  rw [h.world]
  exact perform_effect w.store op n

/-- The calls after the operation, with their phases: the others, and the one that performed it. -/
theorem Performs.getElem?_cases {j : Nat} {a : ActiveCall}
    (ha : (w.perform i n).calls[j]? = some a) :
    (j ≠ i ∧ w.calls[j]? = some a ∧ w.phaseAfter phase (.perform i n) j = phase j)
      ∨ (j = i ∧ a = ⟨call, known, next (drRepository.perform w.store op n).2⟩
        ∧ w.phaseAfter phase (.perform i n) j
          = (drProtocol call).after (phase i) op (drRepository.perform w.store op n).2) := by
  rw [h.world] at ha
  rw [h.phases]
  rcases getElem?_set_cases ha with ⟨hne, ha⟩ | ⟨rfl, rfl⟩
  · exact .inl ⟨hne, ha, update_of_ne hne _ _⟩
  · exact .inr ⟨rfl, rfl, update_self _ _ _⟩

/-- A stored run after an operation: as it was, or with what the call has written. -/
theorem Performs.get?_cases {row : SwitchRun} (hrow : w.store.runs.get? id = some row) :
    (w.perform i n).store.runs.get? id = some row
      ∨ ∃ status fields, Written w.store (w.perform i n).store (phase i) id status fields
        ∧ (w.perform i n).store.runs.get? id
          = some (row.updated w.store.traffic.now status fields) := by
  cases h.effect.runs with
  | kept hruns => exact .inl (by rw [hruns, hrow])
  | created _ _ _ hinsert => exact .inl (get?_of_insert? hinsert hrow)
  | updated id' status fields _ heq hruns hemit =>
    subst heq
    by_cases hid : id = id'
    · subst hid
      refine .inr ⟨status, fields, h.backed.written h.allows hemit, ?_⟩
      rw [hruns, get?_update_self _ _ _ _ hrow]
    · exact .inl (by rw [hruns, get?_update_of_ne _ _ _ _ hid, hrow])

/-- An operation causes a request only for the run that its call dispatches, and brings no run back
    to waiting. -/
theorem Performs.caused :
    ∀ c ∈ (w.perform i n).store.caused, ∃ row, (w.perform i n).store.runs.get? c.runId = some row
      ∧ row.status ≠ .dataLayerPending := by
  -- Before the operation: an old one, or one for the run at hand.
  have hbefore : ∀ c ∈ (w.perform i n).store.caused, ∃ row,
      w.store.runs.get? c.runId = some row ∧ row.status ≠ .dataLayerPending := by
    intro c hc
    rcases h.effect.caused with hsame | ⟨run, request, drill, events, heq, hcaused⟩
    · rw [hsame] at hc
      exact h.inv.caused c hc
    rw [hcaused, mem_append] at hc
    rcases hc with hc | hc
    · exact h.inv.caused c hc
    rw [mem_singleton.1 hc]
    have hallows := h.allows
    rw [heq] at hallows
    obtain ⟨⟨requestIds, hstage⟩, -⟩ := hallows
    obtain ⟨row, hrow, hcompleted, -⟩ := h.backed.working run (by rw [hstage]; rfl)
    exact ⟨row, hrow, by rw [hcompleted]; decide⟩
  intro c hc
  obtain ⟨row, hrow, hstatus⟩ := hbefore c hc
  rcases h.get?_cases hrow with hrow | ⟨status, fields, hwritten, hrow⟩
  · exact ⟨row, hrow, hstatus⟩
  refine ⟨_, hrow, ?_⟩
  show status ≠ .dataLayerPending
  cases hwritten with
  | confirmed _ _ _ _ _ hstatus' => rw [hstatus']; decide
  | ended _ _ _ _ _ _ houtcome =>
    rcases houtcome with ⟨hstatus', -⟩ | ⟨hstatus', -⟩ <;> rw [hstatus'] <;> decide

theorem Performs.next_inv : DrInv (w.perform i n) (w.phaseAfter phase (.perform i n)) := by
  have hcaused := h.caused
  rw [h.phases]
  rw [h.world] at hcaused ⊢
  refine h.inv.change (fun j a ha => getElem?_set_cases ha) ((h.inv.keeps i _ h.atWork).2 _)
    (h.backed.own n h.allows) (fun j a hne ha => ?_) (fun run hworks j a run' hne ha hworks' hid => ?_)
    hcaused
  · refine h.backed.other n h.allows (h.inv.backed j a ha) fun run run' hi hj hid => ?_
    exact hne (h.inv.alone j i a _ run' run ha h.atWork hj hi hid.symm)
  -- The other call has the run stored as confirmed, so this one dispatched it before, too.
  obtain ⟨row, hrow, hcompleted, -⟩ := (h.inv.backed j a ha).working run' hworks'
  rw [← hid] at hrow
  have hworks₀ := h.backed.works_of_completed n h.allows hworks hrow hcompleted
  exact hne (h.inv.alone j i a _ run' run ha h.atWork hworks' hworks₀ hid.symm)

end Performs

theorem DrInv.perform (h : DrInv w phase) (i : Nat) (n : DrNature) :
    DrInv (w.perform i n) (w.phaseAfter phase (.perform i n)) := by
  rcases h.perform_cases i n with ⟨hw, hphase⟩ | ⟨call, known, op, next, hperforms⟩
  · rw [hw, hphase]
    exact h
  · exact hperforms.next_inv

theorem DrInv.next (h : DrInv w phase) (event : DrEvent) :
    DrInv ((drMachine sha).next w event) (w.phaseAfter phase event) := by
  cases event with
  | call call => exact h.call call
  | perform i n => exact h.perform i n
  | stop i => exact h.stop i
  | traffic op n => exact h.traffic (repository_retains _ op n)
  | controller requestId op n => exact h.traffic (controllerStore_retains _ requestId op n)
  | tick => exact h.traffic ⟨fun _ row hrow => ⟨row, hrow, rfl, rfl, rfl⟩, fun _ h => h⟩

/-- A call after an event is in the phase it was in, is idle, or has performed an operation. -/
theorem DrInv.phase_cases (h : DrInv w phase) {event : DrEvent} {j : Nat} {a : ActiveCall}
    (ha : ((drMachine sha).next w event).calls[j]? = some a) :
    (∃ a', w.calls[j]? = some a' ∧ w.phaseAfter phase event j = phase j)
      ∨ (w.phaseAfter phase event j).stage = .idle
      ∨ ∃ n call known op next, event = .perform j n ∧ Performs w phase j n call known op next
        ∧ w.phaseAfter phase event j
          = (drProtocol call).after (phase j) op (drRepository.perform w.store op n).2 := by
  cases event with
  | call =>
    rcases getElem?_append_cases ha with ⟨hne, ha⟩ | ⟨rfl, rfl⟩
    · exact .inl ⟨a, ha, update_of_ne hne _ _⟩
    · refine .inr (.inl ?_)
      rw [phaseAfter, update_self]
      rfl
  | stop i =>
    replace ha : (w.stop i).calls[j]? = some a := ha
    simp only [DrWorld.stop, phaseAfter] at ha ⊢
    cases hactive : w.calls[i]? with
    | none =>
      rw [hactive] at ha
      exact .inl ⟨a, ha, rfl⟩
    | some =>
      rw [hactive] at ha
      rcases getElem?_set_cases ha with ⟨hne, ha⟩ | ⟨rfl, rfl⟩
      · exact .inl ⟨a, ha, update_of_ne hne _ _⟩
      · exact .inr (.inl (by simp))
  | perform i n =>
    replace ha : (w.perform i n).calls[j]? = some a := ha
    rcases h.perform_cases i n with ⟨hw, hphase⟩ | ⟨call, known, op, next, hperforms⟩
    · rw [hw] at ha
      rw [hphase]
      exact .inl ⟨a, ha, rfl⟩
    rcases hperforms.getElem?_cases ha with ⟨-, ha, hphase⟩ | ⟨rfl, rfl, hphase⟩
    · exact .inl ⟨a, ha, hphase⟩
    · exact .inr (.inr ⟨n, call, known, op, next, rfl, hperforms, hphase⟩)
  | _ => exact .inl ⟨a, ha, rfl⟩

theorem stop_store (w : DrWorld) (i : Nat) : (w.stop i).store = w.store := by
  unfold DrWorld.stop
  split <;> rfl

theorem DrWorld.next_retains (sha : String → String) (w : DrWorld) (event : DrEvent) :
    w.store.Retains ((drMachine sha).next w event).store := by
  cases event with
  | call => exact .refl _
  | perform i n =>
    show w.store.Retains (w.perform i n).store
    unfold perform
    split
    · exact (perform_effect _ _ _).retains
    · exact .refl _
  | stop i =>
    show w.store.Retains (w.stop i).store
    rw [stop_store]
    exact .refl _
  | traffic op n => exact ⟨repository_retains _ op n, fun _ hm => hm⟩
  | controller requestId op n =>
    exact ⟨controllerStore_retains _ requestId op n, fun _ hm => hm⟩
  | tick => exact ⟨⟨fun _ row hrow => ⟨row, hrow, rfl, rfl, rfl⟩, fun _ h => h⟩, fun _ hm => hm⟩

theorem DrInv.runs_cases (h : DrInv w phase) (event : DrEvent) :
    ((drMachine sha).next w event).store.runs = w.store.runs
      ∨ ∃ i n call known op next, event = .perform i n
        ∧ Performs w phase i n call known op next := by
  cases event with
  | perform i n =>
    rcases h.perform_cases i n with ⟨hw, -⟩ | ⟨call, known, op, next, hperforms⟩
    · exact .inl (congrArg (fun w : DrWorld => w.store.runs) hw)
    · exact .inr ⟨i, n, call, known, op, next, rfl, hperforms⟩
  | stop i => exact .inl (congrArg runs (stop_store w i))
  | _ => exact .inl rfl

end Runs

end HnbCloud.Dr
