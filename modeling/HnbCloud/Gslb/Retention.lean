import HnbCloud.Gslb.Approval

set_option autoImplicit false

/-! # What stays stored of switch requests

The API server and the controller add switch requests and events and change the status of a request,
and do nothing else to them: whatever is stored stays, and so does what a request asks for. -/

namespace HnbCloud.Gslb

open Messaging

/-- The two rows ask for the same. -/
structure SwitchRequest.SameTarget (a b : SwitchRequest) : Prop where
  service : b.serviceId = a.serviceId
  kind : b.intentKind = a.intentKind
  group : b.drGroupRef = a.drGroupRef

/-- The second row is the first one in another state. -/
def SwitchRequest.Updates (a b : SwitchRequest) : Prop :=
  b = { a with
    status := b.status, approvedBy := b.approvedBy, approvedAt := b.approvedAt, error := b.error
    updatedAt := b.updatedAt }

theorem SwitchRequest.Updates.sameTarget {a b : SwitchRequest} (h : a.Updates b) :
    a.SameTarget b := by
  refine ⟨?_, ?_, ?_⟩ <;> rw [h]

theorem SwitchRequest.Updates.planSnapshot {a b : SwitchRequest} (h : a.Updates b) :
    b.planSnapshot = a.planSnapshot := by
  rw [h]

variable {events : List OutboxEvent}

namespace Traffic

/-- No request and no event is removed, and what a request asks for stays. -/
structure Retains (s s' : Traffic) : Prop where
  requests : ∀ id row, s.requests.get? id = some row →
    ∃ row', s'.requests.get? id = some row' ∧ row.SameTarget row'
  outbox : ∀ row ∈ s.outbox.rows, row ∈ s'.outbox.rows

/-- No request and no event is removed, and of a request only its state changes. -/
structure Keeps (s s' : Traffic) : Prop where
  requests : ∀ id row, s.requests.get? id = some row →
    ∃ row', s'.requests.get? id = some row' ∧ row.Updates row'
  outbox : ∀ row ∈ s.outbox.rows, row ∈ s'.outbox.rows

variable {s s' : Traffic}

theorem Keeps.retains (h : Keeps s s') : Retains s s' := by
  refine ⟨fun id row hrow => ?_, h.outbox⟩
  obtain ⟨row', hrow', hupdates⟩ := h.requests id row hrow
  exact ⟨row', hrow', hupdates.sameTarget⟩

theorem Keeps.refl (s : Traffic) : Keeps s s := ⟨fun _ row h => ⟨row, h, rfl⟩, fun _ h => h⟩

theorem Retains.refl (s : Traffic) : Retains s s := (Keeps.refl s).retains

variable (outcome : ApiOutcome)

theorem Keeps.commit {α : Type} {transaction : Except String (Traffic × α)}
    (h : ∀ s' answer, transaction = .ok (s', answer) → Keeps s s') :
    Keeps s (outcome.commit s transaction).1 :=
  commit_induction outcome (.refl s) h

theorem Keeps.query {α : Type} (answer : α) :
    Keeps s (outcome.commit s (.ok (s, answer))).1 := by
  rw [commit_query_fst]
  exact .refl s

theorem rows_emit (h : s.emit events = .ok s') :
    s'.outbox.rows = s.outbox.rows ++ events.map (OutboxRow.new s.now) := by
  obtain ⟨outbox, houtbox, rfl⟩ := emit_eq_ok h
  exact rows_insertOutboxEvents houtbox

theorem Keeps.emit {outbox : Outbox}
    (houtbox : insertOutboxEvents s.outbox s.now events = some outbox) (hs' : s'.outbox = outbox)
    (hrequests : ∀ id row, s.requests.get? id = some row →
      ∃ row', s'.requests.get? id = some row' ∧ row.Updates row') : Keeps s s' := by
  refine ⟨hrequests, fun row hrow => ?_⟩
  rw [hs', rows_insertOutboxEvents houtbox]
  exact List.mem_append_left _ hrow

theorem emit_retains (h : s.emit events = .ok s') : Retains s s' := by
  obtain ⟨outbox, houtbox, rfl⟩ := emit_eq_ok h
  have hkeeps : Keeps s { s with outbox := outbox } :=
    .emit houtbox rfl fun _ row hrow => ⟨row, hrow, rfl⟩
  exact hkeeps.retains

theorem updates_update (s : Traffic) (id : String) (f : SwitchRequest → SwitchRequest)
    (hf : ∀ row, (f row).id = row.id) (hupdates : ∀ row : SwitchRequest, row.Updates (f row))
    (id' : String) (row : SwitchRequest) (hrow : s.requests.get? id' = some row) :
    ∃ row', (s.requests.update id f hf).get? id' = some row' ∧ row.Updates row' := by
  rw [Table.get?_update]
  by_cases hid : id' = id
  · subst hid
    rw [if_pos rfl, hrow]
    exact ⟨f row, rfl, hupdates row⟩
  · rw [if_neg hid]
    exact ⟨row, hrow, rfl⟩

variable {request : SwitchRequest}

theorem createSwitchRequest_keeps {drill : Option DrillReport}
    {events : List Event} (h : s.createSwitchRequest request drill events = .ok (s', ())) :
    Keeps s s' := by
  obtain ⟨requests, outbox, hinsert, houtbox, rfl⟩ := createSwitchRequest_eq_ok h
  refine .emit houtbox rfl fun id row hrow => ⟨row, ?_, rfl⟩
  exact Table.get?_of_insert? hinsert hrow

variable {status : RequestStatus}

theorem updateSwitchRequestStatus_keeps {id : String}
    {approvedBy : String} {approvedAt : Int} {events : List Event}
    (h : s.updateSwitchRequestStatus id status approvedBy approvedAt events = .ok (s', ())) :
    Keeps s s' := by
  obtain ⟨outbox, houtbox, rfl⟩ := updateSwitchRequestStatus_eq_ok h
  exact .emit houtbox rfl (s.updates_update id _ (SwitchRequest.id_decided _ _ _ _) fun _ => rfl)

theorem transition_keeps {id : String} {source : List RequestStatus} {target : RequestStatus}
    {errorMsg : String} (h : s.transition id source target errorMsg = .ok (s', ())) :
    Keeps s s' := by
  obtain ⟨row, -, -, rfl⟩ := transition_eq_ok h
  exact ⟨s.updates_update id _ (SwitchRequest.id_moved _ _ _) fun _ => rfl, fun _ h => h⟩

theorem emitStatusChanged_keeps {errorMsg messageId correlationId : String}
    (h : s.emitStatusChanged request status errorMsg messageId correlationId = .ok (s', ())) :
    Keeps s s' := by
  obtain ⟨outbox, houtbox, rfl⟩ := emitStatusChanged_eq_ok h
  exact .emit houtbox rfl fun id row hrow => ⟨row, hrow, rfl⟩

theorem repository_keeps (s : Traffic) (op : RepoOp) (n : RepoNature) :
    Keeps s (repository.perform s op n).1 := by
  cases op with
  | now | newUuid => exact .refl s
  | createSwitchRequest => exact .commit _ fun _ _ htx => createSwitchRequest_keeps htx
  | updateSwitchRequestStatus => exact .commit _ fun _ _ htx => updateSwitchRequestStatus_keeps htx
  | _ => exact .query _ _

theorem controllerStore_keeps (s : Traffic) (requestId : String) (op : ControllerOp)
    (n : ControllerNature) : Keeps s ((controllerStore requestId).perform s op n).1 := by
  cases op with
  | getRequest => exact .query _ _
  | transition => exact .commit _ fun _ _ htx => transition_keeps htx
  | executePlan => exact ⟨fun _ row h => ⟨row, h, rfl⟩, fun _ h => h⟩
  | emitStatusChanged => exact .commit _ fun _ _ htx => emitStatusChanged_keeps htx

theorem repository_retains (s : Traffic) (op : RepoOp) (n : RepoNature) :
    Retains s (repository.perform s op n).1 :=
  (repository_keeps s op n).retains

theorem controllerStore_retains (s : Traffic) (requestId : String) (op : ControllerOp)
    (n : ControllerNature) : Retains s ((controllerStore requestId).perform s op n).1 :=
  (controllerStore_keeps s requestId op n).retains

end Traffic

theorem TrafficWorld.step_keeps (sha : String → String) (w : TrafficWorld) (event : TrafficEvent) :
    w.traffic.Keeps (w.step sha event).traffic := by
  cases event with
  | perform call n =>
    show w.traffic.Keeps (w.perform call n).traffic
    unfold TrafficWorld.perform
    split
    · exact Traffic.repository_keeps _ _ _
    · exact .refl _
  | deliver => exact .refl _
  | handle command n =>
    show w.traffic.Keeps (w.handle command n).traffic
    unfold TrafficWorld.handle
    split
    · exact Traffic.controllerStore_keeps _ _ _ _
    · exact .refl _
  | tick => exact ⟨fun _ row h => ⟨row, h, rfl⟩, fun _ h => h⟩
  | _ => exact .refl _

end HnbCloud.Gslb
