import HnbCloud.Gslb.Pools
import HnbCloud.Lib.Noninterference
import HnbCloud.Lib.Text

set_option autoImplicit false

/-! # Intents on different services

A switch request is unique for its tenant, its service and its idempotency key. The events that are
written in the same transaction have keys that are made of that key, and the outbox is unique for the
tenant, the type of the event and the key, without the service: two services share the keys of their
tenant.

Two histories are compared here that differ in the intents on some of the services. What becomes of
the calls for the other services is the same in both as long as the two sides use different keys and
draw different UUIDs. Each operation is a transaction of its own, and the calls interleave in any
way. -/

namespace HnbCloud.Gslb

open Messaging Iam List Option Table SwitchRequest Traffic Bool TrafficWorld

/-! ## Two sides -/

/-- What belongs to the services that are observed, and what does not: the ids of the services, the
    idempotency keys of their intents, and the UUIDs that are drawn for them. -/
structure Realm where
  (services keys ids : String → Bool)

namespace Realm

variable (R : Realm)

structure HasRequest (side : Bool) (row : SwitchRequest) : Prop where
  id : R.ids row.id = side
  service : R.services row.serviceId = side
  key : R.keys row.idempotencyKey = side

inductive HasKey (side : Bool) (messageType key : String) : Prop where
  | submitted (own : String) (htype : messageType = eventIntentSubmitted)
      (hkey : key = "gslb-submit-" ++ own) (h : R.keys own = side)
  | requested (own : String) (htype : messageType = commandStepRequested)
      (hkey : key = "gslb-dispatch-" ++ own) (h : R.keys own = side)
  | changed (id : String) (status : RequestStatus) (htype : messageType = eventStatusChanged)
      (hkey : key = "gslb-status-" ++ id ++ "-" ++ status.text) (h : R.ids id = side)

structure HasEvent (side : Bool) (event : OutboxEvent) : Prop where
  id : R.ids event.messageId = side
  key : R.HasKey side event.messageType event.idempotencyKey

def HasEvents (side : Bool) (events : List Event) : Prop :=
  ∀ event ∈ events, ∀ now, R.HasEvent side (event.toOutbox now)

/-- What is stored belongs to one of the sides. An event that is observed may be any. -/
structure Apart (s : Traffic) : Prop where
  requests : ∀ row ∈ s.requests.rows, R.HasRequest (R.ids row.id) row
  outbox : ∀ row ∈ s.outbox.rows, R.ids row.event.messageId = false → R.HasEvent false row.event

/-- Two states agree on what is observed. -/
structure Same (s t : Traffic) : Prop where
  requests : s.requests.rows.filter (fun row => R.ids row.id)
    = t.requests.rows.filter (fun row => R.ids row.id)
  outbox : s.outbox.rows.filter (fun row => R.ids row.event.messageId)
    = t.outbox.rows.filter (fun row => R.ids row.event.messageId)
  now : s.now = t.now

/-- What a transaction of a side leaves: the sides are still apart, and a hidden one has changed
    nothing that is observed. -/
structure Moves (side : Bool) (s s' : Traffic) : Prop where
  apart : R.Apart s'
  hidden : side = false → R.Same s' s

end Realm

/-! ## Keys of different sides -/

theorem RequestStatus.text_separator (status : RequestStatus) : '-' ∉ status.text.toList := by
  cases status <;> decide

/-- The id of a request can be read off the key of a change of its status. -/
theorem statusKey_inj {id id' : String} {status status' : RequestStatus}
    (h : "gslb-status-" ++ id ++ "-" ++ status.text = "gslb-status-" ++ id' ++ "-" ++ status'.text) :
    id = id' := by
  have hlist := congrArg String.toList h
  simp only [String.toList_append, append_assoc] at hlist
  have hrest := append_cancel_left hlist
  exact String.toList_inj.1
    (append_separator_inj status.text_separator status'.text_separator hrest)

namespace Realm

variable {R : Realm} {id : String} {side : Bool} {request : SwitchRequest} {α : Type}
  {f : SwitchRequest → SwitchRequest} {s t : Traffic} {op : RepoOp} {n : RepoNature}
  {trusted : TrustedContext} {event : TrafficEvent}

theorem not_hasKey_both {messageType key : String} (h : R.HasKey true messageType key) :
    ¬ R.HasKey false messageType key := by
  intro h'
  obtain ⟨hsr, hsc, hrc⟩ : eventIntentSubmitted ≠ commandStepRequested
      ∧ eventIntentSubmitted ≠ eventStatusChanged
      ∧ commandStepRequested ≠ eventStatusChanged := by decide
  -- Events of different types have different keys; those of one type have different ones inside.
  rcases h with ⟨own, rfl, rfl, hside⟩ | ⟨own, rfl, rfl, hside⟩ | ⟨id, status, rfl, rfl, hside⟩
  · rcases h' with ⟨own', htype, hkey, hside'⟩ | ⟨own', htype, hkey, hside'⟩
      | ⟨id', status', htype, hkey, hside'⟩
    · rw [(String.append_right_inj _).1 hkey, hside'] at hside
      simp at hside
    · exact hsr htype
    · exact hsc htype
  · rcases h' with ⟨own', htype, hkey, hside'⟩ | ⟨own', htype, hkey, hside'⟩
      | ⟨id', status', htype, hkey, hside'⟩
    · exact hsr htype.symm
    · rw [(String.append_right_inj _).1 hkey, hside'] at hside
      simp at hside
    · exact hrc htype
  · rcases h' with ⟨own', htype, hkey, hside'⟩ | ⟨own', htype, hkey, hside'⟩
      | ⟨id', status', htype, hkey, hside'⟩
    · exact hsc htype.symm
    · exact hrc htype.symm
    · rw [statusKey_inj hkey, hside'] at hside
      simp at hside

theorem not_clashes {event event' : OutboxEvent} (h : R.HasEvent false event)
    (h' : R.HasEvent true event') : event.clashes event' = false := by
  by_contra hclash
  simp only [OutboxEvent.clashes, OutboxEvent.sameCommand, not_eq_false, or_eq_true,
    and_eq_true, beq_iff_eq] at hclash
  rcases hclash with hid | ⟨⟨-, htype⟩, hkey⟩
  · have hside := h.id
    rw [hid, h'.id] at hside
    simp at hside
  · have hboth := h.key
    rw [htype, hkey] at hboth
    exact not_hasKey_both h'.key hboth

/-! ## The transactions -/

section Stores

variable {s' t' : Traffic} {requests requests' : Table SwitchRequest String SwitchRequest.id}
  {drill : Option DrillReport} {events : List Event} {status target : RequestStatus}
  {source : List RequestStatus} {approvedBy errorMsg messageId correlationId : String}
  {approvedAt : Int}

theorem filter_update (hf : ∀ row, (f row).id = row.id) :
    (requests.update id f hf).rows.filter (fun row => R.ids row.id)
      = (requests.rows.filter (fun row => R.ids row.id)).map
          fun row => if row.id = id then f row else row := by
  rw [rows_update, List.filter_map]
  congr 2
  funext row
  simp only [Function.comp_apply]
  split
  · rw [hf]
  · rfl

theorem HasEvents.toOutbox (h : R.HasEvents side events)
    (now : Int) : ∀ event ∈ events.map (Event.toOutbox now), R.HasEvent side event := by
  intro event hmem
  obtain ⟨event, hevent, rfl⟩ := mem_map.1 hmem
  exact h event hevent now

theorem hasEvent_result (hid : R.ids request.id = side)
    (hmessage : R.ids messageId = side) (now : Int) :
    ∀ event ∈ [(resultEvent request status errorMsg messageId correlationId).toOutbox now],
      R.HasEvent side event := by
  intro event hevent
  obtain rfl := mem_singleton.1 hevent
  exact ⟨hmessage, .changed request.id status rfl rfl hid⟩

section Apart

variable (h : R.Apart s)
include h

theorem Apart.moves : R.Moves side s s :=
  ⟨h, fun _ => ⟨rfl, rfl, rfl⟩⟩

theorem Apart.query (outcome : ApiOutcome) (a : α) :
    R.Moves side s (outcome.commit s (.ok (s, a))).1 := by
  rw [commit_query_fst]
  exact h.moves

theorem Apart.found (hid : R.ids id = side) {row : SwitchRequest}
    (hrow : s.requests.get? id = some row) : R.HasRequest side row := by
  have hrequest := h.requests row (mem_of_get? hrow)
  rwa [key_of_get? hrow, hid] at hrequest

theorem Apart.ids_of_service {row : SwitchRequest} (hrow : row ∈ s.requests.rows)
    (hside : R.services row.serviceId = side) : R.ids row.id = side := by
  rw [← hside]
  exact (h.requests row hrow).service.symm

theorem Apart.insert (hrequest : R.HasRequest side request)
    (hinsert : s.requests.insert? request = some requests) :
    (∀ row ∈ requests.rows, R.HasRequest (R.ids row.id) row)
    ∧ (side = false → requests.rows.filter (fun row => R.ids row.id)
      = s.requests.rows.filter fun row => R.ids row.id) := by
  constructor
  · intro row hrow
    rcases (mem_insert? hinsert).1 hrow with hrow | rfl
    · exact h.requests row hrow
    · rwa [hrequest.id]
  · rintro rfl
    rw [rows_insert? hinsert, filter_append]
    simp [hrequest.id]

theorem Apart.sends {events : List OutboxEvent} {outbox : Outbox}
    (hevents : ∀ event ∈ events, R.HasEvent side event)
    (houtbox : insertOutboxEvents s.outbox s.now events = some outbox) :
    (∀ row ∈ outbox.rows, R.ids row.event.messageId = false → R.HasEvent false row.event)
    ∧ (side = false → outbox.rows.filter (fun row => R.ids row.event.messageId)
      = s.outbox.rows.filter fun row => R.ids row.event.messageId) := by
  rw [rows_insertOutboxEvents houtbox]
  constructor
  · intro row hrow hid
    rcases mem_append.1 hrow with hrow | hrow
    · exact h.outbox row hrow hid
    obtain ⟨event, hevent, rfl⟩ := mem_map.1 hrow
    have hside := hevents event hevent
    obtain rfl : side = false := hside.id.symm.trans hid
    exact hside
  · rintro rfl
    rw [filter_append, append_right_eq_self, filter_eq_nil_iff]
    intro row hrow
    obtain ⟨event, hevent, rfl⟩ := mem_map.1 hrow
    have hid : R.ids (OutboxRow.new s.now event).event.messageId = false := (hevents event hevent).id
    simp [hid]

/-- An update leaves every request on its side, if it keeps its service and its key. -/
theorem Apart.update (hid : R.ids id = side) (hf : ∀ row, (f row).id = row.id)
    (hkeeps : ∀ row, (f row).serviceId = row.serviceId
      ∧ (f row).idempotencyKey = row.idempotencyKey) :
    (∀ row ∈ (s.requests.update id f hf).rows, R.HasRequest (R.ids row.id) row)
    ∧ (side = false → (s.requests.update id f hf).rows.filter (fun row => R.ids row.id)
      = s.requests.rows.filter fun row => R.ids row.id) := by
  constructor
  · refine forall_mem_update f hf (fun row _ _ hrow => ?_) h.requests
    refine ⟨rfl, ?_, ?_⟩
    · rw [(hkeeps row).1, hf]
      exact hrow.service
    · rw [(hkeeps row).2, hf]
      exact hrow.key
  · rintro rfl
    rw [filter_update]
    refine (map_congr_left fun row hrow => ?_).trans (map_id _)
    have hne : row.id ≠ id := by
      rintro rfl
      have hown := (mem_filter.1 hrow).2
      rw [hid] at hown
      simp at hown
    rw [if_neg hne, id_eq]

theorem Apart.create (hrequest : R.HasRequest side request)
    (hevents : R.HasEvents side events)
    (htx : s.createSwitchRequest request drill events = .ok (s', ())) : R.Moves side s s' := by
  obtain ⟨requests, outbox, hinsert, houtbox, rfl⟩ := createSwitchRequest_eq_ok htx
  obtain ⟨hrequests, hfilter⟩ := h.insert hrequest hinsert
  obtain ⟨hrows, hfilter'⟩ := h.sends (hevents.toOutbox s.now) houtbox
  exact ⟨⟨hrequests, hrows⟩, fun hside => ⟨hfilter hside, hfilter' hside, rfl⟩⟩

theorem Apart.decide (hid : R.ids id = side) (hevents : R.HasEvents side events)
    (htx : s.updateSwitchRequestStatus id status approvedBy approvedAt events = .ok (s', ())) :
    R.Moves side s s' := by
  obtain ⟨outbox, houtbox, rfl⟩ := updateSwitchRequestStatus_eq_ok htx
  obtain ⟨hrequests, hfilter⟩ := h.update hid (id_decided _ _ _ _) fun _ => ⟨rfl, rfl⟩
  obtain ⟨hrows, hfilter'⟩ := h.sends (hevents.toOutbox s.now) houtbox
  exact ⟨⟨hrequests, hrows⟩, fun hside => ⟨hfilter hside, hfilter' hside, rfl⟩⟩

theorem Apart.transition (hid : R.ids id = side)
    (htx : s.transition id source target errorMsg = .ok (s', ())) : R.Moves side s s' := by
  obtain ⟨row, -, -, rfl⟩ := transition_eq_ok htx
  obtain ⟨hrequests, hfilter⟩ := h.update hid (id_moved _ _ _) fun _ => ⟨rfl, rfl⟩
  exact ⟨⟨hrequests, h.outbox⟩, fun hside => ⟨hfilter hside, rfl, rfl⟩⟩

theorem Apart.emitStatus (hid : R.ids request.id = side)
    (hmessage : R.ids messageId = side)
    (htx : s.emitStatusChanged request status errorMsg messageId correlationId = .ok (s', ())) :
    R.Moves side s s' := by
  obtain ⟨outbox, houtbox, rfl⟩ := emitStatusChanged_eq_ok htx
  obtain ⟨hrows, hfilter⟩ := h.sends (hasEvent_result hid hmessage s.now) houtbox
  exact ⟨⟨h.requests, hrows⟩, fun hside => ⟨rfl, hfilter hside, rfl⟩⟩

end Apart

/-- A transaction in the two states: it fails with the same error, or it answers the same and leaves
    states that agree. -/
inductive AlikeTx {α : Type} : Except String (Traffic × α) → Except String (Traffic × α) → Prop where
  | error (err : String) : AlikeTx (.error err) (.error err)
  | ok {s t : Traffic} (a : α) (h : R.Same s t) : AlikeTx (.ok (s, a)) (.ok (t, a))

theorem AlikeTx.commit {x y : Except String (Traffic × α)} (h : AlikeTx (R := R) x y)
    (hsame : R.Same s t) (outcome : ApiOutcome) :
    (outcome.commit s x).2 = (outcome.commit t y).2
      ∧ R.Same (outcome.commit s x).1 (outcome.commit t y).1 := by
  cases h with
  | error => cases outcome <;> exact ⟨rfl, hsame⟩
  | ok a h =>
    cases outcome with
    | ok | lost => exact ⟨rfl, h⟩
    | refused => exact ⟨rfl, hsame⟩

theorem Same.symm (h : R.Same s t) : R.Same t s :=
  ⟨h.requests.symm, h.outbox.symm, h.now.symm⟩

theorem Same.trans (h : R.Same s s') (h' : R.Same s' t) : R.Same s t :=
  ⟨h.requests.trans h'.requests, h.outbox.trans h'.outbox, h.now.trans h'.now⟩

section Same

variable (h : R.Same s t)
include h

theorem Same.query {a b : α} (hab : a = b) (outcome : ApiOutcome) :
    (outcome.commit s (.ok (s, a))).2 = (outcome.commit t (.ok (t, b))).2
      ∧ R.Same (outcome.commit s (.ok (s, a))).1 (outcome.commit t (.ok (t, b))).1 := by
  subst hab
  exact (AlikeTx.ok a h).commit h outcome

/-- A query that is about the observed requests finds the same in both states. -/
theorem Same.find? {p : SwitchRequest → Bool}
    (hs : ∀ row ∈ s.requests.rows, p row = true → R.ids row.id = true)
    (ht : ∀ row ∈ t.requests.rows, p row = true → R.ids row.id = true) :
    s.requests.rows.find? p = t.requests.rows.find? p := by
  rw [← find?_filter_of_imp hs, ← find?_filter_of_imp ht, h.requests]

theorem Same.get? (hid : R.ids id = true) :
    s.requests.get? id = t.requests.get? id := by
  have hp : ∀ row : SwitchRequest, decide (row.id = id) = true → R.ids row.id = true := by
    intro row hrow
    rwa [of_decide_eq_true hrow]
  exact h.find? (fun row _ => hp row) fun row _ => hp row

theorem Same.insert (hs : s.requests.insert? request = some requests)
    (ht : t.requests.insert? request = some requests') :
    requests.rows.filter (fun row => R.ids row.id)
      = requests'.rows.filter (fun row => R.ids row.id) := by
  rw [rows_insert? hs, rows_insert? ht, filter_append, filter_append, h.requests]

theorem Same.transition (hid : R.ids id = true) :
    AlikeTx (R := R) (s.transition id source target errorMsg)
      (t.transition id source target errorMsg) := by
  unfold Traffic.transition
  rw [← h.get? hid]
  split
  · exact .error _
  split
  · refine .ok () ⟨?_, h.outbox, h.now⟩
    rw [filter_update, filter_update, h.requests, h.now]
  · exact .error _

theorem Same.freshEvents (ht : R.Apart t) {events : List OutboxEvent}
    (hevents : ∀ event ∈ events, R.HasEvent true event) (hfresh : FreshEvents s.outbox events) :
    FreshEvents t.outbox events := by
  refine ⟨fun row hrow event hevent => ?_, hfresh.distinct⟩
  by_cases hid : R.ids row.event.messageId = true
  · have hmem : row ∈ t.outbox.rows.filter (fun row => R.ids row.event.messageId) :=
      mem_filter.2 ⟨hrow, hid⟩
    rw [← h.outbox] at hmem
    exact hfresh.stored row (mem_filter.1 hmem).1 event hevent
  · exact not_clashes (ht.outbox row hrow (by simpa using hid)) (hevents event hevent)

variable (hs : R.Apart s) (ht : R.Apart t)
include hs ht

theorem Same.find?_key {serviceId : String}
    (hservice : R.services serviceId = true) (tenantId key : String) :
    s.requests.rows.find? (fun row => row.tenantId == tenantId && row.serviceId == serviceId
        && row.idempotencyKey == key)
      = t.requests.rows.find? (fun row => row.tenantId == tenantId && row.serviceId == serviceId
        && row.idempotencyKey == key) := by
  refine h.find? (fun row hrow hp => ?_) fun row hrow hp => ?_
  all_goals simp only [and_eq_true, beq_iff_eq] at hp
  · exact hs.ids_of_service hrow (hp.1.2 ▸ hservice)
  · exact ht.ids_of_service hrow (hp.1.2 ▸ hservice)

theorem Same.emit {events : List OutboxEvent}
    (hevents : ∀ event ∈ events, R.HasEvent true event) :
    AlikeTx (R := R) (match s.emit events with | .error err => .error err | .ok s' => .ok (s', ()))
      (match t.emit events with | .error err => .error err | .ok t' => .ok (t', ())) := by
  have hfresh : FreshEvents s.outbox events ↔ FreshEvents t.outbox events :=
    ⟨h.freshEvents ht hevents, h.symm.freshEvents hs hevents⟩
  rw [← insertOutboxEvents_isSome_iff _ s.now, ← insertOutboxEvents_isSome_iff _ t.now] at hfresh
  unfold Traffic.emit
  cases hleft : insertOutboxEvents s.outbox s.now events with
  | none =>
    rw [hleft] at hfresh
    have hright : insertOutboxEvents t.outbox t.now events = none := by
      simpa using hfresh
    rw [hright]
    exact .error _
  | some outbox =>
    rw [hleft] at hfresh
    obtain ⟨outbox', hright⟩ := isSome_iff_exists.1 (hfresh.1 rfl)
    rw [hright]
    refine .ok () ⟨h.requests, ?_, h.now⟩
    show outbox.rows.filter _ = outbox'.rows.filter _
    rw [rows_insertOutboxEvents hleft, rows_insertOutboxEvents hright, filter_append,
      filter_append, h.outbox, h.now]

theorem Same.create (hrequest : R.HasRequest true request) (hevents : R.HasEvents true events) :
    AlikeTx (R := R) (s.createSwitchRequest request drill events)
      (t.createSwitchRequest request drill events) := by
  have hget : s.requests.get? request.id = t.requests.get? request.id := h.get? hrequest.id
  unfold createSwitchRequest
  rw [← isSome_find?, ← isSome_find?, ← h.find?_key hs ht hrequest.service]
  split
  · exact .error _
  cases hleft : s.requests.insert? request with
  | none =>
    have hright : t.requests.insert? request = none := by
      by_contra hne
      obtain ⟨requests, hright⟩ := ne_none_iff_exists'.1 hne
      have hfree := get?_eq_none_of_insert? hright
      obtain ⟨requests', hleft'⟩ := s.requests.exists_insert? request (hget.trans hfree)
      rw [hleft] at hleft'
      simp at hleft'
    rw [hright]
    exact .error _
  | some requests =>
    have hfree := get?_eq_none_of_insert? hleft
    obtain ⟨requests', hright⟩ := t.requests.exists_insert? request (hget.symm.trans hfree)
    have hmap : events.map (Event.toOutbox t.now) = events.map (Event.toOutbox s.now) := by
      rw [h.now]
    rw [hright, hmap]
    have hstates : R.Same { s with requests := requests, drills := s.drills ++ drill.toList }
        { t with requests := requests', drills := t.drills ++ drill.toList } :=
      ⟨h.insert hleft hright, h.outbox, h.now⟩
    exact hstates.emit ⟨(hs.insert hrequest hleft).1, hs.outbox⟩
      ⟨(ht.insert hrequest hright).1, ht.outbox⟩ (hevents.toOutbox s.now)

theorem Same.decide (hevents : R.HasEvents true events) :
    AlikeTx (R := R) (s.updateSwitchRequestStatus id status approvedBy approvedAt events)
      (t.updateSwitchRequestStatus id status approvedBy approvedAt events) := by
  have hmap : events.map (Event.toOutbox t.now) = events.map (Event.toOutbox s.now) := by
    rw [h.now]
  unfold updateSwitchRequestStatus
  rw [hmap]
  have hstates : R.Same { s with
        requests := s.requests.update id _ (id_decided s.now status approvedBy approvedAt)
        decided := s.decided ++
          if (s.requests.get? id).isSome then [{ requestId := id, status := status }] else [] }
      { t with
        requests := t.requests.update id _ (id_decided t.now status approvedBy approvedAt)
        decided := t.decided ++
          if (t.requests.get? id).isSome then [{ requestId := id, status := status }] else [] } := by
    refine ⟨?_, h.outbox, h.now⟩
    rw [filter_update, filter_update, h.requests, h.now]
  exact hstates.emit ⟨(hs.update rfl (id_decided _ _ _ _) fun _ => ⟨rfl, rfl⟩).1, hs.outbox⟩
    ⟨(ht.update rfl (id_decided _ _ _ _) fun _ => ⟨rfl, rfl⟩).1, ht.outbox⟩
    (hevents.toOutbox s.now)

theorem Same.emitStatus (hid : R.ids request.id = true) (hmessage : R.ids messageId = true) :
    AlikeTx (R := R) (s.emitStatusChanged request status errorMsg messageId correlationId)
      (t.emitStatusChanged request status errorMsg messageId correlationId) := by
  unfold emitStatusChanged
  rw [← h.now]
  exact h.emit hs ht (hasEvent_result hid hmessage s.now)

end Same

end Stores

/-! ## The operations of a side -/

variable (R)

/-- The operations of the API server on a side. -/
def permits (side : Bool) : RepoOp → Prop
  | .getSwitchRequestByKey _ serviceId _ => R.services serviceId = side
  | .getSwitchRequest id _ => R.ids id = side
  | .createSwitchRequest request _ events => R.HasRequest side request ∧ R.HasEvents side events
  | .updateSwitchRequestStatus id _ _ _ events => R.ids id = side ∧ R.HasEvents side events
  | _ => True

/-- What they answer. -/
def answers (side : Bool) : (op : RepoOp) → op.Reply → Prop
  | .getSwitchRequest .. => fun answer => ∀ row, answer = .ok (some row) → R.HasRequest side row
  | .newUuid => fun uuid => R.ids uuid = side
  | _ => fun _ => True

def controllerPermits (side : Bool) : ControllerOp → Prop
  | .getRequest id => R.ids id = side
  | .transition id .. => R.ids id = side
  | .executePlan _ => True
  | .emitStatusChanged request .. => R.ids request.id = side

def controllerAnswers (side : Bool) : (op : ControllerOp) → op.Reply → Prop
  | .getRequest .. => fun answer => ∀ row, answer = .ok (some row) → R.ids row.id = side
  | _ => fun _ => True

variable {R}

theorem repository_moves (hs : R.Apart s) (hop : R.permits side op) (hn : R.ids n.uuid = side) :
    R.Moves side s (repository.perform s op n).1
      ∧ R.answers side op (repository.perform s op n).2 := by
  cases op with
  | now => exact ⟨hs.moves, trivial⟩
  | newUuid => exact ⟨hs.moves, hn⟩
  | getSwitchRequest =>
    refine ⟨hs.query _ _, fun row hrow => ?_⟩
    have hfound := (query_answer hrow).2
    obtain ⟨hget, -⟩ := filter_eq_some_iff.1 hfound.symm
    exact hs.found hop hget
  | createSwitchRequest =>
    exact ⟨commit_induction n.outcome hs.moves fun _ _ htx => hs.create hop.1 hop.2 htx, trivial⟩
  | updateSwitchRequestStatus =>
    exact ⟨commit_induction n.outcome hs.moves fun _ _ htx => hs.decide hop.1 hop.2 htx, trivial⟩
  | _ => exact ⟨hs.query _ _, trivial⟩

theorem repository_observed (hs : R.Apart s)
    (ht : R.Apart t) (h : R.Same s t) (hop : R.permits true op) :
    (repository.perform s op n).2 = (repository.perform t op n).2
      ∧ R.Same (repository.perform s op n).1 (repository.perform t op n).1 := by
  cases op with
  | now => exact ⟨h.now, h⟩
  | newUuid => exact ⟨rfl, h⟩
  | getSwitchRequest => exact h.query (congrArg _ (h.get? hop)) _
  | getSwitchRequestByKey => exact h.query (h.find?_key hs ht hop _ _) _
  | createSwitchRequest => exact (h.create hs ht hop.1 hop.2).commit h n.outcome
  | updateSwitchRequestStatus => exact (h.decide hs ht hop.2).commit h n.outcome
  | _ => exact h.query rfl _

theorem controllerStore_moves {requestId : String} {op : ControllerOp} {n : ControllerNature}
    (hs : R.Apart s) (hop : R.controllerPermits side op) (hn : R.ids n.messageId = side) :
    R.Moves side s ((controllerStore requestId).perform s op n).1
      ∧ R.controllerAnswers side op ((controllerStore requestId).perform s op n).2 := by
  cases op with
  | getRequest =>
    refine ⟨hs.query _ _, fun row hrow => ?_⟩
    exact (hs.found hop (query_answer hrow).2.symm).id
  | transition =>
    exact ⟨commit_induction n.outcome hs.moves fun _ _ htx => hs.transition hop htx, trivial⟩
  | executePlan => exact ⟨⟨⟨hs.requests, hs.outbox⟩, fun _ => ⟨rfl, rfl, rfl⟩⟩, trivial⟩
  | emitStatusChanged =>
    exact ⟨commit_induction n.outcome hs.moves fun _ _ htx => hs.emitStatus hop hn htx, trivial⟩

variable (R)

/-- The API server keeps the sides apart. -/
def repositorySeparation : Separation repository where
  inv := R.Apart
  same := R.Same
  permits := R.permits
  answers := R.answers
  chance side n := R.ids n.uuid = side
  symm := Same.symm
  keeps hs hop hn := (repository_moves hs hop hn).imp_left Moves.apart
  observed hs ht h hop _ := repository_observed hs ht h hop
  hidden hs h hop hn := ((repository_moves hs hop hn).1.hidden rfl).trans h

/-- So does the controller. -/
def controllerSeparation (requestId : String) : Separation (controllerStore requestId) where
  inv := R.Apart
  same := R.Same
  permits := R.controllerPermits
  answers := R.controllerAnswers
  chance side n := R.ids n.messageId = side
  symm := Same.symm
  keeps hs hop hn := (controllerStore_moves hs hop hn).imp_left Moves.apart
  observed {s t op n} hs ht h hop hn := by
    cases op with
    | getRequest => exact h.query (h.get? hop) _
    | transition => exact (h.transition hop).commit h n.outcome
    | executePlan => exact ⟨rfl, ⟨h.requests, h.outbox, h.now⟩⟩
    | emitStatusChanged => exact (h.emitStatus hs ht hop hn).commit h n.outcome
  hidden hs h hop hn := ((controllerStore_moves hs hop hn).1.hidden rfl).trans h

/-! ## The calls of a side -/

variable {R}

abbrev Keeps (R : Realm) (side : Bool) (p : AppProgram) : Prop :=
  p.Within (R.permits side) (R.answers side)

theorem permits_of_isPlain (h : op.isPlain = true) : R.permits side op := by
  cases op with
  | getSwitchRequestByKey | getSwitchRequest | createSwitchRequest | updateSwitchRequestStatus =>
    simp [RepoOp.isPlain] at h
  | _ => trivial

variable {sha : String → String}

variable {pathServiceId : String}

theorem keeps_submitIntent {body : Json} (hservice : R.services pathServiceId = side)
    (hkey : ∀ intent, parseIntent body = .ok intent → intent.serviceId = pathServiceId →
      R.keys intent.idempotencyKey = side) :
    R.Keeps side (submitIntent sha body pathServiceId trusted) := by
  refine within_submitIntent (fun _ => permits_of_isPlain) (fun _ => hservice) ?_
  intro intent service plan now id operationId drill submittedId commandId hintent hpath hid hsubmitted
    hcommand
  have hown := hkey intent hintent hpath
  refine ⟨⟨hid, by rwa [← hpath] at hservice, hown⟩, fun event hevent now => ?_⟩
  rcases mem_cons.1 hevent with rfl | hevent
  · exact ⟨hsubmitted, .submitted _ rfl rfl hown⟩
  split at hevent
  · obtain rfl := mem_singleton.1 hevent
    exact ⟨hcommand, .requested _ rfl rfl hown⟩
  · simp at hevent

variable {toStatus : RequestStatus}

theorem keeps_transition {requestId : String} {dispatch : Bool} (hid : R.ids requestId = side) :
    R.Keeps side (transition requestId trusted toStatus dispatch) := by
  refine within_transition (fun _ => permits_of_isPlain) hid ?_
  intro request _ _ _ hanswer hchanged hcommand
  have hrequest : R.HasRequest side request := hanswer request rfl
  refine ⟨hid, fun event hevent now => ?_⟩
  rcases mem_cons.1 hevent with rfl | hevent
  · exact ⟨hchanged, .changed request.id toStatus rfl rfl hrequest.id⟩
  split at hevent
  · obtain rfl := mem_singleton.1 hevent
    exact ⟨hcommand, .requested _ rfl rfl hrequest.key⟩
  · simp at hevent

/-! ## The commands of a side -/

abbrev KeepsCommand (R : Realm) (side : Bool) (p : ControllerProgram) : Prop :=
  p.Within (R.controllerPermits side) (R.controllerAnswers side)

theorem keeps_handleCommand {data : Json} (h : R.ids (commandRequestId data) = side) :
    R.KeepsCommand side (handleCommand data) := by
  have hid : ∀ payload, CommandPayload.unmarshal data = some payload →
      R.ids payload.requestId = side := by
    intro payload hpayload
    rw [commandRequestId, hpayload] at h
    exact h
  exact within_handleCommand hid (fun payload hpayload _ _ _ _ => hid payload hpayload)
    (fun _ _ _ _ _ _ _ => trivial) fun _ _ request _ _ hanswer => hanswer request rfl

/-! ## Two histories -/

variable (R)

def callSide : TrafficEvent → Option Bool
  | .submit _ pathServiceId _ => some (R.services pathServiceId)
  | .approve requestId _ => some (R.ids requestId)
  | .reject requestId _ => some (R.ids requestId)
  | _ => none

def commandSide : TrafficEvent → Option Bool
  | .deliver data => some (R.ids (commandRequestId data))
  | _ => none

/-- The sides of the calls so far, by their numbers. -/
def callSides (past : List TrafficEvent) : List Bool := past.filterMap R.callSide

def commandSides (past : List TrafficEvent) : List Bool := past.filterMap R.commandSide

/-- An intent has a key of the side of its service, and the UUIDs that are drawn for a call or a
    command are of its side. -/
def keepsSides (past : List TrafficEvent) : TrafficEvent → Bool
  | .submit body pathServiceId _ =>
    match parseIntent body with
    | .error _ => true
    | .ok intent =>
      intent.serviceId != pathServiceId
        || R.keys intent.idempotencyKey == R.services pathServiceId
  | .perform call n => (R.callSides past)[call]?.all fun side => R.ids n.uuid == side
  | .handle command n => (R.commandSides past)[command]?.all fun side => R.ids n.messageId == side
  | _ => true

/-- The two sides use different keys and draw different UUIDs, from here on. -/
def sidesKeptFrom (past : List TrafficEvent) : List TrafficEvent → Bool
  | [] => true
  | event :: later => R.keepsSides past event && sidesKeptFrom (past ++ [event]) later

/-- In the whole history. -/
def sidesKept (events : List TrafficEvent) : Bool := R.sidesKeptFrom [] events

/-- An event and what it is in the other history: the intents on the services that are not observed
    may be any, and so may be the commands for their requests. -/
inductive Differ : TrafficEvent → TrafficEvent → Prop where
  | same (event : TrafficEvent) : Differ event event
  | submit (body body' : Json) (pathServiceId : String) (trusted : TrustedContext)
      (h : R.services pathServiceId = false) :
      Differ (.submit body pathServiceId trusted) (.submit body' pathServiceId trusted)
  | deliver (data data' : Json) (hid : commandRequestId data' = commandRequestId data)
      (h : R.ids (commandRequestId data) = false) : Differ (.deliver data) (.deliver data')

/-- A command and what it is in the other history. -/
structure CommandAlike (side : Bool) (c d : String × ControllerProgram) : Prop where
  id : c.1 = d.1
  program : (R.controllerSeparation c.1).Alike side c.2 d.2

/-- The two worlds after the same number of events. -/
structure WorldsAgree (past : List TrafficEvent) (w v : TrafficWorld) : Prop where
  traffic : R.repositorySeparation.Agree w.traffic v.traffic
  calls : PoolsAlike R.repositorySeparation.Alike (R.callSides past) w.calls v.calls
  commands : PoolsAlike R.CommandAlike (R.commandSides past) w.commands v.commands

variable {R} {past : List TrafficEvent} {w v : TrafficWorld}

theorem callSides_append (event : TrafficEvent) :
    R.callSides (past ++ [event]) = R.callSides past ++ (R.callSide event).toList := by
  rw [callSides, filterMap_append, callSides]
  cases h : R.callSide event <;> simp [h]

theorem commandSides_append (event : TrafficEvent) :
    R.commandSides (past ++ [event]) = R.commandSides past ++ (R.commandSide event).toList := by
  rw [commandSides, filterMap_append, commandSides]
  cases h : R.commandSide event <;> simp [h]

theorem perform_eq (w : TrafficWorld) (call : Nat) (n : RepoNature) :
    w.perform call n = match w.calls[call]? with
      | none => w
      | some p => { w with traffic := (p.advance repository n w.traffic).1
                           calls := w.calls.set call (p.advance repository n w.traffic).2 } := by
  unfold perform
  cases hcall : w.calls[call]? with
  | none => rfl
  | some p =>
    cases p with
    | call => rfl
    | done =>
      simp only [Program.advance]
      obtain ⟨hlt, hdone⟩ := List.getElem?_eq_some_iff.1 hcall
      rw [← hdone, set_getElem_self]

theorem handle_eq (w : TrafficWorld) (command : Nat) (n : ControllerNature) :
    w.handle command n = match w.commands[command]? with
      | none => w
      | some c =>
        { w with
          traffic := (c.2.advance (controllerStore c.1) n w.traffic).1
          commands :=
            w.commands.set command (c.1, (c.2.advance (controllerStore c.1) n w.traffic).2) } := by
  unfold handle
  cases hcommand : w.commands[command]? with
  | none => rfl
  | some c =>
    obtain ⟨requestId, p⟩ := c
    cases p with
    | call => rfl
    | done =>
      simp only [Program.advance]
      obtain ⟨hlt, hdone⟩ := List.getElem?_eq_some_iff.1 hcommand
      rw [← hdone, set_getElem_self]

section WorldsAgree

variable (h : R.WorldsAgree past w v)

include h

theorem WorldsAgree.later (hcall : R.callSide event = none)
    (hcommand : R.commandSide event = none) : R.WorldsAgree (past ++ [event]) w v := by
  refine ⟨h.traffic, ?_, ?_⟩
  · rw [callSides_append, hcall, toList_none, append_nil]
    exact h.calls
  · rw [commandSides_append, hcommand, toList_none, append_nil]
    exact h.commands

theorem WorldsAgree.perform {call : Nat} (hn : R.keepsSides past (.perform call n) = true) :
    R.WorldsAgree past (w.perform call n) (v.perform call n) := by
  rw [perform_eq, perform_eq]
  rcases h.calls.getElem?_cases call with ⟨hw, hv⟩ | ⟨side, p, q, hside, hw, hv, halike⟩
  · rw [hw, hv]
    exact h
  rw [hw, hv]
  have hchance : R.ids n.uuid = side := by simpa [keepsSides, hside] using hn
  obtain ⟨hagree, halike'⟩ := h.traffic.advance halike hchance hchance fun _ => rfl
  exact ⟨hagree, h.calls.set hside halike', h.commands⟩

theorem WorldsAgree.handle {command : Nat} {n : ControllerNature}
    (hn : R.keepsSides past (.handle command n) = true) :
    R.WorldsAgree past (w.handle command n) (v.handle command n) := by
  rw [handle_eq, handle_eq]
  rcases h.commands.getElem?_cases command with
    ⟨hw, hv⟩ | ⟨side, ⟨requestId, p⟩, ⟨requestId', q⟩, hside, hw, hv, hid, halike⟩
  · rw [hw, hv]
    exact h
  rw [hw, hv]
  obtain rfl : requestId = requestId' := hid
  have hchance : R.ids n.messageId = side := by simpa [keepsSides, hside] using hn
  -- Both services keep the same sides of the same tables.
  have hstates : (R.controllerSeparation requestId).Agree w.traffic v.traffic :=
    ⟨h.traffic.left, h.traffic.right, h.traffic.same⟩
  obtain ⟨hagree, halike'⟩ := hstates.advance halike hchance hchance fun _ => rfl
  exact ⟨⟨hagree.left, hagree.right, hagree.same⟩, h.calls, h.commands.set hside ⟨rfl, halike'⟩⟩

theorem WorldsAgree.call {p q : AppProgram} (hcall : R.callSide event = some side)
    (hcommand : R.commandSide event = none) (halike : R.repositorySeparation.Alike side p q) :
    R.WorldsAgree (past ++ [event]) { w with calls := w.calls ++ [p] }
      { v with calls := v.calls ++ [q] } := by
  refine ⟨h.traffic, ?_, ?_⟩
  · rw [callSides_append, hcall]
    exact h.calls.append halike
  · rw [commandSides_append, hcommand, toList_none, append_nil]
    exact h.commands

theorem WorldsAgree.deliver {data data' : Json}
    (hid : commandRequestId data' = commandRequestId data)
    (hobserved : R.ids (commandRequestId data) = true → data = data') :
    R.WorldsAgree (past ++ [.deliver data])
      { w with commands := w.commands ++ [(commandRequestId data, handleCommand data)] }
      { v with commands := v.commands ++ [(commandRequestId data', handleCommand data')] } := by
  refine ⟨h.traffic, ?_, ?_⟩
  · rw [callSides_append]
    exact (append_nil (R.callSides past)).symm ▸ h.calls
  rw [commandSides_append]
  refine h.commands.append ⟨hid.symm, keeps_handleCommand rfl, keeps_handleCommand (hid ▸ rfl),
    fun hside => ?_⟩
  rw [hobserved hside]

end WorldsAgree

theorem keys_of_keepsSides {body : Json}
    (h : R.keepsSides past (.submit body pathServiceId trusted) = true) (intent : Intent)
    (hintent : parseIntent body = .ok intent) (hpath : intent.serviceId = pathServiceId) :
    R.keys intent.idempotencyKey = R.services pathServiceId := by
  simpa [keepsSides, hintent, hpath] using h

variable {past' : List TrafficEvent}

theorem WorldsAgree.step (h : R.WorldsAgree past w v) (sha : String → String)
    {event' : TrafficEvent} (hdiffer : R.Differ event event')
    (hkept : R.keepsSides past event = true) (hkept' : R.keepsSides past' event' = true) :
    R.WorldsAgree (past ++ [event]) (w.step sha event) (v.step sha event') := by
  cases hdiffer with
  | submit _ _ _ _ hother =>
    refine h.call rfl rfl ⟨keeps_submitIntent rfl (keys_of_keepsSides hkept),
      keeps_submitIntent rfl (keys_of_keepsSides hkept'), fun hside => ?_⟩
    rw [hother] at hside
    simp at hside
  | deliver _ _ hid hother =>
    refine h.deliver hid fun hside => ?_
    rw [hother] at hside
    simp at hside
  | same event =>
    cases event with
    | submit body pathServiceId trusted =>
      have hkeeps : R.Keeps (R.services pathServiceId)
          (submitIntent sha body pathServiceId trusted) :=
        keeps_submitIntent rfl (keys_of_keepsSides hkept)
      exact h.call rfl rfl ⟨hkeeps, hkeeps, fun _ => rfl⟩
    | approve | reject =>
      exact h.call rfl rfl ⟨keeps_transition rfl, keeps_transition rfl, fun _ => rfl⟩
    | perform => exact (h.perform hkept).later rfl rfl
    | deliver => exact h.deliver rfl fun _ => rfl
    | handle => exact (h.handle hkept).later rfl rfl
    | tick now =>
      have hticked : R.WorldsAgree past { w with traffic := { w.traffic with now := now } }
          { v with traffic := { v.traffic with now := now } } := by
        refine ⟨⟨?_, ?_, ?_⟩, h.calls, h.commands⟩
        · exact ⟨h.traffic.left.requests, h.traffic.left.outbox⟩
        · exact ⟨h.traffic.right.requests, h.traffic.right.outbox⟩
        · exact ⟨h.traffic.same.requests, h.traffic.same.outbox, rfl⟩
      exact hticked.later rfl rfl

theorem WorldsAgree.run (h : R.WorldsAgree past w v) (sha : String → String)
    {histories : List (TrafficEvent × TrafficEvent)}
    (hdiffer : ∀ pair ∈ histories, R.Differ pair.1 pair.2)
    (hkept : R.sidesKeptFrom past (histories.map Prod.fst) = true)
    (hkept' : R.sidesKeptFrom past' (histories.map Prod.snd) = true) :
    R.WorldsAgree (past ++ histories.map Prod.fst)
      ((trafficMachine sha).run w (histories.map Prod.fst))
      ((trafficMachine sha).run v (histories.map Prod.snd)) := by
  induction histories generalizing past past' w v with
  | nil => simpa using h
  | cons pair _ ih =>
    obtain ⟨event, event'⟩ := pair
    have hhead : R.Differ event event' := hdiffer _ mem_cons_self
    simp only [map_cons, sidesKeptFrom, and_eq_true] at hkept hkept'
    have hstep := h.step sha hhead hkept.1 hkept'.1
    have hrest := ih hstep (fun pair hpair => hdiffer pair (mem_cons_of_mem _ hpair))
      hkept.2 hkept'.2
    rw [append_assoc] at hrest
    exact hrest

end Realm

/-- In two histories that differ in the intents on the other services, a call for a service that is
    observed is at the same point with the same result, if the two sides use different idempotency keys
    and draw different UUIDs. -/
theorem calls_undisturbed (sha : String → String) (R : Realm)
    (requests : Table SwitchRequest String SwitchRequest.id) (outbox : Outbox) (now : Int)
    (hstored : R.Apart (start requests outbox now).traffic)
    (histories : List (TrafficEvent × TrafficEvent))
    (hdiffer : ∀ pair ∈ histories, R.Differ pair.1 pair.2)
    (hfirst : R.sidesKept (histories.map Prod.fst) = true)
    (hsecond : R.sidesKept (histories.map Prod.snd) = true) (call : Nat)
    (hcall : (R.callSides (histories.map Prod.fst))[call]? = some true) :
    ((trafficMachine sha).run (.start requests outbox now) (histories.map Prod.fst)).calls[call]?
      = ((trafficMachine sha).run (.start requests outbox now)
          (histories.map Prod.snd)).calls[call]? := by
  have hstart : R.WorldsAgree [] (.start requests outbox now) (.start requests outbox now) :=
    ⟨⟨hstored, hstored, rfl, rfl, rfl⟩, .nil, .nil⟩
  have hagree := hstart.run sha hdiffer hfirst hsecond
  rcases hagree.calls.getElem?_cases call with ⟨hleft, hright⟩ | ⟨side, p, q, hside, hp, hq, halike⟩
  · rw [hleft, hright]
  · rw [nil_append, hcall] at hside
    rw [hp, hq, halike.observed (Option.some.inj hside).symm]

/-! ## One key on two services -/

def failoverOn (serviceId key : String) : Intent :=
  { failoverTo (estateUuid "b2") with serviceId := serviceId, idempotencyKey := key }

/-- The steps of the call with this number, which draws UUIDs with this beginning. -/
def submissionSteps (call : Nat) (serviceId beginning : String) : List TrafficEvent :=
  (range 10).map fun i => .perform call
    { outcome := .ok
      service := some { id := serviceId, tenantId := "t1", domain := "app.hnb.io"
                        activePoolId := estateUuid "b1", requireApproval := true }
      members := ["south"]
      healthyPools := none
      uuid := beginning ++ toString i }

/-- A failover of one service, and then one of another. The key of the first is `key` in the one history
    and `key'` in the other. -/
def twoServices (key key' : String) : List (TrafficEvent × TrafficEvent) :=
  (.submit (failoverOn (estateUuid "a2") key).marshal (estateUuid "a2") submitter,
    .submit (failoverOn (estateUuid "a2") key').marshal (estateUuid "a2") submitter)
  :: (submissionSteps 0 (estateUuid "a2") "other"
    ++ .submit (failoverOn (estateUuid "a1") "k1").marshal (estateUuid "a1") submitter
    :: submissionSteps 1 (estateUuid "a1") "own").map fun event => (event, event)

/-- The result of a call that has ended. -/
def resultKey : AppProgram → Option (Except AppError String)
  | .done result => some (result.map idempotencyKey)
  | .call .. => none

def secondResult (events : List TrafficEvent) : Option (Except AppError String) :=
  ((trafficMachine id).run (.start .empty .empty 0) events).calls[1]?.bind resultKey

/-- The second service is observed, with its key and its UUIDs. -/
def secondRealm : Realm where
  services id := id == estateUuid "a1"
  keys key := key == "k1"
  ids uuid := "own".toList.isPrefixOf uuid.toList

theorem calls_undisturbed_of_failovers :
    secondResult ((twoServices "k2" "k3").map Prod.fst) = some (.ok "k1")
      ∧ ((trafficMachine id).run (.start .empty .empty 0)
          ((twoServices "k2" "k3").map Prod.fst)).calls[1]?
        = ((trafficMachine id).run (.start .empty .empty 0)
          ((twoServices "k2" "k3").map Prod.snd)).calls[1]? := by
  obtain ⟨hfirst, hsecond, hcall, hresult, hother⟩ :
      secondRealm.sidesKept ((twoServices "k2" "k3").map Prod.fst) = true
      ∧ secondRealm.sidesKept ((twoServices "k2" "k3").map Prod.snd) = true
      ∧ (secondRealm.callSides ((twoServices "k2" "k3").map Prod.fst))[1]? = some true
      ∧ secondResult ((twoServices "k2" "k3").map Prod.fst) = some (.ok "k1")
      ∧ secondRealm.services (estateUuid "a2") = false := by
    decide +kernel
  refine ⟨hresult, calls_undisturbed id secondRealm .empty .empty 0 ⟨by simp [start],
    by simp [start]⟩ (twoServices "k2" "k3") (fun pair hpair => ?_) hfirst hsecond 1
    hcall⟩
  rcases mem_cons.1 hpair with rfl | hpair
  · exact .submit _ _ _ _ hother
  · obtain ⟨event, -, rfl⟩ := mem_map.1 hpair
    exact .same event

/-- The failover of the second service fails if the first used its key, and goes through otherwise. -/
theorem foreign_key_blocks_failover : secondResult ((twoServices "k1" "k2").map Prod.fst)
        = some (.error (.repository "insert gslb outbox event"))
      ∧ secondResult ((twoServices "k1" "k2").map Prod.snd) = some (.ok "k1") := by
  decide +kernel

end HnbCloud.Gslb
