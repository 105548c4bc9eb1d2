import HnbCloud.Lib.Json
import HnbCloud.Lib.Table

set_option autoImplicit false

/-! # The transactional outbox

`outbox_events` is the one table through which a service sends a message: the transaction that
changes the state inserts the message, and a relay of operation-worker publishes it later. A
nullable text column is a `String` whose empty value stands for `NULL`: every writer goes through
`NULLIF(…, '')` and the reader maps `NULL` back to the empty text.

Two unique indexes guard an insert: one on `message_id`, which is the key of the table, and one on
`(tenant_id, message_type, idempotency_key)`. -/

namespace HnbCloud.Messaging

open List

/-- The columns a writer of the outbox supplies. -/
structure OutboxEvent where
  (messageId messageType schemaVersion subject : String)
  occurredAt : Int
  (tenantId projectId environmentId actorId correlationId causationId idempotencyKey : String)
  aggregateId : String
  aggregateVersion : Option Int
  (operationId stepId : String)
  expectedVersion : Option Int
  payload : Json

/-- `outbox_events.status`. -/
inductive OutboxStatus where
  | pending
  | published
  | failed
deriving DecidableEq, Repr

/-- A row of `outbox_events`: the message, and what the relay keeps about it. -/
structure OutboxRow where
  event : OutboxEvent
  status : OutboxStatus
  (attempt maxAttempts : Nat)
  (nextAttemptAt createdAt : Int)
  publishedAt : Option Int
  lastError : Option String
  /-- The column check `max_attempts > 0`. -/
  maxAttempts_pos : 0 < maxAttempts

open OutboxRow

/-- The table, unique by `message_id`. -/
abbrev Outbox := Table OutboxRow String (fun row => row.event.messageId)

/-- The row an insert creates, with the column defaults. -/
def OutboxRow.new (now : Int) (event : OutboxEvent) : OutboxRow where
  event := event
  status := .pending
  attempt := 0
  maxAttempts := 10
  nextAttemptAt := now
  createdAt := now
  publishedAt := none
  lastError := none
  maxAttempts_pos := by decide

/-- The second unique index: `(tenant_id, message_type, idempotency_key)`. -/
def OutboxEvent.sameCommand (a b : OutboxEvent) : Bool :=
  a.tenantId == b.tenantId && a.messageType == b.messageType && a.idempotencyKey == b.idempotencyKey

/-- `insertOutboxEvent`: `none` is a violation of one of the two unique indexes, which aborts the
    transaction. -/
def insertOutboxEvent (outbox : Outbox) (now : Int) (event : OutboxEvent) : Option Outbox :=
  if outbox.rows.any (fun row => row.event.sameCommand event) then none
  else outbox.insert? (new now event)

/-- `insertOutboxEvent` for each event of a list, in order. -/
def insertOutboxEvents (outbox : Outbox) (now : Int) : List OutboxEvent → Option Outbox
  | [] => some outbox
  | event :: rest =>
    match insertOutboxEvent outbox now event with
    | none => none
    | some outbox' => insertOutboxEvents outbox' now rest

/-- An insert that goes through adds the new row at the end and touches no other. -/
theorem rows_insertOutboxEvent {outbox outbox' : Outbox} {now : Int} {event : OutboxEvent}
    (h : insertOutboxEvent outbox now event = some outbox') :
    outbox'.rows = outbox.rows ++ [new now event] := by
  unfold insertOutboxEvent at h
  split_ifs at h
  exact Table.rows_insert? h

theorem rows_insertOutboxEvents {outbox outbox' : Outbox} {now : Int} {events : List OutboxEvent}
    (h : insertOutboxEvents outbox now events = some outbox') :
    outbox'.rows = outbox.rows ++ events.map (new now) := by
  induction events generalizing outbox with
  | nil =>
    simp only [insertOutboxEvents, Option.some.injEq] at h
    simp [h]
  | cons _ _ ih =>
    unfold insertOutboxEvents at h
    split at h
    · simp at h
    · next outbox₁ hins =>
      rw [ih h, rows_insertOutboxEvent hins, map_cons, append_assoc, singleton_append]

variable (outbox : Outbox) (now : Int)

/-- An insert goes through when neither unique index has the new row. -/
theorem insertOutboxEvent_of_fresh (event : OutboxEvent)
    (hid : ∀ row ∈ outbox.rows, row.event.messageId ≠ event.messageId)
    (hkey : ∀ row ∈ outbox.rows, row.event.idempotencyKey ≠ event.idempotencyKey) :
    ∃ outbox', insertOutboxEvent outbox now event = some outbox' := by
  have hany : outbox.rows.any (fun row => row.event.sameCommand event) = false := by
    rw [any_eq_false]
    intro row hrow
    simp [OutboxEvent.sameCommand, hkey row hrow]
  have hmem : (new now event).event.messageId
      ∉ outbox.rows.map (fun row => row.event.messageId) := by
    intro hmem
    obtain ⟨row, hrow, hid'⟩ := mem_map.1 hmem
    exact hid row hrow hid'
  unfold insertOutboxEvent
  rw [if_neg (by simp [hany]), Table.insert?, dif_neg hmem]
  exact ⟨_, rfl⟩

/-- The two rows would share a key of one of the indexes. -/
def OutboxEvent.clashes (a b : OutboxEvent) : Bool :=
  a.messageId == b.messageId || a.sameCommand b

/-- The events are new to the outbox, and to one another. -/
structure FreshEvents (events : List OutboxEvent) : Prop where
  stored : ∀ row ∈ outbox.rows, ∀ event ∈ events, row.event.clashes event = false
  distinct : events.Pairwise fun a b => a.clashes b = false

/-- An insert goes through exactly when neither unique index has the new row. -/
theorem insertOutboxEvent_eq_none_iff (event : OutboxEvent) :
    insertOutboxEvent outbox now event = none
      ↔ ∃ row ∈ outbox.rows, row.event.clashes event = true := by
  have hmem : (new now event).event.messageId ∈ outbox.rows.map (fun row => row.event.messageId)
      ↔ ∃ row ∈ outbox.rows, row.event.messageId = event.messageId := mem_map
  unfold insertOutboxEvent Table.insert?
  simp only [OutboxEvent.clashes, Bool.or_eq_true, beq_iff_eq, and_or_left, exists_or, ← hmem]
  split
  · next hany => simpa using Or.inr (by simpa using hany)
  next hany =>
  have hno : ¬ ∃ row ∈ outbox.rows, row.event.sameCommand event = true := by simpa using hany
  split
  · next hid => simpa using Or.inl hid
  · next hid => exact iff_of_false (by simp) fun h => h.elim hid hno

theorem insertOutboxEvents_isSome_iff (events : List OutboxEvent) :
    (insertOutboxEvents outbox now events).isSome = true ↔ FreshEvents outbox events := by
  induction events generalizing outbox with
  | nil =>
    simp only [insertOutboxEvents, Option.isSome_some, true_iff]
    exact ⟨by simp, .nil⟩
  | cons event _ ih =>
    unfold insertOutboxEvents
    rcases hins : insertOutboxEvent outbox now event with _ | outbox'
    · obtain ⟨row, hrow, hclash⟩ := (insertOutboxEvent_eq_none_iff outbox now event).1 hins
      simp only [Option.isSome_none, Bool.false_eq_true, false_iff]
      intro h
      simp [h.stored row hrow event mem_cons_self] at hclash
    have hfree : ∀ row ∈ outbox.rows, row.event.clashes event = false := by
      intro row hrow
      by_contra hclash
      have hnone := (insertOutboxEvent_eq_none_iff outbox now event).2
        ⟨row, hrow, by simpa using hclash⟩
      simp [hins] at hnone
    have hrows := rows_insertOutboxEvent hins
    simp only [ih]
    constructor
    · rintro ⟨hstored, hdistinct⟩
      rw [hrows] at hstored
      refine ⟨fun row hrow other hother => ?_, pairwise_cons.2 ⟨fun other hother => ?_, hdistinct⟩⟩
      · rcases mem_cons.1 hother with rfl | hother
        · exact hfree row hrow
        · exact hstored row (mem_append_left _ hrow) other hother
      · exact hstored (new now event) (by simp) other hother
    · rintro ⟨hstored, hdistinct⟩
      obtain ⟨hhead, htail⟩ := pairwise_cons.1 hdistinct
      refine ⟨fun row hrow other hother => ?_, htail⟩
      rw [hrows] at hrow
      rcases mem_append.1 hrow with hrow | hrow
      · exact hstored row hrow other (mem_cons_of_mem _ hother)
      · obtain rfl : row = new now event := by simpa using hrow
        exact hhead other hother

end HnbCloud.Messaging
