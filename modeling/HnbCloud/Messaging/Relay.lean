import HnbCloud.Lib.Machine
import HnbCloud.Messaging.Envelope

set_option autoImplicit false

/-! # The outbox relay

`OutboxRelay.publishOne` takes one row of the outbox in a transaction, publishes it and marks it.
The broker is not part of the transaction, so a relay can fail between the two. The model runs any
number of relays against one outbox and one broker, and cuts `publishOne` where something can
happen in between: the `SELECT … FOR UPDATE SKIP LOCKED`, the publish, and the commit. A crash
rolls the transaction back at any point; the broker can refuse a message, or take it and fail to
say so.

`published` and `failures` are histories: what the broker has acknowledged, and which failed
attempts have been recorded (each is also a line of the relay's log). -/

namespace HnbCloud.Messaging

open List Table

/-! ## publishOne in steps -/

/-- How far a relay is with the row it holds. -/
inductive Phase where
  /-- The row is locked, nothing is published. -/
  | selected
  /-- The broker has acknowledged the message. -/
  | acknowledged
  /-- The envelope could not be marshalled, or the publish returned this error. -/
  | refused (error : String)
deriving DecidableEq, Repr

/-- A relay inside its transaction, with the row it has selected. -/
structure Session where
  relay : Nat
  /-- `now()` of the transaction. -/
  begun : Int
  record : OutboxRow
  phase : Phase

def Session.open (now : Int) (relay : Nat) (record : OutboxRow) : Session :=
  { relay := relay, begun := now, record := record, phase := .selected }

/-- The relays, the outbox and the broker. -/
structure RelayWorld where
  now : Int
  outbox : Outbox
  sessions : Table Session Nat Session.relay
  /-- The messages whose publish returned without an error. -/
  published : List Message
  /-- The message ids of the recorded failed attempts. -/
  failures : List String

open RelayWorld

def RelayWorld.empty (now : Int) : RelayWorld where
  now := now
  outbox := .empty
  sessions := .empty
  published := []
  failures := []

/-- The condition of the `SELECT`. -/
def OutboxRow.eligible (now : Int) (row : OutboxRow) : Bool :=
  decide (row.status = .pending) && decide (row.nextAttemptAt ≤ now)
    && decide (row.attempt < row.maxAttempts)

open OutboxRow

/-- `ORDER BY next_attempt_at, created_at`. -/
def OutboxRow.before (a b : OutboxRow) : Bool :=
  decide (a.nextAttemptAt < b.nextAttemptAt)
    || (decide (a.nextAttemptAt = b.nextAttemptAt) && decide (a.createdAt < b.createdAt))

/-- `LIMIT 1`: the first row in that order. -/
def earliest : List OutboxRow → Option OutboxRow
  | [] => none
  | row :: rest =>
    match earliest rest with
    | none => some row
    | some other => if other.before row then some other else some row

def RelayWorld.locked (w : RelayWorld) (row : OutboxRow) : Bool :=
  w.sessions.rows.any fun session => session.record.event.messageId == row.event.messageId

/-- The row that `SELECT … LIMIT 1 FOR UPDATE SKIP LOCKED` returns. -/
def RelayWorld.nextPending (w : RelayWorld) : Option OutboxRow :=
  earliest (w.outbox.rows.filter fun row => row.eligible w.now && !w.locked row)

/-- `retryDelay`, in seconds. -/
def retryDelay (attempt : Nat) : Int :=
  min (5 * 2 ^ min (attempt - 1) 6) 300

/-- The update after a publish that succeeded. -/
def OutboxRow.markPublished (now : Int) (row : OutboxRow) : OutboxRow :=
  { row with status := .published, publishedAt := some now, lastError := none }

/-- `markFailedAttempt`: one more attempt, and `failed` when it was the last. -/
def OutboxRow.markFailedAttempt (now : Int) (error : String) (row : OutboxRow) : OutboxRow :=
  { row with
    attempt := row.attempt + 1
    status := if row.maxAttempts ≤ row.attempt + 1 then .failed else .pending
    nextAttemptAt := now + retryDelay (row.attempt + 1) * 1000000
    lastError := some error }

/-- What happens. -/
inductive RelayEvent where
  /-- Another transaction commits a message to the outbox. -/
  | insert (event : OutboxEvent) (maxAttempts : Nat) (pos : 0 < maxAttempts)
  | tick (elapsed : Nat)
  | select (relay : Nat)
  /-- The publish of a selected row succeeds. -/
  | publishOk (relay : Nat)
  /-- Marshalling or publishing fails; the broker may have stored the message all the same. -/
  | publishError (relay : Nat) (error : String)
  /-- The transaction commits. -/
  | commit (relay : Nat)
  /-- The relay crashes, or its transaction fails to commit. -/
  | crash (relay : Nat)

/-- The row a commit leaves behind. -/
def Session.mark (session : Session) (row : OutboxRow) : OutboxRow :=
  match session.phase with
  | .selected => row
  | .acknowledged => row.markPublished session.begun
  | .refused error => row.markFailedAttempt session.begun error

theorem Session.messageId_mark (session : Session) (row : OutboxRow) :
    (session.mark row).event.messageId = row.event.messageId := by
  unfold Session.mark
  split <;> rfl

def RelayWorld.endSession (w : RelayWorld) (relay : Nat) : Table Session Nat Session.relay :=
  w.sessions.deleteWhere fun session => session.relay == relay

/-- One step of the relays, the broker and the clock. An event that does not fit leaves everything
    as it is. -/
def RelayWorld.step (w : RelayWorld) : RelayEvent → RelayWorld
  | .insert event maxAttempts pos =>
    if w.outbox.rows.any (fun row => row.event.sameCommand event) then w else
    match w.outbox.insert?
        { new w.now event with maxAttempts := maxAttempts, maxAttempts_pos := pos } with
    | none => w
    | some outbox => { w with outbox := outbox }
  | .tick elapsed => { w with now := w.now + elapsed }
  | .select relay =>
    match w.nextPending with
    | none => w
    | some row =>
      match w.sessions.insert? (Session.open w.now relay row) with
      | none => w
      | some sessions => { w with sessions := sessions }
  | .publishOk relay =>
    match w.sessions.get? relay with
    | some ⟨_, _, record, .selected⟩ =>
      { w with
        sessions := w.sessions.update relay ({ · with phase := .acknowledged }) (fun _ => rfl)
        published := w.published ++ [record.event.message] }
    | _ => w
  | .publishError relay error =>
    match w.sessions.get? relay with
    | some ⟨_, _, _, .selected⟩ =>
      { w with
        sessions := w.sessions.update relay ({ · with phase := .refused error }) (fun _ => rfl) }
    | _ => w
  | .commit relay =>
    match w.sessions.get? relay with
    | none | some ⟨_, _, _, .selected⟩ => w
    | some session =>
      { w with
        outbox := w.outbox.update session.record.event.messageId session.mark session.messageId_mark
        sessions := w.endSession relay
        failures := w.failures
          ++ if session.phase = .acknowledged then [] else [session.record.event.messageId] }
  | .crash relay => { w with sessions := w.endSession relay }

def relays : Machine RelayWorld RelayEvent Unit where
  step w event := (w.step event, ())

/-! ## What a step can do -/

/-- The effects of a step, guards included. -/
inductive RelayEffect (w : RelayWorld) : RelayWorld → Prop where
  | none : RelayEffect w w
  | inserted (event : OutboxEvent) (maxAttempts : Nat) (pos : 0 < maxAttempts) (outbox : Outbox)
      (h : w.outbox.insert? { new w.now event with
        maxAttempts := maxAttempts, maxAttempts_pos := pos } = some outbox) :
      RelayEffect w { w with outbox := outbox }
  | ticked (elapsed : Nat) : RelayEffect w { w with now := w.now + elapsed }
  | selected (relay : Nat) (row : OutboxRow) (sessions : Table Session Nat Session.relay)
      (next : w.nextPending = some row)
      (h : w.sessions.insert? (Session.open w.now relay row) = some sessions) :
      RelayEffect w { w with sessions := sessions }
  | acknowledged (session : Session) (stored : session ∈ w.sessions.rows) : RelayEffect w { w with
        sessions := w.sessions.update session.relay ({ · with phase := .acknowledged })
          (fun _ => rfl)
        published := w.published ++ [session.record.event.message] }
  | refused (session : Session) (error : String) (stored : session ∈ w.sessions.rows) :
      RelayEffect w { w with
        sessions := w.sessions.update session.relay ({ · with phase := .refused error })
          (fun _ => rfl) }
  | committed (session : Session) (stored : session ∈ w.sessions.rows)
      (done : session.phase ≠ .selected) :
      RelayEffect w { w with
        outbox := w.outbox.update session.record.event.messageId session.mark session.messageId_mark
        sessions := w.endSession session.relay
        failures := w.failures
          ++ if session.phase = .acknowledged then [] else [session.record.event.messageId] }
  | crashed (relay : Nat) : RelayEffect w { w with sessions := w.endSession relay }

theorem relays_effect (w : RelayWorld) (event : RelayEvent) :
    RelayEffect w (relays.next w event) := by
  show RelayEffect w (w.step event)
  cases event with
  | insert event maxAttempts pos =>
    simp only [step]
    split
    · exact .none
    split
    · exact .none
    next outbox h => exact .inserted event maxAttempts pos outbox h
  | tick elapsed => exact .ticked elapsed
  | select relay =>
    simp only [step]
    split
    · exact .none
    next row hnext =>
    split
    · exact .none
    next sessions h => exact .selected relay row sessions hnext h
  | publishOk relay =>
    simp only [step]
    split
    · next relay' begun record hget =>
      obtain rfl : relay' = relay := key_of_get? hget
      exact .acknowledged _ (mem_of_get? hget)
    · exact .none
  | publishError relay error =>
    simp only [step]
    split
    · next relay' begun record hget =>
      obtain rfl : relay' = relay := key_of_get? hget
      exact .refused _ error (mem_of_get? hget)
    · exact .none
  | commit relay =>
    simp only [step]
    split
    · exact .none
    · exact .none
    next session hselected hget =>
    obtain rfl : session.relay = relay := key_of_get? hget
    refine .committed session (mem_of_get? hget) fun hphase => ?_
    obtain ⟨relay', begun, record, phase⟩ := session
    subst hphase
    exact hselected _ _ _ rfl
  | crash relay => exact .crashed relay

variable {row : OutboxRow} {w' : RelayWorld} {session : Session}

theorem mem_of_earliest {rows : List OutboxRow} (h : earliest rows = some row) : row ∈ rows := by
  induction rows generalizing row with
  | nil => simp [earliest] at h
  | cons first _ ih =>
    unfold earliest at h
    split at h
    · next hnone =>
      obtain rfl : first = row := by simpa using h
      exact mem_cons_self
    next other hother =>
    split at h
    · obtain rfl : other = row := by simpa using h
      exact mem_cons_of_mem _ (ih hother)
    · obtain rfl : first = row := by simpa using h
      exact mem_cons_self

theorem RelayWorld.nextPending_spec {w : RelayWorld} (h : w.nextPending = some row) :
    row ∈ w.outbox.rows ∧ row.eligible w.now = true ∧ w.locked row = false := by
  have hmem := mem_filter.1 (mem_of_earliest h)
  refine ⟨hmem.1, ?_⟩
  simpa using hmem.2

/-! ## The invariant -/

/-- The status of a row says what has happened to it. -/
structure RowHistory (w : RelayWorld) (row : OutboxRow) : Prop where
  published : row.status = .published → row.event.message ∈ w.published
  attempts : row.attempt = w.failures.count row.event.messageId
  pending : row.status = .pending → row.attempt < row.maxAttempts
  failed : row.status = .failed → row.maxAttempts ≤ row.attempt

/-- What holds of the relays: a locked row is as it was selected, no two relays hold one row, and
    every row has its history. -/
structure RelayInv (w : RelayWorld) : Prop where
  held : ∀ session ∈ w.sessions.rows, session.record ∈ w.outbox.rows
    ∧ session.record.status = .pending
  exclusive : ∀ session ∈ w.sessions.rows, ∀ other ∈ w.sessions.rows,
    session.record.event.messageId = other.record.event.messageId → session.relay = other.relay
  acknowledged : ∀ session ∈ w.sessions.rows, session.phase = .acknowledged →
    session.record.event.message ∈ w.published
  rows : ∀ row ∈ w.outbox.rows, RowHistory w row
  /-- Failures are recorded for stored rows only. -/
  known : ∀ id ∈ w.failures, id ∈ w.outbox.rows.map fun row => row.event.messageId

theorem relayInv_empty (now : Int) : RelayInv (RelayWorld.empty now) := by
  refine ⟨?_, ?_, ?_, ?_, ?_⟩ <;> simp [RelayWorld.empty]

section Step

variable {w : RelayWorld}

/-- The history of a row depends on the two histories only, and the first may grow. -/
theorem RowHistory.mono (h : RowHistory w row) (hpublished : ∀ m ∈ w.published, m ∈ w'.published)
    (hfailures : w'.failures.count row.event.messageId = w.failures.count row.event.messageId) :
    RowHistory w' row :=
  ⟨fun hs => hpublished _ (h.published hs), h.attempts.trans hfailures.symm, h.pending, h.failed⟩

theorem RelayInv.inserted (hinv : RelayInv w) {outbox : Outbox}
    (hrow : row.status = .pending ∧ row.attempt = 0) (h : w.outbox.insert? row = some outbox) :
    RelayInv { w with outbox := outbox } := by
  obtain ⟨hnew, hrows⟩ := insert?_eq_some_iff.1 h
  refine ⟨?_, hinv.exclusive, hinv.acknowledged, ?_, ?_⟩
  · intro session hsession
    obtain ⟨hmem, hstatus⟩ := hinv.held session hsession
    exact ⟨by simp [hrows, hmem], hstatus⟩
  · intro row' hrow'
    rcases (mem_insert? h).1 hrow' with hrow' | rfl
    · exact (hinv.rows row' hrow').mono (fun _ hm => hm) rfl
    -- Nothing has been recorded under an id that was not there.
    have hcount : w.failures.count row'.event.messageId = 0 :=
      count_eq_zero.2 fun hmem => hnew (hinv.known _ hmem)
    refine ⟨?_, ?_, ?_, ?_⟩
    · simp [hrow.1]
    · rw [hrow.2, hcount]
    · intro _
      rw [hrow.2]
      exact row'.maxAttempts_pos
    · simp [hrow.1]
  · intro id hid
    have := hinv.known id hid
    simp only [hrows, map_append, mem_append]
    exact .inl this

theorem RelayInv.selected (hinv : RelayInv w) {relay : Nat}
    {sessions : Table Session Nat Session.relay} (hnext : w.nextPending = some row)
    (h : w.sessions.insert? (Session.open w.now relay row) = some sessions) :
    RelayInv { w with sessions := sessions } := by
  obtain ⟨hmem, heligible, hunlocked⟩ := RelayWorld.nextPending_spec hnext
  have hother : ∀ session ∈ w.sessions.rows,
      session.record.event.messageId ≠ row.event.messageId := by
    intro session hsession hid
    rw [RelayWorld.locked, any_eq_false] at hunlocked
    exact hunlocked session hsession (by simp [hid])
  simp only [eligible, Bool.and_eq_true, decide_eq_true_eq] at heligible
  refine ⟨?_, ?_, ?_, fun row' hrow' => (hinv.rows row' hrow').mono (fun _ hm => hm) rfl, hinv.known⟩
  · intro session hsession
    rcases (mem_insert? h).1 hsession with hsession | rfl
    · exact hinv.held session hsession
    · exact ⟨hmem, heligible.1.1⟩
  · intro session hsession other hother' hid
    rw [mem_insert? h] at hsession hother'
    rcases hsession with hsession | rfl <;> rcases hother' with hother' | rfl
    · exact hinv.exclusive session hsession other hother' hid
    · exact absurd hid (hother session hsession)
    · exact absurd hid.symm (hother other hother')
    · rfl
  · intro session hsession hphase
    rcases (mem_insert? h).1 hsession with hsession | rfl
    · exact hinv.acknowledged session hsession hphase
    · simp [Session.open] at hphase

/-- A session changes its phase: to `acknowledged` only with its message among the published. -/
theorem RelayInv.answered (hinv : RelayInv w)
    (hsession : session ∈ w.sessions.rows) (phase : Phase) (published : List Message)
    (hkeep : ∀ m ∈ w.published, m ∈ published)
    (hphase : phase = .acknowledged → session.record.event.message ∈ published) :
    RelayInv { w with
      sessions := w.sessions.update session.relay ({ · with phase := phase }) (fun _ => rfl)
      published := published } := by
  have hcases : ∀ other ∈ (w.sessions.update session.relay ({ · with phase := phase })
      (fun _ => rfl)).rows, other = { session with phase := phase }
      ∨ other ∈ w.sessions.rows := fun other hother =>
    (mem_update_cases hother (get?_of_mem hsession)).imp_right And.left
  -- A phase is not part of what `held` and `exclusive` speak about.
  have hrecord : ∀ other ∈ (w.sessions.update session.relay ({ · with phase := phase })
      (fun _ => rfl)).rows, ∃ s ∈ w.sessions.rows, s.record = other.record ∧ s.relay = other.relay := by
    intro other hother
    rcases hcases other hother with rfl | hother
    · exact ⟨session, hsession, rfl, rfl⟩
    · exact ⟨other, hother, rfl, rfl⟩
  refine ⟨?_, ?_, ?_, fun row hrow => (hinv.rows row hrow).mono hkeep rfl, hinv.known⟩
  · intro other hother
    obtain ⟨s, hs, hrec, -⟩ := hrecord other hother
    rw [← hrec]
    exact hinv.held s hs
  · intro a ha b hb hid
    obtain ⟨s, hs, hrec, hrelay⟩ := hrecord a ha
    obtain ⟨t, ht, hrec', hrelay'⟩ := hrecord b hb
    rw [← hrelay, ← hrelay']
    exact hinv.exclusive s hs t ht (by rw [hrec, hrec']; exact hid)
  · intro other hother hother'
    rcases hcases other hother with rfl | hother
    · exact hphase hother'
    · exact hkeep _ (hinv.acknowledged other hother hother')

theorem RowHistory.mark (h : RowHistory w session.record)
    (hstatus : session.record.status = .pending) (hdone : session.phase ≠ .selected)
    (hpublished : session.phase = .acknowledged → session.record.event.message ∈ w.published) (hw : w'.published = w.published)
    (hfailures : w'.failures = w.failures
      ++ if session.phase = .acknowledged then [] else [session.record.event.messageId]) :
    RowHistory w' (session.mark session.record) := by
  have hlt := h.pending hstatus
  have hattempts := h.attempts
  rcases hphase : session.phase with _ | _ | error
  · exact absurd hphase hdone
  · have hmark : session.mark session.record = session.record.markPublished session.begun := by
      simp [Session.mark, hphase]
    rw [hmark]
    refine ⟨fun _ => by rw [hw]; exact hpublished hphase, ?_, ?_, ?_⟩
    · simpa [hfailures, hphase, markPublished] using hattempts
    · simp [markPublished]
    · simp [markPublished]
  have hmark : session.mark session.record
      = session.record.markFailedAttempt session.begun error := by
    simp [Session.mark, hphase]
  rw [hmark]
  refine ⟨?_, ?_, ?_, ?_⟩
  · simp only [markFailedAttempt]
    split <;> simp
  · simp [hfailures, hphase, markFailedAttempt, hattempts]
  · simp only [markFailedAttempt]
    split
    · simp
    · intro _
      omega
  · simp only [markFailedAttempt]
    split
    · intro _
      omega
    · simp

theorem RelayInv.committed (hinv : RelayInv w)
    (hsession : session ∈ w.sessions.rows) (hdone : session.phase ≠ .selected) :
    RelayInv { w with
      outbox := w.outbox.update session.record.event.messageId session.mark session.messageId_mark
      sessions := w.endSession session.relay
      failures := w.failures
        ++ if session.phase = .acknowledged then [] else [session.record.event.messageId] } := by
  obtain ⟨hstored, hstatus⟩ := hinv.held session hsession
  have hleft : ∀ other ∈ (w.endSession session.relay).rows,
      other ∈ w.sessions.rows ∧ other.relay ≠ session.relay := by
    intro other hother
    have := mem_deleteWhere.1 hother
    exact ⟨this.1, by simpa using this.2⟩
  refine ⟨?_, ?_, ?_, ?_, ?_⟩
  · -- The other relays hold other rows.
    intro other hother
    obtain ⟨hmem, hrelay⟩ := hleft other hother
    obtain ⟨hrow, hpending⟩ := hinv.held other hmem
    have hid : other.record.event.messageId ≠ session.record.event.messageId := fun hid =>
      hrelay (hinv.exclusive other hmem session hsession hid)
    exact ⟨(w.outbox.mem_update_of_ne _ _ session.messageId_mark hid).2 hrow, hpending⟩
  · intro a ha b hb hid
    exact hinv.exclusive a (hleft a ha).1 b (hleft b hb).1 hid
  · intro other hother hphase
    exact hinv.acknowledged other (hleft other hother).1 hphase
  · intro row hrow
    dsimp only at hrow
    rcases mem_update_cases hrow (get?_of_mem hstored) with rfl | ⟨hrow, hid⟩
    · exact (hinv.rows _ hstored).mark hstatus hdone (hinv.acknowledged session hsession) rfl rfl
    refine (hinv.rows row hrow).mono (fun _ hm => hm) ?_
    split
    · simp
    · simp [count_append, Ne.symm hid]
  · intro id hid
    have hkeys : (w.outbox.update session.record.event.messageId session.mark
        session.messageId_mark).rows.map (fun row => row.event.messageId)
        = w.outbox.rows.map fun row => row.event.messageId :=
      w.outbox.map_key_update _ _ _
    rw [hkeys]
    rw [mem_append] at hid
    rcases hid with hid | hid
    · exact hinv.known id hid
    have : id = session.record.event.messageId := by
      split at hid
      · simp at hid
      · simpa using hid
    rw [this]
    exact mem_map.2 ⟨_, hstored, rfl⟩

theorem RelayInv.step (hinv : RelayInv w) (h : RelayEffect w w') : RelayInv w' := by
  cases h with
  | none => exact hinv
  | inserted _ _ _ _ h => exact hinv.inserted ⟨rfl, rfl⟩ h
  | ticked =>
    exact ⟨hinv.held, hinv.exclusive, hinv.acknowledged,
      fun row hrow => (hinv.rows row hrow).mono (fun _ hm => hm) rfl, hinv.known⟩
  | selected _ _ _ next h => exact hinv.selected next h
  | acknowledged _ stored =>
    exact hinv.answered stored .acknowledged _ (fun m hm => mem_append_left _ hm) (fun _ => by simp)
  | refused _ error stored =>
    exact hinv.answered stored (.refused error) _ (fun m hm => hm) (fun h => absurd h (by simp))
  | committed _ stored done => exact hinv.committed stored done
  | crashed relay =>
    have hleft : ∀ other ∈ (w.endSession relay).rows, other ∈ w.sessions.rows := fun other hother =>
      (mem_deleteWhere.1 hother).1
    exact ⟨fun s hs => hinv.held s (hleft s hs),
      fun s hs t ht => hinv.exclusive s (hleft s hs) t (hleft t ht),
      fun s hs => hinv.acknowledged s (hleft s hs),
      fun row hrow => (hinv.rows row hrow).mono (fun _ hm => hm) rfl, hinv.known⟩

end Step

/-! ## Every run -/

theorem relayInv_run (now : Int) (events : List RelayEvent) :
    RelayInv (relays.run (RelayWorld.empty now) events) :=
  relays.run_induction (fun w event hinv => hinv.step (relays_effect w event)) (relayInv_empty now)
    events

/-- Whatever the broker does and wherever the relays crash, a row is marked published only when a
    publish of its message has succeeded. A row that is not stays pending with attempts left as
    long as fewer than `max_attempts` failures are recorded for it, and is failed from then on. -/
theorem outbox_row_kept_until_published (now : Int) (events : List RelayEvent) (row : OutboxRow)
    (hrow : row ∈ (relays.run (RelayWorld.empty now) events).outbox.rows) :
    let w := relays.run (RelayWorld.empty now) events
    (row.status = .published → row.event.message ∈ w.published)
    ∧ (row.status ≠ .published → w.failures.count row.event.messageId < row.maxAttempts →
        row.status = .pending ∧ row.attempt < row.maxAttempts)
    ∧ (row.status ≠ .published → row.maxAttempts ≤ w.failures.count row.event.messageId →
        row.status = .failed) := by
  intro w
  have h : RowHistory w row := (relayInv_run now events).rows row hrow
  have hattempts := h.attempts
  refine ⟨h.published, ?_, ?_⟩
  · intro hstatus hcount
    have hpending : row.status = .pending := by
      cases hs : row.status with
      | pending => rfl
      | published => exact absurd hs hstatus
      | failed =>
        have := h.failed hs
        omega
    exact ⟨hpending, h.pending hpending⟩
  · intro hstatus hcount
    cases hs : row.status with
    | pending =>
      have := h.pending hs
      omega
    | published => exact absurd hs hstatus
    | failed => rfl

/-- A step command as the platform writes it. -/
def stepCommand : OutboxEvent where
  messageId := "m1"
  messageType := "hnb.command.operation.step-requested.v1"
  schemaVersion := "1"
  subject := "hnb.command.operation.step-requested.v1"
  occurredAt := 0
  tenantId := "t1"
  projectId := ""
  environmentId := ""
  actorId := "u1"
  correlationId := "c1"
  causationId := ""
  idempotencyKey := "k1"
  aggregateId := "o1"
  aggregateVersion := some 1
  operationId := "o1"
  stepId := "s1"
  expectedVersion := some 1
  payload := .obj []

/-- The broker is down for this many attempts, five minutes apart. -/
def outage (attempts : Nat) : List RelayEvent :=
  .insert stepCommand 10 (Nat.succ_pos _)
    :: (List.replicate attempts [.tick 300000000, .select 0, .publishError 0 "nats: timeout",
        .commit 0]).flatten

theorem outbox_row_kept_in_outage :
    ∃ row ∈ (relays.run (RelayWorld.empty 0) (outage 9)).outbox.rows,
      row.status = .pending ∧ row.attempt < row.maxAttempts := by
  refine ⟨_, mem_cons_self, ?_⟩
  exact (outbox_row_kept_until_published 0 (outage 9) _ mem_cons_self).2.1 (by decide) (by decide)

/-- Ten refused attempts leave a row failed, though the broker never had its message. -/
theorem outbox_row_given_up :
    let w := relays.run (RelayWorld.empty 0) (outage 10)
    w.published = [] ∧ ∃ row ∈ w.outbox.rows,
      row.status = .failed ∧ ¬ (row.status = .pending ∧ row.attempt < row.maxAttempts) :=
  ⟨by rfl, _, mem_cons_self, by decide, by decide⟩

end HnbCloud.Messaging
