import HnbCloud.Lib.Uuid
import HnbCloud.Market.Releases

set_option autoImplicit false

/-! # Upload sessions

The handlers of the transfer gateway and `cleanupExpiredSessions`. A handler reads the session, works on
files and then writes a status by `UpdateStatus`, which does not look at the status it overwrites. Only
`ConfirmUpload` does.

Every statement names its row by id and tenant, so that one session is followed. The id in a path is any
text of the UUID of the session, and what a handler writes goes to the id that it has read. What files,
artifacts and releases have to say is left to chance. -/

namespace HnbCloud.Market

open Machine

inductive SessionStatus where
  | pending
  | uploading
  | completed
  | expired
  | failed
deriving DecidableEq, Repr

/-- A row of `upload_sessions`. -/
structure UploadSession where
  (id tenantId : String)
  sizeBytes : Int
  status : SessionStatus
  artifactId : Option String
  expiresAt : Int

/-- `SessionPending` or `SessionUploading`. -/
def UploadSession.isOpen (u : UploadSession) : Bool := u.status == .pending || u.status == .uploading

structure Transfer where
  session : UploadSession
  now : Int

/-! ## Operations -/

inductive TransferOp where
  | get (id tenantId : String)
  | now
  /-- A part is copied to its file, or the files of the session are removed. -/
  | files
  /-- The digest and the size of the parts in order. -/
  | assembleParts
  | updateStatus (id tenantId : String) (status : SessionStatus)
  /-- The id of the artifact that the content is stored as. -/
  | confirmUpload (id tenantId digest : String)
  | getArtifact (id tenantId : String)
  /-- The session, if it is among the first fifty that have expired. -/
  | listExpired

abbrev TransferOp.Reply : TransferOp → Type
  | get .. => Except RepoError UploadSession
  | now => Int
  | files => Except String Unit
  | assembleParts => Except String (String × Int)
  | updateStatus .. => Except RepoError Unit
  | confirmUpload .. => Except RepoError String
  | getArtifact .. => Except RepoError Unit
  | listExpired => Except RepoError (Option UploadSession)

/-- What is left to chance: whether a statement is answered, what is found in the files, and what the
    tables of artifacts and releases make of the content. -/
structure TransferChance where
  fate : Fate := .served
  files : Except String (String × Int) := .ok ("", 0)
  stored : Except RepoError String := .ok ""
  listed : Bool := true

namespace Transfer

variable (s : Transfer)

def names (id tenantId : String) : Bool := s.session.id == id && s.session.tenantId == tenantId

def get (id tenantId : String) : Except RepoError UploadSession :=
  match uuidValue? id with
  | none => .error (.other (uuidError id))
  | some id => if s.names id tenantId then .ok s.session else .error .noRows

def updateStatus (id tenantId : String) (status : SessionStatus) : Except RepoError (Transfer × Unit) :=
  if s.names id tenantId then .ok ({ s with session := { s.session with status := status } }, ())
  else .error .noRows

def confirmUpload (id tenantId : String) (stored : Except RepoError String) :
    Except RepoError (Transfer × String) :=
  if s.names id tenantId = false then .error .noRows
  else match s.session.status, s.session.artifactId with
  | .completed, some artifactId => .ok (s, artifactId)
  | _, _ =>
    if s.session.isOpen = false then .error (.other "upload session is not confirmable")
    else if s.session.expiresAt ≤ s.now then .error (.other "upload session expired")
    else stored.map fun artifactId =>
      ({ s with session := { s.session with
        status := .completed, artifactId := some artifactId } }, artifactId)

def listExpired (listed : Bool) : Option UploadSession :=
  if s.session.isOpen && decide (s.session.expiresAt < s.now) && listed then some s.session else none

end Transfer

/-- The session and the answer after a statement or a transaction. -/
def Transfer.commit {α : Type} (s : Transfer) :
    Fate → Except RepoError (Transfer × α) → Transfer × Except RepoError α
  | .failed text, _ => (s, .error (.other text))
  | _, .error err => (s, .error err)
  | .served, .ok (s', a) => (s', .ok a)
  | .lost text, .ok (s', _) => (s', .error (.other text))

def transferService : Service Transfer TransferOp TransferOp.Reply TransferChance where
  perform s
    | .get id tenantId, n => (s, answer (s.get id tenantId) n.fate)
    | .now, _ => (s, s.now)
    | .files, n => (s, n.files.map fun _ => ())
    | .assembleParts, n => (s, n.files)
    | .updateStatus id tenantId status, n => s.commit n.fate (s.updateStatus id tenantId status)
    | .confirmUpload id tenantId _, n => s.commit n.fate (s.confirmUpload id tenantId n.stored)
    | .getArtifact .., n => (s, answer (n.stored.map fun _ => ()) n.fate)
    | .listExpired, n => (s, answer (.ok (s.listExpired n.listed)) n.fate)

/-! ## The handlers -/

/-- What is left of a request: it ends with a code and a text. -/
abbrev TransferProgram : Type := Program TransferOp TransferOp.Reply (Nat × String)

def repoFailure : RepoError → Nat × String
  | .noRows => (404, "not found")
  | .other text => (500, text)

/-- The errors of `ConfirmUpload` that are conflicts. -/
def confirmFailure : RepoError → Nat × String
  | .noRows => (500, "sql: no rows in result set")
  | .other text =>
    if ["upload session expired", "upload session is not confirmable",
      "upload release is not draft"].contains text then (409, text) else (500, text)

def getSession (id tenantId : String) (next : UploadSession → TransferProgram) : TransferProgram :=
  .call (.get id tenantId) fun
  | .error err => .done (repoFailure err)
  | .ok u => .call .now fun (now : Int) =>
    if u.expiresAt ≤ now then .done (409, "upload session expired") else next u

/-- `handlePart`; the number of the part is none if it is no number. -/
def handlePart (id tenantId : String) (partNumber : Option Int) : TransferProgram :=
  getSession id tenantId fun u =>
  if u.isOpen = false then .done (409, "session not uploadable")
  else if partNumber.all (· < 1) then .done (400, "invalid part number")
  else .call .files fun
  | .error text => .done (500, text)
  | .ok () =>
    if u.status = .pending then .call (.updateStatus u.id tenantId .uploading) fun _ => .done (202, "")
    else .done (202, "")

def handleComplete (id tenantId : String) : TransferProgram :=
  getSession id tenantId fun u =>
  match u.status, u.artifactId with
  | .completed, some artifactId => .call (.getArtifact artifactId tenantId) fun
    | .error err => .done (repoFailure err)
    | .ok () => .done (200, artifactId)
  | _, _ =>
    if u.isOpen = false then .done (409, "session not completable")
    else .call .assembleParts fun
    | .error text => .done (409, text)
    | .ok (digest, size) =>
      if 0 < u.sizeBytes ∧ u.sizeBytes ≠ size then .done (409, "uploaded size does not match session")
      else .call (.confirmUpload u.id tenantId digest) fun
      | .error err => .done (confirmFailure err)
      | .ok artifactId => .done (200, artifactId)

def handleAbort (id tenantId : String) : TransferProgram :=
  getSession id tenantId fun u => .call .files fun
  | .error text => .done (500, text)
  | .ok () => .call (.updateStatus u.id tenantId .failed) fun
    | .error err => .done (repoFailure err)
    | .ok () => .done (204, "")

/-- A tick of `cleanupExpiredSessions`. -/
def cleanupExpired : TransferProgram :=
  .call .listExpired fun
  | .ok (some u) => .call (.updateStatus u.id u.tenantId .expired) fun _ => .done (200, "")
  | _ => .done (200, "")

inductive TransferRequest where
  | part (id tenantId : String) (partNumber : Option Int)
  | complete (id tenantId : String)
  | abort (id tenantId : String)
  | cleanup

def TransferRequest.program : TransferRequest → TransferProgram
  | .part id tenantId partNumber => handlePart id tenantId partNumber
  | .complete id tenantId => handleComplete id tenantId
  | .abort id tenantId => handleAbort id tenantId
  | .cleanup => cleanupExpired

abbrev TransferMember : Type := Pool.Member TransferRequest TransferOp TransferOp.Reply (Nat × String)

abbrev TransferPool : Type :=
  Pool Transfer TransferRequest TransferOp TransferOp.Reply (Nat × String)

/-- Time goes by. -/
abbrev TransferEvent : Type := Pool.Event TransferRequest TransferChance Nat

def transfer : Machine TransferPool TransferEvent Unit :=
  Pool.machine transferService TransferRequest.program fun s time => { s with now := s.now + time }

/-! ## A session that is confirmed -/

/-- `ConfirmUpload` has committed for the session, with this artifact. -/
def Transfer.Confirmed (s : Transfer) (artifactId : String) : Prop :=
  s.session.status = .completed ∧ s.session.artifactId = some artifactId

instance (s : Transfer) (artifactId : String) : Decidable (s.Confirmed artifactId) :=
  inferInstanceAs (Decidable (_ ∧ _))

/-- The operation is `UpdateStatus` on the session. -/
def TransferOp.setsStatus (s : Transfer) : TransferOp → Bool
  | .updateStatus id tenantId _ => s.names id tenantId
  | _ => false

/-- Whatever the answers, the program performs no `UpdateStatus` on the session. -/
def TransferProgram.Spares (s : Transfer) (p : TransferProgram) : Prop :=
  p.Within (fun op => op.setsStatus s = false) fun _ _ => True

/-- The member has not read the session yet, or is not to write it any more. -/
def TransferMember.Settled (s : Transfer) (m : TransferMember) : Prop :=
  m.program = m.request.program ∨ TransferProgram.Spares s m.program

theorem TransferMember.Settled.of_names {s s' : Transfer} {m : TransferMember}
    (h : TransferMember.Settled s m) (hnames : s'.names = s.names) : TransferMember.Settled s' m := by
  refine h.imp_right fun hspares => hspares.imp fun op hop => ?_
  cases op with
  | updateStatus => simpa only [TransferOp.setsStatus, hnames] using hop
  | _ => rfl

/-- If the event is a `ConfirmUpload` of the session, nobody else has read the session and is still to
    write its status; and no abort reads a session that is completed. -/
def Undisturbed (w : TransferPool) : TransferEvent → Prop
  | .perform i _ =>
    match w.pending i with
    | some (_, .confirmUpload id tenantId _) => w.state.names id tenantId = true →
        ∀ j m, w.members[j]? = some m → j ≠ i → TransferMember.Settled w.state m
    | some (.abort .., .get id tenantId) =>
        ∀ u, w.state.get id tenantId = .ok u → u.status ≠ .completed
    | _ => True
  | _ => True

/-- What the handlers may perform: only `handleComplete` confirms and it sets no status, and nobody sets
    the status to completed. -/
def TransferRequest.permits : TransferRequest → TransferOp → Prop
  | .complete .., .updateStatus .. => False
  | _, .updateStatus _ _ status => status ≠ .completed
  | .complete .., .confirmUpload .. => True
  | _, .confirmUpload .. => False
  | _, _ => True

variable {s : Transfer} {a : String} {op : TransferOp} {n : TransferChance}

/-- What an operation does to the session. -/
inductive Moves (s : Transfer) : TransferOp → Transfer → Prop where
  | same (op : TransferOp) : Moves s op s
  | status {id tenantId : String} (status : SessionStatus) (names : s.names id tenantId = true) :
      Moves s (.updateStatus id tenantId status) { s with session := { s.session with status } }
  | confirmed {id tenantId digest : String} (artifactId : String)
      (names : s.names id tenantId = true) (isOpen : s.session.isOpen = true) :
      Moves s (.confirmUpload id tenantId digest) { s with session := { s.session with
        status := .completed, artifactId := some artifactId } }

theorem moves_commit {α : Type} {result : Except RepoError (Transfer × α)}
    (h : ∀ s' b, result = .ok (s', b) → Moves s op s') (fate : Fate) :
    Moves s op (s.commit fate result).1 := by
  rcases result with err | ⟨s', b⟩
  · cases fate <;> exact .same op
  · cases fate with
    | failed => exact .same op
    | served | lost => exact h s' b rfl

theorem moves_perform (s : Transfer) (op : TransferOp) (n : TransferChance) :
    Moves s op (transferService.perform s op n).1 := by
  cases op with
  | updateStatus id tenantId status =>
    refine moves_commit (fun s' b h => ?_) n.fate
    unfold Transfer.updateStatus at h
    split_ifs at h with hnames
    cases h
    exact .status status hnames
  | confirmUpload id tenantId digest =>
    refine moves_commit (fun s' b h => ?_) n.fate
    unfold Transfer.confirmUpload at h
    split at h
    · simp at h
    next hnames =>
    split at h
    · cases h
      exact .same _
    · split_ifs at h with hopen
      rcases hstored : n.stored with err | artifactId
      · simp [hstored, Except.map] at h
      · rw [hstored] at h
        cases h
        exact .confirmed _ (by simpa using hnames) (by simpa using hopen)
  | _ => exact .same _

/-- Only `UpdateStatus` takes a session away from `completed`. -/
theorem Moves.eq_of_confirmed {s' : Transfer} (hmoves : Moves s op s') (h : s.Confirmed a)
    (hop : op.setsStatus s = false) : s' = s := by
  cases hmoves with
  | same => rfl
  | status _ names => simp [TransferOp.setsStatus, names] at hop
  | confirmed _ _ isOpen => simp [UploadSession.isOpen, h.1] at isOpen

/-- A session becomes confirmed by `ConfirmUpload`. -/
theorem Moves.confirms {s' : Transfer} {request : TransferRequest} (hmoves : Moves s op s')
    (hop : request.permits op) (h : s'.Confirmed a) : s' = s ∨ ∃ id tenantId digest,
      op = .confirmUpload id tenantId digest ∧ s.names id tenantId = true ∧ s'.names = s.names := by
  cases hmoves with
  | same => exact .inl rfl
  | status status =>
    have hstatus : status ≠ .completed := by
      cases request with
      | complete => exact hop.elim
      | _ => exact hop
    exact absurd h.1 hstatus
  | confirmed _ names => exact .inr ⟨_, _, _, rfl, names, rfl⟩

/-! ## What the handlers perform -/

theorem session_of_get {id tenantId : String} {u : UploadSession} (h : s.get id tenantId = .ok u) :
    u = s.session := by
  unfold Transfer.get at h
  split at h
  · simp at h
  · split_ifs at h
    exact (Except.ok.inj h).symm

theorem get_of_answer {id tenantId : String} {u : UploadSession}
    (h : (transferService.perform s (.get id tenantId) n).2 = .ok u) : s.get id tenantId = .ok u := by
  obtain ⟨fate, _, _, _⟩ := n
  cases fate with
  | served => exact h
  | failed | lost => simp [transferService, answer] at h

theorem within_getSession {P : TransferOp → Prop} {id tenantId : String}
    {next : UploadSession → TransferProgram} (hget : P (.get id tenantId)) (hnow : P .now)
    (h : ∀ u, (next u).Within P fun _ _ => True) :
    (getSession id tenantId next).Within P fun _ _ => True := by
  refine ⟨hget, ?_⟩
  rintro (err | u) -
  · trivial
  refine ⟨hnow, fun now _ => ?_⟩
  dsimp only
  split_ifs
  · trivial
  · exact h u

theorem permits_program (request : TransferRequest) :
    request.program.Within request.permits fun _ _ => True := by
  cases request with
  | part =>
    refine within_getSession trivial trivial fun u => ?_
    split_ifs
    · trivial
    · trivial
    refine ⟨trivial, ?_⟩
    rintro (text | ⟨⟩) -
    · trivial
    · exact ⟨by simp [TransferRequest.permits], fun _ _ => trivial⟩
    refine ⟨trivial, ?_⟩
    rintro (text | ⟨⟩) - <;> trivial
  | complete =>
    refine within_getSession trivial trivial fun u => ?_
    split
    · refine ⟨trivial, ?_⟩
      rintro (err | ⟨⟩) - <;> trivial
    split_ifs
    · trivial
    refine ⟨trivial, ?_⟩
    rintro (text | ⟨digest, size⟩) -
    · trivial
    dsimp only
    split_ifs
    · trivial
    refine ⟨trivial, ?_⟩
    rintro (err | b) - <;> trivial
  | abort =>
    refine within_getSession trivial trivial fun u => ⟨trivial, ?_⟩
    rintro (text | ⟨⟩) -
    · trivial
    refine ⟨by simp [TransferRequest.permits], ?_⟩
    rintro (err | ⟨⟩) - <;> trivial
  | cleanup =>
    refine ⟨trivial, ?_⟩
    rintro (err | _ | u) -
    · trivial
    · trivial
    · exact ⟨by simp [TransferRequest.permits], fun _ _ => trivial⟩

theorem spares_of_complete {id tenantId : String} {p : TransferProgram}
    (h : p.Within (TransferRequest.complete id tenantId).permits fun _ _ => True) : p.Spares s :=
  h.imp fun op hop => by
    cases op with
    | updateStatus => exact hop.elim
    | _ => rfl

/-- A handler that reads a confirmed session does not write it, unless it is an abort. -/
theorem spares_of_read (h : s.Confirmed a) {request : TransferRequest}
    {rest : op.Reply → TransferProgram} (hprogram : request.program = .call op rest)
    (habort : ∀ id tenantId u, request = .abort id tenantId → s.get id tenantId = .ok u →
      u.status ≠ .completed) :
    (transferService.perform s op n).1 = s
      ∧ TransferProgram.Spares s (rest (transferService.perform s op n).2) := by
  have hclosed : s.session.isOpen = false := by simp [UploadSession.isOpen, h.1]
  cases request with
  | part id tenantId =>
    cases hprogram
    refine ⟨rfl, ?_⟩
    rcases hreply : (transferService.perform s (.get id tenantId) n).2 with err | u
    · trivial
    -- A completed session is not open, so that the part is refused.
    obtain rfl := session_of_get (get_of_answer hreply)
    refine ⟨rfl, fun now _ => ?_⟩
    dsimp only
    split_ifs <;> trivial
  | complete id tenantId =>
    have hwithin := permits_program (.complete id tenantId)
    rw [hprogram] at hwithin
    cases hprogram
    exact ⟨rfl, spares_of_complete (hwithin.2 _ trivial)⟩
  | abort id tenantId =>
    cases hprogram
    refine ⟨rfl, ?_⟩
    rcases hreply : (transferService.perform s (.get id tenantId) n).2 with err | u
    · trivial
    have hget := get_of_answer hreply
    obtain rfl := session_of_get hget
    exact absurd h.1 (habort id tenantId _ rfl hget)
  | cleanup =>
    cases hprogram
    refine ⟨rfl, ?_⟩
    -- Only open sessions are listed.
    have hnone : s.listExpired n.listed = none := by simp [Transfer.listExpired, hclosed]
    simp only [transferService, hnone]
    cases n.fate <;> trivial

/-! ## Runs -/

/-- Everyone keeps to what its handler may perform, and once the session is confirmed nobody is to
    write its status. -/
structure Orderly (w : TransferPool) : Prop where
  permits : ∀ m ∈ w.members, m.program.Within m.request.permits fun _ _ => True
  settled : ∀ a, w.state.Confirmed a → ∀ m ∈ w.members, TransferMember.Settled w.state m

theorem orderly_next {w : TransferPool} {event : TransferEvent} (h : Undisturbed w event)
    (hw : Orderly w) : Orderly (transfer.next w event)
      ∧ ∀ a, w.state.Confirmed a → (transfer.next w event).state.Confirmed a := by
  cases event with
  | start request =>
    refine ⟨⟨?_, fun a ha => ?_⟩, fun a ha => ha⟩
    · exact List.forall_mem_append.2 ⟨hw.permits, List.forall_mem_singleton.2 (permits_program request)⟩
    · exact List.forall_mem_append.2 ⟨hw.settled a ha, List.forall_mem_singleton.2 (.inl rfl)⟩
  | outside time => exact ⟨⟨hw.permits, hw.settled⟩, fun a ha => ha⟩
  | perform i n =>
    simp only [Machine.next, transfer, Pool.machine, Pool.next]
    rcases hi : w.members[i]? with _ | ⟨request, _ | ⟨op, rest⟩⟩
    · exact ⟨hw, fun a ha => ha⟩
    · exact ⟨hw, fun a ha => ha⟩
    dsimp only
    have hmem := List.mem_of_getElem? hi
    have hpermits := hw.permits _ hmem
    simp only [Undisturbed, Pool.pending, hi] at h
    -- On a confirmed session the operation changes nothing, and its program goes on without writing.
    have hstep : ∀ a, w.state.Confirmed a → (transferService.perform w.state op n).1 = w.state
        ∧ TransferProgram.Spares w.state (rest (transferService.perform w.state op n).2) := by
      intro a ha
      rcases hw.settled a ha _ hmem with hprogram | hspares
      · refine spares_of_read ha hprogram.symm ?_
        rintro id tenantId u rfl
        cases hprogram
        exact h u
      · exact ⟨(moves_perform _ op n).eq_of_confirmed ha hspares.1, hspares.2 _ trivial⟩
    refine ⟨⟨?_, fun a ha m hm => ?_⟩, fun a ha => ?_⟩
    · intro m hm
      rcases List.mem_or_eq_of_mem_set hm with hm | rfl
      · exact hw.permits m hm
      · exact hpermits.2 _ trivial
    · obtain ⟨j, hj⟩ := List.mem_iff_getElem?.1 hm
      rcases (moves_perform w.state op n).confirms hpermits.1 ha with hsame | ⟨id, tenantId, digest, rfl, hnames, hsame⟩
      · simp only [hsame] at ha ⊢
        rcases getElem?_set_cases hj with ⟨-, hj⟩ | ⟨-, rfl⟩
        · exact hw.settled a ha m (List.mem_of_getElem? hj)
        · exact .inr (hstep a ha).2
      · -- The session has just been confirmed, and nobody else is to write it.
        rcases getElem?_set_cases hj with ⟨hji, hj⟩ | ⟨-, rfl⟩
        · exact (h hnames j m hj hji).of_names hsame
        · cases request with
          | complete => exact .inr (spares_of_complete (hpermits.2 _ trivial))
          | _ => exact hpermits.1.elim
    · simp only [(hstep a ha).1]
      exact ha

/-- In every run in which `ConfirmUpload` takes effect only while no part that has read `pending`, no
    abort that has read the session and no cleanup that has listed it is still to write its status, and
    in which no abort reads a completed session, a session that is confirmed stays so with its artifact
    to the end of the run. -/
theorem confirmed_stays (u : UploadSession) (now : Int) (before after : List TransferEvent)
    (h : ∀ x ∈ transfer.trace (.idle ⟨u, now⟩) (before ++ after), Undisturbed x.pre x.call)
    (ha : (transfer.run (.idle ⟨u, now⟩) before).state.Confirmed a) :
    (transfer.run (.idle ⟨u, now⟩) (before ++ after)).state.Confirmed a := by
  rw [trace_append] at h
  have hidle : Orderly (.idle ⟨u, now⟩ : TransferPool) :=
    ⟨by simp [Pool.idle], fun a _ => by simp [Pool.idle]⟩
  have horderly : Orderly (transfer.run (.idle ⟨u, now⟩) before) :=
    transfer.run_induction_of_trace (fun w event he hw => (orderly_next he hw).1) hidle
      fun x hx => h x (List.mem_append_left _ hx)
  rw [run_append]
  refine (transfer.run_induction_of_trace (P := fun w => Orderly w ∧ w.state.Confirmed a)
    (C := Undisturbed) ?_ ⟨horderly, ha⟩ fun x hx => h x (List.mem_append_right _ hx)).2
  rintro w event he ⟨hw, hconfirmed⟩
  exact ⟨(orderly_next he hw).1, (orderly_next he hw).2 a hconfirmed⟩

/-! ## Samples -/

/-- When a session is confirmed all others have ended, and no abort reads one that is completed. -/
def isQuiet (w : TransferPool) : TransferEvent → Bool
  | .perform i _ =>
    match w.pending i with
    | some (_, .confirmUpload ..) => (w.members.eraseIdx i).all Pool.Member.ended
    | some (.abort .., .get ..) => w.state.session.status != .completed
    | _ => true
  | _ => true

theorem undisturbed_of_isQuiet {w : TransferPool} {event : TransferEvent} (h : isQuiet w event = true) :
    Undisturbed w event := by
  cases event with
  | start | outside => trivial
  | perform i n =>
    simp only [isQuiet, Undisturbed] at h ⊢
    generalize w.pending i = pending at h ⊢
    rcases pending with _ | ⟨request, op⟩
    · trivial
    cases op with
    | confirmUpload =>
      rintro - j ⟨request, p⟩ hj hji
      have hended := List.all_eq_true.1 h _ (List.mem_eraseIdx_iff_getElem?.2 ⟨j, hji, hj⟩)
      cases p with
      | done => exact .inr trivial
      | call => simp [Pool.Member.ended] at hended
    | get =>
      cases request with
      | abort =>
        intro u hu
        obtain rfl := session_of_get hu
        simpa using h
      | _ => trivial
    | _ => cases request <;> trivial

def sampleSession : UploadSession :=
  ⟨"00000000-0000-4000-8000-000000000001", "t1", 0, .pending, none, 10⟩

def confirming : List TransferEvent :=
  [.start (.part sampleSession.id "t1" (some 1)), .start (.complete sampleSession.id "t1"),
    .perform 0 {}, .perform 0 {}, .perform 0 {}, .perform 1 {}, .perform 1 {}, .perform 1 {}]

/-- The part has been written before the session is confirmed. Another part, a second completion and the
    cleanup come later, and do not change it. -/
theorem confirmed_stays_of_upload :
    let before := confirming ++ [.perform 0 {}, .perform 1 { stored := .ok "a1" }]
    let after := [.start (.part sampleSession.id "t1" (some 2)), .start (.complete sampleSession.id "t1"),
      .perform 2 {}, .perform 3 {}, .perform 2 {}, .perform 3 {}, .perform 3 { stored := .ok "a2" },
      .outside 20, .start .cleanup, .perform 4 {}]
    (transfer.run (.idle ⟨sampleSession, 0⟩) (before ++ after)).state.Confirmed "a1" :=
  confirmed_stays sampleSession 0 _ _
    (fun x hx => undisturbed_of_isQuiet
      ((by decide +kernel : ∀ x ∈ transfer.trace _ _, isQuiet x.pre x.call = true) x hx))
    (by decide +kernel)

/-- A part is being copied while the upload is completed: the session is confirmed, and then set to
    uploading. An abort sets it to failed. -/
theorem confirmed_session_reopened :
    let start : TransferPool := .idle ⟨sampleSession, 0⟩
    let confirm := confirming ++ [.perform 1 { stored := .ok "a1" }]
    (transfer.run start confirm).state.Confirmed "a1"
      ∧ (transfer.run start (confirm ++ [.perform 0 {}])).state.session.status = .uploading
      ∧ (transfer.run start (confirm ++ [.start (.abort sampleSession.id "t1"), .perform 2 {},
        .perform 2 {}, .perform 2 {}, .perform 2 {}])).state.session.status = .failed := by
  decide +kernel

end HnbCloud.Market
