import HnbCloud.Observer.Agent

set_option autoImplicit false

/-! # What a success of the endpoint means

An observation that the endpoint answers with a success is committed, now or at an earlier delivery,
as long as no two processes of the agent report under one generation. A process starts its numbers
again at 1. Under the generation of an earlier process the endpoint takes them for replays of what
that process has reported, up to the number it has come to. -/

namespace HnbCloud.Observer

open List Table Machine CursorRow Producer

/-! ## Answers of the endpoint -/

variable {now : Int} {id : Identity} {o : Observation} {db : DB} {s : AgentSystem}
  {payload : Payload ObservationWire}

/-- What is taken for a replay has a number that the cursor has passed. -/
theorem admission_replay {digest : String} {row : Option CursorRow}
    (h : admission digest o row = .replay) :
    ∃ current, row = some current ∧ o.observerGeneration = current.observationGeneration
      ∧ o.sequence ≤ current.observationRevision := by
  cases row with
  | none =>
    simp only [admission] at h
    split at h <;> exact absurd h (by simp)
  | some current =>
    refine ⟨current, rfl, ?_⟩
    simp only [admission] at h
    split at h
    · simp at h
    split at h
    · simp at h
    split at h
    · exact ⟨by omega, by omega⟩
    split at h
    · exact ⟨by omega, by omega⟩
    split at h <;> exact absurd h (by simp)

/-- An observation that is accepted is committed, and one that is taken for a replay has a number
    that the cursor has passed. -/
theorem projector_success {hash : Content → String}
    (h : (projector hash).answer db (.observation now id payload) = .accepted
      ∨ (projector hash).answer db (.observation now id payload) = .replay) :
    ∃ o, readObservation now id payload = .ok o ∧ (saveObservation now o (hash o.content) db
          = .ok ((projector hash).next db (.observation now id payload))
        ∨ (projector hash).answer db (.observation now id payload) = .replay
          ∧ ∃ current, db.loadCursor o.targetKey o.observerId = some current
            ∧ o.observerGeneration = current.observationGeneration
            ∧ o.sequence ≤ current.observationRevision) := by
  dsimp only [Machine.next, answer, projector] at h ⊢
  unfold accept at h ⊢
  rcases hvalid : readObservation now id payload with error | o
  · simp [hvalid] at h
  refine ⟨o, rfl, ?_⟩
  simp only [hvalid] at h
  unfold acceptObservation at h ⊢
  dsimp only at h ⊢
  rcases hadmission : admission (hash o.content) o (db.loadCursor o.targetKey o.observerId)
    with _ | _ | expected | _ | _
  · rw [hadmission] at h
    rcases hsaved : saveObservation now o (hash o.content) db with error | saved
    · simp [hsaved] at h
    · exact .inl rfl
  · exact .inr ⟨rfl, admission_replay hadmission⟩
  all_goals simp [hadmission] at h

/-! ## Cursors and what they stand for -/

/-- `seen` holds of the numbers that the cursors of this observer have come to. -/
def Covers (target : TargetKey) (observerId : String) (seen : Int → Int → Prop) (db : DB) : Prop :=
  ∀ row ∈ db.cursors.rows, row.belongsTo target observerId = true →
    ∀ n, 1 ≤ n → n ≤ row.observationRevision → seen row.observationGeneration n

variable {observerId : String}

theorem Covers.mono {target : TargetKey} {seen seen' : Int → Int → Prop} (h : Covers target observerId seen db)
    (himp : ∀ generation n, seen generation n → seen' generation n) :
    Covers target observerId seen' db :=
  fun row hrow hbelongs n hpos hn => himp _ n (h row hrow hbelongs n hpos hn)

/-- A message keeps them so if `seen` holds of the observation that it commits. -/
theorem Covers.does {hash : Content → String} {db' : DB} {message : Message} {answer : Answer}
    (hdoes : Does hash db message answer db') {target : TargetKey}
    {seen : Int → Int → Prop} (h : Covers target observerId seen db)
    (hsaved : ∀ o, message.observed = some o → answer = .accepted → o.targetKey = target →
      o.observerId = observerId → seen o.observerGeneration o.sequence) :
    Covers target observerId seen db' := by
  cases hdoes with
  | saved o _ hvalid hadmitted hcursors =>
    intro row hrow hbelongs n hpos hn
    rw [hcursors, mem_put] at hrow
    rcases hrow with rfl | ⟨-, hrow⟩
    · obtain ⟨htarget, hid⟩ := belongsTo_iff.1 hbelongs
      replace htarget : o.targetKey = target := htarget
      replace hid : o.observerId = observerId := hid
      replace hn : n ≤ o.sequence := hn
      show seen o.observerGeneration n
      by_cases hlast : n = o.sequence
      · rw [hlast]
        exact hsaved o hvalid rfl htarget hid
      -- An earlier number: the cursor that has admitted this one has come to it.
      rcases hload : db.loadCursor o.targetKey o.observerId with _ | current
      · rw [hload] at hadmitted
        have := (admission_save_first hadmitted).2
        omega
      rw [hload] at hadmitted
      obtain ⟨hgeneration, hsequence⟩ := admission_save hadmitted
      obtain ⟨hcurrent, htarget', hid'⟩ := DB.loadCursor_eq_some hload
      rw [hgeneration]
      refine h current hcurrent ?_ n hpos (by omega)
      exact belongsTo_iff.2 ⟨htarget'.trans htarget, hid'.trans hid⟩
    · exact h row hrow hbelongs n hpos hn
  | raised _ _ _ _ _ _ hcursors =>
    intro row hrow hbelongs n hpos hn
    rw [hcursors, resetCursorsOf, mem_updateWhere] at hrow
    obtain ⟨old, hold, rfl⟩ := hrow
    split at hbelongs
    · next hreset =>
      rw [if_pos hreset] at hn
      replace hn : n ≤ 0 := hn
      omega
    · next hreset =>
      rw [if_neg hreset] at hn ⊢
      exact h old hold hbelongs n hpos hn
  | refused _ _ _ hcursors =>
    unfold Covers
    rw [hcursors]
    exact h

/-! ## The agent's reports -/

/-- A report takes the next number, and it is of the producer's identity and generation. -/
theorem Producer.reportOnce_spec (size : ObservationWire → Nat) (p : Producer) (eventId : String)
    (d : Discovery) :
    (p.reportOnce size eventId d).1.identity = p.identity
    ∧ (p.reportOnce size eventId d).1.generation = p.generation
    ∧ (p.reportOnce size eventId d).1.sequence = p.sequence + 1
    ∧ ∀ raw, (p.reportOnce size eventId d).2 = some raw →
      raw.identity = p.identity ∧ raw.observerGeneration = p.generation ∧ raw.sequence = p.sequence := by
  unfold reportOnce fullWithStorage deltaFromCacheWithStorage
  dsimp only [newObservation]
  split <;> split <;> refine ⟨rfl, rfl, rfl, ?_⟩
  · simp
  · rintro raw ⟨⟩
    exact ⟨rfl, rfl, rfl⟩
  · simp
  · rintro raw ⟨⟩
    exact ⟨rfl, rfl, rfl⟩

/-! ## Runs -/

section Runs

variable (endpoint : Endpoint) (size : ObservationWire → Nat) (identity : Identity)

/-- The report with this index is delivered, and committed to the database. -/
def Commits (i : Nat) (entry : Machine.Entry AgentSystem (AgentEvent identity) (Option Nat)) :
    Prop :=
  ∃ now bearer raw id o, entry.call = .deliver now i bearer ∧ entry.pre.sent[i]? = some raw
    ∧ readObservation now id (raw.payload size) = .ok o
    ∧ saveObservation now o (endpoint.hash o.content) entry.pre.db = .ok entry.post.db

/-- A process is started with a generation that no report has yet. -/
def RenewsGeneration (s : AgentSystem) (event : AgentEvent identity) : Prop :=
  ∀ generation, event = .start generation →
    ∀ raw ∈ s.sent, raw.observerGeneration ≠ (newProducer identity generation 1).generation

/-- The report of this number is committed. -/
def Reported (sent : List ObservationWire)
    (past : List (Machine.Entry AgentSystem (AgentEvent identity) (Option Nat)))
    (generation n : Int) : Prop :=
  ∃ i raw, sent[i]? = some raw ∧ raw.observerGeneration = generation ∧ raw.sequence = n
    ∧ ∃ entry ∈ past, Commits endpoint size identity i entry

/-- What the agent has sent, and what the endpoint has of it. -/
structure Acknowledges (s : AgentSystem)
    (past : List (Machine.Entry AgentSystem (AgentEvent identity) (Option Nat))) : Prop where
  own : ∀ raw ∈ s.sent, raw.identity = identity
  process : ∀ p, s.process = some p → p.identity = identity
    ∧ ∀ raw ∈ s.sent, raw.observerGeneration = p.generation → raw.sequence < p.sequence
  distinct : (s.sent.map fun raw => (raw.observerGeneration, raw.sequence)).Nodup
  covered : Covers identity.target identity.observerId
    (Reported endpoint size identity s.sent past) s.db

variable {endpoint size identity}
  {past : List (Machine.Entry AgentSystem (AgentEvent identity) (Option Nat))}

theorem observed_payload {raw : ObservationWire}
    (h : readObservation now id (raw.payload size) = .ok o) :
    o.observerGeneration = raw.observerGeneration ∧ o.sequence = raw.sequence
      ∧ o.targetKey = raw.identity.target ∧ o.observerId = raw.identity.observerId := by
  obtain ⟨valid, targetId, hvalid, htarget, rfl⟩ := readObservation_ok h
  obtain ⟨raw', mode, kind, hnumbers, hraw, rfl, -⟩ := validateObservation_ok hvalid
  obtain rfl : raw = raw' := Option.some.inj hraw
  refine ⟨rfl, rfl, ?_, rfl⟩
  show TargetKey.mk raw.tenantId targetId = ⟨raw.tenantId, uuidText raw.targetId⟩
  rw [uuidText, show uuidValue? raw.targetId = some targetId from htarget, Option.getD_some]

section Entry

variable (entry : Machine.Entry AgentSystem (AgentEvent identity) (Option Nat))

theorem Reported.later {sent : List ObservationWire}
    {generation n : Int} (h : Reported endpoint size identity sent past generation n)
    (more : List ObservationWire) :
    Reported endpoint size identity (sent ++ more) (past ++ [entry]) generation n := by
  obtain ⟨i, raw, hi, hgeneration, hn, e, he, hcommits⟩ := h
  have hlength : i < sent.length := (List.getElem?_eq_some_iff.1 hi).1
  refine ⟨i, raw, ?_, hgeneration, hn, e, mem_append_left _ he, hcommits⟩
  rw [getElem?_append_left hlength]
  exact hi

variable (h : Acknowledges endpoint size identity s past)
include h

theorem Acknowledges.later :
    Acknowledges endpoint size identity s (past ++ [entry]) := by
  refine ⟨h.own, h.process, h.distinct, h.covered.mono ?_⟩
  intro generation n hreported
  simpa using hreported.later entry []

theorem Acknowledges.started {generation : Int} (hrenews : ∀ raw ∈ s.sent,
      raw.observerGeneration ≠ (newProducer identity generation 1).generation) :
    Acknowledges endpoint size identity
      { s with process := some (newProducer identity generation 1) } (past ++ [entry]) := by
  refine ⟨h.own, ?_, h.distinct, (h.later entry).covered⟩
  intro p hp
  cases hp
  refine ⟨rfl, ?_⟩
  intro raw hraw hsame
  exact absurd hsame (hrenews raw hraw)

theorem Acknowledges.reported {p : Producer} (hp : s.process = some p)
    (eventId : String) (d : Discovery) :
    Acknowledges endpoint size identity { s with
        process := some (p.reportOnce size eventId d).1
        sent := s.sent ++ (p.reportOnce size eventId d).2.toList } (past ++ [entry]) := by
  obtain ⟨hidentity, hahead⟩ := h.process p hp
  obtain ⟨hidentity', hgeneration', hsequence', hraw⟩ := p.reportOnce_spec size eventId d
  generalize (p.reportOnce size eventId d).1 = p' at hidentity' hgeneration' hsequence' ⊢
  generalize (p.reportOnce size eventId d).2 = o at hraw ⊢
  have hcovered : Covers identity.target identity.observerId
      (Reported endpoint size identity (s.sent ++ o.toList) (past ++ [entry])) s.db :=
    h.covered.mono fun generation n hreported => hreported.later entry o.toList
  have hsent : ∀ raw ∈ s.sent ++ o.toList, raw ∈ s.sent ∨ (raw.identity = p.identity
      ∧ raw.observerGeneration = p.generation ∧ raw.sequence = p.sequence) :=
    fun raw hmem => (mem_append.1 hmem).imp_right fun hnew => hraw raw (by simpa using hnew)
  refine ⟨?_, ?_, ?_, hcovered⟩
  · intro raw hmem
    rcases hsent raw hmem with hold | ⟨hnew, -⟩
    · exact h.own raw hold
    · exact hnew.trans hidentity
  · intro q hq
    cases hq
    refine ⟨hidentity'.trans hidentity, fun raw hmem hsame => ?_⟩
    rcases hsent raw hmem with hold | ⟨-, -, hnew⟩
    · have := hahead raw hold (hsame.trans hgeneration')
      omega
    · omega
  · rw [map_append, nodup_append]
    refine ⟨h.distinct, by cases o <;> simp, ?_⟩
    intro number hnumber number' hnumber' hsame
    obtain ⟨raw, hold, rfl⟩ := mem_map.1 hnumber
    obtain ⟨new, hnew, rfl⟩ := mem_map.1 hnumber'
    obtain ⟨-, hnewGeneration, hnewSequence⟩ := hraw new (by simpa using hnew)
    rw [Prod.mk.injEq] at hsame
    have := hahead raw hold (hsame.1.trans hnewGeneration)
    omega

variable {entry}

/-- The endpoint handles a request, and what it commits of this observer is a report. -/
theorem Acknowledges.handled (now : Int)
    (request : Request) (hsaved : ∀ id o, (request.body.message now id).observed = some o →
      (projector endpoint.hash).answer s.db (request.body.message now id) = .accepted →
      (endpoint.handle now request s.db).1
        = (projector endpoint.hash).next s.db (request.body.message now id) →
      o.targetKey = identity.target → o.observerId = identity.observerId →
      ∃ i raw, s.sent[i]? = some raw ∧ raw.observerGeneration = o.observerGeneration
        ∧ raw.sequence = o.sequence ∧ Commits endpoint size identity i entry) :
    Acknowledges endpoint size identity { s with db := (endpoint.handle now request s.db).1 }
      (past ++ [entry]) := by
  refine ⟨h.own, h.process, h.distinct, ?_⟩
  have hcovered := (h.later entry).covered
  rcases endpoint.handle_cases now request s.db with ⟨status, -, hhandle⟩ | ⟨token, claims, -, -, hhandle⟩
  · rw [hhandle]
    exact hcovered
  have hnext := congrArg Prod.fst hhandle
  show Covers _ _ _ (endpoint.handle now request s.db).1
  rw [hnext]
  refine Covers.does (projector_does endpoint.hash s.db _) hcovered ?_
  intro o hobserved haccepted htarget hid
  obtain ⟨i, raw, hi, hgeneration, hsequence, hcommits⟩ :=
    hsaved claims.identity o hobserved haccepted hnext htarget hid
  exact ⟨i, raw, hi, hgeneration, hsequence, entry, by simp, hcommits⟩

end Entry

theorem acknowledges_next (s : AgentSystem)
    (past : List (Machine.Entry AgentSystem (AgentEvent identity) (Option Nat)))
    (event : AgentEvent identity) (hrenews : RenewsGeneration identity s event)
    (h : Acknowledges endpoint size identity s past) :
    Acknowledges endpoint size identity ((agentSystem endpoint size identity).next s event)
      (past ++ [(agentSystem endpoint size identity).entry s event]) := by
  cases event with
  | start generation => exact h.started _ (hrenews generation rfl)
  | report eventId d =>
    simp only [Machine.next, agentSystem, AgentSystem.step]
    rcases hp : s.process with _ | p
    · exact h.later _
    · exact h.reported _ hp eventId d
  | deliver now i bearer =>
    simp only [Machine.next, entry, agentSystem, AgentSystem.step]
    rcases hi : s.sent[i]? with _ | raw
    · exact h.later _
    refine h.handled now _ ?_
    intro id o hobserved haccepted hdb _ _
    obtain ⟨o', hvalid, hcommitted⟩ := projector_success (.inl haccepted)
    obtain ⟨hgeneration, hsequence, -, -⟩ := observed_payload hvalid
    obtain rfl : o' = o := by
      simpa [Body.message, Message.observed, hvalid, Except.toOption] using hobserved
    refine ⟨i, raw, hi, hgeneration.symm, hsequence.symm, now, bearer, raw, id, o', rfl, hi,
      hvalid, ?_⟩
    show _ = Except.ok (endpoint.handle now _ s.db).1
    rw [hdb]
    rcases hcommitted with hsaved | ⟨hreplay, -⟩
    · exact hsaved
    · exact absurd (haccepted.symm.trans hreplay) (by simp)
  | request now foreign =>
    refine h.handled now foreign.request ?_
    intro id o hobserved _ _ htarget hid
    exact absurd ⟨htarget, hid⟩ (foreign.foreign now id o hobserved)

/-- A delivery that is answered with a success, in a state of the invariant. -/
theorem Acknowledges.success
    (h : Acknowledges endpoint size identity s past) {i : Nat} {bearer : Option Token}
    {status : Nat}
    (hstatus : (agentSystem endpoint size identity).answer s (.deliver now i bearer) = some status)
    (hsuccess : status < 300) :
    ∃ entry ∈ past ++ [(agentSystem endpoint size identity).entry s (.deliver now i bearer)],
      Commits endpoint size identity i entry := by
  rcases hi : s.sent[i]? with _ | raw
  · simp [answer, agentSystem, AgentSystem.step, hi] at hstatus
  have hhandled : endpoint.handle now ⟨bearer, .observation (raw.payload size)⟩ s.db
      = (((agentSystem endpoint size identity).next s (.deliver now i bearer)).db, status) := by
    simp only [answer, agentSystem, AgentSystem.step, hi, Option.some.injEq] at hstatus
    simp only [Machine.next, agentSystem, AgentSystem.step, hi, ← hstatus]
  rcases endpoint.handle_cases now ⟨bearer, .observation (raw.payload size)⟩ s.db with
    ⟨status', hfailed, hhandle⟩ | ⟨token, claims, -, -, hhandle⟩
  · rw [hhandled, Prod.mk.injEq] at hhandle
    omega
  rw [hhandled, Prod.mk.injEq] at hhandle
  generalize claims.identity = id at hhandle
  obtain ⟨hnext, hanswer⟩ := hhandle
  have hanswered : (projector endpoint.hash).answer s.db (.observation now id (raw.payload size))
        = .accepted
      ∨ (projector endpoint.hash).answer s.db (.observation now id (raw.payload size)) = .replay := by
    rw [hanswer] at hsuccess
    dsimp only [Body.message] at hsuccess
    generalize (projector endpoint.hash).answer s.db _ = answer at hsuccess ⊢
    cases answer <;> simp [Body.status] at hsuccess ⊢
  obtain ⟨o, hvalid, hcommitted | ⟨-, current, hload, hgeneration, hsequence⟩⟩ :=
    projector_success hanswered
  · refine ⟨_, mem_append_right _ (mem_singleton_self _), now, bearer, raw, id, o, rfl, hi,
      hvalid, ?_⟩
    exact hcommitted.trans (congrArg Except.ok hnext.symm)
  -- Some report has this number and is committed. It is this one.
  obtain ⟨hgeneration', hsequence', htarget, hid⟩ := observed_payload hvalid
  obtain ⟨hrow, hrowTarget, hrowId⟩ := DB.loadCursor_eq_some hload
  rw [h.own raw (mem_of_getElem? hi)] at htarget hid
  obtain ⟨j, raw', hj, hj', hn, entry, hentry, hcommits⟩ := h.covered current hrow
      (belongsTo_iff.2 ⟨hrowTarget.trans htarget, hrowId.trans hid⟩)
      o.sequence o.sequence_pos hsequence
  obtain rfl : j = i := by
    have hlength : j < (s.sent.map fun raw => (raw.observerGeneration, raw.sequence)).length := by
      rw [length_map]
      exact (List.getElem?_eq_some_iff.1 hj).1
    refine (getElem?_inj hlength h.distinct).1 ?_
    rw [getElem?_map, getElem?_map, hj, hi, Option.map_some, Option.map_some, hj', ← hgeneration,
      hgeneration', hn, hsequence']
  exact ⟨entry, mem_append_left _ hentry, hcommits⟩

/-- **Acknowledged observations.** In every run of an agent and the endpoint, from a database without a
    cursor of this observer, in which every process of the agent is started with a generation that no
    report has: an observation that is answered with a success has been committed, at that delivery
    or an earlier one of the same observation. -/
theorem acknowledged_committed (s : AgentSystem) (hsent : s.sent = []) (hprocess : s.process = none)
    (hdb : ∀ row ∈ s.db.cursors.rows, row.belongsTo identity.target identity.observerId = false)
    (events : List (AgentEvent identity))
    (hrenews : ∀ entry ∈ (agentSystem endpoint size identity).trace s events,
      RenewsGeneration identity entry.pre entry.call)
    (past : List (Machine.Entry AgentSystem (AgentEvent identity) (Option Nat)))
    (entry : Machine.Entry AgentSystem (AgentEvent identity) (Option Nat))
    (rest : List (Machine.Entry AgentSystem (AgentEvent identity) (Option Nat)))
    (htrace : (agentSystem endpoint size identity).trace s events = past ++ entry :: rest)
    (now : Int) (i : Nat) (bearer : Option Token) (hcall : entry.call = .deliver now i bearer)
    (status : Nat) (hresult : entry.result = some status) (hsuccess : status < 300) :
    ∃ e ∈ past ++ [entry], Commits endpoint size identity i e := by
  obtain ⟨events₁, event, events₂, rfl, rfl, rfl, -⟩ := trace_eq_append_cons htrace
  have hstart : Acknowledges endpoint size identity s [] := by
    refine ⟨by simp [hsent], by simp [hprocess], by simp [hsent], ?_⟩
    intro row hrow hbelongs
    simp [hdb row hrow] at hbelongs
  have hinvariant := (agentSystem endpoint size identity).history_induction
    (C := RenewsGeneration identity) acknowledges_next hstart
    fun e he => hrenews e (by rw [htrace]; exact mem_append_left _ he)
  obtain rfl : event = .deliver now i bearer := hcall
  exact hinvariant.success hresult hsuccess

end Runs

/-! ## A process that starts again -/

def oneNode (healthState : String) : Discovery where
  observedAt := 150000000
  nodes := [{ nodeId := "node-1", lifecycleState := "ACTIVE", healthState := healthState
              connectivityState := "CONNECTED", freshness := "FRESH", observedAt := 150000000
              lastKnownStateAt := 150000000 }]
  capability :=
    { snapshotId := "s1", digest := "d1", runtimeVersion := "v1.30", architectures := []
      resources := { cpuMillis := 0, memoryBytes := 0 } }
  storage :=
    { storageClasses := some [], csiDrivers := some [], csiNodes := some []
      csiStorageCapacities := some [], volumeAttachments := some []
      snapshotApi := some ⟨"NotInstalled", "", "kubernetes.apidiscovery.k8s.io/v1", 150000000⟩ }

/-- The target is registered, and no process of the agent is running. -/
def beforeAgent : AgentSystem := ⟨registered, none, []⟩

/-- The agent of the samples, with reports of 512 bytes. -/
def sampleAgent : Machine AgentSystem (AgentEvent sampleIdentity) (Option Nat) :=
  agentSystem sampleEndpoint (fun _ => 512) sampleIdentity

/-- Two reports that arrive, and the first report of a second process of generation 1. -/
def restartedEvents : List (AgentEvent sampleIdentity) :=
  [.start 1, .report "5d0f7c1a-3b7e-4c55-8f0e-7a9e6a1c2b11" (oneNode "HEALTHY"),
    .deliver 200000000 0 (some firstToken),
    .report "5d0f7c1a-3b7e-4c55-8f0e-7a9e6a1c2b12" (oneNode "DEGRADED"),
    .deliver 200000000 1 (some firstToken), .start 1,
    .report "5d0f7c1a-3b7e-4c55-8f0e-7a9e6a1c2b13" (oneNode "UNHEALTHY")]

/-- The new process reports that the node is unhealthy. Its report is number 1, which the endpoint
    takes for a replay of what the first process has reported. -/
theorem restarted_agent_is_not_committed :
    sampleAgent.answer (sampleAgent.run beforeAgent restartedEvents)
        (.deliver 200000000 2 (some firstToken)) = some 200
    ∧ ¬ ∃ e ∈ sampleAgent.trace beforeAgent restartedEvents
          ++ [sampleAgent.entry (sampleAgent.run beforeAgent restartedEvents)
            (.deliver 200000000 2 (some firstToken))],
        Commits sampleEndpoint (fun _ => 512) sampleIdentity 2 e := by
  refine ⟨by decide +kernel, ?_⟩
  rintro ⟨e, he, now, bearer, raw, id, o, hcall, hraw, hvalid, hsaved⟩
  -- Only the last step delivers the third report.
  have hlast : e = sampleAgent.entry (sampleAgent.run beforeAgent restartedEvents)
      (.deliver 200000000 2 (some firstToken)) := by
    rcases mem_append.1 he with he | he
    · have hmem := call_mem_of_mem_trace he
      rw [hcall] at hmem
      simp [restartedEvents] at hmem
    · exact mem_singleton.1 he
  have hrow : o.cursorRow (sampleEndpoint.hash o.content) ∈ e.post.db.cursors.rows := by
    rw [saveObservation_cursors hsaved, mem_put]
    exact .inl rfl
  have hrevisions : e.post.db.cursors.rows.map observationRevision = [2] := by
    rw [hlast]
    decide +kernel
  have htwo : o.sequence = 2 := by
    have hmem := mem_map_of_mem (f := observationRevision) hrow
    rw [hrevisions] at hmem
    exact mem_singleton.1 hmem
  have hone : raw.sequence = 1 := by
    have hsequences : e.pre.sent[2]?.map ObservationWire.sequence = some 1 := by
      rw [hlast]
      decide +kernel
    simpa [hraw] using hsequences
  have := (observed_payload hvalid).2.1
  omega

instance (s : AgentSystem) :
    (event : AgentEvent sampleIdentity) → Decidable (RenewsGeneration sampleIdentity s event)
  | .start generation => decidable_of_iff (∀ raw ∈ s.sent,
      raw.observerGeneration ≠ (newProducer sampleIdentity generation 1).generation)
      ⟨fun h _ heq => AgentEvent.start.inj heq ▸ h, fun h => h generation rfl⟩
  | .report _ _ | .deliver _ _ _ | .request _ _ => isTrue (by simp [RenewsGeneration])

/-- A report of generation 1 and its redelivery, a reset to generation 2, and the report of a second
    process. -/
def renewedEvents : List (AgentEvent sampleIdentity) :=
  restartedEvents.take 3 ++ [.deliver 200000000 0 (some firstToken),
    .request 200000000 ⟨⟨some secondToken, agentReset.body⟩, fun _ _ _ hobserved =>
      absurd hobserved.symm (Option.some_ne_none _)⟩,
    .start 2, .report "5d0f7c1a-3b7e-4c55-8f0e-7a9e6a1c2b13" (oneNode "UNHEALTHY"),
    .deliver 200000000 1 (some secondToken)]

/-- The report of the second process arrives once more, and is answered as a replay. -/
theorem acknowledged_committed_of_second :
    (sampleAgent.trace beforeAgent renewedEvents).filterMap Entry.result = [202, 200, 202, 202]
    ∧ ∃ e ∈ sampleAgent.trace beforeAgent renewedEvents
        ++ [sampleAgent.entry (sampleAgent.run beforeAgent renewedEvents)
          (.deliver 200000000 1 (some secondToken))],
      Commits sampleEndpoint (fun _ => 512) sampleIdentity 1 e := by
  refine ⟨by decide +kernel, ?_⟩
  refine acknowledged_committed beforeAgent rfl rfl (by simp [beforeAgent, registered])
    (renewedEvents ++ [.deliver 200000000 1 (some secondToken)]) (by decide +kernel) _ _ []
    (sampleAgent.trace_append _ _ _) 200000000 1 (some secondToken) rfl 200 ?_ (by omega)
  decide +kernel

end HnbCloud.Observer
