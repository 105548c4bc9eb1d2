import HnbCloud.Observer.Projector

set_option autoImplicit false

/-! # The order of accepted observations

Over every run of the projector: which observations of an observer are accepted, what raises its
generation, and what a message that is not accepted leaves as it was.

The numbers of a generation are 1, 2, 3 and so on as long as no observer of the other kind reports
under the same tenant, target and observer id. `LoadCursor` does not tell the two apart: each of them
is then admitted by whichever cursor the query returns. -/

namespace HnbCloud.Observer

open List Option Table CursorRow Machine

variable {k : CursorKey} {entry : Entry DB Message Answer} {db db' : DB}
  {past : List (Entry DB Message Answer)} {hash : Content → String} {sent : Message}
  {answer : Answer}

/-! ## Generations -/

/-- An observation is admitted in the generation of every cursor of its observer. -/
theorem OneGeneration.admitted (h : OneGeneration db) {o : Observation} {digest : String}
    (hadmitted : admission digest o (db.loadCursor o.targetKey o.observerId) = .save)
    {row : CursorRow} (hrow : row ∈ db.cursors.rows) (htarget : row.key.target = o.targetKey)
    (hid : row.observationSourceId = o.observerId) :
    row.observationGeneration = o.observerGeneration := by
  rcases hload : db.loadCursor o.targetKey o.observerId with _ | current
  · exact absurd hid (DB.loadCursor_eq_none hload hrow htarget)
  obtain ⟨hmem, htarget', hid'⟩ := DB.loadCursor_eq_some hload
  rw [hload] at hadmitted
  rw [(admission_save hadmitted).1]
  exact h row hrow current hmem (htarget.trans htarget'.symm) (hid.trans hid'.symm)

/-- Along a step the cursors of an observer keep their common generation. -/
theorem Does.oneGeneration (hdoes : Does hash db sent answer db') (h : OneGeneration db) :
    OneGeneration db' := by
  cases hdoes with
  | saved o _ _ hadmitted hcursors =>
    intro row hrow row' hrow' htarget hid
    rw [hcursors, mem_put] at hrow hrow'
    rcases hrow with rfl | ⟨-, hrow⟩
    · rcases hrow' with rfl | ⟨-, hrow'⟩
      · rfl
      · exact (h.admitted hadmitted hrow' htarget.symm hid.symm).symm
    · rcases hrow' with rfl | ⟨-, hrow'⟩
      · exact h.admitted hadmitted hrow htarget hid
      · exact h row hrow row' hrow' htarget hid
  | raised reset _ _ _ _ _ hcursors =>
    intro row hrow row' hrow' htarget hid
    rw [hcursors, resetCursorsOf, mem_updateWhere] at hrow hrow'
    obtain ⟨old, hold, rfl⟩ := hrow
    obtain ⟨old', hold', rfl⟩ := hrow'
    have hkept := @key_ite _ _ key
      (CursorRow.reset reset.newObserverGeneration reset.observedAt) fun _ => rfl
    have hkeptId := @key_ite _ _ observationSourceId
      (CursorRow.reset reset.newObserverGeneration reset.observedAt) fun _ => rfl
    rw [hkept, hkept] at htarget
    rw [hkeptId, hkeptId] at hid
    have hsame : old.belongsTo reset.targetKey reset.observerId
        = old'.belongsTo reset.targetKey reset.observerId := by
      simp only [belongsTo, htarget, hid]
    rw [hsame]
    split
    · rfl
    · exact h old hold old' hold' htarget hid
  | refused _ _ _ hcursors =>
    unfold OneGeneration
    rw [hcursors]
    exact h

/-- What a step does to the generation of a cursor: nothing, unless it is a reset to a larger one. -/
def GenerationRaisedByReset (entry : Entry DB Message Answer) : Prop :=
  ∀ k current, entry.pre.cursors.get? k = some current →
    ∃ current', entry.post.cursors.get? k = some current'
      ∧ (current'.observationGeneration = current.observationGeneration
        ∨ (current.observationGeneration < current'.observationGeneration ∧ entry.result = .accepted
          ∧ ∃ reset, entry.call.resets = some reset
            ∧ reset.newObserverGeneration = current'.observationGeneration))

theorem Does.generationRaisedByReset (hdoes : Does hash db sent answer db')
    (h : OneGeneration db) : GenerationRaisedByReset ⟨db, sent, answer, db'⟩ := by
  intro k current hk
  have hmem := mem_of_get? hk
  have hkey := key_of_get? hk
  cases hdoes with
  | saved o _ _ hadmitted hcursors =>
    rw [hcursors, get?_put]
    by_cases hko : k = (o.cursorRow (hash o.content)).key
    · rw [if_pos hko]
      refine ⟨_, rfl, .inl ?_⟩
      have hrow : current.key = o.cursorKey := hkey.trans hko
      exact (h.admitted hadmitted hmem (congrArg CursorKey.target hrow)
        (congrArg CursorKey.observationSourceId hrow)).symm
    · rw [if_neg hko]
      exact ⟨current, hk, .inl rfl⟩
  | raised reset loaded _ hvalid hload hprevious hcursors =>
    rw [hcursors, resetCursorsOf, get?_updateWhere, hk, map_some]
    refine ⟨_, rfl, ?_⟩
    split
    · next hbelongs =>
      obtain ⟨htarget, hid⟩ := belongsTo_iff.1 hbelongs
      obtain ⟨hloaded, htarget', hid'⟩ := DB.loadCursor_eq_some hload
      have hgeneration : current.observationGeneration = loaded.observationGeneration :=
        h current hmem loaded hloaded (htarget.trans htarget'.symm) (hid.trans hid'.symm)
      refine .inr ⟨?_, rfl, reset, hvalid, rfl⟩
      rw [hgeneration, hprevious]
      exact reset.increases
    · exact .inl rfl
  | refused _ _ _ hcursors =>
    rw [hcursors]
    exact ⟨current, hk, .inl rfl⟩

/-! ## What is not accepted changes nothing -/

/-- A valid observation that is not accepted leaves the cursors and the projection as they were. -/
def RefusalKeeps (entry : Entry DB Message Answer) : Prop :=
  ∀ o, entry.call.observed = some o → entry.result ≠ .accepted →
    entry.post.cursors = entry.pre.cursors ∧ entry.post.toProjection = entry.pre.toProjection

theorem Does.refusalKeeps (hdoes : Does hash db sent answer db') :
    RefusalKeeps ⟨db, sent, answer, db'⟩ := by
  intro o _ hrefused
  cases hdoes with
  | saved | raised => exact absurd rfl hrefused
  | refused _ _ _ hcursors hprojection => exact ⟨hcursors, hprojection⟩

/-! ## The numbers of a generation -/

/-- 1, 2, 3 and so on, `n` of them. -/
def numbers (n : Nat) : List Int := (range n).map fun i => (i : Int) + 1

theorem numbers_succ (n : Nat) : numbers (n + 1) = numbers n ++ [(n : Int) + 1] := by
  simp [numbers, range_succ]

/-- The number of the observation that an entry accepts for this cursor and generation. -/
def acceptedAs (k : CursorKey) (generation : Int) (entry : Entry DB Message Answer) : Option Int :=
  match entry.call.observed with
  | none => none
  | some o =>
    if entry.result = .accepted ∧ o.cursorKey = k ∧ o.observerGeneration = generation then
      some o.sequence
    else none

/-- The numbers that are accepted along a trace, in order. -/
def acceptedSequences (k : CursorKey) (generation : Int) (trace : List (Entry DB Message Answer)) :
    List Int :=
  trace.filterMap (acceptedAs k generation)

/-- The message is no observation by an observer of another kind with the id of this one. -/
def OnlyObserver (k : CursorKey) (message : Message) : Prop :=
  ∀ o, message.observed = some o → o.targetKey = k.target →
    o.observerId = k.observationSourceId → o.cursorKey = k

/-- The cursor counts what has been accepted in its generation. -/
structure Counts (k : CursorKey) (db : DB) (past : List (Entry DB Message Answer)) : Prop where
  own : ∀ row ∈ db.cursors.rows, row.belongsTo k.target k.observationSourceId = true → row.key = k
  fresh : db.cursors.get? k = none → ∀ generation, acceptedSequences k generation past = []
  current : ∀ c, db.cursors.get? k = some c → ∃ n : Nat, c.observationRevision = n
    ∧ acceptedSequences k c.observationGeneration past = numbers n
  later : ∀ c, db.cursors.get? k = some c → ∀ generation, c.observationGeneration < generation →
    acceptedSequences k generation past = []
  every : ∀ generation, ∃ n, acceptedSequences k generation past = numbers n

theorem acceptedSequences_append (k : CursorKey) (generation : Int)
    (past : List (Entry DB Message Answer)) (entry : Entry DB Message Answer) :
    acceptedSequences k generation (past ++ [entry])
      = acceptedSequences k generation past ++ (acceptedAs k generation entry).toList := by
  rw [acceptedSequences, filterMap_append]
  rcases h : acceptedAs k generation entry with _ | number
  · simp [acceptedSequences, h]
  · simp [acceptedSequences, h]

/-- An entry that accepts nothing for this cursor leaves its numbers as they are. -/
theorem acceptedSequences_append_none
    (h : ∀ generation, acceptedAs k generation entry = none) (generation : Int)
    (past : List (Entry DB Message Answer)) :
    acceptedSequences k generation (past ++ [entry]) = acceptedSequences k generation past := by
  rw [acceptedSequences_append, h, toList_none, append_nil]

/-- The cursor that admits an observation of the only observer is its own. -/
theorem Counts.loadCursor (h : Counts k db past) :
    db.loadCursor k.target k.observationSourceId = db.cursors.get? k := by
  rcases hload : db.loadCursor k.target k.observationSourceId with _ | c
  · rcases hget : db.cursors.get? k with _ | c
    · rfl
    have hkey := key_of_get? hget
    have hid : c.observationSourceId = k.observationSourceId :=
      congrArg CursorKey.observationSourceId hkey
    exact absurd hid (DB.loadCursor_eq_none hload (mem_of_get? hget)
      (congrArg CursorKey.target hkey))
  · obtain ⟨hmem, htarget, hid⟩ := DB.loadCursor_eq_some hload
    have hkey : c.key = k := h.own c hmem (belongsTo_iff.2 ⟨htarget, hid⟩)
    rw [← hkey, get?_of_mem hmem]

theorem Counts.unchanged (h : Counts k db past)
    (hnone : ∀ generation, acceptedAs k generation entry = none) (hown : ∀ row ∈ db'.cursors.rows,
      row.belongsTo k.target k.observationSourceId = true → row.key = k)
    (hget : db'.cursors.get? k = db.cursors.get? k) : Counts k db' (past ++ [entry]) := by
  refine ⟨hown, ?_, ?_, ?_, ?_⟩ <;> simp only [acceptedSequences_append_none hnone, hget]
  · exact h.fresh
  · exact h.current
  · exact h.later
  · exact h.every

/-- What is to be shown of a cursor that is there. -/
theorem Counts.of_cursor {c : CursorRow} {n : Nat} (hown : ∀ row ∈ db.cursors.rows,
      row.belongsTo k.target k.observationSourceId = true → row.key = k)
    (hget : db.cursors.get? k = some c) (hn : c.observationRevision = n)
    (hnumbers : acceptedSequences k c.observationGeneration past = numbers n)
    (hlater : ∀ generation, c.observationGeneration < generation →
      acceptedSequences k generation past = [])
    (hevery : ∀ generation, ∃ n, acceptedSequences k generation past = numbers n) :
    Counts k db past := by
  refine ⟨hown, ?_, ?_, ?_, hevery⟩ <;> rw [hget]
  · simp
  · rintro _ ⟨⟩
    exact ⟨n, hn, hnumbers⟩
  · rintro _ ⟨⟩
    exact hlater

theorem Counts.saved (h : Counts k db past) {o : Observation}
    {digest : String} (hobserved : entry.call.observed = some o) (hresult : entry.result = .accepted)
    (hk : o.cursorKey = k) (hadmitted : admission digest o (db.cursors.get? k) = .save)
    (hcursors : db'.cursors = db.cursors.put (o.cursorRow digest)) :
    Counts k db' (past ++ [entry]) := by
  have hget : db'.cursors.get? k = some (o.cursorRow digest) := by
    rw [hcursors, get?_put]
    exact if_pos hk.symm
  -- The number is the next one, and no later generation has any.
  have hnext : ∃ n : Nat, o.sequence = (n : Int) + 1
      ∧ acceptedSequences k o.observerGeneration past = numbers n
      ∧ ∀ generation, o.observerGeneration < generation →
        acceptedSequences k generation past = [] := by
    rcases hc : db.cursors.get? k with _ | c
    · rw [hc] at hadmitted
      have hfirst := (admission_save_first hadmitted).2
      exact ⟨0, by simpa using hfirst, h.fresh hc _, fun generation _ => h.fresh hc generation⟩
    rw [hc] at hadmitted
    obtain ⟨hgeneration, hsequence⟩ := admission_save hadmitted
    obtain ⟨n, hn, hnumbers⟩ := h.current c hc
    rw [hgeneration]
    exact ⟨n, by rw [hsequence, hn], hnumbers, h.later c hc⟩
  obtain ⟨n, hsequence, hnumbers, hlater⟩ := hnext
  have hother : ∀ generation, generation ≠ o.observerGeneration →
      acceptedSequences k generation (past ++ [entry]) = acceptedSequences k generation past := by
    intro generation hne
    have hnone : acceptedAs k generation entry = none := by
      simp [acceptedAs, hobserved, Ne.symm hne]
    rw [acceptedSequences_append, hnone, toList_none, append_nil]
  have hthis : acceptedSequences k o.observerGeneration (past ++ [entry]) = numbers (n + 1) := by
    have hsome : acceptedAs k o.observerGeneration entry = some o.sequence := by
      simp [acceptedAs, hobserved, hresult, hk]
    rw [acceptedSequences_append, hsome, hnumbers, numbers_succ, hsequence]
    rfl
  refine .of_cursor ?_ hget hsequence hthis ?_ ?_
  · intro row hrow hbelongs
    rw [hcursors, mem_put] at hrow
    rcases hrow with rfl | ⟨-, hrow⟩
    · exact hk
    · exact h.own row hrow hbelongs
  · intro generation hgeneration
    rw [hother generation (ne_of_gt hgeneration)]
    exact hlater generation hgeneration
  · intro generation
    by_cases hne : generation = o.observerGeneration
    · exact ⟨n + 1, hne ▸ hthis⟩
    · rw [hother generation hne]
      exact h.every generation

theorem Counts.raised (h : Counts k db past) {reset : SourceReset}
    {current : CursorRow} (hnone : ∀ generation, acceptedAs k generation entry = none)
    (hload : db.loadCursor reset.targetKey reset.observerId = some current)
    (hprevious : current.observationGeneration = reset.previousObserverGeneration)
    (hcursors : db'.cursors = resetCursorsOf reset db.cursors) :
    Counts k db' (past ++ [entry]) := by
  have hown : ∀ row ∈ db'.cursors.rows,
      row.belongsTo k.target k.observationSourceId = true → row.key = k := by
    intro row hrow hbelongs
    rw [hcursors, resetCursorsOf, mem_updateWhere] at hrow
    obtain ⟨old, hold, rfl⟩ := hrow
    split at hbelongs
    · next hreset =>
      rw [if_pos hreset]
      exact h.own old hold hbelongs
    · next hreset =>
      rw [if_neg hreset]
      exact h.own old hold hbelongs
  have hget : db'.cursors.get? k = (db.cursors.get? k).map fun row =>
      if row.belongsTo reset.targetKey reset.observerId = true then
        row.reset reset.newObserverGeneration reset.observedAt else row := by
    rw [hcursors, resetCursorsOf, get?_updateWhere]
  rcases hc : db.cursors.get? k with _ | c
  · exact h.unchanged hnone hown (by rw [hget, hc, map_none])
  by_cases hbelongs : c.belongsTo reset.targetKey reset.observerId = true
  · -- The reset is of this observer, so the cursor it has found is this one.
    have hck := key_of_get? hc
    obtain ⟨htarget, hid⟩ := belongsTo_iff.1 hbelongs
    have htarget' : reset.targetKey = k.target := htarget.symm.trans (congrArg CursorKey.target hck)
    have hid' : reset.observerId = k.observationSourceId :=
      hid.symm.trans (congrArg CursorKey.observationSourceId hck)
    rw [htarget', hid', h.loadCursor, hc, Option.some.injEq] at hload
    subst hload
    have hpost : db'.cursors.get? k
        = some (c.reset reset.newObserverGeneration reset.observedAt) := by
      rw [hget, hc, map_some, if_pos hbelongs]
    have hraised : c.observationGeneration < reset.newObserverGeneration :=
      hprevious ▸ reset.increases
    have hempty : ∀ generation, c.observationGeneration < generation →
        acceptedSequences k generation (past ++ [entry]) = [] := by
      intro generation hgeneration
      rw [acceptedSequences_append_none hnone]
      exact h.later c hc generation hgeneration
    refine .of_cursor hown hpost rfl (hempty _ hraised)
      (fun generation hgeneration => hempty generation (lt_trans hraised hgeneration)) ?_
    intro generation
    rw [acceptedSequences_append_none hnone]
    exact h.every generation
  · exact h.unchanged hnone hown (by rw [hget, hc, map_some, if_neg hbelongs])

/-- A step counts on, if its message is of the only observer with that id. -/
theorem Does.counts (hdoes : Does hash db sent answer db') (honly : OnlyObserver k sent)
    (h : Counts k db past) : Counts k db' (past ++ [⟨db, sent, answer, db'⟩]) := by
  cases hdoes with
  | saved o _ hvalid hadmitted hcursors =>
    by_cases hk : o.cursorKey = k
    · subst hk
      refine h.saved hvalid rfl rfl ?_ hcursors
      rw [← h.loadCursor]
      exact hadmitted
    have hnone : ∀ generation, acceptedAs k generation ⟨db, sent, .accepted, db'⟩ = none := by
      intro generation
      simp [acceptedAs, hvalid, hk]
    refine h.unchanged hnone ?_ ?_
    · intro row hrow hbelongs
      rw [hcursors, mem_put] at hrow
      rcases hrow with rfl | ⟨-, hrow⟩
      · obtain ⟨htarget, hid⟩ := belongsTo_iff.1 hbelongs
        exact honly o hvalid htarget hid
      · exact h.own row hrow hbelongs
    · rw [hcursors, get?_put]
      exact if_neg (Ne.symm hk)
  | raised reset _ _ hvalid hload hprevious hcursors =>
    refine h.raised ?_ hload hprevious hcursors
    intro generation
    cases sent with
    | observation => simp [Message.resets] at hvalid
    | reset => simp [acceptedAs, Message.observed]
  | refused _ _ hrefused hcursors =>
    refine h.unchanged ?_ (hcursors ▸ h.own) (by rw [hcursors])
    intro generation
    unfold acceptedAs
    split
    · rfl
    · rw [if_neg]
      rintro ⟨haccepted, -⟩
      exact hrefused haccepted

/-- **Order of observations.** In every run of the projector, from a database without cursors: the
    numbers accepted in each generation of an observer are 1, 2, 3 and so on, provided that no
    observer of the other kind reports with its id; a generation is raised by a reset to a larger one
    only; and an observation that is not accepted leaves the cursors and the projection alone. -/
theorem accepted_in_order (hash : Content → String) (db : DB) (hdb : db.cursors.rows = [])
    (messages : List Message) :
    (∀ k, (∀ message ∈ messages, OnlyObserver k message) → ∀ generation,
      ∃ n, acceptedSequences k generation ((projector hash).trace db messages) = numbers n)
    ∧ (∀ entry ∈ (projector hash).trace db messages, GenerationRaisedByReset entry)
    ∧ ∀ entry ∈ (projector hash).trace db messages, RefusalKeeps entry := by
  refine ⟨?_, ?_, ?_⟩
  · intro k honly generation
    have hstart : Counts k db [] := by
      refine ⟨by simp [hdb], fun _ _ => rfl, ?_, ?_, fun _ => ⟨0, rfl⟩⟩
      · intro c hc
        exact absurd (mem_of_get? hc) (by simp [hdb])
      · intro c hc
        exact absurd (mem_of_get? hc) (by simp [hdb])
    have hcounts : Counts k ((projector hash).run db messages)
        ((projector hash).trace db messages) :=
      (projector hash).history_induction (C := fun _ message => OnlyObserver k message)
        (fun db past message => (projector_does hash db message).counts) hstart
        fun entry hentry => honly _ (call_mem_of_mem_trace hentry)
    exact hcounts.every generation
  · have hstart : OneGeneration db := by simp [OneGeneration, hdb]
    exact (projector hash).trace_forall (fun db message => (projector_does hash db message).oneGeneration)
      (fun db message => (projector_does hash db message).generationRaisedByReset) hstart messages
  · exact (projector hash).trace_forall (P := fun _ => True) (fun _ _ _ => trivial)
      (fun db message _ => (projector_does hash db message).refusalKeeps) trivial messages

/-! ## Two observers with one id -/

/-- A registered target, and no observation yet. -/
def registered : DB where
  targets := ⟨[{ id := "0b8a0b0e-6c3f-4a53-9a4e-1f6d2b7c9d10", tenantId := "acme" }], by simp⟩
  capabilities := .empty
  nodes := .empty
  storage := .empty
  evidence := .empty
  snapshotApis := .empty
  bindings := .empty
  cursors := .empty
  inbox := .empty

/-- The agent of the samples. -/
def sampleIdentity : Identity :=
  ⟨"acme", "0b8a0b0e-6c3f-4a53-9a4e-1f6d2b7c9d10", "KubernetesTarget", "observer-1", "Agent"⟩

/-- An observation without parts of this kind, by `observer-1`. -/
def plainWire (kind : TargetKind) (observerKind eventId : String) (generation sequence : Int) :
    ObservationWire where
  schemaVersion := "1.0.0"
  eventId := eventId
  tenantId := "acme"
  targetId := "0b8a0b0e-6c3f-4a53-9a4e-1f6d2b7c9d10"
  targetKind := kind.text
  observerId := "observer-1"
  observerKind := observerKind
  observerGeneration := generation
  sequence := sequence
  observedAt := 0
  inventoryMode := "Delta"
  target := none
  capability := none
  nodes := []
  storageInventory := none

def ObservationWire.identity (raw : ObservationWire) : Identity :=
  ⟨raw.tenantId, raw.targetId, raw.targetKind, raw.observerId, raw.observerKind⟩

/-- The request with this body. -/
def ObservationWire.message (raw : ObservationWire) : Message :=
  .observation 0 raw.identity ⟨512, some observationAllowedFields, some raw⟩

def agentFirst : Message :=
  (plainWire .kubernetesTarget "Agent" "5d0f7c1a-3b7e-4c55-8f0e-7a9e6a1c2b01" 1 1).message

/-- The agent's second observation, with the state of the target. -/
def agentSecond : Message :=
  ObservationWire.message
    { plainWire .kubernetesTarget "Agent" "5d0f7c1a-3b7e-4c55-8f0e-7a9e6a1c2b03" 1 2 with
      target := some
        { lifecycleState := "ACTIVE", healthState := "HEALTHY", connectivityState := "CONNECTED"
          lastKnownStateAt := 0, staleThresholdSeconds := 300, runtimeVersion := "" } }

/-- The agent's reset to generation 2. -/
def agentReset : Message :=
  .reset sampleIdentity
    ⟨512, some sourceResetAllowedFields, some
      { schemaVersion := "1.0.0", eventId := "5d0f7c1a-3b7e-4c55-8f0e-7a9e6a1c2b04"
        tenantId := "acme", targetId := "0b8a0b0e-6c3f-4a53-9a4e-1f6d2b7c9d10"
        targetKind := "KubernetesTarget", observerId := "observer-1", observerKind := "Agent"
        previousObserverGeneration := 1, newObserverGeneration := 2, observedAt := 0
        observerLeaseId := "5d0f7c1a-3b7e-4c55-8f0e-7a9e6a1c2b05", reason := "restart" }⟩

/-- The first observation of generation 2. -/
def agentThird : Message :=
  (plainWire .kubernetesTarget "Agent" "5d0f7c1a-3b7e-4c55-8f0e-7a9e6a1c2b07" 2 1).message

def cloudCoreSecond : Message :=
  (plainWire .edgeRuntimeTarget "CloudCore" "5d0f7c1a-3b7e-4c55-8f0e-7a9e6a1c2b02" 1 2).message

def agentCursor : CursorKey :=
  ⟨⟨"acme", "0b8a0b0e-6c3f-4a53-9a4e-1f6d2b7c9d10"⟩, .agent, "observer-1"⟩

def cloudCoreCursor : CursorKey :=
  ⟨⟨"acme", "0b8a0b0e-6c3f-4a53-9a4e-1f6d2b7c9d10"⟩, .cloudcore, "observer-1"⟩

/-- CloudCore is admitted by the cursor of the agent: its first observation is number 2. -/
theorem cloudCore_starts_at_two : registered.cursors.rows = []
    ∧ ¬ ∃ n, acceptedSequences cloudCoreCursor 1
      ((projector fun _ => "").trace registered [agentFirst, cloudCoreSecond]) = numbers n := by
  refine ⟨rfl, ?_⟩
  have hsecond : acceptedSequences cloudCoreCursor 1
      ((projector fun _ => "").trace registered [agentFirst, cloudCoreSecond]) = [2] := by
    decide +kernel
  rw [hsecond]
  rintro ⟨n, hn⟩
  cases n with
  | zero => simp [numbers] at hn
  | succ => simp [numbers, range_succ_eq_map] at hn

instance (k : CursorKey) : DecidablePred (OnlyObserver k) := fun message =>
  inferInstanceAs (Decidable (∀ o ∈ message.observed, o.targetKey = k.target →
    o.observerId = k.observationSourceId → o.cursorKey = k))

/-- The agent alone: two observations, the first one twice, a reset and one more. -/
def agentMessages : List Message := [agentFirst, agentFirst, agentSecond, agentReset, agentThird]

theorem accepted_in_order_of_agent : registered.cursors.rows = []
    ∧ acceptedSequences agentCursor 1 ((projector fun _ => "").trace registered agentMessages) = [1, 2]
    ∧ ∀ generation, ∃ n, acceptedSequences agentCursor generation
      ((projector fun _ => "").trace registered agentMessages) = numbers n := by
  refine ⟨rfl, by decide +kernel, ?_⟩
  exact (accepted_in_order (fun _ => "") registered rfl agentMessages).1 agentCursor (by decide +kernel)

end HnbCloud.Observer
