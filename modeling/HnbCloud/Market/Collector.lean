import HnbCloud.Market.Releases

set_option autoImplicit false

/-! # The collection of artifacts

`GCRepo`: artifacts are protected by references, marked by tombstones and swept. A call is one
transaction, and `NOW()` and `time.Now()` are one clock. -/

namespace HnbCloud.Market

open Table Option Artifact

/-- A row of `artifact_references`. -/
structure Reference where
  (tenantId artifactId ownerType ownerId purpose : String)
  expiresAt : Option Int

/-- The unique index of `artifact_references`. -/
def Reference.key (r : Reference) : String × String × String × String × String :=
  (r.tenantId, r.artifactId, r.ownerType, r.ownerId, r.purpose)

def Reference.unexpired (now : Int) (r : Reference) : Bool := r.expiresAt.all (now < ·)

inductive TombstoneState where
  | retained
  | deleting
  | deleted
  | cancelled
deriving DecidableEq, Repr

/-- A row of `artifact_tombstones`, and the command of a sweep. -/
structure Tombstone where
  (id tenantId artifactId artifactDigest operationId : String)
  state : TombstoneState
  deleteAfter : Int

/-- A row of `artifact_locks`. -/
structure ArtifactLock where
  (artifactId tenantId lockOwner : String)
  leaseUntil : Int

structure Collector where
  artifacts : Table Artifact String id
  references : Table Reference (String × String × String × String × String) Reference.key
  tombstones : Table Tombstone String Tombstone.id
  locks : Table ArtifactLock String ArtifactLock.artifactId
  now : Int

namespace Collector

variable (s : Collector) (tombstoneId tenantId : String)

def setLifecycle (id : String) (state : LifecycleState) : Collector :=
  { s with
    artifacts := s.artifacts.update id (fun a => { a with lifecycleState := state }) fun _ => rfl }

def setTombstone (id : String) (state : TombstoneState) : Collector :=
  { s with
    tombstones := s.tombstones.update id (fun t => { t with state := state }) fun _ => rfl }

/-- `WHERE id=$1 AND tenant_id=$2 AND lifecycle_state='active'`. -/
def activeArtifact (id tenantId : String) : Option Artifact :=
  (s.artifacts.get? id).filter fun a => a.tenantId == tenantId && a.lifecycleState == .active

/-- A reference of the tenant protects the artifact. -/
def blocked (artifactId tenantId : String) : Bool :=
  s.references.rows.any fun r =>
    r.artifactId == artifactId && r.tenantId == tenantId && r.unexpired s.now

/-- Another collection holds the lock of the artifact. -/
def locked (artifactId tenantId : String) : Bool :=
  (s.locks.get? artifactId).any fun l => !(l.tenantId == tenantId && decide (l.leaseUntil < s.now))

/-- The `CHECK` on `owner_type`. -/
def ownerTypes : List String :=
  ["release", "runtime", "rollback", "composition", "dr_snapshot", "offline_bundle"]

def registerReference (r : Reference) : Collector × Except RepoError Unit :=
  let r := { r with purpose := if r.purpose = "" then "runtime" else r.purpose }
  match s.activeArtifact r.artifactId r.tenantId with
  | none => (s, .error .noRows)
  | some _ =>
    if ownerTypes.contains r.ownerType then ({ s with references := s.references.put r }, .ok ())
    else (s, .error (.other
      "new row violates check constraint \"artifact_references_owner_type_check\""))

def execute (artifactId tenantId tombstoneId operationId : String) (retention : Int) :
    Collector × Except RepoError Tombstone :=
  match s.activeArtifact artifactId tenantId with
  | none => (s, .error .noRows)
  | some a =>
    if s.blocked artifactId tenantId then (s, .error (.other "artifact has protected references"))
    else if s.locked artifactId tenantId then (s, .error .noRows)
    else
      let t : Tombstone :=
        ⟨tombstoneId, tenantId, artifactId, a.digest, operationId, .retained, s.now + retention⟩
      match s.tombstones.insert? t with
      | none => (s, .error (.other
          "duplicate key value violates unique constraint \"artifact_tombstones_pkey\""))
      | some tombstones =>
        let lock : ArtifactLock := ⟨artifactId, tenantId, "gc:" ++ tombstoneId, s.now + retention⟩
        ({ s.setLifecycle artifactId .tombstoned with
          locks := s.locks.put lock, tombstones := tombstones }, .ok t)

/-- `PrepareSweep`. If the artifact is referenced again, the tombstone is cancelled, and the call
    fails all the same. -/
def prepareSweep : Collector × Except RepoError Tombstone :=
  match s.tombstones.get? tombstoneId with
  | none => (s, .error .noRows)
  | some t =>
    if t.tenantId = tenantId ∧ t.state = .retained ∧ t.deleteAfter ≤ s.now then
      if s.blocked t.artifactId t.tenantId then
        ((s.setTombstone tombstoneId .cancelled).setLifecycle t.artifactId .active,
          .error (.other "artifact has protected references"))
      else (s.setTombstone tombstoneId .deleting, .ok t)
    else (s, .error .noRows)

/-- The first statement of `CompleteSweep`: the artifact is the one the tombstone names, whatever its
    tenant. None if no row is affected. -/
def deleteArtifact : Option Collector :=
  match s.tombstones.get? tombstoneId with
  | none => none
  | some t =>
    if t.tenantId = tenantId ∧ t.state = .deleting ∧ (s.artifacts.get? t.artifactId).isSome then
      some (s.setLifecycle t.artifactId .deleted)
    else none

def completeSweep : Collector × Except RepoError Unit :=
  match s.deleteArtifact tombstoneId tenantId with
  | none => (s, .error .noRows)
  | some s' => (s'.setTombstone tombstoneId .deleted, .ok ())

/-- Nothing has been collected yet. -/
def start (artifacts : Table Artifact String id) (now : Int) : Collector :=
  ⟨artifacts, .empty, .empty, .empty, now⟩

end Collector

/-- A call of the repository, or the passage of time. -/
inductive GCCall where
  | registerReference (reference : Reference)
  | execute (artifactId tenantId tombstoneId operationId : String) (retention : Int)
  | prepareSweep (tombstoneId tenantId : String)
  | completeSweep (tombstoneId tenantId : String)
  | wait (time : Nat)

def collector : Machine Collector GCCall Unit where
  step s
    | .registerReference reference => ((s.registerReference reference).1, ())
    | .execute artifactId tenantId tombstoneId operationId retention =>
      ((s.execute artifactId tenantId tombstoneId operationId retention).1, ())
    | .prepareSweep tombstoneId tenantId => ((s.prepareSweep tombstoneId tenantId).1, ())
    | .completeSweep tombstoneId tenantId => ((s.completeSweep tombstoneId tenantId).1, ())
    | .wait time => ({ s with now := s.now + time }, ())

/-! ## The invariant -/

/-- The artifact is marked and has not been deleted yet. -/
def Tombstone.Live (t : Tombstone) : Prop := t.state = .retained ∨ t.state = .deleting

namespace Collector

/-- The states of artifacts, tombstones and references go together. -/
structure Tidy (s : Collector) : Prop where
  named : ∀ i t, s.tombstones.get? i = some t → ∃ a, s.artifacts.get? t.artifactId = some a
    ∧ a.tenantId = t.tenantId ∧ (t.Live → a.lifecycleState = .tombstoned)
    ∧ (t.state = .deleted → a.lifecycleState = .deleted)
  marked : ∀ k a, s.artifacts.get? k = some a → a.lifecycleState = .tombstoned →
    ∃ i t, s.tombstones.get? i = some t ∧ t.artifactId = k ∧ t.Live
  single : ∀ i j t u, s.tombstones.get? i = some t → s.tombstones.get? j = some u → t.Live → u.Live →
    t.artifactId = u.artifactId → i = j
  owned : ∀ r ∈ s.references.rows, ∃ a, s.artifacts.get? r.artifactId = some a
    ∧ a.tenantId = r.tenantId
  safe : ∀ r ∈ s.references.rows, r.unexpired s.now = true → ∀ i t, s.tombstones.get? i = some t →
    t.artifactId = r.artifactId → t.state ≠ .deleting ∧ t.state ≠ .deleted

variable {s s' : Collector} {i tenantId : String} {t : Tombstone}

theorem activeArtifact_eq_some {a : Artifact} (h : s.activeArtifact i tenantId = some a) :
    s.artifacts.get? i = some a ∧ a.tenantId = tenantId ∧ a.lifecycleState = .active := by
  obtain ⟨ha, hactive⟩ := filter_eq_some_iff.1 h
  simp only [Bool.and_eq_true, beq_iff_eq] at hactive
  exact ⟨ha, hactive⟩

theorem get?_setLifecycle (s : Collector) (id : String) (state : LifecycleState) (k : String) :
    (s.setLifecycle id state).artifacts.get? k = if k = id
      then (s.artifacts.get? id).map (fun a => { a with lifecycleState := state })
      else s.artifacts.get? k := by
  rw [setLifecycle, get?_update]

theorem Tidy.registerReference (hs : s.Tidy) (r : Reference) : (s.registerReference r).1.Tidy := by
  unfold Collector.registerReference
  dsimp only
  generalize (if r.purpose = "" then "runtime" else r.purpose) = purpose
  split
  · exact hs
  next a ha =>
  obtain ⟨ha, htenant, hactive⟩ := activeArtifact_eq_some ha
  split
  · refine ⟨hs.named, hs.marked, hs.single, ?_, ?_⟩
    · intro q hq
      rcases (mem_put ..).1 hq with rfl | ⟨-, hq⟩
      · exact ⟨a, ha, htenant⟩
      · exact hs.owned q hq
    intro q hq hunexpired j u hu hartifact
    rcases (mem_put ..).1 hq with rfl | ⟨-, hq⟩
    · -- An artifact that is active has neither a live tombstone nor a deleted one.
      obtain ⟨b, hb, -, hlive, hdeleted⟩ := hs.named j u hu
      simp only [Tombstone.Live] at hlive
      grind
    · exact hs.safe q hq hunexpired j u hu hartifact
  · exact hs

/-- The two outcomes of `Execute`: nothing has changed, or the artifact has a new tombstone. -/
theorem execute_cases {P : Collector → Prop} (artifactId tenantId tombstoneId operationId : String)
    (retention : Int) (hsame : P s)
    (hnew : ∀ a t tombstones locks, s.activeArtifact artifactId tenantId = some a →
      t.artifactId = artifactId ∧ t.tenantId = tenantId ∧ t.state = .retained →
      s.tombstones.insert? t = some tombstones →
      P { s.setLifecycle artifactId .tombstoned with locks := locks, tombstones := tombstones }) :
    P (s.execute artifactId tenantId tombstoneId operationId retention).1 := by
  unfold Collector.execute
  split
  · exact hsame
  next a ha =>
  split_ifs
  · exact hsame
  · exact hsame
  dsimp only
  split
  · exact hsame
  · next tombstones hinsert => exact hnew a _ tombstones _ ha ⟨rfl, rfl, rfl⟩ hinsert

theorem Tidy.execute (hs : s.Tidy) (artifactId tenantId tombstoneId operationId : String)
    (retention : Int) :
    (s.execute artifactId tenantId tombstoneId operationId retention).1.Tidy := by
  refine execute_cases _ _ _ _ _ hs fun a t tombstones locks ha ht hinsert => ?_
  obtain ⟨ha, htenant, hactive⟩ := activeArtifact_eq_some ha
  have hnew := get?_eq_none_of_insert? hinsert
  have hget := get?_insert? hinsert
  have hartifacts := s.get?_setLifecycle artifactId .tombstoned
  obtain ⟨named, marked, single, owned, safe⟩ := hs
  simp only [Tombstone.Live] at named marked single
  simp only [setLifecycle] at hartifacts ⊢
  constructor
  · intro j u hu
    simp only [Tombstone.Live]
    grind
  · intro k b hb htomb
    simp only [Tombstone.Live]
    grind
  · intro j l u v hu hv
    simp only [Tombstone.Live]
    grind
  · intro r hr
    grind
  · intro r hr hunexpired j u
    grind

/-- A live tombstone goes on, and its artifact with it. -/
theorem Tidy.settle {state : TombstoneState} {lifecycle : LifecycleState} (hs : s.Tidy)
    (ht : s.tombstones.get? i = some t) (hlive : t.Live)
    (hstates : (state, lifecycle) = (.deleting, .tombstoned)
      ∨ (state, lifecycle) = (.cancelled, .active) ∨ (state, lifecycle) = (.deleted, .deleted))
    (hfree : state ≠ .cancelled → ∀ r ∈ s.references.rows, r.unexpired s.now = true →
      r.artifactId ≠ t.artifactId)
    (hartifacts : ∀ k, s'.artifacts.get? k = if k = t.artifactId
      then (s.artifacts.get? t.artifactId).map (fun a => { a with lifecycleState := lifecycle })
      else s.artifacts.get? k)
    (htombstones : s'.tombstones = (s.setTombstone i state).tombstones)
    (hreferences : s'.references = s.references) (hnow : s'.now = s.now) : s'.Tidy := by
  have hget (j : String) : s'.tombstones.get? j = if j = i
      then (s.tombstones.get? i).map (fun t => { t with state := state })
      else s.tombstones.get? j := by
    rw [htombstones, setTombstone, get?_update]
  obtain ⟨named, marked, single, owned, safe⟩ := hs
  simp only [Tombstone.Live, Prod.mk.injEq] at *
  constructor
  · intro j u hu
    simp only [Tombstone.Live]
    grind
  · intro k a ha htomb
    simp only [Tombstone.Live]
    grind
  · intro j l u v hu hv
    simp only [Tombstone.Live]
    grind
  · intro r hr
    grind
  · intro r hr hunexpired j u
    grind

/-- Nobody refers to what no reference blocks. -/
theorem Tidy.ne_of_not_blocked (hs : s.Tidy) (ht : s.tombstones.get? i = some t)
    (hfree : ¬ s.blocked t.artifactId t.tenantId = true) :
    ∀ r ∈ s.references.rows, r.unexpired s.now = true → r.artifactId ≠ t.artifactId := by
  intro r hr hunexpired heq
  obtain ⟨a, ha, htenant, -⟩ := hs.named i t ht
  obtain ⟨b, hb, htenant'⟩ := hs.owned r hr
  simp only [blocked, List.any_eq_true, not_exists] at hfree
  have hne := hfree r
  grind

theorem Tidy.prepareSweep (hs : s.Tidy) (i tenantId : String) : (s.prepareSweep i tenantId).1.Tidy := by
  unfold Collector.prepareSweep
  split
  · exact hs
  next t ht =>
  split_ifs with hdue hblocked
  · exact hs.settle ht (.inl hdue.2.1) (.inr (.inl rfl)) (fun h => absurd rfl h)
      (get?_setLifecycle _ _ _) rfl rfl rfl
  · refine hs.settle ht (.inl hdue.2.1) (.inl rfl) (fun _ => hs.ne_of_not_blocked ht hblocked) ?_ rfl
      rfl rfl
    -- The artifact is marked already.
    obtain ⟨a, ha, -, hlive, -⟩ := hs.named i t ht
    have htombstoned := hlive (.inl hdue.2.1)
    intro k
    split
    · next hk => simp only [hk, ha, map_some, ← htombstoned, setTombstone]
    · rfl
  · exact hs

theorem Tidy.completeSweep (hs : s.Tidy) (i tenantId : String) :
    (s.completeSweep i tenantId).1.Tidy := by
  unfold Collector.completeSweep deleteArtifact
  rcases ht : s.tombstones.get? i with _ | t
  · exact hs
  dsimp only
  split_ifs with hdeleting
  · exact hs.settle ht (.inr hdeleting.2.1) (.inr (.inr rfl))
      (fun _ r hr hunexpired heq => (hs.safe r hr hunexpired i t ht heq.symm).1 hdeleting.2.1)
      (get?_setLifecycle _ _ _) rfl rfl rfl
  · exact hs

theorem Tidy.next (hs : s.Tidy) (call : GCCall) : (collector.next s call).Tidy := by
  cases call with
  | registerReference r => exact hs.registerReference r
  | execute => exact hs.execute _ _ _ _ _
  | prepareSweep => exact hs.prepareSweep _ _
  | completeSweep => exact hs.completeSweep _ _
  | wait time =>
    refine ⟨hs.named, hs.marked, hs.single, hs.owned, fun r hr hunexpired => hs.safe r hr ?_⟩
    -- What has not expired later has not expired now.
    simp only [Reference.unexpired, all_eq_true, decide_eq_true_eq] at hunexpired ⊢
    intro expiry hexpiry
    have hlater : s.now + time < expiry := hunexpired expiry hexpiry
    omega

theorem tidy_run {artifacts : Table Artifact String id}
    (hactive : ∀ a ∈ artifacts.rows, a.lifecycleState = .active) (now : Int) (calls : List GCCall) :
    (collector.run (start artifacts now) calls).Tidy := by
  refine collector.run_induction (fun s call hs => hs.next call) ⟨?_, ?_, ?_, ?_, ?_⟩ calls
  · intro i t ht
    exact absurd (mem_of_get? ht) (by simp [start])
  · intro k a ha htomb
    rw [hactive a (mem_of_get? ha)] at htomb
    simp at htomb
  · intro i j t u ht
    exact absurd (mem_of_get? ht) (by simp [start])
  · intro r hr
    simp [start] at hr
  · intro r hr
    simp [start] at hr

/-- Whatever is called and whenever: what an unexpired reference protects is not swept, an artifact has
    at most one live tombstone, and it is tombstoned exactly while it has one. -/
theorem run_collects_soundly {artifacts : Table Artifact String id}
    (hactive : ∀ a ∈ artifacts.rows, a.lifecycleState = .active) (now : Int) (calls : List GCCall) :
    ∀ s, s = collector.run (start artifacts now) calls →
      (∀ r ∈ s.references.rows, r.unexpired s.now = true → ∀ t ∈ s.tombstones.rows,
        t.artifactId = r.artifactId → t.state ≠ .deleting ∧ t.state ≠ .deleted)
      ∧ (∀ t ∈ s.tombstones.rows, ∀ u ∈ s.tombstones.rows, t.Live → u.Live →
        t.artifactId = u.artifactId → t = u)
      ∧ ∀ a ∈ s.artifacts.rows, a.lifecycleState = .tombstoned ↔
        ∃ t ∈ s.tombstones.rows, t.artifactId = a.id ∧ t.Live := by
  rintro s rfl
  have hs := tidy_run hactive now calls
  refine ⟨fun r hr hunexpired t ht => hs.safe r hr hunexpired _ t (get?_of_mem ht), ?_, ?_⟩
  · intro t ht u hu hlive hlive' heq
    exact eq_of_key_eq _ ht hu
      (hs.single _ _ t u (get?_of_mem ht) (get?_of_mem hu) hlive hlive' heq)
  intro a ha
  constructor
  · intro htomb
    obtain ⟨i, t, ht, hartifact, hlive⟩ := hs.marked _ a (get?_of_mem ha) htomb
    exact ⟨t, mem_of_get? ht, hartifact, hlive⟩
  rintro ⟨t, ht, hartifact, hlive⟩
  obtain ⟨b, hb, -, htombstoned, -⟩ := hs.named _ t (get?_of_mem ht)
  rw [hartifact, get?_of_mem ha] at hb
  cases hb
  exact htombstoned hlive

/-! ## Sweeps that stop -/

/-- Where a sweeper stops: before it begins, after `PrepareSweep` (the content may be deleted by
    then), between the two statements of `CompleteSweep`, or never. -/
inductive Stop where
  | before
  | prepared
  | artifactDeleted
  | never
deriving DecidableEq, Repr

/-- A sweep after `PrepareSweep`: the deletion of the content, and `CompleteSweep`. -/
def finish (s : Collector) (tombstoneId tenantId : String) (stop : Stop) : Collector :=
  match s.deleteArtifact tombstoneId tenantId with
  | none => s
  | some s' =>
    if stop = .never then s'.setTombstone tombstoneId .deleted
    else if stop = .artifactDeleted then s' else s

def sweep (s : Collector) (tombstoneId tenantId : String) (stop : Stop) : Collector :=
  if stop = .before then s
  else match s.prepareSweep tombstoneId tenantId with
  | (s', .error _) => s'
  | (s', .ok _) => s'.finish tombstoneId tenantId stop

end Collector

/-- What happens around the sweepers: only they call `CompleteSweep`. -/
inductive SweepEvent where
  | sweep (tombstoneId tenantId : String) (stop : Collector.Stop)
  | registerReference (reference : Reference)
  | execute (artifactId tenantId tombstoneId operationId : String) (retention : Int)
  | wait (time : Nat)

def sweeper : Machine Collector SweepEvent Unit where
  step s
    | .sweep tombstoneId tenantId stop => (s.sweep tombstoneId tenantId stop, ())
    | .registerReference reference => ((s.registerReference reference).1, ())
    | .execute artifactId tenantId tombstoneId operationId retention =>
      ((s.execute artifactId tenantId tombstoneId operationId retention).1, ())
    | .wait time => ({ s with now := s.now + time }, ())

namespace Collector

variable {s s' : Collector} {i j tenantId : String} {t : Tombstone}

def stateOf (s : Collector) (i : String) : Option TombstoneState :=
  (s.tombstones.get? i).map Tombstone.state

theorem stateOf_setTombstone (s : Collector) (j : String) (state : TombstoneState) (i : String) :
    (s.setTombstone j state).stateOf i
      = if i = j then (s.stateOf j).map (fun _ => state) else s.stateOf i := by
  rw [stateOf, setTombstone, get?_update]
  split
  · simp [stateOf, map_map, Function.comp_def]
  · rfl

/-- `PrepareSweep` refuses a tombstone that is being deleted, and changes no other one. -/
theorem deleting_prepareSweep (hs : s.stateOf i = some .deleting) (j tenantId : String) :
    (s.prepareSweep j tenantId).1.stateOf i = some .deleting
      ∧ (i = j → (s.prepareSweep j tenantId).2 = .error .noRows) := by
  unfold prepareSweep
  split
  · exact ⟨hs, fun _ => rfl⟩
  next t ht =>
  split_ifs with hdue
  all_goals try exact ⟨hs, fun _ => rfl⟩
  all_goals
    have hne : i ≠ j := by
      rintro rfl
      rw [stateOf, ht] at hs
      exact absurd (hdue.2.1.symm.trans (Option.some.inj hs)) (by simp)
    refine ⟨(stateOf_setTombstone s j _ i).trans ?_, fun h => absurd h hne⟩
    rw [if_neg hne, hs]

theorem stateOf_deleteArtifact (h : s.deleteArtifact j tenantId = some s') :
    s'.stateOf i = s.stateOf i := by
  unfold deleteArtifact at h
  split at h
  · simp at h
  · split_ifs at h
    cases h
    rfl

theorem deleting_sweep (hs : s.stateOf i = some .deleting) (stop : Stop) :
    (s.sweep j tenantId stop).stateOf i = some .deleting := by
  obtain ⟨hprepared, hrefused⟩ := deleting_prepareSweep hs j tenantId
  unfold sweep
  split
  · exact hs
  split
  · next s₁ err h => rwa [h] at hprepared
  next s₁ t h =>
  rw [h] at hprepared hrefused
  have hne : i ≠ j := fun heq => absurd (hrefused heq) (by simp)
  unfold finish
  split
  · exact hprepared
  next s₂ hdelete =>
  split_ifs
  · rwa [stateOf_setTombstone, if_neg hne, stateOf_deleteArtifact hdelete]
  · rwa [stateOf_deleteArtifact hdelete]
  · exact hprepared

/-- A tombstone that is being deleted stays so. -/
theorem deleting_next (hs : s.stateOf i = some .deleting) (event : SweepEvent) :
    (sweeper.next s event).stateOf i = some .deleting := by
  cases event with
  | sweep => exact deleting_sweep hs _
  | registerReference r =>
    show (s.registerReference r).1.stateOf i = _
    unfold registerReference
    dsimp only
    split
    · exact hs
    · split <;> exact hs
  | execute =>
    refine execute_cases (P := fun s => s.stateOf i = _) _ _ _ _ _ hs
      fun a t tombstones locks _ _ hinsert => ?_
    have hnew := get?_eq_none_of_insert? hinsert
    have hget := get?_insert? hinsert i
    simp only [stateOf] at hs ⊢
    grind
  | wait => exact hs

/-- A tombstone that is due and that no reference blocks is prepared. -/
theorem stateOf_sweep (hs : s.Tidy) (ht : s.tombstones.get? i = some t)
    (hretained : t.state = .retained) (hdue : t.deleteAfter ≤ s.now)
    (hfree : s.blocked t.artifactId t.tenantId = false) (stop : Stop) :
    (s.sweep i t.tenantId stop).stateOf i = some (if stop = .before then .retained
      else if stop = .never then .deleted else .deleting) := by
  have hprepared : (s.setTombstone i .deleting).stateOf i = some .deleting := by
    rw [stateOf_setTombstone, if_pos rfl, stateOf, ht]
    rfl
  obtain ⟨a, ha, -⟩ := hs.named i t ht
  have hdelete : (s.setTombstone i .deleting).deleteArtifact i t.tenantId
      = some ((s.setTombstone i .deleting).setLifecycle t.artifactId .deleted) := by
    have hget := s.tombstones.get?_update_self i (fun t => { t with state := .deleting })
      (fun _ => rfl) ht
    simp [deleteArtifact, setTombstone, hget, ha]
  have hprepare : s.prepareSweep i t.tenantId = (s.setTombstone i .deleting, .ok t) := by
    simp [prepareSweep, ht, hretained, hdue, hfree]
  unfold sweep
  rw [hprepare]
  dsimp only [finish]
  rw [hdelete]
  split_ifs with hbefore hnever
  · rw [stateOf, ht, map_some, hretained]
  · rw [stateOf_setTombstone, if_pos rfl, stateOf_deleteArtifact hdelete, hprepared]
    rfl
  · rw [stateOf_deleteArtifact hdelete, hprepared]
  · exact hprepared

/-- A sweep that stops once it has prepared its tombstone can never be taken up again; only one that
    has not begun, or has come to its end, is followed by the deletion. -/
theorem sweep_resumes_iff {artifacts : Table Artifact String id}
    (hactive : ∀ a ∈ artifacts.rows, a.lifecycleState = .active) (now : Int) (calls : List GCCall)
    (hs : s = collector.run (start artifacts now) calls) (ht : s.tombstones.get? i = some t)
    (hretained : t.state = .retained) (hdue : t.deleteAfter ≤ s.now)
    (hfree : s.blocked t.artifactId t.tenantId = false) (stop : Stop) :
    (∃ events, (sweeper.run (s.sweep i t.tenantId stop) events).stateOf i = some .deleted)
      ↔ stop = .before ∨ stop = .never := by
  have hstate := stateOf_sweep (hs ▸ tidy_run hactive now calls) ht hretained hdue hfree
  constructor
  · rintro ⟨events, hdeleted⟩
    by_contra hstop
    obtain ⟨hbefore, hnever⟩ := not_or.1 hstop
    have hstuck := sweeper.run_induction (P := fun s => s.stateOf i = some .deleting)
      (fun s event hs => deleting_next hs event)
      ((hstate stop).trans (by rw [if_neg hbefore, if_neg hnever])) events
    rw [hstuck] at hdeleted
    simp at hdeleted
  · rintro (rfl | rfl)
    · exact ⟨[.sweep i t.tenantId .never], hstate .never⟩
    · exact ⟨[], hstate .never⟩

/-! ## Two artifacts -/

def sampleArtifacts : Table Artifact String id :=
  ⟨[⟨"a1", "t1", "sha256:00", .verified, .active⟩, ⟨"a2", "t1", "sha256:01", .verified, .active⟩],
    by decide⟩

/-- The reference to one artifact expires before it is marked, the other is referred to until later. -/
def sampleCalls : List GCCall :=
  [.registerReference ⟨"t1", "a1", "release", "r1", "", some 5⟩,
    .registerReference ⟨"t1", "a2", "release", "r1", "", some 50⟩, .wait 10,
    .execute "a1" "t1" "g1" "" 20, .execute "a2" "t1" "g2" "" 20, .wait 20]

def sampleMarked : Collector := collector.run (start sampleArtifacts 0) sampleCalls

theorem sample_collects_soundly :
    (∃ r ∈ sampleMarked.references.rows, r.unexpired sampleMarked.now = true
        ∧ ∀ t ∈ sampleMarked.tombstones.rows, t.artifactId = r.artifactId →
          t.state ≠ .deleting ∧ t.state ≠ .deleted)
      ∧ sampleMarked.tombstones.rows ≠ [] ∧ ∀ a ∈ sampleMarked.artifacts.rows,
        a.lifecycleState = .tombstoned ↔
          ∃ t ∈ sampleMarked.tombstones.rows, t.artifactId = a.id ∧ t.Live := by
  have h := run_collects_soundly (by decide) 0 sampleCalls sampleMarked rfl
  obtain ⟨r, hr, hunexpired⟩ : ∃ r ∈ sampleMarked.references.rows,
    r.unexpired sampleMarked.now = true := by decide +kernel
  exact ⟨⟨r, hr, hunexpired, h.1 r hr hunexpired⟩, by decide +kernel, h.2.2⟩

theorem sample_sweep_resumes :
    ∃ events, (sweeper.run (sampleMarked.sweep "g1" "t1" .never) events).stateOf "g1" = some .deleted :=
  (sweep_resumes_iff (i := "g1") (t := ⟨"g1", "t1", "a1", "sha256:00", "", .retained, 30⟩) (by decide)
    0 sampleCalls rfl rfl rfl (by decide +kernel) (by decide +kernel) .never).2 (.inr rfl)

/-- The sweeper stops after `PrepareSweep`: whatever is tried later, the tombstone is not deleted. -/
theorem sample_sweep_stuck : ¬ ∃ events, (sweeper.run (sampleMarked.sweep "g1" "t1" .prepared)
    events).stateOf "g1" = some .deleted := by
  rintro ⟨events, hdeleted⟩
  have hstuck := sweeper.run_induction (P := fun s => s.stateOf "g1" = some .deleting)
    (fun _ event hs => deleting_next hs event)
    (by decide +kernel : (sampleMarked.sweep "g1" "t1" .prepared).stateOf "g1" = _) events
  simp [hdeleted] at hstuck

end Collector

end HnbCloud.Market
