import HnbCloud.Market.Releases

set_option autoImplicit false

/-! # A published release

A release that is published is not to change any more. `Publish` itself takes only a draft, and the
handlers of `PATCH` and `DELETE` go on only if they have read a draft; but their writes do not look at
the status again. A release that is published between the two is overwritten, made a draft again or
deleted. It is safe as long as a publication takes effect only while nobody is about to write what
it has read. -/

namespace HnbCloud.Market

open List Table Pool Release

variable {s : MarketState} {id tenantId : String} {op : MarketOp} {rel : Release}

/-! ## What an operation does to the releases -/

theorem get_ok {r : Release} (h : s.get id tenantId = .ok r) : s.releases.get? id = some r := by
  unfold MarketState.get at h
  split at h
  · simp at h
  next r' hr' =>
  split_ifs at h
  rw [hr', Except.ok.inj h]

theorem insertReleaseArtifacts_ok {artifacts : List Artifact} {releaseId : String}
    {refs : List ArtifactRef} {rows rows' : List ReleaseArtifact}
    (h : insertReleaseArtifacts artifacts releaseId tenantId refs rows = .ok rows') {k : String}
    (hk : k ≠ releaseId) :
    rows'.filter (fun ra => ra.releaseId == k) = rows.filter (fun ra => ra.releaseId == k) := by
  unfold insertReleaseArtifacts at h
  generalize refs.zipIdx = numbered at h
  induction numbered generalizing rows with
  | nil =>
    cases h
    rfl
  | cons ref _ ih =>
    obtain ⟨rows₁, hinsert, h⟩ := except_bind_eq_ok h
    rw [ih h]
    unfold insertReleaseArtifact at hinsert
    dsimp only at hinsert
    generalize (if ref.1.purpose = "" then "runtime" else ref.1.purpose) = purpose at hinsert
    split_ifs at hinsert
    cases hinsert
    rw [filter_append, append_right_eq_self, filter_eq_nil_iff]
    intro ra hra
    obtain ⟨a, -, rfl⟩ := mem_map.1 hra
    simpa using Ne.symm hk

theorem filter_other_release (s : MarketState) {k : String} (hk : k ≠ id) :
    (s.releaseArtifacts.filter fun ra => ra.releaseId != id).filter (fun ra => ra.releaseId == k)
      = s.artifactsOf k := by
  rw [filter_filter]
  refine filter_congr ?_
  intro ra _
  by_cases hra : ra.releaseId = k
  · simp [hra, hk]
  · simp [hra]

/-- What an operation does to the releases and their artifacts. -/
inductive Does (s : MarketState) : MarketOp → MarketState → Prop where
  | nothing (op : MarketOp) : Does s op s
  | created {s' : MarketState} (rel : Release) (tenantId : String) (row : Release)
      (new : s.releases.get? rel.id = none) (status : row.status = rel.status)
      (lookup : ∀ k, s'.releases.get? k = if k = rel.id then some row else s.releases.get? k)
      (artifacts : ∀ k ≠ rel.id, s'.artifactsOf k = s.artifactsOf k) :
      Does s (.create rel tenantId) s'
  | updated {s' : MarketState} (rel : Release) (tenantId : String) (written : Release)
      (status : written.status = rel.status)
      (lookup : ∀ k, s'.releases.get? k = if k = rel.id
        then (s.releases.get? rel.id).map (fun r => r.overwrite written) else s.releases.get? k)
      (artifacts : ∀ k ≠ rel.id, s'.artifactsOf k = s.artifactsOf k) :
      Does s (.update rel tenantId) s'
  | deleted {s' : MarketState} (id tenantId : String)
      (lookup : ∀ k, s'.releases.get? k = if k = id then none else s.releases.get? k)
      (artifacts : ∀ k ≠ id, s'.artifactsOf k = s.artifactsOf k) :
      Does s (.delete id tenantId) s'
  | published {s' : MarketState} (id tenantId : String) (now : Int) (row : Release)
      (stored : s.releases.get? id = some row) (draft : row.status = .draft)
      (lookup : ∀ k, s'.releases.get? k = if k = id
        then some (row.publish now) else s.releases.get? k)
      (artifacts : ∀ k, s'.artifactsOf k = s.artifactsOf k) :
      Does s (.publish id tenantId) s'

theorem does_settle {α : Type} (result : Except RepoError (MarketState × α)) (fate : Fate)
    (h : ∀ s' a, result = .ok (s', a) → Does s op s') : Does s op (settle s result fate).1 := by
  rcases result with err | ⟨s', a⟩
  · cases fate <;> exact .nothing op
  cases fate with
  | failed => exact .nothing op
  | served | lost => exact h s' a rfl

section Effects

variable {digest : Json → String} {s s' : MarketState}

theorem does_create {now : Int} {answer : Release}
    (h : s.create digest now rel tenantId = .ok (s', answer)) :
    Does s (.create rel tenantId) s' := by
  obtain ⟨refs, -, h⟩ := except_bind_eq_ok h
  dsimp only at h
  split at h
  · cases h
  split at h
  · cases h
  split at h
  · cases h
  next releases hinsert =>
  obtain ⟨rows, hrows, h⟩ := except_bind_eq_ok h
  cases h
  have hnew := get?_eq_none_of_insert? hinsert
  refine .created rel tenantId _ hnew ?_ (fun k => get?_insert? hinsert k)
    fun k hk => insertReleaseArtifacts_ok hrows hk
  rfl

theorem does_update {answer : Release}
    (h : s.update digest rel tenantId = .ok (s', answer)) : Does s (.update rel tenantId) s' := by
  obtain ⟨refs, -, h⟩ := except_bind_eq_ok h
  obtain ⟨stored, -, h⟩ := except_bind_eq_ok h
  split at h
  · cases h
  obtain ⟨rows, hrows, h⟩ := except_bind_eq_ok h
  cases h
  refine .updated rel tenantId _ ?_ (fun k => get?_update _ _ _ (id_overwrite _) k) ?_
  · rfl
  intro k hk
  exact (insertReleaseArtifacts_ok hrows hk).trans (filter_other_release s hk)

theorem does_delete {answer : Unit}
    (h : s.delete id tenantId = .ok (s', answer)) : Does s (.delete id tenantId) s' := by
  obtain ⟨_, -, h⟩ := except_bind_eq_ok h
  cases h
  exact .deleted id tenantId (fun k => s.releases.get?_deleteWhere_key id k)
    fun k hk => filter_other_release s hk

theorem does_publish {now : Int} {answer : Unit}
    (h : s.publish now id tenantId = .ok (s', answer)) : Does s (.publish id tenantId) s' := by
  unfold MarketState.publish at h
  split at h
  · simp at h
  next row hrow =>
  split_ifs at h with hpublishable
  cases h
  have hdraft : row.status = .draft := by
    simp only [MarketState.isPublishable, Bool.and_eq_true, decide_eq_true_eq] at hpublishable
    exact hpublishable.1.1.1.1
  refine .published id tenantId now row hrow hdraft (fun k => ?_) fun k => rfl
  show (s.releases.update id (publish now) (id_publish now)).get? k = _
  rw [get?_update, hrow, Option.map_some]

variable (digest s)

theorem does_perform (op : MarketOp) (n : MarketChance) :
    Does s op ((repo digest).perform s op n).1 := by
  cases op with
  | newUuid | get => exact .nothing _
  | create => exact does_settle _ n.fate fun s' a h => does_create h
  | update => exact does_settle _ n.fate fun s' a h => does_update h
  | delete => exact does_settle _ n.fate fun s' a h => does_delete h
  | publish => exact does_settle _ n.fate fun s' a h => does_publish h

end Effects

/-! ## What stays, and what may be written -/

/-- The release is there and published. -/
def MarketState.isPublished (s : MarketState) (id : String) : Bool :=
  (s.releases.get? id).any fun r => r.status = .published

open MarketState

/-- A release and its artifacts are as they were. -/
structure Frozen (s s' : MarketState) (id : String) : Prop where
  release : s'.releases.get? id = s.releases.get? id
  artifacts : s'.artifactsOf id = s.artifactsOf id

theorem Frozen.refl (s : MarketState) (id : String) : Frozen s s id := ⟨rfl, rfl⟩

theorem Frozen.trans {s₁ s₂ s₃ : MarketState} (h : Frozen s₁ s₂ id)
    (h' : Frozen s₂ s₃ id) : Frozen s₁ s₃ id :=
  ⟨h'.release.trans h.release, h'.artifacts.trans h.artifacts⟩

/-- What an operation writes over or deletes. -/
def MarketOp.overwrites : MarketOp → Option String
  | .update rel _ => some rel.id
  | .delete id _ => some id
  | _ => none

open MarketOp

/-- The status an operation gives a release without looking at the one it has. -/
def MarketOp.status? : MarketOp → Option ReleaseStatus
  | .create rel _ => some rel.status
  | .update rel _ => some rel.status
  | _ => none

/-- What a handler may perform: it publishes nothing by the way, and it writes over nothing that is
    published. -/
structure Permitted (s : MarketState) (op : MarketOp) : Prop where
  status : op.status? ≠ some .published
  unpublished : ∀ id, op.overwrites = some id → s.isPublished id = false

section Steps

variable {s s' : MarketState} {op : MarketOp}

theorem Does.frozen (h : Does s op s') (hop : Permitted s op)
    (hid : s.isPublished id = true) : Frozen s s' id := by
  obtain ⟨row, hrow, hstatus⟩ : ∃ row, s.releases.get? id = some row ∧ row.status = .published := by
    simpa [isPublished, Option.any_eq_true] using hid
  cases h with
  | nothing => exact .refl s id
  | created rel _ _ new _ lookup artifacts =>
    -- The id of a new release is not taken.
    have hne : id ≠ rel.id := by
      rintro rfl
      exact absurd (hrow.symm.trans new) (by simp)
    exact ⟨by rw [lookup, if_neg hne], artifacts id hne⟩
  | updated rel _ _ _ lookup artifacts =>
    have hne : id ≠ rel.id := by
      rintro rfl
      exact absurd (hop.unpublished rel.id rfl) (by simp [hid])
    exact ⟨by rw [lookup, if_neg hne], artifacts id hne⟩
  | deleted id' _ lookup artifacts =>
    have hne : id ≠ id' := by
      rintro rfl
      exact absurd (hop.unpublished id rfl) (by simp [hid])
    exact ⟨by rw [lookup, if_neg hne], artifacts id hne⟩
  | published id' _ _ row' stored draft lookup artifacts =>
    have hne : id ≠ id' := by
      rintro rfl
      obtain rfl : row = row' := Option.some.inj (hrow.symm.trans stored)
      exact absurd (hstatus.symm.trans draft) (by simp)
    exact ⟨by rw [lookup, if_neg hne], artifacts id⟩

theorem Does.unpublished (h : Does s op s') (hop : Permitted s op)
    (hpublish : ∀ tenantId, op ≠ .publish id tenantId) (hid : s.isPublished id = false) :
    s'.isPublished id = false := by
  cases h with
  | nothing => exact hid
  | created rel _ _ _ status lookup =>
    unfold isPublished at hid ⊢
    rw [lookup]
    split_ifs
    · have hne : rel.status ≠ .published := fun h => hop.status (congrArg some h)
      simpa [status] using hne
    · exact hid
  | updated rel _ _ status lookup =>
    unfold isPublished at hid ⊢
    rw [lookup]
    split_ifs
    · have hne : rel.status ≠ .published := fun h => hop.status (congrArg some h)
      rcases s.releases.get? rel.id with _ | r
      · rfl
      · simpa [overwrite, status] using hne
    · exact hid
  | deleted _ _ lookup =>
    unfold isPublished at hid ⊢
    rw [lookup]
    split_ifs
    · rfl
    · exact hid
  | published id' tenantId _ _ _ _ lookup =>
    have hne : id ≠ id' := by
      rintro rfl
      exact hpublish tenantId rfl
    unfold isPublished at hid ⊢
    rw [lookup, if_neg hne]
    exact hid

end Steps

/-! ## The handlers -/

theorem permitted_of_reads (hstatus : op.status? = none)
    (hoverwrites : op.overwrites = none) : Permitted s op :=
  ⟨by simp [hstatus], by simp [hoverwrites]⟩

theorem get_draft {digest : Json → String} {n : MarketChance}
    (h : ((repo digest).perform s (.get id tenantId) n).2 = .ok rel) (hdraft : rel.status = .draft) :
    s.isPublished id = false := by
  have hget : s.get id tenantId = .ok rel := by
    obtain ⟨fate, now, uuid⟩ := n
    cases fate with
    | served => exact h
    | failed text | lost text => simp [repo, answer] at h
  rw [isPublished, get_ok hget]
  simp [hdraft]

theorem renews_readDraft (digest : Json → String) (caller : Caller) (id : String)
    {next : Release → MarketProgram}
    (hallowed : ∀ s rel, s.isPublished id = false → Pool.Allowed Permitted (next rel) s)
    (hrenews : ∀ rel, Pool.Renews (repo digest) Permitted (next rel)) :
    Pool.Renews (repo digest) Permitted (readDraft caller id next) := by
  intro s n _
  rcases hreply : ((repo digest).perform s (.get id caller.tenantId) n).2 with err | rel
  · exact ⟨trivial, trivial⟩
  dsimp only
  split_ifs with hdraft
  · exact ⟨trivial, trivial⟩
  · exact ⟨hallowed s rel (get_draft hreply (not_not.1 hdraft)), hrenews rel⟩

/-- The last operation of a program needs no permission for what follows. -/
theorem renews_last (digest : Json → String) {next : op.Reply → MarketProgram}
    (h : ∀ reply, ∃ response, next reply = .done response) :
    Pool.Renews (repo digest) Permitted (.call op next) := by
  intro s n _
  obtain ⟨response, hresponse⟩ := h ((repo digest).perform s op n).2
  rw [hresponse]
  exact ⟨trivial, trivial⟩

/-- Every handler has the permission for what it performs, from the read before it. -/
theorem renews_program (digest : Json → String) (request : MarketRequest) :
    Pool.Renews (repo digest) Permitted request.program := by
  cases request with
  | create _ _ body =>
    cases body with
    | none => trivial
    | some rel =>
      intro s n _
      refine ⟨⟨by simp [status?], by simp [overwrites]⟩, renews_last digest ?_⟩
      rintro (err | rel)
      · exact ⟨_, rfl⟩
      · exact ⟨_, rfl⟩
  | patch caller id body =>
    refine renews_readDraft digest caller id ?_ ?_
    · intro s rel hid
      rcases body rel with _ | rel
      · trivial
      refine ⟨by simp [status?], ?_⟩
      intro id' hid'
      obtain rfl : id = id' := by simpa [overwrites] using hid'
      exact hid
    · intro rel
      rcases body rel with _ | rel
      · trivial
      refine renews_last digest ?_
      rintro (err | rel)
      · exact ⟨_, rfl⟩
      · exact ⟨_, rfl⟩
  | delete caller id =>
    refine renews_readDraft digest caller id ?_ ?_
    · intro s rel hid
      refine ⟨by simp [status?], ?_⟩
      intro id' hid'
      obtain rfl : id = id' := by simpa [overwrites] using hid'
      exact hid
    · intro rel
      refine renews_last digest ?_
      rintro (err | ⟨⟩)
      · exact ⟨_, rfl⟩
      · exact ⟨_, rfl⟩
  | publish =>
    refine renews_last digest ?_
    rintro (err | ⟨⟩)
    · exact ⟨_, rfl⟩
    · exact ⟨_, rfl⟩

theorem allowed_program (request : MarketRequest) (s : MarketState) :
    Pool.Allowed Permitted request.program s := by
  cases request with
  | create _ _ body =>
    cases body with
    | none => trivial
    | some => exact permitted_of_reads rfl rfl
  | _ => exact permitted_of_reads rfl rfl

/-! ## Publications and writes under way -/

/-- The release a member is about to write over or delete. -/
def writing (m : Pool.Member MarketRequest MarketOp MarketOp.Reply Response) : Option String :=
  match m.program with
  | .call op _ => op.overwrites
  | .done _ => none

/-- If the event is a publication, nobody is about to write over the release. -/
def undisturbed (w : MarketPool) : MarketEvent → Bool
  | .perform i _ =>
    match w.pending i with
    | some (_, .publish id _) => w.members.all fun m => writing m != some id
    | _ => true
  | _ => true

section Runs

variable {digest : Json → String} {w : MarketPool} {e : MarketEvent}

theorem spares_of_undisturbed (hw : Pool.Sound (repo digest) Permitted w)
    (h : undisturbed w e = true) :
    Pool.Spares (repo digest) MarketRequest.program changeArtifacts Permitted w e := by
  rintro j ⟨request, _ | ⟨op, rest⟩⟩ hj _ hallowed
  · trivial
  refine ⟨hallowed.status, ?_⟩
  intro id hid
  have hunpublished := hallowed.unpublished id hid
  show (w.next (repo digest) MarketRequest.program changeArtifacts e).state.isPublished id = false
  rcases w.next_state_cases e with hsame | ⟨request', op', n, hperforms, hstate⟩
    | ⟨artifacts, -, hstate⟩
  · rw [hsame]
    exact hunpublished
  · have hdoes := does_perform digest w.state op' n
    rw [← hstate] at hdoes
    refine hdoes.unpublished (hw.permitted hperforms) ?_ hunpublished
    rintro tenantId rfl
    -- A publication of this release would find the member about to write.
    cases hperforms with
    | intro hi =>
      simp only [undisturbed, pending, hi, all_eq_true] at h
      have hne : writing ⟨request, .call op rest⟩ ≠ some id := by
        simpa using h _ (mem_of_getElem? hj)
      exact hne hid
  · rw [hstate]
    exact hunpublished

/-- Every undisturbed step keeps the permissions, and leaves what is published. -/
theorem sound_next (hw : Pool.Sound (repo digest) Permitted w) (h : undisturbed w e = true) :
    Pool.Sound (repo digest) Permitted ((market digest).next w e) :=
  hw.next (fun request s => allowed_program request s) (renews_program digest)
    (spares_of_undisturbed hw h)

theorem frozen_next (hw : Pool.Sound (repo digest) Permitted w)
    (hid : w.state.isPublished id = true) :
    Frozen w.state ((market digest).next w e).state id := by
  show Frozen w.state (w.next (repo digest) MarketRequest.program changeArtifacts e).state id
  rcases w.next_state_cases e with hsame | ⟨request, op, n, hperforms, hstate⟩
    | ⟨artifacts, -, hstate⟩
  · rw [hsame]
    exact .refl _ id
  · rw [hstate]
    exact (does_perform digest w.state op n).frozen (hw.permitted hperforms) hid
  · rw [hstate]
    exact ⟨rfl, rfl⟩

/-- In every run in which a publication takes effect only while no `PATCH` or `DELETE` that has read
    the release is still to write it, a release that is published stays as it is, with its artifacts,
    to the end of the run. -/
theorem published_stays (digest : Json → String) (s : MarketState) (before after : List MarketEvent)
    (h : ∀ x ∈ (market digest).trace (idle s) (before ++ after),
      undisturbed x.pre x.call = true) (id : String)
    (hid : ((market digest).run (idle s) before).state.isPublished id = true) :
    Frozen ((market digest).run (idle s) before).state
      ((market digest).run (idle s) (before ++ after)).state id := by
  rw [Machine.trace_append] at h
  have hsound : Pool.Sound (repo digest) Permitted ((market digest).run (idle s) before) :=
    (market digest).run_induction_of_trace (fun w e he hw => sound_next hw he) (sound_idle s)
      fun x hx => h x (mem_append_left _ hx)
  rw [Machine.run_append]
  generalize (market digest).run (idle s) before = w at hid hsound h ⊢
  have hrun : Pool.Sound (repo digest) Permitted ((market digest).run w after)
      ∧ Frozen w.state ((market digest).run w after).state id := by
    refine (market digest).run_induction_of_trace
      (P := fun w' => Pool.Sound (repo digest) Permitted w' ∧ Frozen w.state w'.state id)
      (C := fun w' e => undisturbed w' e = true) ?_ ⟨hsound, .refl _ id⟩
      fun x hx => h x (mem_append_right _ hx)
    rintro w' e he ⟨hw', hfrozen⟩
    have hid' : w'.state.isPublished id = true := by
      rw [isPublished, hfrozen.release]
      exact hid
    exact ⟨sound_next hw' he, hfrozen.trans (frozen_next hw' hid')⟩
  exact hrun.2

end Runs

/-! ## A publication between a read and a write -/

/-- The digest of the one artifact there is. -/
def sampleDigest : String :=
  "sha256:0000000000000000000000000000000000000000000000000000000000000000"

/-- A draft with its artifact. -/
def sampleRelease : Release where
  id := "r1"
  productId := "p1"
  version := "1.0"
  releaseNotes := ""
  manifest := .obj [("artifacts", .arr [.obj [("name", .str "image"), ("digest", .str sampleDigest)]])]
  manifestDigest := "d1"
  status := .draft
  createdBy := "alice"
  createdAt := 0
  publishedAt := none

/-- The tables with the draft. -/
def sampleMarket : MarketState where
  products := [("p1", "t1")]
  artifacts := [⟨"a1", "t1", sampleDigest, .verified, .active⟩]
  releases := ⟨[sampleRelease], by simp⟩
  releaseArtifacts := [⟨"r1", "a1", "runtime", 0, sampleDigest⟩]

/-- `PATCH` with another version and no artifacts. -/
def samplePatch : MarketRequest :=
  .patch ⟨"t1", "alice"⟩ "r1" fun rel => some { rel with version := "2.0", manifest := .obj [] }

/-- A publication, and a `PATCH` that comes after it. -/
theorem published_stays_of_sample :
    let before : List MarketEvent := [.start (.publish ⟨"t1", "bob"⟩ "r1"), .perform 0 {}]
    let after : List MarketEvent := [.start samplePatch, .perform 1 {}, .perform 1 {}]
    Frozen ((market fun _ => "d2").run (idle sampleMarket) before).state
      ((market fun _ => "d2").run (idle sampleMarket) (before ++ after)).state "r1" :=
  published_stays (fun _ => "d2") sampleMarket _ _ (by decide +kernel) "r1" (by decide +kernel)

/-- What of a release is not to change. -/
def content (s : MarketState) (id : String) :
    Option (ReleaseStatus × String × String × List ReleaseArtifact) :=
  (s.releases.get? id).map fun r => (r.status, r.version, r.manifestDigest, s.artifactsOf id)

/-- `PATCH` and `DELETE` read the draft, the release is published, and then they write: after the
    `PATCH` the release is a draft again, with another version, another manifest and no artifacts,
    and after the `DELETE` it is gone. -/
theorem published_overwritten_and_deleted :
    let events : List MarketEvent := [.start samplePatch, .start (.delete ⟨"t1", "carol"⟩ "r1"),
       .start (.publish ⟨"t1", "bob"⟩ "r1"), .perform 0 {}, .perform 1 {}, .perform 2 {}]
    let states := fun more : List MarketEvent =>
      content ((market fun _ => "d2").run (idle sampleMarket) (events ++ more)).state "r1"
    states [] = some (.published, "1.0", "d1", [⟨"r1", "a1", "runtime", 0, sampleDigest⟩])
      ∧ states [.perform 0 {}] = some (.draft, "2.0", "d2", [])
      ∧ states [.perform 1 {}] = none := by
  decide +kernel

end HnbCloud.Market
