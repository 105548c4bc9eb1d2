import HnbCloud.KubernetesProvider.Executor
import HnbCloud.Lib.Pool

set_option autoImplicit false

/-! # Fenced writes of kubernetes-provider

Any number of calls of `Execute` run at once; between their requests the cluster may report the
status of a Deployment. A call writes only what it has stamped with its own tenant and generation,
and over a Deployment only if the one it has read was of its tenant and of a smaller generation. The
server takes the write only if the resource version is the one that was read, so what was checked
then still holds. -/

namespace HnbCloud.KubernetesProvider

open Provider Program ObjectStore StringMap Pool Executor

/-- The Deployments of a cluster. -/
abbrev Deployments : Type := ObjectStore DeploymentKey Deployment

structure StatusReport where
  key : DeploymentKey
  status : DeploymentStatus

def reportStatus (s : Deployments) (report : StatusReport) : Deployments :=
  match s.get? report.key with
  | none => s
  | some d => s.write { d with value := { d.value with status := report.status } }

abbrev ProviderPool : Type :=
  Pool Deployments Call DeploymentRequest ObjectRequest.Reply (Except StatusError Result)

abbrev ProviderEvent : Type := Pool.Event Call ObjectChance StatusReport

def provider (e : Executor) : Machine ProviderPool ProviderEvent Unit :=
  machine server e.execute reportStatus

/-! ## What a call writes -/

/-- The Deployment carries the tenant and the generation of an execution. -/
structure Deployment.Stamped (d : Deployment) (execution : ExecutionContext) : Prop where
  generation : storedFencingGeneration d = .ok execution.fencingGeneration
  tenant : d.annotationAt tenantAnnotation = execution.tenantId

open Deployment

/-- The Deployment is of the tenant of an execution, and of a smaller generation. -/
structure Deployment.Behind (d : Deployment) (execution : ExecutionContext) : Prop where
  generation : ∃ stored, storedFencingGeneration d = .ok stored
    ∧ stored < execution.fencingGeneration
  tenant : d.annotationAt tenantAnnotation = execution.tenantId

variable {execution : ExecutionContext} {desired : Deployment} {existing : StoredDeployment}
  {call : Call} {e : Executor} {key : DeploymentKey} {w : ProviderPool}

theorem stamped_setExecutionAnnotations (d : Deployment)
    (hpos : 0 < execution.fencingGeneration) (action : String) :
    (setExecutionAnnotations d execution action).Stamped execution := by
  have hgeneration : (setExecutionAnnotations d execution action).annotationAt
      fencingGenerationAnnotation = toString execution.fencingGeneration := by
    simp only [annotationAt, setExecutionAnnotations]
    rw [value_insert_of_ne _ _ (by decide), value_insert_of_ne _ _ (by decide), value_insert_self]
  constructor
  · rw [storedFencingGeneration, hgeneration, parseGeneration_toString execution.int64 hpos]
  simp only [annotationAt, setExecutionAnnotations]
  rw [value_insert_of_ne _ _ (by decide), value_insert_of_ne _ _ (by decide),
    value_insert_of_ne _ _ (by decide), value_insert_of_ne _ _ (by decide),
    value_insert_of_ne _ _ (by decide), value_insert_of_ne _ _ (by decide),
    value_insert_self]

theorem of_checkManagedTenant {d : Deployment} (h : checkManagedTenant d execution = .ok ()) :
    d.annotationAt tenantAnnotation = execution.tenantId := by
  unfold checkManagedTenant at h
  split_ifs at h with hnot
  rw [not_or, not_not, not_not] at hnot
  exact hnot.2

theorem behind_of_checks {d : Deployment} {stored : Int}
    (htenant : checkManagedTenant d execution = .ok ())
    (hstored : storedFencingGeneration d = .ok stored)
    (hlt : ¬ execution.fencingGeneration < stored) (hne : stored ≠ execution.fencingGeneration) :
    d.Behind execution :=
  ⟨⟨stored, hstored, by omega⟩, of_checkManagedTenant htenant⟩

/-- What a decision to write rests on. -/
def Decision.Sound (existing : Deployment) (execution : ExecutionContext) : Decision → Prop
  | .wait => True
  | .update d _ => existing.Behind execution ∧ d.Stamped execution

variable {decision : Decision}

theorem sound_of_deployDecision (hpos : 0 < execution.fencingGeneration)
    (h : deployDecision execution desired existing = .ok decision) :
    decision.Sound existing.value execution := by
  obtain ⟨_, htenant, h⟩ := except_bind_eq_ok h
  obtain ⟨stored, hstored, h⟩ := except_bind_eq_ok h
  simp only [pure, Except.pure, throw, throwThe, MonadExceptOf.throw] at h
  split_ifs at h with hlt heq
  all_goals cases h
  · trivial
  · exact ⟨behind_of_checks htenant hstored hlt heq, stamped_setExecutionAnnotations _ hpos _⟩
  · exact ⟨behind_of_checks htenant hstored hlt heq, stamped_setExecutionAnnotations _ hpos _⟩

theorem sound_of_deleteDecision {expectedUid : String} (hpos : 0 < execution.fencingGeneration)
    (h : deleteDecision execution expectedUid existing = .ok decision) :
    decision.Sound existing.value execution := by
  obtain ⟨_, htenant, h⟩ := except_bind_eq_ok h
  dsimp only at h
  split at h
  · cases h
  obtain ⟨stored, hstored, h⟩ := except_bind_eq_ok h
  split_ifs at h with hlt heq
  all_goals cases h
  · trivial
  · exact ⟨behind_of_checks htenant hstored hlt heq, stamped_setExecutionAnnotations _ hpos _⟩

/-! ## What a call may ask the server for -/

/-- A call creates and writes what it has stamped. If the server takes an update in this state, the
    Deployment there is behind the call. -/
def Permitted (call : Call) (s : Deployments) : DeploymentRequest → Prop
  | .get _ => True
  | .create _ d => d.Stamped call.execution
  | .update o => o.value.Stamped call.execution
      ∧ ∀ current, s.get? o.key = some current → current.version = o.version →
        current.value.Behind call.execution
  | .delete _ => False

/-- The program keeps to its permission, whatever the others write. -/
abbrev Keeps (call : Call) (p : CallProgram) (s : Deployments) : Prop :=
  p.Respects server ObjectStore.Later (Permitted call) s

theorem keeps_poll (call : Call) (key : DeploymentKey) (operation done : String)
    (check : Deployment → Except StatusError Bool) (polls : Nat) (s : Deployments) :
    Keeps call (poll key operation done check polls) s := by
  induction polls generalizing s with
  | zero => trivial
  | succ _ ih =>
    refine respects_call fun s' _ => ⟨trivial, fun n answer _ => ?_⟩
    rcases answer with err | current
    · trivial
    dsimp only
    split
    · trivial
    · trivial
    · exact ih _

/-- What follows a read that found the Deployment. -/
theorem keeps_carryOut {s : Deployments} {n : ObjectChance}
    {wait again : CallProgram} {decision : Except StatusError Decision} (hs : s.Bounded)
    (hanswer : (server.perform s (.get key) n).2 = .ok existing)
    (hsound : ∀ d, decision = .ok d → d.Sound existing.value call.execution)
    (hwait : ∀ s, Keeps call wait s) (hagain : ∀ s : Deployments, s.Bounded → Keeps call again s) :
    Keeps call (carryOut existing wait again decision) (server.perform s (.get key) n).1 := by
  obtain ⟨hread, hsame⟩ := get?_of_reply hanswer
  rw [hsame]
  rw [← key_of_get? hread] at hread
  rcases decision with err | _ | ⟨d, operation⟩
  · trivial
  · exact hwait s
  obtain ⟨hbehind, hstamped⟩ := hsound _ rfl
  refine respects_call fun s' hlater => ⟨⟨hstamped, ?_⟩, fun n answer _ => ?_⟩
  · intro current hcurrent hversion
    rw [hlater.same hs hread hcurrent hversion]
    exact hbehind
  have hafter := ((s'.does_perform (.update { existing with value := d }) n).later).bounded
    (hlater.bounded hs)
  rcases answer with (_ | _ | _ | _ | _) | _
  · exact hagain _ hafter
  · trivial
  · exact hagain _ hafter
  · trivial
  · trivial
  · exact hwait _

theorem keeps_deployLoop (call : Call) (key : DeploymentKey)
    (hpos : 0 < call.execution.fencingGeneration) (hdesired : desired.Stamped call.execution)
    (attempts : Nat) (s : Deployments) (hs : s.Bounded) :
    Keeps call (deployLoop call key desired attempts) s := by
  induction attempts generalizing s with
  | zero => trivial
  | succ _ ih =>
    have hwait : ∀ s, Keeps call (waitAvailable call key) s := keeps_poll call key _ _ _ _
    refine respects_call fun s' hlater => ⟨trivial, fun n answer hanswer => ?_⟩
    have hs' := hlater.bounded hs
    have hafter := (s'.does_perform (.get key) n).later.bounded hs'
    rcases answer with (_ | _ | _ | _ | _) | existing
    · -- The Deployment was not found: it is created.
      refine respects_call fun t hlater' => ⟨hdesired, fun n' answer' _ => ?_⟩
      have hcreated := (t.does_perform (.create key desired) n').later.bounded
        (hlater'.bounded hafter)
      rcases answer' with (_ | _ | _ | _ | _) | _
      · trivial
      · exact ih _ hcreated
      · exact ih _ hcreated
      · trivial
      · trivial
      · exact hwait _
    · trivial
    · trivial
    · trivial
    · trivial
    · exact keeps_carryOut hs' hanswer (fun d h => sound_of_deployDecision hpos h) hwait ih

theorem keeps_deleteLoop (call : Call) (key : DeploymentKey) (expectedUid : String)
    (hpos : 0 < call.execution.fencingGeneration) (attempts : Nat) (s : Deployments)
    (hs : s.Bounded) : Keeps call (deleteLoop call key expectedUid attempts) s := by
  induction attempts generalizing s with
  | zero => trivial
  | succ _ ih =>
    have hwait : ∀ s, Keeps call (waitDeleted call key) s := keeps_poll call key _ _ _ _
    refine respects_call fun s' hlater => ⟨trivial, fun n answer hanswer => ?_⟩
    rcases answer with err | existing
    · cases err <;> trivial
    · exact keeps_carryOut (hlater.bounded hs) hanswer
        (fun d h => sound_of_deleteDecision hpos h) hwait ih

theorem stamped_desiredDeployment (hpos : 0 < execution.fencingGeneration)
    (h : e.desiredDeployment execution key = .ok desired) : desired.Stamped execution := by
  simp only [desiredDeployment, bind, Except.bind, pure, Except.pure, throw, throwThe,
    MonadExceptOf.throw] at h
  rcases hreplicas : requestedReplicas execution with err | replicas
  · rw [hreplicas] at h
    split_ifs at h
  rw [hreplicas] at h
  dsimp only at h
  split_ifs at h
  cases h
  exact stamped_setExecutionAnnotations _ hpos _

theorem pos_of_check (h : e.check execution = .ok key) : 0 < execution.fencingGeneration := by
  simp only [check, bind, Except.bind, throw, throwThe, MonadExceptOf.throw] at h
  split_ifs at h with hidentity hattempt hgeneration
  omega

theorem keeps_execute (e : Executor) (call : Call) (s : Deployments) (hs : s.Bounded) :
    Keeps call (e.execute call) s := by
  unfold execute
  rcases hcheck : e.check call.execution with err | key
  · trivial
  have hpos := pos_of_check hcheck
  dsimp only
  split_ifs with hdeploy hdelete
  · split
    · trivial
    unfold deploy
    rcases hdesired : e.desiredDeployment call.execution key with err | desired
    · trivial
    · exact keeps_deployLoop call key hpos (stamped_desiredDeployment hpos hdesired) _ s hs
  · split
    · trivial
    unfold delete
    dsimp only
    split_ifs
    · trivial
    · exact keeps_deleteLoop call key _ hpos _ s hs
  · trivial

/-- The calls keep to their permissions among themselves and while the cluster reports. -/
theorem discipline (e : Executor) : Pool.Discipline server e.execute reportStatus
    (fun _ _ => True) ObjectStore.Bounded (fun _ => ObjectStore.Later) Permitted where
  refl _ s := .refl s
  trans _ _ _ _ h h' := h.trans h'
  begins call s hs := keeps_execute e call s hs
  perform _ s request n hs _ := (s.does_perform request n).later.bounded hs
  others _ _ s request n _ _ _ := (s.does_perform request n).later
  outside s report hs := by
    have hlater : s.Later (reportStatus s report) := by
      unfold reportStatus
      split
      · exact .refl s
      · exact s.later_write _
    exact ⟨hlater.bounded hs, fun _ => hlater⟩

/-! ## Runs -/

/-- The calls of a pool keep to their permissions from here on. -/
abbrev Orderly (w : ProviderPool) : Prop :=
  w.Orderly server (fun _ _ => True) ObjectStore.Bounded (fun _ => ObjectStore.Later) Permitted

theorem Orderly.next (hw : Orderly w) (event : ProviderEvent) :
    Orderly ((provider e).next w event) :=
  Pool.Orderly.next (discipline e) hw fun _ _ _ _ _ => ⟨trivial, trivial⟩

/-- In this entry of a trace, a request of the call changes the Deployment. -/
def Writes (key : DeploymentKey) (call : Call) (x : Machine.Entry ProviderPool ProviderEvent Unit) :
    Prop :=
  (∃ request n, Pool.Performs x.pre x.call call request n)
    ∧ x.post.state.get? key ≠ x.pre.state.get? key

theorem permitted_does {s s' : Deployments} {request : DeploymentRequest}
    (hpermitted : Permitted call s request) (hdoes : s.Does request s') (key : DeploymentKey) :
    s'.get? key = s.get? key ∨ (∀ d, s.get? key = some d → d.value.Behind call.execution)
        ∧ ∃ d, s'.get? key = some d ∧ d.value.Stamped call.execution := by
  cases hdoes with
  | nothing => exact .inl rfl
  | creates _ _ _ hnone =>
    rw [get?_write]
    split
    · next hkey =>
      refine .inr ⟨fun d' hd' => ?_, _, rfl, hpermitted⟩
      rw [hkey] at hd'
      exact absurd (hnone.symm.trans hd') (by simp)
    · exact .inl rfl
  | updates o current hcurrent hversion =>
    rw [get?_write]
    split
    · next hkey =>
      have hkey' : key = o.key := hkey.trans (show current.key = o.key from key_of_get? hcurrent)
      refine .inr ⟨fun d hd => ?_, _, rfl, hpermitted.1⟩
      rw [hkey', hcurrent] at hd
      cases hd
      exact hpermitted.2 _ hcurrent hversion
    · exact .inl rfl
  | deletes => exact hpermitted.elim

theorem get?_reportStatus (s : Deployments) (report : StatusReport) (key : DeploymentKey) :
    ((reportStatus s report).get? key).map (fun d => d.value.annotations)
      = (s.get? key).map fun d => d.value.annotations := by
  unfold reportStatus
  split
  · rfl
  next d hd =>
  rw [get?_write]
  split
  · next hkey =>
    rw [hkey, key_of_get? hd, hd]
    rfl
  · rfl

/-- One step: a write is over a Deployment that is behind the call, and leaves one that the call has
    stamped. -/
theorem write_step (hw : Orderly w) {event : ProviderEvent} (hwrites : Writes key call ((provider e).entry w event)) :
    (∀ d, w.state.get? key = some d → d.value.Behind call.execution)
      ∧ ∃ d, ((provider e).next w event).state.get? key = some d
        ∧ d.value.Stamped call.execution := by
  obtain ⟨⟨request, n, hperforms⟩, hchanged⟩ := hwrites
  rcases w.next_state_cases (S := server) event with hsame | ⟨call', request', n', hperforms', hstate⟩ | hout
  · exact absurd (congrArg (fun s => get? s key) hsame) hchanged
  · obtain rfl : call' = call := hperforms'.request_unique hperforms
    have hdoes := w.state.does_perform request' n'
    rw [← hstate] at hdoes
    exact (permitted_does (hw.permitted (discipline e) hperforms') hdoes key).resolve_left hchanged
  · obtain ⟨report, rfl, -⟩ := hout
    cases hperforms

/-- The Deployment was written by a call of this generation or a later one, for the same tenant. -/
def WrittenBy (key : DeploymentKey) (call : Call) (s : Deployments) : Prop :=
  ∃ d stored, s.get? key = some d ∧ storedFencingGeneration d.value = .ok stored
    ∧ call.execution.fencingGeneration ≤ stored
    ∧ d.value.annotationAt tenantAnnotation = call.execution.tenantId

theorem WrittenBy.next (hw : Orderly w) (h : WrittenBy key call w.state) (event : ProviderEvent) :
    WrittenBy key call ((provider e).next w event).state := by
  obtain ⟨d, stored, hd, hstored, hle, htenant⟩ := h
  rcases w.next_state_cases (S := server) event with hsame | ⟨call', request, n, hperforms, hstate⟩ | hout
  · exact ⟨d, stored, (congrArg (fun s => get? s key) hsame).trans hd, hstored, hle, htenant⟩
  · by_cases hchanged : ((provider e).next w event).state.get? key = w.state.get? key
    · exact ⟨d, stored, hchanged.trans hd, hstored, hle, htenant⟩
    -- A later write is over this Deployment, so it is of its tenant and of a larger generation.
    have hwrites : Writes key call' ((provider e).entry w event) :=
      ⟨⟨request, n, hperforms⟩, hchanged⟩
    obtain ⟨hbehind, d', hd', hstamped⟩ := write_step hw hwrites
    obtain ⟨⟨stored', hstored', hlt⟩, htenant'⟩ := hbehind d hd
    obtain rfl : stored' = stored := Except.ok.inj (hstored'.symm.trans hstored)
    exact ⟨d', _, hd', hstamped.generation, by omega,
      hstamped.tenant.trans (htenant'.symm.trans htenant)⟩
  · obtain ⟨report, rfl, hstate⟩ := hout
    have hkept := get?_reportStatus w.state report key
    rw [hd, ← hstate] at hkept
    obtain ⟨d', hd', hsame⟩ := Option.map_eq_some_iff.1 hkept
    refine ⟨d', stored, hd', ?_, hle, ?_⟩
    · rw [← hstored, storedFencingGeneration, storedFencingGeneration, annotationAt,
        annotationAt, hsame]
    · rw [← htenant, annotationAt, annotationAt, hsame]

/-- Every write after the creation of a Deployment is made for the tenant it belongs to and raises the
    stored generation, to the one of the call that writes. Of any two writes, the later one is made
    for the same tenant and by a call of a larger generation: the tenant is the one that created the
    Deployment, and once a call has written, no call of its generation or a smaller one changes
    it. -/
theorem writes_fenced (e : Executor) (key : DeploymentKey) (s : Deployments) (hs : s.Bounded)
    (events : List ProviderEvent) :
    (∀ x ∈ (provider e).trace (idle s) events, ∀ call, Writes key call x →
      (x.pre.state.get? key = none
        ∨ ∃ d stored, x.pre.state.get? key = some d ∧ storedFencingGeneration d.value = .ok stored
          ∧ stored < call.execution.fencingGeneration
          ∧ d.value.annotationAt tenantAnnotation = call.execution.tenantId)
      ∧ ∃ d, x.post.state.get? key = some d
        ∧ storedFencingGeneration d.value = .ok call.execution.fencingGeneration)
    ∧ ((provider e).trace (idle s) events).Pairwise fun x y =>
      ∀ call call', Writes key call x → Writes key call' y →
        call'.execution.tenantId = call.execution.tenantId
          ∧ call.execution.fencingGeneration < call'.execution.fencingGeneration := by
  have hidle : Orderly (idle s) := orderly_idle hs
  constructor
  · refine (provider e).trace_forall (P := Orderly) (fun w event hw => hw.next event) ?_ hidle events
    intro w event hw call hwrites
    obtain ⟨hbehind, d, hd, hstamped⟩ := write_step hw hwrites
    refine ⟨?_, d, hd, hstamped.generation⟩
    rcases hpre : w.state.get? key with _ | before
    · exact .inl hpre
    · obtain ⟨⟨stored, hstored, hlt⟩, htenant⟩ := hbehind before hpre
      exact .inr ⟨before, stored, hpre, hstored, hlt, htenant⟩
  refine (provider e).trace_pairwise (P := Orderly)
    (J := fun x w => ∀ call, Writes key call x → WrittenBy key call w.state)
    (fun w event hw => hw.next event) ?_ ?_ ?_ hidle events
  · intro w event hw call hwrites
    obtain ⟨-, d, hd, hstamped⟩ := write_step hw hwrites
    exact ⟨d, _, hd, hstamped.generation, Int.le_refl _, hstamped.tenant⟩
  · intro x w event hw hx call hwrites
    exact (hx call hwrites).next hw event
  · intro x w event hw hx call call' hwrites hwrites'
    obtain ⟨d, stored, hd, hstored, hle, htenant⟩ := hx call hwrites
    obtain ⟨⟨stored', hstored', hlt⟩, htenant'⟩ := (write_step hw hwrites').1 d hd
    obtain rfl : stored' = stored := Except.ok.inj (hstored'.symm.trans hstored)
    exact ⟨htenant'.symm.trans htenant, by omega⟩

/-! ## Two deploys and a deletion at once -/

/-- A step of the tenant `t1` on the Deployment `web`. -/
def sampleCall (stepType : String) (more : List (String × Json)) (generation : Int)
    (h : Fits 64 generation) : Call where
  execution :=
    { stepId := "s1", operationId := "o1", tenantId := "t1", projectId := "", environmentId := "",
      stepType := stepType,
      inputs := [("namespace", .str "apps"), ("name", .str "web")] ++ more,
      providerId := "kubernetes", providerVersion := "", providerDigest := "",
      providerProtocolVersion := "2.0.0", checkpoint := "", idempotencyKey := "k1",
      executionAttemptId := "6f2b7c1e-8a54-4f0e-9b11-1f4b5a6c7d8e",
      fencingGeneration := generation, int64 := h }
  polls := 2

def sampleExecutor : Executor := ⟨["apps"], 10⟩

/-- Both deploys find nothing; the later one creates, the earlier one finds itself fenced. The
    deletion reads, the cluster reports, and the deletion has to read again. -/
def sampleEvents : List ProviderEvent :=
  [.start (sampleCall "deploy" [("image", .str "web:1")] 3 (by decide)),
   .start (sampleCall "deploy" [("image", .str "web:1")] 5 (by decide)),
   .perform 0 {}, .perform 1 {}, .perform 1 { uid := "u1" }, .perform 0 {}, .perform 0 {},
   .start (sampleCall "delete" [("expected_uid", .str "u1")] 8 (by decide)),
   .perform 2 {}, .outside ⟨⟨"apps", "web"⟩, ⟨1, 1, 1⟩⟩, .perform 2 {}, .perform 2 {}, .perform 2 {}]

/-- It ends with the deletion written. -/
theorem writes_fenced_of_sample :
    (((provider sampleExecutor).run (idle .empty) sampleEvents).state.get? ⟨"apps", "web"⟩).map
        (fun d => (d.value.annotationAt fencingGenerationAnnotation, d.value.replicas, d.version))
      = some ("8", some 0, 3)
    ∧ ((provider sampleExecutor).trace (idle .empty) sampleEvents).Pairwise fun x y =>
      ∀ call call', Writes ⟨"apps", "web"⟩ call x → Writes ⟨"apps", "web"⟩ call' y →
        call'.execution.tenantId = call.execution.tenantId
          ∧ call.execution.fencingGeneration < call'.execution.fencingGeneration :=
  ⟨by decide +kernel, (writes_fenced sampleExecutor ⟨"apps", "web"⟩ .empty
    bounded_empty sampleEvents).2⟩

end HnbCloud.KubernetesProvider
