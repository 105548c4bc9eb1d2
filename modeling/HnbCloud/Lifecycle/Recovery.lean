import HnbCloud.Lib.Machine
import HnbCloud.Lifecycle.Server

set_option autoImplicit false

/-! # Attempts with which everything works

An attempt to execute a lifecycle step while the cluster is reachable, the secret is resolved and the
registry of observers answers. Whether it succeeds is decided by what earlier attempts have left: the
record of the target in the provider's memory, and the namespace of the target in the cluster.

The two need not fit together. A creation whose namespace was made and which then failed leaves the
namespace behind, and the next attempt fails on it. A target whose record is lost, or that was
imported without a namespace, cannot be unmanaged. -/

namespace HnbCloud.Lifecycle

open Provider List ObjectStore

/-! ## What an attempt needs -/

/-- The record lets the call go on: it is of the same tenant and kind and of a smaller generation,
    and what is to be unmanaged is managed. -/
structure RecordReady (record : Option TargetRecord) (execution : ExecutionContext)
    (input : LifecycleInput) : Prop where
  older : ∀ r, record = some r → r.tenantId = execution.tenantId ∧ r.targetKind = input.targetKind
    ∧ r.fencingGeneration < execution.fencingGeneration
  managed : input.action = "unmanage" → ∃ r, record = some r ∧ r.managed = true

/-- The attempt that left the record is made again. -/
def Replays (record : Option TargetRecord) (execution : ExecutionContext) (input : LifecycleInput) :
    Prop :=
  ∃ r, record = some r ∧ r.tenantId = execution.tenantId ∧ r.targetKind = input.targetKind
    ∧ r.fencingGeneration = execution.fencingGeneration ∧ r.isReplay execution input = true

/-- The action makes the namespace of the target. -/
def provisions : ManagerKind → String → Bool
  | .kubernetes, action => action == "create"
  | .edge, action => action == "import"

/-- The namespace lets the action succeed: there is none yet if the action makes it, and it is the
    provider's and the tenant's if the action needs it. -/
def ClusterReady (kind : ManagerKind) (s : ObjectStore String Namespace)
    (execution : ExecutionContext) (input : LifecycleInput) : Prop :=
  if provisions kind input.action then s.get? (namespaceName kind input.targetId) = none
  else if input.action = "import" then True
  else ∃ o, s.get? (namespaceName kind input.targetId) = some o
    ∧ checkNamespace kind execution o.value = .ok ()

/-! ## Runs -/

/-- The program is run, and everything works. -/
def attempt {α : Type} (secret : String) (p : LifecycleProgram α) (s : LifecycleState) :
    LifecycleState × α :=
  p.run world (fun _ => { secret := .ok secret }) 0 s

section Attempts

variable {α : Type} {secret : String} {kind : ManagerKind} {execution : ExecutionContext}
  {input : LifecycleInput} {next : Except StatusError Unit → LifecycleProgram α}
  (s : LifecycleState)

@[simp] theorem attempt_done (a : α) : attempt secret (.done a) s = (s, a) := rfl

theorem attempt_call (op : LifecycleOp) (next : op.Reply → LifecycleProgram α) :
    attempt secret (.call op next) s
      = attempt secret (next (world.perform s op { secret := .ok secret }).2)
        (world.perform s op { secret := .ok secret }).1 :=
  Program.run_const world _ _ 1 0 _

theorem attempt_k8sClient (hsecret : secret ≠ "") (proceed : LifecycleProgram α) :
    attempt secret (k8sClient kind (withSecret execution secret) next proceed) s
      = attempt secret proceed s := by
  have hfind : (withSecret execution secret).inputs.find?
      (fun input => input.1 == "_resolvedSecretContent")
        = some ("_resolvedSecretContent", .str secret) := by
    have hnone : (execution.inputs.filter fun input => input.1 != "_resolvedSecretContent").find?
        (fun input => input.1 == "_resolvedSecretContent") = none := by
      simp [find?_eq_none]
    rw [withSecret, find?_append, hnone]
    simp
  simp only [k8sClient, hfind, if_neg hsecret]
  rw [attempt_call]
  rfl

theorem k8sClient_without (hinputs : ∀ x ∈ execution.inputs, x.1 ≠ "_resolvedSecretContent")
    (proceed : LifecycleProgram α) :
    k8sClient kind execution next proceed = next (.error (invalid kind.texts.kubeconfig)) := by
  have hnone : execution.inputs.find? (fun input => input.1 == "_resolvedSecretContent") = none := by
    simpa [find?_eq_none] using fun a b h => hinputs (a, b) h
  simp only [k8sClient, hnone]

/-- The action goes on with success, from some state, exactly if the condition holds. -/
def Goes (secret : String) (p : LifecycleProgram α)
    (next : Except StatusError Unit → LifecycleProgram α) (s : LifecycleState) (ready : Prop) :
    Prop :=
  ∃ result s', attempt secret p s = attempt secret (next result) s' ∧ (result = .ok () ↔ ready)

theorem goes_provisionNamespace (hsecret : secret ≠ "") :
    Goes secret (provisionNamespace kind (withSecret execution secret) input next) next s
      (s.namespaces.get? (namespaceName kind input.targetId) = none) := by
  unfold Goes provisionNamespace
  rw [attempt_k8sClient s hsecret, attempt_call]
  simp only [world, server, serve]
  rcases s.namespaces.get? (namespaceName kind input.targetId) with _ | o
  · exact ⟨.ok (), _, rfl, by simp⟩
  · exact ⟨.error _, _, rfl, by simp⟩

theorem goes_validateConnectivity (hsecret : secret ≠ "") :
    Goes secret (validateConnectivity kind (withSecret execution secret) next) next s True := by
  unfold Goes validateConnectivity
  rw [attempt_k8sClient s hsecret, attempt_call]
  exact ⟨.ok (), _, rfl, by simp⟩

/-- An action that reads and checks the namespace, and then succeeds. -/
theorem goes_checkedNamespace {proceed : Stored String Namespace → LifecycleProgram α}
    (hproceed : ∀ o, s.namespaces.get? (namespaceName kind input.targetId) = some o →
      ∃ s', attempt secret (proceed o) s = attempt secret (next (.ok ())) s') :
    Goes secret (checkedNamespace kind execution input next proceed) next s
      (∃ o, s.namespaces.get? (namespaceName kind input.targetId) = some o
        ∧ checkNamespace kind execution o.value = .ok ()) := by
  unfold Goes checkedNamespace
  rw [attempt_call]
  simp only [world, server, serve]
  rcases hread : s.namespaces.get? (namespaceName kind input.targetId) with _ | o
  · exact ⟨.error _, _, rfl, by simp⟩
  rcases hcheck : checkNamespace kind execution o.value with err | ⟨⟩
  · simp only [hcheck]
    exact ⟨.error err, _, rfl, by simp [hcheck]⟩
  · simp only [hcheck]
    obtain ⟨s', hs'⟩ := hproceed o hread
    exact ⟨.ok (), s', hs', by simp [hcheck]⟩

theorem goes_updateVersion (hsecret : secret ≠ "") :
    Goes secret (updateVersion kind (withSecret execution secret) input next) next s
      (∃ o, s.namespaces.get? (namespaceName kind input.targetId) = some o
        ∧ checkNamespace kind execution o.value = .ok ()) := by
  unfold updateVersion Goes
  rw [attempt_k8sClient s hsecret]
  refine goes_checkedNamespace s fun o ho => ?_
  rw [attempt_call]
  have hkey : o.key = namespaceName kind input.targetId := key_of_get? ho
  simp only [world, server, serve, hkey, ho, if_pos]
  exact ⟨_, rfl⟩

theorem goes_cleanupNamespace (hsecret : secret ≠ "") :
    Goes secret (cleanupNamespace kind (withSecret execution secret) input next) next s
      (∃ o, s.namespaces.get? (namespaceName kind input.targetId) = some o
        ∧ checkNamespace kind execution o.value = .ok ()) := by
  unfold cleanupNamespace Goes
  rw [attempt_k8sClient s hsecret]
  refine goes_checkedNamespace s fun o ho => ?_
  rw [attempt_call]
  simp only [world, server, serve, ho]
  exact ⟨_, rfl⟩

theorem goes_act (hsecret : secret ≠ "")
    (haction : ∃ entry ∈ kind.profile.stepActions, input.action = entry.2) :
    Goes secret (act kind (withSecret execution secret) input next) next s
      (ClusterReady kind s.namespaces execution input) := by
  obtain ⟨entry, hentry, haction⟩ := haction
  cases kind with
  | kubernetes =>
    simp only [ManagerKind.profile, mem_cons, not_mem_nil, or_false] at hentry
    rcases hentry with rfl | rfl | rfl | rfl <;>
      simp only [act, KubernetesManager.act, ClusterReady, provisions, haction]
    · exact goes_provisionNamespace s hsecret
    · exact goes_validateConnectivity s hsecret
    · exact goes_updateVersion s hsecret
    · exact goes_cleanupNamespace s hsecret
  | edge =>
    simp only [ManagerKind.profile, mem_cons, not_mem_nil, or_false] at hentry
    rcases hentry with rfl | rfl | rfl <;>
      simp only [act, EdgeManager.act, ClusterReady, provisions, haction]
    · exact goes_provisionNamespace s hsecret
    · exact goes_updateVersion s hsecret
    · exact goes_cleanupNamespace s hsecret

end Attempts

/-! ## The check of the record -/

/-- A record makes the call fail, lets it go on or answers it. -/
theorem checkRecord_spec (kind : ManagerKind) (record : Option TargetRecord)
    (execution : ExecutionContext) (input : LifecycleInput) :
    match checkRecord kind record execution input with
    | .error _ => ¬ Replays record execution input ∧ ¬ RecordReady record execution input
    | .ok none => ¬ Replays record execution input ∧ RecordReady record execution input
    | .ok (some _) => Replays record execution input := by
  simp only [checkRecord, bind, Except.bind, pure, Except.pure, throw, throwThe,
    MonadExceptOf.throw]
  rcases record with _ | r
  · have hnone : ¬ Replays none execution input := by simp [Replays]
    split_ifs with hunmanage
    · refine ⟨hnone, fun h => ?_⟩
      obtain ⟨r, hr, -⟩ := h.managed hunmanage.1
      simp at hr
    · simp only [Option.map_none, Option.getD_none, and_true] at hunmanage
      exact ⟨hnone, fun r hr => absurd hr (by simp), fun h => absurd h hunmanage⟩
  have hreplays : Replays (some r) execution input → (r.tenantId = execution.tenantId
      ∧ r.targetKind = input.targetKind) ∧ r.fencingGeneration = execution.fencingGeneration
        ∧ r.isReplay execution input = true := by
    rintro ⟨_, ⟨⟩, htenant, hkind, hrest⟩
    exact ⟨⟨htenant, hkind⟩, hrest⟩
  dsimp only
  split_ifs with hother hnewer hequal hreplay hunmanage
  · rw [← not_and_or] at hother
    exact ⟨fun h => hother (hreplays h).1, fun h => hother ((h.older r rfl).imp_right And.left)⟩
  · refine ⟨fun h => ?_, fun h => ?_⟩
    · exact absurd (hreplays h).2.1 (by omega)
    · exact absurd (h.older r rfl).2.2 (by omega)
  · rw [not_or, not_not, not_not] at hother
    exact ⟨r, rfl, hother.1, hother.2, hequal, hreplay⟩
  · exact ⟨fun h => hreplay (hreplays h).2.2, fun h => absurd (h.older r rfl).2.2 (by omega)⟩
  · refine ⟨fun h => hequal (hreplays h).2.1, fun h => ?_⟩
    obtain ⟨_, ⟨⟩, hmanaged⟩ := h.managed hunmanage.1
    simp [hmanaged] at hunmanage
  · rw [not_or, not_not, not_not] at hother
    refine ⟨fun h => hequal (hreplays h).2.1, ?_, fun haction => ⟨r, rfl, ?_⟩⟩
    · rintro _ ⟨⟩
      exact ⟨hother.1, hother.2, by omega⟩
    · simpa [haction] using hunmanage

/-! ## Requests -/

/-- The request is answered with success. -/
def Succeeds (secret : String) (p : RequestProgram) (s : LifecycleState) : Prop :=
  (attempt secret p s).2.body.status = "succeeded"

section Requests

variable {secret : String} {kind : ManagerKind} {execution : ExecutionContext}
  {input : LifecycleInput} (s : LifecycleState)

theorem succeeds_call (op : LifecycleOp) (next : op.Reply → RequestProgram) :
    Succeeds secret (.call op next) s
      ↔ Succeeds secret (next (world.perform s op { secret := .ok secret }).2)
        (world.perform s op { secret := .ok secret }).1 := by
  unfold Succeeds
  rw [attempt_call]

theorem succeeds_observe (result : Result) :
    Succeeds secret (observe kind execution input result) s := by
  unfold Succeeds observe
  split_ifs
  · rw [attempt_call]
    rfl
  · rw [attempt_call]
    rfl
  · rfl

theorem not_succeeds_error (err : StatusError) :
    ¬ Succeeds secret (.done (resultResponse execution {} (some err))) s := by
  simp [Succeeds]

theorem Goes.succeeds_iff {p : RequestProgram} {next : Except StatusError Unit → RequestProgram}
    {ready : Prop} (h : Goes secret p next s ready)
    (herror : ∀ err s', ¬ Succeeds secret (next (.error err)) s')
    (hok : ∀ s', Succeeds secret (next (.ok ())) s') : Succeeds secret p s ↔ ready := by
  obtain ⟨result, s', hgoes, hready⟩ := h
  rw [Succeeds, hgoes, ← hready]
  cases result with
  | error err => exact iff_of_false (herror err s') (by simp)
  | ok => exact iff_of_true (hok s') rfl

/-- The action as the request takes it: what is not an error succeeds. -/
theorem succeeds_applyAndObserve (hfencing : validateFencing execution input = .ok ())
    {ready : Prop}
    (hact : ∀ next : Except StatusError Unit → RequestProgram,
      Goes secret (act kind execution input next) next s ready) :
    Succeeds secret (applyAndObserve kind execution input) s
      ↔ Replays ((s.targets kind).get? input.targetId) execution input
        ∨ RecordReady ((s.targets kind).get? input.targetId) execution input ∧ ready := by
  have hspec := checkRecord_spec kind ((s.targets kind).get? input.targetId) execution input
  unfold Succeeds applyAndObserve apply
  rw [attempt_call]
  simp only [world, hfencing]
  rw [attempt_call]
  simp only [world]
  rcases hcheck : checkRecord kind ((s.targets kind).get? input.targetId) execution input
    with err | _ | result <;> rw [hcheck] at hspec
  · simp only [hspec.1, hspec.2, false_and, or_self, iff_false]
    exact not_succeeds_error s err
  · simp only [hspec.1, hspec.2, true_and, false_or]
    refine (hact _).succeeds_iff s (fun err s' => not_succeeds_error s' err) fun s' => ?_
    rw [succeeds_call]
    exact succeeds_observe _ _
  · simp only [show Replays _ _ _ from hspec, true_or, iff_true]
    exact succeeds_observe _ _

/-- The request passes the checks of the server, with this context and this input. -/
structure Accepted (urls : Engine.UrlParser) (kind : ManagerKind) (request : ExecuteRequest)
    (execution : ExecutionContext) (input : LifecycleInput) : Prop where
  schemaVersion : request.schemaVersion = contractVersion
  context : executionContext kind request.execution = .ok execution
  parsed : parseLifecycleInput urls kind.profile execution = .ok input

theorem pos_of_executionContext {request : ExecutionRequest}
    (h : executionContext kind request = .ok execution) : 0 < execution.fencingGeneration := by
  unfold executionContext at h
  split at h
  · simp at h
  next generation hgeneration =>
  split_ifs at h
  cases h
  exact (of_parseGeneration hgeneration).2

variable {request : ExecuteRequest} {urls : Engine.UrlParser}

theorem Accepted.facts (h : Accepted urls kind request execution input) :
    validateFencing execution input = .ok ()
      ∧ (∃ entry ∈ kind.profile.stepActions, input.action = entry.2)
      ∧ ∀ x ∈ execution.inputs, x.1 ≠ "_resolvedSecretContent" := by
  obtain ⟨action, ref, hexecution, hkeys, hinput, -, -, rfl⟩ :=
    (parseLifecycleInput_ok_iff ..).1 h.parsed
  obtain ⟨-, -, -, haction, -, hgeneration, -⟩ := (checkInput_ok_iff ..).1 hinput
  refine ⟨?_, ?_, ?_⟩
  · have hpos := pos_of_executionContext h.context
    rw [validateFencing, if_neg (not_not.2 hgeneration), if_neg (by omega)]
  · obtain ⟨-, -, hfind⟩ := (checkExecution_ok_iff ..).1 hexecution
    obtain ⟨entry, hentry, rfl⟩ := Option.map_eq_some_iff.1 hfind
    exact ⟨entry, mem_of_find?_eq_some hentry, haction⟩
  · intro x hx heq
    have hallowed := (validateInputKeys_ok_iff ..).1 hkeys x hx
    rw [heq] at hallowed
    revert hallowed
    cases kind <;> decide

theorem Accepted.exists_iff (h : Accepted urls kind request execution input)
    (P : ExecutionContext → LifecycleInput → Prop) :
    (∃ execution input, Accepted urls kind request execution input ∧ P execution input)
      ↔ P execution input := by
  constructor
  · rintro ⟨execution', input', h', hP⟩
    obtain rfl := Except.ok.inj (h.context.symm.trans h'.context)
    obtain rfl := Except.ok.inj (h.parsed.symm.trans h'.parsed)
    exact hP
  · exact fun hP => ⟨execution, input, h, hP⟩

theorem recordReady_withSecret (record : Option TargetRecord) :
    RecordReady record (withSecret execution secret) input ↔ RecordReady record execution input :=
  ⟨fun h => ⟨h.older, h.managed⟩, fun h => ⟨h.older, h.managed⟩⟩

theorem goes_act_without {α : Type} {next : Except StatusError Unit → LifecycleProgram α}
    (hinputs : ∀ x ∈ execution.inputs, x.1 ≠ "_resolvedSecretContent") :
    Goes secret (act kind execution input next) next s False := by
  have hfails : ∃ err, act kind execution input next = next (.error err) := by
    cases kind with
    | kubernetes =>
      simp only [act, KubernetesManager.act, provisionNamespace, validateConnectivity,
        updateVersion, cleanupNamespace, k8sClient_without hinputs, unsupported]
      split_ifs <;> exact ⟨_, rfl⟩
    | edge =>
      simp only [act, EdgeManager.act, provisionNamespace, updateVersion, cleanupNamespace,
        k8sClient_without hinputs, unsupported]
      split_ifs <;> exact ⟨_, rfl⟩
  obtain ⟨err, herr⟩ := hfails
  exact ⟨.error err, s, by rw [herr], by simp⟩

end Requests

/-- Of all requests, with everything working, exactly those succeed that pass the server's checks
    and either repeat the attempt that left the record, or have a secret and find the record and the
    namespace of the target as their action needs them. -/
theorem attempt_succeeds_iff (urls : Engine.UrlParser) (kind : ManagerKind)
    (request : ExecuteRequest) (secret : String) (hsecret : secret ≠ "") (s : LifecycleState) :
    Succeeds secret (handleExecute urls kind request) s ↔ ∃ execution input,
      Accepted urls kind request execution input
        ∧ (Replays ((s.targets kind).get? input.targetId) execution input
          ∨ RecordReady ((s.targets kind).get? input.targetId) execution input
            ∧ input.credentialSecretRef ≠ none
            ∧ ClusterReady kind s.namespaces execution input) := by
  unfold handleExecute
  split_ifs with hschema
  · refine ⟨fun h => absurd h (by simp [Succeeds, writeFailure]), ?_⟩
    rintro ⟨_, _, haccepted, -⟩
    exact absurd haccepted.schemaVersion hschema
  rcases hcontext : executionContext kind request.execution with err | execution
  · refine ⟨fun h => absurd h (by simp [Succeeds, writeFailure]), ?_⟩
    rintro ⟨_, _, haccepted, -⟩
    exact absurd (hcontext.symm.trans haccepted.context) (by simp)
  dsimp only
  rcases hparsed : parseLifecycleInput urls kind.profile execution with err | input
  · refine ⟨fun h => absurd h (not_succeeds_error s err), ?_⟩
    rintro ⟨_, _, haccepted, -⟩
    obtain rfl := Except.ok.inj (hcontext.symm.trans haccepted.context)
    exact absurd (hparsed.symm.trans haccepted.parsed) (by simp)
  have haccepted : Accepted urls kind request execution input :=
    ⟨not_not.1 hschema, hcontext, hparsed⟩
  obtain ⟨hfencing, haction, hinputs⟩ := haccepted.facts
  rw [haccepted.exists_iff fun execution input =>
    Replays ((s.targets kind).get? input.targetId) execution input
      ∨ RecordReady ((s.targets kind).get? input.targetId) execution input
        ∧ input.credentialSecretRef ≠ none ∧ ClusterReady kind s.namespaces execution input]
  dsimp only
  rcases href : input.credentialSecretRef with _ | ref
  · dsimp only
    rw [succeeds_applyAndObserve s hfencing fun next => goes_act_without s hinputs]
    simp
  have hfencing' : validateFencing (withSecret execution secret) input = .ok () := hfencing
  have happly : Succeeds secret (applyAndObserve kind (withSecret execution secret) input) s ↔ _ :=
    succeeds_applyAndObserve s hfencing' fun next => goes_act s hsecret haction
  refine (succeeds_call s _ _).trans (happly.trans ?_)
  rw [recordReady_withSecret]
  simp only [ne_eq, reduceCtorEq, not_false_eq_true, true_and]
  rfl

/-! ## Three ways to get stuck -/

/-- A step of the tenant `t1` on a Kubernetes target. -/
def sampleRequest (operation action : String) (generation : Int) : ExecuteRequest where
  schemaVersion := "2.0.0"
  execution :=
    { stepId := "s1", operationId := "o1", tenantId := "t1", projectId := "", environmentId := ""
      stepType := "runtime_target.kubernetes." ++ operation
      inputs := [("action", .str action),
         ("credentialSecretRef", .obj [("name", .str "kube"), ("provider", .str "db"),
           ("scope", .str "t1"), ("version", .str "1")]),
         ("desiredVersion", .str "1.30"), ("displayName", .str "cluster"),
         ("fencingGeneration", .num generation), ("idempotencyKey", .str "k1"),
         ("observationVersion", .num 0), ("schemaVersion", .str "1.0.0"),
         ("targetId", .str "3a7d1c52-0b6e-4c1f-8d2a-9e5f60718293"),
         ("targetKind", .str "KubernetesTarget")]
      providerId := "runtime-target.lifecycle.kubernetes", providerVersion := "1.0.0"
      providerDigest := "sha256:0", providerProtocolVersion := "2.0.0", checkpoint := ""
      idempotencyKey := "k1", executionAttemptId := "6f2b7c1e-8a54-4f0e-9b11-1f4b5a6c7d8e"
      fencingGeneration := toString generation }

def sampleUrls : Engine.UrlParser := ⟨fun _ => none⟩

def sampleProgram (operation action : String) (generation : Int) : RequestProgram :=
  handleExecute sampleUrls .kubernetes (sampleRequest operation action generation)

/-- HTTP status, status and whether the failure is retryable. -/
def brief (answered : LifecycleState × HttpResponse) : Nat × String × Option Bool :=
  (answered.2.code, answered.2.body.status, answered.2.body.retryable)

/-- A creation whose registration fails after the namespace is made. -/
def failedCreate : LifecycleState × HttpResponse :=
  (sampleProgram "provision-and-register" "create" 1).run world
    (fun _ => { observer := some .cancelled }) 0 .empty

/-- A creation that succeeds. -/
def created : LifecycleState × HttpResponse :=
  attempt "kubeconfig" (sampleProgram "provision-and-register" "create" 1) .empty

/-- An import that succeeds. -/
def imported : LifecycleState × HttpResponse :=
  attempt "kubeconfig" (sampleProgram "register" "import" 1) .empty

/-- A target that was created is unmanaged: the record and the namespace are there. -/
theorem attempt_succeeds_iff_of_unmanage :
    Succeeds "kubeconfig" (sampleProgram "unregister" "unmanage" 2) created.1 ∧ ∃ execution input,
        Accepted sampleUrls .kubernetes (sampleRequest "unregister" "unmanage" 2) execution input
          ∧ (Replays ((created.1.targets .kubernetes).get? input.targetId) execution input
            ∨ RecordReady ((created.1.targets .kubernetes).get? input.targetId) execution input
              ∧ input.credentialSecretRef ≠ none
              ∧ ClusterReady .kubernetes created.1.namespaces execution input) := by
  have hsucceeds : Succeeds "kubeconfig" (sampleProgram "unregister" "unmanage" 2) created.1 := by
    unfold Succeeds
    decide +kernel
  exact ⟨hsucceeds, (attempt_succeeds_iff sampleUrls .kubernetes
    (sampleRequest "unregister" "unmanage" 2) "kubeconfig" (by decide) created.1).1 hsucceeds⟩

/-- The next attempt of a creation whose registration failed fails on the namespace, and so does one
    after a restart. A target that was created cannot be unmanaged after a restart, and one that was
    imported cannot be unmanaged at all. -/
theorem attempts_stuck : brief failedCreate = (408, "failed", some true)
      ∧ brief (attempt "kubeconfig" (sampleProgram "provision-and-register" "create" 2)
        failedCreate.1) = (503, "failed", some true)
      ∧ brief created = (200, "succeeded", none)
      ∧ brief (attempt "kubeconfig" (sampleProgram "provision-and-register" "create" 2)
        (created.1.restart .kubernetes)) = (503, "failed", some true)
      ∧ brief (attempt "kubeconfig" (sampleProgram "unregister" "unmanage" 2)
        (created.1.restart .kubernetes)) = (409, "failed", some false)
      ∧ brief imported = (200, "succeeded", none)
      ∧ brief (attempt "kubeconfig" (sampleProgram "unregister" "unmanage" 2) imported.1)
        = (503, "failed", some true) := by
  decide +kernel

end HnbCloud.Lifecycle
