import HnbCloud.Lifecycle.Input

set_option autoImplicit false

/-! # The managers of the lifecycle provider

`Apply` of `KubernetesManager` and of `EdgeManager`. A manager keeps one record for each target in
memory and tracks a target by a namespace in the cluster. A call reads the record under the
manager's lock and checks its own generation against it; it then makes its requests to the cluster
without the lock, and at the end writes the record under the lock again.

The two managers differ in their texts, in what an import does and in whether there is a creation.
All targets are in one cluster, and a namespace is gone as soon as it is deleted. -/

namespace HnbCloud.Lifecycle

open Provider Function

/-! ## State -/

structure TargetRecord where
  (tenantId targetId targetKind action stepId operationId idempotencyKey executionAttemptId : String)
  fencingGeneration : Int
  managed : Bool
  desiredVersion : String
  outputs : List (String × String)
  checkpoint : String
deriving DecidableEq, Repr

/-- `corev1.Namespace`, its metadata. -/
structure Namespace where
  (annotations labels : StringMap)

def Namespace.annotationAt (n : Namespace) (name : String) : String := n.annotations.value name

abbrev NamespaceRequest : Type := ObjectRequest String Namespace

abbrev Records : Type := Table TargetRecord String TargetRecord.targetId

/-- What the two providers keep in memory, and the namespaces of the cluster. -/
structure LifecycleState where
  targets : ManagerKind → Records
  observers : ManagerKind → StringMap
  namespaces : ObjectStore String Namespace

structure Result where
  outputs : List (String × String) := []
  checkpoint : String := ""
deriving DecidableEq, Repr

/-! ## Operations -/

/-- What a call does to the world around it. -/
inductive LifecycleOp where
  /-- `ctx.Err()`. -/
  | contextErr
  /-- The lookup in `targets`, under the lock. -/
  | readRecord (kind : ManagerKind) (targetId : String)
  /-- The assignment to `targets`, under the lock. -/
  | writeRecord (kind : ManagerKind) (record : TargetRecord)
  /-- `clientFunc`. -/
  | newClient (kubeconfig : String)
  /-- `Discovery().ServerVersion()`. -/
  | serverVersion
  | cluster (request : NamespaceRequest)
  /-- `secrets.Resolve`. -/
  | resolveSecret (tenantId providerId purpose : String) (ref : SecretReference)
  | register (kind : ManagerKind) (tenantId targetId targetKind observerKind : String)
  | unregister (kind : ManagerKind) (tenantId targetId : String)

/-- What an operation answers. -/
abbrev LifecycleOp.Reply : LifecycleOp → Type
  | contextErr => Bool
  | readRecord .. => Option TargetRecord
  | writeRecord .. => Unit
  | newClient _ => Except String Unit
  | serverVersion => Except ObjectError Unit
  | cluster request => request.Reply
  | resolveSecret .. => Except StatusError String
  | register .. => Except ObjectError Unit
  | unregister .. => Except ObjectError Unit

/-- What is left to chance. Without any, everything works. -/
structure LifecycleChance where
  cancelled : Bool := false
  client : Option String := none
  version : Option ObjectError := none
  object : ObjectChance := {}
  secret : Except StatusError String := .ok "kubeconfig"
  observer : Option ObjectError := none

/-- An answer without content. -/
def outcome {ε : Type} : Option ε → Except ε Unit
  | none => .ok ()
  | some err => .error err

def observerKey (tenantId targetId : String) : String := tenantId ++ ":" ++ targetId

/-- The observers of a provider are changed. -/
def LifecycleState.changeObservers (s : LifecycleState) (kind : ManagerKind)
    (change : StringMap → StringMap) : LifecycleState :=
  { s with observers := update s.observers kind (change (s.observers kind)) }

/-- The operations. `MemoryObserverRegistry` changes nothing when its context is cancelled. -/
def world : Service LifecycleState LifecycleOp LifecycleOp.Reply LifecycleChance where
  perform s op n :=
    match op with
    | .contextErr => (s, n.cancelled)
    | .readRecord kind targetId => (s, (s.targets kind).get? targetId)
    | .writeRecord kind record =>
      ({ s with targets := update s.targets kind ((s.targets kind).put record) }, ())
    | .newClient _ => (s, outcome n.client)
    | .serverVersion => (s, outcome n.version)
    | .cluster request =>
      ({ s with namespaces := (ObjectStore.server.perform s.namespaces request n.object).1 },
        (ObjectStore.server.perform s.namespaces request n.object).2)
    | .resolveSecret _ _ _ _ => (s, n.secret)
    | .register kind tenantId targetId targetKind observerKind =>
      match n.observer with
      | some err => (s, .error err)
      | none => (s.changeObservers kind fun m => m.insert (observerKey tenantId targetId)
          (targetKind ++ ":" ++ observerKind), .ok ())
    | .unregister kind tenantId targetId =>
      match n.observer with
      | some err => (s, .error err)
      | none => (s.changeObservers kind fun m => m.erase (observerKey tenantId targetId), .ok ())

/-- What is left of a call. -/
abbrev LifecycleProgram (α : Type) : Type := Program LifecycleOp LifecycleOp.Reply α

/-! ## The managers -/

def managedByAnnotation : String := "hnb.io/managed-by"
def tenantAnnotation : String := "hnb.io/tenant-id"
def targetAnnotation : String := "hnb.io/target-id"
def operationAnnotation : String := "hnb.io/operation-id"
def fencingAnnotation : String := "hnb.io/fencing-generation"
def versionAnnotation : String := "hnb.io/desired-version"
def endpointAnnotation : String := "hnb.io/cloudcore-endpoint"

structure ManagerTexts where
  (providerValue namespaceStem checkpointStem apply notManaged create get update delete : String)
  (foreign kubeconfig : String)

def ManagerKind.texts : ManagerKind → ManagerTexts
  | kubernetes =>
    { providerValue := "hnb-kubernetes-lifecycle-provider"
      namespaceStem := "hnb-target-"
      checkpointStem := ""
      apply := "apply lifecycle action"
      notManaged := "target is not managed by this lifecycle provider"
      create := "create managed namespace"
      get := "get managed namespace"
      update := "update managed namespace"
      delete := "delete managed namespace"
      foreign := "namespace is not managed by this provider"
      kubeconfig := "resolved kubeconfig is required for kubernetes lifecycle actions" }
  | edge =>
    { providerValue := "hnb-edge-lifecycle-provider"
      namespaceStem := "hnb-edge-"
      checkpointStem := "edge:"
      apply := "apply edge lifecycle action"
      notManaged := "target is not managed by this edge lifecycle provider"
      create := "create edge managed namespace on CloudCore"
      get := "get edge managed namespace"
      update := "update edge managed namespace"
      delete := "delete edge managed namespace"
      foreign := "namespace is not managed by this edge provider"
      kubeconfig := "resolved kubeconfig is required for edge lifecycle actions" }

def namespaceName (kind : ManagerKind) (targetId : String) : String :=
  kind.texts.namespaceStem ++ String.ofList (targetId.toList.take 8)

variable {α : Type} (kind : ManagerKind) (execution : ExecutionContext) (input : LifecycleInput)

/-- The namespace a target is given. -/
def managedNamespace : Namespace where
  annotations := stringMap (
    [.mk managedByAnnotation kind.texts.providerValue, .mk tenantAnnotation execution.tenantId,
      .mk targetAnnotation input.targetId, .mk operationAnnotation execution.operationId,
      .mk fencingAnnotation (toString execution.fencingGeneration),
      .mk versionAnnotation input.desiredVersion]
    ++ match kind with
      | .kubernetes => []
      | .edge => [.mk endpointAnnotation input.cloudCoreEndpoint])
  labels := stringMap [("hnb.io/managed-by", kind.texts.providerValue),
    ("hnb.io/target-id", input.targetId)]

section Requests

variable (next : Except StatusError Unit → LifecycleProgram α)

/-- `k8sClient`. A client that is kept from an earlier call is one that `clientFunc` gives. -/
def k8sClient (proceed : LifecycleProgram α) : LifecycleProgram α :=
  match execution.inputs.find? fun input => input.1 == "_resolvedSecretContent" with
  | some (_, .str kubeconfig) =>
    if kubeconfig = "" then next (.error (invalid kind.texts.kubeconfig))
    else .call (.newClient kubeconfig) fun
      | .error reason => next (.error (invalid ("invalid kubeconfig: " ++ reason)))
      | .ok () => proceed
  | _ => next (.error (invalid kind.texts.kubeconfig))

/-- `provisionNamespace` and `provisionCloudCoreNamespace`. -/
def provisionNamespace : LifecycleProgram α :=
  k8sClient kind execution next <|
  .call (.cluster (.create (namespaceName kind input.targetId)
    (managedNamespace kind execution input))) fun
  | .ok _ => next (.ok ())
  | .error err => next (.error (targetError kind.texts.create err))

def validateConnectivity : LifecycleProgram α :=
  k8sClient kind execution next <|
  .call .serverVersion fun
  | .ok () => next (.ok ())
  | .error err => next (.error (targetError "validate kubernetes connectivity" err))

/-- The namespace is the provider's, and the tenant's. -/
def checkNamespace (n : Namespace) : Except StatusError Unit :=
  if n.annotationAt managedByAnnotation ≠ kind.texts.providerValue then
    .error (conflict kind.texts.foreign)
  else if n.annotationAt tenantAnnotation ≠ execution.tenantId then
    .error (conflict "namespace belongs to a different tenant")
  else .ok ()

def Namespace.upgraded (n : Namespace) : Namespace :=
  let annotations := n.annotations.insert versionAnnotation input.desiredVersion
  { n with annotations :=
      annotations.insert fencingAnnotation (toString execution.fencingGeneration) }

/-- The namespace of the target is read and checked: the beginning of `updateVersion` and of
    `cleanupNamespace`. -/
def checkedNamespace (proceed : Stored String Namespace → LifecycleProgram α) :
    LifecycleProgram α :=
  .call (.cluster (.get (namespaceName kind input.targetId))) fun
  | .error err => next (.error (targetError kind.texts.get err))
  | .ok existing =>
  match checkNamespace kind execution existing.value with
  | .error err => next (.error err)
  | .ok () => proceed existing

def updateVersion : LifecycleProgram α :=
  k8sClient kind execution next <|
  checkedNamespace kind execution input next fun existing =>
  .call (.cluster (.update { existing with value := existing.value.upgraded execution input })) fun
  | .ok _ => next (.ok ())
  | .error err => next (.error (targetError kind.texts.update err))

def cleanupNamespace : LifecycleProgram α :=
  k8sClient kind execution next <|
  checkedNamespace kind execution input next fun _ =>
  .call (.cluster (.delete (namespaceName kind input.targetId))) fun
  | .ok () => next (.ok ())
  | .error err => next (.error (targetError kind.texts.delete err))

/-- An action the manager does not know. -/
def unsupported : LifecycleProgram α :=
  next (.error ⟨400, .unsupportedAction, false, "unsupported action " ++ quoted input.action⟩)

/-- The switch in `KubernetesManager.Apply`. -/
def KubernetesManager.act : LifecycleProgram α :=
  if input.action = "create" then provisionNamespace .kubernetes execution input next
  else if input.action = "import" then validateConnectivity .kubernetes execution next
  else if input.action = "upgrade" then updateVersion .kubernetes execution input next
  else if input.action = "unmanage" then cleanupNamespace .kubernetes execution input next
  else unsupported input next

/-- The switch in `EdgeManager.Apply`. -/
def EdgeManager.act : LifecycleProgram α :=
  if input.action = "import" then provisionNamespace .edge execution input next
  else if input.action = "upgrade" then updateVersion .edge execution input next
  else if input.action = "unmanage" then cleanupNamespace .edge execution input next
  else unsupported input next

def act : LifecycleProgram α :=
  match kind with
  | .kubernetes => KubernetesManager.act execution input next
  | .edge => EdgeManager.act execution input next

end Requests

/-! ## What an action does -/

/-- The change that an action makes; `found` is what is known of a namespace that was read. -/
inductive ActionChange (found : Stored String Namespace → Prop) : NamespaceRequest → Prop where
  | create : ActionChange found
      (.create (namespaceName kind input.targetId) (managedNamespace kind execution input))
  | update (o : Stored String Namespace) (h : found o)
      (hcheck : checkNamespace kind execution o.value = .ok ()) :
      ActionChange found
        (.update { o with value := o.value.upgraded execution input })
  | delete (o : Stored String Namespace) (h : found o)
      (hcheck : checkNamespace kind execution o.value = .ok ()) :
      ActionChange found (.delete (namespaceName kind input.targetId))

/-- What a condition `W` on the rest of a call has to meet, so that it can be shown of an action: `I`
    holds before the change and `J` after it. -/
structure ActionRules (W : LifecycleProgram α → LifecycleState → Prop)
    (I J : LifecycleState → Prop) (found : Stored String Namespace → Prop) : Prop where
  ends : ∀ s, I s → J s
  asks : ∀ {s op} {next : op.Reply → LifecycleProgram α}, (∀ kind r, op ≠ .writeRecord kind r) →
    (∀ request, op ≠ .cluster request) → I s → (∀ answer s, I s → W (next answer) s) →
    W (.call op next) s
  reads : ∀ {s next}, I s →
    (∀ answer s, I s → (∀ o, answer = .ok o → found o) → W (next answer) s) →
    W (.call (.cluster (.get (namespaceName kind input.targetId))) next) s
  changes : ∀ {s request next}, ActionChange kind execution input found request → I s →
    (∀ answer s, J s → W (next answer) s) → W (.call (.cluster request) next) s

namespace ActionRules

variable {kind execution input}
  {W : LifecycleProgram α → LifecycleState → Prop} {I J : LifecycleState → Prop}
  {found : Stored String Namespace → Prop} {next : Except StatusError Unit → LifecycleProgram α}
  {s : LifecycleState} (h : ActionRules kind execution input W I J found)
  (hnext : ∀ result s, J s → W (next result) s)
include h hnext

theorem client {proceed : LifecycleProgram α} (hproceed : ∀ s, I s → W proceed s) (hs : I s) :
    W (k8sClient kind execution next proceed) s := by
  unfold k8sClient
  split
  · split
    · exact hnext _ s (h.ends s hs)
    refine h.asks (by simp) (by simp) hs fun answer s hs => ?_
    rcases answer with reason | ⟨⟩
    · exact hnext _ s (h.ends s hs)
    · exact hproceed s hs
  · exact hnext _ s (h.ends s hs)

theorem checked {proceed : Stored String Namespace → LifecycleProgram α}
    (hproceed : ∀ o s, I s → found o → checkNamespace kind execution o.value = .ok () →
      W (proceed o) s) (hs : I s) : W (checkedNamespace kind execution input next proceed) s := by
  refine h.reads hs fun answer s hs hfound => ?_
  rcases answer with err | o
  · exact hnext _ s (h.ends s hs)
  rcases hcheck : checkNamespace kind execution o.value with err | ⟨⟩
  · simp only [hcheck]
    exact hnext _ s (h.ends s hs)
  · simp only [hcheck]
    exact hproceed o s hs (hfound o rfl) hcheck

theorem change {request : NamespaceRequest} {rest : request.Reply → LifecycleProgram α}
    (hchange : ActionChange kind execution input found request)
    (hrest : ∀ answer, ∃ result, rest answer = next result) (hs : I s) :
    W (.call (.cluster request) rest) s := by
  refine h.changes hchange hs fun answer s hs => ?_
  obtain ⟨result, hresult⟩ := hrest answer
  rw [hresult]
  exact hnext result s hs

theorem action (hs : I s) : W (act kind execution input next) s := by
  have hprovision : W (provisionNamespace kind execution input next) s := by
    refine h.client hnext (fun s hs => h.change hnext .create (fun answer => ?_) hs) hs
    cases answer <;> exact ⟨_, rfl⟩
  have hvalidate : W (validateConnectivity kind execution next) s := by
    refine h.client hnext (fun s hs => h.asks (by simp) (by simp) hs fun answer s hs => ?_) hs
    cases answer <;> exact hnext _ s (h.ends s hs)
  have hupdate : W (updateVersion kind execution input next) s := by
    refine h.client hnext (fun s hs => h.checked hnext (fun o s hs ho hcheck => ?_) hs) hs
    refine h.change hnext (.update o ho hcheck) (fun answer => ?_) hs
    cases answer <;> exact ⟨_, rfl⟩
  have hcleanup : W (cleanupNamespace kind execution input next) s := by
    refine h.client hnext (fun s hs => h.checked hnext (fun o s hs ho hcheck => ?_) hs) hs
    refine h.change hnext (.delete o ho hcheck) (fun answer => ?_) hs
    cases answer <;> exact ⟨_, rfl⟩
  have hunsupported : W (unsupported input next) s := hnext _ s (h.ends s hs)
  cases kind with
  | kubernetes =>
    simp only [act, KubernetesManager.act]
    split_ifs <;> assumption
  | edge =>
    simp only [act, EdgeManager.act]
    split_ifs <;> assumption

end ActionRules

/-! ## Apply -/

def validateFencing : Except StatusError Unit :=
  if input.fencingGeneration ≠ execution.fencingGeneration then
    .error (invalid "inputs.fencingGeneration must match execution fencing_generation")
  else if execution.fencingGeneration ≤ 0 then
    .error (invalid "fencing_generation must be positive")
  else .ok ()

/-- The attempt that left the record is the one that is being made. -/
def TargetRecord.isReplay (r : TargetRecord) (execution : ExecutionContext)
    (input : LifecycleInput) : Bool :=
  r.stepId == execution.stepId && r.operationId == execution.operationId
    && r.idempotencyKey == execution.idempotencyKey
    && r.executionAttemptId == execution.executionAttemptId && r.action == input.action

/-- The checks of a record: `some` is the answer to a replay. -/
def checkRecord (kind : ManagerKind) (record : Option TargetRecord) (execution : ExecutionContext)
    (input : LifecycleInput) : Except StatusError (Option Result) := do
  if let some r := record then
    if r.tenantId ≠ execution.tenantId ∨ r.targetKind ≠ input.targetKind then
      throw (conflict "target management relation belongs to a different tenant or kind")
    if execution.fencingGeneration < r.fencingGeneration then
      throw ⟨409, .fenced, false, "target fencing generation " ++ toString r.fencingGeneration
        ++ " is newer than request generation " ++ toString execution.fencingGeneration⟩
    if r.fencingGeneration = execution.fencingGeneration then
      if r.isReplay execution input then return some ⟨r.outputs, r.checkpoint⟩
      else throw (conflict "equal-generation lifecycle action is not an exact replay")
  if input.action = "unmanage" ∧ (record.map TargetRecord.managed).getD false = false then
    throw (conflict kind.texts.notManaged)
  return none

/-- The record a call leaves, with the outputs and the checkpoint it answers. -/
def newRecord : TargetRecord where
  tenantId := execution.tenantId
  targetId := input.targetId
  targetKind := input.targetKind
  action := input.action
  stepId := execution.stepId
  operationId := execution.operationId
  idempotencyKey := execution.idempotencyKey
  executionAttemptId := execution.executionAttemptId
  fencingGeneration := execution.fencingGeneration
  managed := input.action != "unmanage"
  desiredVersion := input.desiredVersion
  outputs :=
    [("targetId", input.targetId), ("targetKind", input.targetKind), ("action", input.action),
      ("managed", toString (input.action != "unmanage")),
      ("observationKind", kind.profile.observationKind)]
    ++ (if input.desiredVersion ≠ "" then [("desiredVersion", input.desiredVersion)] else [])
    ++ match kind with
      | .kubernetes => []
      | .edge => if input.cloudCoreEndpoint ≠ "" then
          [("cloudCoreEndpoint", input.cloudCoreEndpoint)] else []
  checkpoint := kind.texts.checkpointStem ++ input.targetKind ++ ":" ++ input.targetId ++ ":"
    ++ toString execution.fencingGeneration

/-- `Apply`, and what goes on with its result. -/
def apply (next : Except StatusError Result → LifecycleProgram α) : LifecycleProgram α :=
  .call .contextErr fun
  | true => next (.error (targetError kind.texts.apply .cancelled))
  | false =>
  match validateFencing execution input with
  | .error err => next (.error err)
  | .ok () =>
  .call (.readRecord kind input.targetId) fun record =>
  match checkRecord kind record execution input with
  | .error err => next (.error err)
  | .ok (some result) => next (.ok result)
  | .ok none =>
  act kind execution input fun
  | .error err => next (.error err)
  | .ok () =>
  .call (.writeRecord kind (newRecord kind execution input)) fun () =>
  next (.ok ⟨(newRecord kind execution input).outputs, (newRecord kind execution input).checkpoint⟩)

/-- A call of `Apply`. -/
structure ApplyCall where
  kind : ManagerKind
  execution : ExecutionContext
  input : LifecycleInput

def ApplyCall.program (call : ApplyCall) : LifecycleProgram (Except StatusError Result) :=
  apply call.kind call.execution call.input .done

/-- Nothing is recorded, and there is no namespace. -/
def LifecycleState.empty : LifecycleState where
  targets _ := .empty
  observers _ := ∅
  namespaces := .empty

@[simp] theorem LifecycleState.namespaces_empty : LifecycleState.empty.namespaces = .empty := rfl

/-- A provider starts again: its records and its observers are lost. -/
def LifecycleState.restart (s : LifecycleState) (kind : ManagerKind) : LifecycleState :=
  { s with targets := update s.targets kind .empty
           observers := update s.observers kind ∅ }

/-- A call for the tenant `t1`, to Kubernetes targets. -/
def sampleCall (targetId action : String) (generation : Int) (h : Fits 64 generation) :
    ApplyCall where
  kind := .kubernetes
  execution :=
    { stepId := "s1", operationId := "o1", tenantId := "t1", projectId := "", environmentId := "",
      stepType := "", inputs := [("_resolvedSecretContent", .str "kubeconfig")],
      providerId := "runtime-target.lifecycle.kubernetes", providerVersion := "1.0.0",
      providerDigest := "", providerProtocolVersion := "2.0.0", checkpoint := "",
      idempotencyKey := "k1", executionAttemptId := "6f2b7c1e-8a54-4f0e-9b11-1f4b5a6c7d8e",
      fencingGeneration := generation, int64 := h }
  input :=
    { schemaVersion := "1.0.0", targetId := targetId, targetKind := "KubernetesTarget",
      action := action, displayName := "cluster", desiredVersion := "1.30", cloudCoreEndpoint := "",
      credentialSecretRef := some ⟨"db", "t1", "kube", "1"⟩, idempotencyKey := "k1",
      fencingGeneration := generation, observationVersion := 0 }

end HnbCloud.Lifecycle
