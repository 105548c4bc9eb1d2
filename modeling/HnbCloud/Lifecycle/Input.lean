import HnbCloud.Engine.RuntimeIntent
import HnbCloud.Provider.Contract

set_option autoImplicit false

/-! # The inputs of a lifecycle step

`parseLifecycleInput` of runtime-target-lifecycle-provider: the checks an execution has to pass
before its lifecycle action is applied. The provider runs with one of two profiles, for Kubernetes
targets and for edge targets. -/

namespace HnbCloud.Lifecycle

open Provider

structure Profile where
  (providerId targetKind observationKind secretPurpose : String)
  stepActions : List (String × String)

/-- The manager a provider runs with. -/
inductive ManagerKind where
  | kubernetes
  | edge
deriving DecidableEq, Repr

/-- `ProfileForProviderID`. -/
def ManagerKind.profile : ManagerKind → Profile
  | kubernetes =>
    { providerId := "runtime-target.lifecycle.kubernetes"
      targetKind := "KubernetesTarget"
      observationKind := "Agent"
      secretPurpose := "kubeconfig"
      stepActions := [("runtime_target.kubernetes.provision-and-register", "create"),
         ("runtime_target.kubernetes.register", "import"),
         ("runtime_target.kubernetes.upgrade", "upgrade"),
         ("runtime_target.kubernetes.unregister", "unmanage")] }
  | edge =>
    { providerId := "runtime-target.lifecycle.edge"
      targetKind := "EdgeRuntimeTarget"
      observationKind := "CloudCore"
      secretPurpose := "cloudcore-client"
      stepActions := [("runtime_target.edge.register", "import"),
         ("runtime_target.edge.upgrade", "upgrade"),
         ("runtime_target.edge.unregister", "unmanage")] }

structure SecretReference where
  (provider scope name version : String)
deriving DecidableEq, Repr

structure LifecycleInput where
  (schemaVersion targetId targetKind action displayName desiredVersion cloudCoreEndpoint : String)
  credentialSecretRef : Option SecretReference
  idempotencyKey : String
  (fencingGeneration observationVersion : Int)

/-- `inputs[key]`; a missing value and `nil` are the same to the provider. -/
def input? (inputs : List (String × Json)) (key : String) : Option Json :=
  match inputs.find? fun input => input.1 == key with
  | none => none
  | some (_, .null) => none
  | some (_, value) => some value

def stringInput (inputs : List (String × Json)) (key : String) : String :=
  ((input? inputs key).map sprint).getD ""

/-- `ParseInt`, with what it returns besides an error. -/
def bestEffortInt (value : String) : Int :=
  match signedDigits? value.toList with
  | none => 0
  | some n => max (-2 ^ 63) (min n (2 ^ 63 - 1))

/-- A number is kept exact here, where the source has it as a `float64`. -/
def intInput (inputs : List (String × Json)) (key : String) : Int :=
  match input? inputs key with
  | some (.num n) => n
  | some (.str text) => bestEffortInt text
  | _ => 0

def secretRefInput (inputs : List (String × Json)) (key : String) :
    Except StatusError (Option SecretReference) :=
  match input? inputs key with
  | none => .ok none
  | some (.obj object) =>
    let ref : SecretReference :=
      { provider := stringInput object "provider", scope := stringInput object "scope",
        name := stringInput object "name", version := stringInput object "version" }
    if ref.provider = "" ∨ ref.scope = "" ∨ ref.name = "" ∨ ref.version = "" then
      .error (invalid ("inputs." ++ key ++ " must include provider, scope, name, and version"))
    else .ok (some ref)
  | some _ => .error (invalid ("inputs." ++ key ++ " must be an object"))

def allowedKeys (targetKind : String) : List String :=
  ["schemaVersion", "targetId", "targetKind", "action", "displayName", "desiredVersion",
    "credentialSecretRef", "idempotencyKey", "fencingGeneration", "observationVersion"]
    ++ if targetKind = "EdgeRuntimeTarget" then ["cloudCoreEndpoint", "nodeGroupMappings"] else []

def validateCloudCoreEndpoint (urls : Engine.UrlParser) (raw : String) : Except StatusError Unit :=
  let malformed := invalid "inputs.cloudCoreEndpoint must be an https or wss URL"
  match urls.parse raw with
  | none => .error malformed
  | some u =>
    if (u.hostname = "" ∧ u.port = "") ∨ (u.scheme ≠ "https" ∧ u.scheme ≠ "wss") then
      .error malformed
    else if u.hasUser = true ∨ u.rawQuery ≠ "" ∨ u.fragment ≠ "" then
      .error (invalid "inputs.cloudCoreEndpoint must not include userinfo, query, or fragment")
    else .ok ()

/-- The fields of the input, before its secret reference is read. -/
def readInput (inputs : List (String × Json)) : LifecycleInput where
  schemaVersion := stringInput inputs "schemaVersion"
  targetId := stringInput inputs "targetId"
  targetKind := stringInput inputs "targetKind"
  action := stringInput inputs "action"
  displayName := stringInput inputs "displayName"
  desiredVersion := stringInput inputs "desiredVersion"
  cloudCoreEndpoint := stringInput inputs "cloudCoreEndpoint"
  credentialSecretRef := none
  idempotencyKey := stringInput inputs "idempotencyKey"
  fencingGeneration := intInput inputs "fencingGeneration"
  observationVersion := intInput inputs "observationVersion"

def checkExecution (profile : Profile) (execution : ExecutionContext) :
    Except StatusError String := do
  if execution.hasIdentity = false then
    throw (invalid "tenant, operation, step, and idempotency key are required")
  if isCanonicalUuid execution.executionAttemptId = false then
    throw (invalid "execution_attempt_id must be a canonical UUID")
  match profile.stepActions.find? fun entry => entry.1 == execution.stepType with
  | none => throw ⟨400, .unsupportedAction, false,
      "unsupported step type " ++ quoted execution.stepType⟩
  | some entry => pure entry.2

def checkInput (profile : Profile) (execution : ExecutionContext) (action : String)
    (input : LifecycleInput) : Except StatusError Unit := do
  if input.schemaVersion ≠ "1.0.0" then throw (invalid "inputs.schemaVersion must be 1.0.0")
  if isCanonicalUuid input.targetId = false then
    throw (invalid "inputs.targetId must be a canonical UUID")
  if input.targetKind ≠ profile.targetKind then
    throw (invalid ("inputs.targetKind " ++ quoted input.targetKind ++ " does not match "
      ++ quoted profile.targetKind))
  if input.action ≠ action then
    throw (invalid ("step type " ++ quoted execution.stepType ++ " requires action "
      ++ quoted action))
  if input.idempotencyKey ≠ execution.idempotencyKey then
    throw (invalid "inputs.idempotencyKey must match execution idempotency_key")
  if input.fencingGeneration ≠ execution.fencingGeneration then
    throw (invalid "inputs.fencingGeneration must match execution fencing_generation")
  if input.observationVersion < 0 then
    throw (invalid "inputs.observationVersion must be non-negative")

def checkAction (urls : Engine.UrlParser) (profile : Profile) (action : String)
    (input : LifecycleInput) : Except StatusError Unit := do
  if action = "create" ∨ action = "import" then
    if input.displayName = "" ∨ 256 < input.displayName.utf8ByteSize then
      throw (invalid "inputs.displayName is required and must be <= 256 characters")
    if input.credentialSecretRef = none then
      throw (invalid ("inputs.credentialSecretRef is required for " ++ action))
  if action = "upgrade" ∧ (input.desiredVersion = "" ∨ 128 < input.desiredVersion.utf8ByteSize) then
    throw (invalid "inputs.desiredVersion is required for upgrade")
  if profile.targetKind = "EdgeRuntimeTarget" ∧ action = "import" then
    validateCloudCoreEndpoint urls input.cloudCoreEndpoint

def parseLifecycleInput (urls : Engine.UrlParser) (profile : Profile)
    (execution : ExecutionContext) : Except StatusError LifecycleInput := do
  let action ← checkExecution profile execution
  validateInputKeys execution.inputs (allowedKeys profile.targetKind)
  let input := readInput execution.inputs
  checkInput profile execution action input
  let ref ← secretRefInput execution.inputs "credentialSecretRef"
  let input := { input with credentialSecretRef := ref }
  checkAction urls profile action input
  pure input

/-! ## What passes -/

theorem checkExecution_ok_iff (profile : Profile) (execution : ExecutionContext) (action : String) :
    checkExecution profile execution = .ok action ↔ execution.hasIdentity = true
      ∧ isCanonicalUuid execution.executionAttemptId = true
      ∧ (profile.stepActions.find? fun entry => entry.1 == execution.stepType).map Prod.snd
        = some action := by
  simp only [checkExecution, bind, Except.bind, throw, throwThe, MonadExceptOf.throw, pure,
    Except.pure]
  generalize profile.stepActions.find? (fun entry => entry.1 == execution.stepType) = entry
  cases execution.hasIdentity <;> cases isCanonicalUuid execution.executionAttemptId <;>
    rcases entry with _ | ⟨stepType, action'⟩ <;> simp

theorem validateInputKeys_ok_iff (inputs : List (String × Json)) (allowed : List String) :
    validateInputKeys inputs allowed = .ok () ↔ ∀ input ∈ inputs, input.1 ∈ allowed := by
  unfold validateInputKeys
  split
  · next hfind => simpa [List.find?_eq_none] using hfind
  next input hfind =>
  have hmem := List.mem_of_find?_eq_some hfind
  have hnot := List.find?_some hfind
  simp only [reduceCtorEq, false_iff]
  intro h
  simp [h input hmem] at hnot

theorem checkInput_ok_iff (profile : Profile) (execution : ExecutionContext) (action : String)
    (input : LifecycleInput) :
    checkInput profile execution action input = .ok () ↔ input.schemaVersion = "1.0.0"
      ∧ isCanonicalUuid input.targetId = true ∧ input.targetKind = profile.targetKind
      ∧ input.action = action ∧ input.idempotencyKey = execution.idempotencyKey
      ∧ input.fencingGeneration = execution.fencingGeneration ∧ 0 ≤ input.observationVersion := by
  simp only [checkInput, bind, Except.bind, throw, throwThe, MonadExceptOf.throw, pure, Except.pure]
  split_ifs <;> simp_all

theorem parseLifecycleInput_ok_iff (urls : Engine.UrlParser) (profile : Profile)
    (execution : ExecutionContext) (input : LifecycleInput) :
    parseLifecycleInput urls profile execution = .ok input ↔ ∃ action ref,
      checkExecution profile execution = .ok action
        ∧ validateInputKeys execution.inputs (allowedKeys profile.targetKind) = .ok ()
        ∧ checkInput profile execution action (readInput execution.inputs) = .ok ()
        ∧ secretRefInput execution.inputs "credentialSecretRef" = .ok ref
        ∧ checkAction urls profile action
          { readInput execution.inputs with credentialSecretRef := ref } = .ok ()
        ∧ input = { readInput execution.inputs with credentialSecretRef := ref } := by
  simp only [parseLifecycleInput, bind, Except.bind, pure, Except.pure]
  rcases checkExecution profile execution with err | action
  · simp
  rcases validateInputKeys execution.inputs (allowedKeys profile.targetKind) with err | ⟨⟩
  · simp
  dsimp only
  rcases hinput : checkInput profile execution action (readInput execution.inputs) with err | ⟨⟩
  · simp [hinput]
  rcases secretRefInput execution.inputs "credentialSecretRef" with err | ref
  · simp
  rcases haction : checkAction urls profile action
    { readInput execution.inputs with credentialSecretRef := ref } with err | ⟨⟩
  · simp [haction]
  · simp [hinput, haction, eq_comm]

end HnbCloud.Lifecycle
