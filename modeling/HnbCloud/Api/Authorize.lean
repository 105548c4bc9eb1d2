import HnbCloud.Api.Routes

set_option autoImplicit false

/-! # Authorization of the platform API

`platform-api/internal/api/server.go`: what a handler checks before it does its work. `authorize` and
`hasAuthorizationCandidate` look the permission up with `matchRoute`, and the handlers of operations
also accept a delegation, whose action they take from the end of the path.

The permission that is checked is the declared one for every pattern but `reject` and `cancel` of an
operation, which are decided by the permission to approve. -/

namespace HnbCloud.Api

open Iam List Option Registration

/-! ## A request on its way to a handler -/

structure ResourceScope where
  (projectId environmentId namespaceId : String)
deriving DecidableEq, Repr

def ResourceScope.none : ResourceScope := ⟨"", "", ""⟩

/-- `DelegationClaims`, as far as the handlers of operations read them. -/
structure Delegation where
  (actorSubject tenantId resourceKind resourceId : String)
  action : Action
  correlationId : String
deriving DecidableEq, Repr

/-- How `handleSubmitIntent` goes on with a body. -/
inductive IntentBody where
  /-- It is refused before any permission is checked. -/
  | refused (text : String)
  /-- An intent on a cluster or on storage has a commitment of its own, which is checked instead. -/
  | commitment
  | other
deriving DecidableEq, Repr

/-- A request with what authentication, the stores and its body have to say. -/
structure Exchange where
  request : Request
  /-- `X-AI-Source` is one of the two sources whose writes have to name an operation. -/
  aiSource : Bool
  /-- `X-Operation-Id`. -/
  operationId : String
  /-- `TrustedContextFrom`. -/
  trusted : Option TrustedContext
  /-- The correlation id of the trusted context. -/
  correlationId : String
  /-- `X-Correlation-ID`, trimmed. -/
  correlationHeader : String
  /-- `DelegationClaimsFrom`. -/
  delegation : Option Delegation
  /-- `ResolvePermissions`, if a resolver is configured: the policy version and the permissions, or
      an error. -/
  resolver : Option (Option (String × List ScopedPermission))
  /-- The scope that the body names, or nothing if the body is refused. -/
  body : Option ResourceScope
  intent : IntentBody
  /-- The scope of the row that the store returns, or an error. -/
  stored : Option ResourceScope

open Exchange

/-- Why a handler stops. -/
inductive Refusal where
  | noRoute
  | unauthorized
  | aiBypass
  | invalidRequest (text : String)
  | delegationEvidenceMismatch
  | permissionsUnresolved
  | invalidPolicySnapshot
  /-- The permissions of a context do not cover this action on this resource. -/
  | denied (trusted : TrustedContext) (resourceKind : String) (action : Action) (resourceId : String)
  | storeError
deriving DecidableEq, Repr

/-! ## The checks -/

/-- The marker of the wildcard `id`. -/
def idMarker : List Char := "\x7bid\x7d".toList

/-- The text before the first occurrence of a marker. -/
def textBefore (marker : List Char) : List Char → Option (List Char)
  | [] => if marker = [] then some [] else none
  | c :: text =>
    if marker.isPrefixOf (c :: text) then some [] else (textBefore marker text).map (c :: ·)

/-- `extractPathParam` for the wildcard `id`. -/
def extractPathParam (path : List Char) (pattern : String) : String :=
  match textBefore idMarker pattern.toList with
  | none => ""
  | some before =>
    String.ofList (if before.isPrefixOf path then path.drop before.length else path)

/-- The request that is evaluated. -/
def authorizationRequest (trusted : TrustedContext) (resourceKind resourceId : String)
    (action : Action) (scope : ResourceScope) : AuthorizationRequest where
  subjectId := trusted.subjectId
  tenantId := trusted.tenantId
  resourceKind := resourceKind
  resourceId := resourceId
  action := action
  projectId := scope.projectId
  environmentId := scope.environmentId
  namespaceId := scope.namespaceId

/-- A check of the evaluator. -/
def evaluated (trusted : TrustedContext) (resourceKind resourceId : String) (action : Action)
    (scope : ResourceScope) : Except Refusal Unit :=
  if (evaluate trusted (authorizationRequest trusted resourceKind resourceId action scope)).allowed
  then .ok ()
  else .error (.denied trusted resourceKind action resourceId)

namespace Exchange

variable (x : Exchange)

/-- The entry of `platformRoutes` for the request. -/
def route : Option PlatformRoute := matchRoute platformRoutes x.request.method x.request.path

def authorize (trusted : Option TrustedContext) (resourceId : String) (scope : ResourceScope) :
    Except Refusal Unit :=
  match x.route with
  | none => .error .noRoute
  | some route =>
  if route.isPublic then .ok ()
  else
  match trusted with
  | none => .error .unauthorized
  | some trusted =>
    let resourceId :=
      if resourceId = "" then extractPathParam x.request.path route.pattern else resourceId
    evaluated trusted route.resourceKind resourceId route.action scope

/-- The test of a permission in `hasAuthorizationCandidate`. -/
def isCandidate (route : PlatformRoute) (resourceId : String) (trusted : TrustedContext)
    (permission : ScopedPermission) : Bool :=
  permission.tenantId == trusted.tenantId && permission.action == route.action
    && (permission.resourceKind == "*" || permission.resourceKind == route.resourceKind)
    && (permission.resourceId == "" || permission.resourceId == resourceId)

def hasAuthorizationCandidate (trusted : Option TrustedContext) (resourceId : String) :
    Except Refusal Unit :=
  match trusted, x.route with
  | some trusted, some route =>
    if route.isPublic = true ∨ validPermissionSnapshot trusted.policyVersion
        trusted.scopedPermissions trusted.tenantId = false then .error .invalidPolicySnapshot
    else if trusted.scopedPermissions.any (isCandidate route resourceId trusted) then .ok ()
    else .error (.denied trusted route.resourceKind route.action resourceId)
  | _, _ => .error .invalidPolicySnapshot

/-- The context with the permissions that the resolver returns. -/
def resolved (trusted : TrustedContext) : Except Refusal TrustedContext :=
  match x.resolver with
  | none => .ok trusted
  | some none => .error .permissionsUnresolved
  | some (some (policyVersion, permissions)) =>
    .ok { trusted with policyVersion := policyVersion, scopedPermissions := permissions }

/-- `delegationOperationEvidence`: the context to go on with. -/
def delegationOperationEvidence (id : String) (expectedAction : Action) :
    Except Refusal (Option TrustedContext) :=
  match x.delegation, x.trusted with
  | none, trusted => .ok trusted
  | some _, none => .error .delegationEvidenceMismatch
  | some delegation, some trusted =>
  if delegation.resourceKind ≠ "operation" ∨ delegation.resourceId ≠ id
      ∨ delegation.action ≠ expectedAction ∨ delegation.tenantId ≠ trusted.tenantId
      ∨ delegation.actorSubject ≠ trusted.subjectId ∨ delegation.correlationId ≠ x.correlationId
      ∨ delegation.correlationId ≠ x.correlationHeader then .error .delegationEvidenceMismatch
  else
  match x.resolved trusted with
  | .error err => .error err
  | .ok trusted =>
  match evaluated trusted "operation" id expectedAction
      ⟨trusted.projectId, trusted.environmentId, trusted.namespaceId⟩ with
  | .error err => .error err
  | .ok () => .ok (some trusted)

/-! ## The handlers, up to their work -/

/-- A handler that makes one check, in the context of the request. -/
def authorized (resourceId : String) (scope : ResourceScope) :
    Except Refusal (Option TrustedContext) :=
  match x.authorize x.trusted resourceId scope with
  | .error err => .error err
  | .ok () => .ok x.trusted

/-- A handler whose resource is looked up between a first check and `authorize`. -/
def authorizedStored (trusted : Option TrustedContext) (id : String)
    (scope : ResourceScope → ResourceScope) : Except Refusal (Option TrustedContext) :=
  match x.hasAuthorizationCandidate trusted id with
  | .error err => .error err
  | .ok () =>
  match x.stored with
  | none => .error .storeError
  | some stored =>
  match x.authorize trusted id (scope stored) with
  | .error err => .error err
  | .ok () => .ok trusted

/-- A handler with the first check only. -/
def authorizedCandidate (id : String) : Except Refusal (Option TrustedContext) :=
  match x.hasAuthorizationCandidate x.trusted id with
  | .error err => .error err
  | .ok () => .ok x.trusted

def handleSubmitOperation : Except Refusal (Option TrustedContext) :=
  match x.body with
  | none => .error (.invalidRequest "invalid_request")
  | some scope => x.authorized "" scope

def handleCreateRuntimeTarget : Except Refusal (Option TrustedContext) :=
  match x.body with
  | none => .error (.invalidRequest "invalid_request")
  | some _ => x.authorized "" .none

/-- `handleGetOperation` and `handleAction`, for the action that a delegation has to name. -/
def handleOperation (id : String) (expectedAction : Action) :
    Except Refusal (Option TrustedContext) :=
  if isUuid id = false then .error (.invalidRequest "operation id must be a UUID")
  else
  match x.delegationOperationEvidence id expectedAction with
  | .error err => .error err
  | .ok trusted => x.authorizedStored trusted id (fun scope => scope)

/-- The action that `handleAction` expects of a delegation. -/
def expectedAction : Action :=
  if "/approve".toList.isSuffixOf x.request.path then .approve
  else if "/reject".toList.isSuffixOf x.request.path then .reject
  else if "/cancel".toList.isSuffixOf x.request.path then .cancel
  else .execute

def handleAction (id : String) : Except Refusal (Option TrustedContext) :=
  x.handleOperation id x.expectedAction

def handleListOperations : Except Refusal (Option TrustedContext) :=
  match x.delegationOperationEvidence "" .list with
  | .error err => .error err
  | .ok trusted =>
  match x.authorize trusted "" .none with
  | .error err => .error err
  | .ok () => .ok trusted

/-- `handleGetRuntimeTarget` and `handleDeleteRuntimeTarget`. -/
def handleRuntimeTarget (id : String) : Except Refusal (Option TrustedContext) :=
  if isUuid id = false then .error (.invalidRequest "target id must be a UUID")
  else x.authorizedStored x.trusted id fun _ => .none

/-- The part of `handleSubmitIntent` that ends with `authorize`. -/
def authorizedIntent : Except Refusal (Option TrustedContext) :=
  match x.trusted with
  | none => .error .unauthorized
  | some trusted =>
  match x.resolved trusted with
  | .error err => .error err
  | .ok trusted =>
  match x.authorize (some trusted) "" .none with
  | .error err => .error err
  | .ok () => .ok (some trusted)

end Exchange

/-- What a handler checks, and the context it goes on with. Nothing stands for the handlers that are
    public or check something else: a commitment, or the delegation that carries the request. -/
def Handler.authorization (x : Exchange) (id : String) :
    Handler → Option (Except Refusal (Option TrustedContext))
  | .health | .livez | .startupz | .readyz | .consoleBootstrap => none
  | .registerSecret | .updateClusterDescription | .issueClusterKubeconfig => none
  | .submitIntent =>
    match x.intent with
    | .refused text => some (.error (.invalidRequest text))
    | .commitment => none
    | .other => some x.authorizedIntent
  | .createRuntimeIntentBatch => some (x.authorized "" .none)
  | .submitOperation => some x.handleSubmitOperation
  | .listOperations => some x.handleListOperations
  | .getOperation => some (x.handleOperation id .read)
  | .approve => some (x.handleAction id)
  | .reject => some (x.handleAction id)
  | .cancel => some (x.handleAction id)
  | .createRuntimeTarget => some x.handleCreateRuntimeTarget
  | .listRuntimeTargets => some (x.authorized "" .none)
  | .getRuntimeTarget => some (x.handleRuntimeTarget id)
  | .deleteRuntimeTarget => some (x.handleRuntimeTarget id)
  | .createCluster => some (x.authorized "" .none)
  | .getClusters => some (x.authorized "" .none)
  | .getCluster => some (x.authorizedCandidate id)
  | .updateCluster => some (x.authorizedCandidate id)
  | .deleteCluster => some (x.authorizedCandidate id)
  | .heartbeatCluster => some (x.authorizedCandidate id)
  | .saveManifest => some (x.authorized id .none)
  | .getManifest => some (x.authorized id .none)
  | .deleteManifest => some (x.authorized id .none)
  | .saveCompatibility => some (x.authorized "" .none)
  | .checkCompatibility => some (x.authorized "" .none)

/-! ## ServeHTTP -/

def Method.isWrite : Method → Bool
  | .post | .put | .patch | .delete => true
  | _ => false

/-- How a request ends. -/
inductive Served where
  /-- The guard of `ServeHTTP` stops it. -/
  | guarded (refusal : Refusal)
  /-- The mux redirects it or has no handler for it. -/
  | notDispatched
  | handled (registration : Registration) (id : String)
      (authorization : Option (Except Refusal (Option TrustedContext)))
deriving DecidableEq

/-- `ServeHTTP`, after authentication. -/
def serve (x : Exchange) : Served :=
  match x.route with
  | none => .guarded .noRoute
  | some route =>
  if route.isPublic = false ∧ x.trusted = none then .guarded .unauthorized
  else if x.aiSource = true ∧ x.request.method.isWrite = true ∧ x.operationId = "" then
    .guarded .aiBypass
  else
  match dispatch x.request with
  | none => .notDispatched
  | some (registration, id) =>
    .handled registration id (registration.handler.authorization x id)

/-! ## What a check says about permissions -/

/-- A permission of the context is for the action of the entry, on its kind of resource and on this
    id. -/
def Holds (trusted : Option TrustedContext) (route : PlatformRoute) (id : String) : Prop :=
  ∃ context, trusted = some context
    ∧ context.scopedPermissions.any (isCandidate route id context) = true

/-- The permission that was checked is that of the entry: a handler goes on only with a context that
    holds it, and denies a context that holds it only on account of it. -/
def ChecksEntry (route : PlatformRoute) (id : String) : Except Refusal (Option TrustedContext) → Prop
  | .ok trusted => Holds trusted route id
  | .error (.denied trusted resourceKind action resourceId) =>
    Holds (some trusted) route id →
      resourceKind = route.resourceKind ∧ action = route.action ∧ resourceId = id
  | .error _ => True

variable {context : TrustedContext} {refusal : Refusal}

section Checks

variable {x : Exchange} {route : PlatformRoute} {id : String} {trusted : Option TrustedContext}
  {scope : ResourceScope}

/-- The refusal of a check that fails. -/
def Refusal.IsOf (route : PlatformRoute) (id : String) : Refusal → Prop
  | .denied _ resourceKind action resourceId =>
    resourceKind = route.resourceKind ∧ action = route.action ∧ resourceId = id
  | _ => True

theorem checksEntry_error (h : refusal.IsOf route id) : ChecksEntry route id (.error refusal) := by
  cases refusal with
  | denied => exact fun _ => h
  | _ => trivial

/-- A check that is passed was covered by a permission for the entry, and one that fails is refused
    on account of it. -/
def Checked (route : PlatformRoute) (id : String) (trusted : Option TrustedContext) :
    Except Refusal Unit → Prop
  | .ok () => Holds trusted route id
  | .error refusal => refusal.IsOf route id

variable {check : Except Refusal Unit}

theorem Checked.isOf (h : Checked route id trusted check)
    (hcheck : check = .error refusal) : refusal.IsOf route id := by
  rwa [hcheck] at h

/-- A handler goes on after a check. -/
theorem Checked.entry {rest : Except Refusal (Option TrustedContext)} :
    Checked route id trusted check → (Holds trusted route id → ChecksEntry route id rest) →
      ChecksEntry route id (match check with | .error err => .error err | .ok () => rest) := by
  intro h hrest
  cases check with
  | error => exact checksEntry_error h
  | ok => exact hrest h

theorem checked_evaluated :
    Checked route id (some context)
      (evaluated context route.resourceKind id route.action scope) := by
  unfold evaluated
  split
  · next hallowed =>
    obtain ⟨-, -, -, hcovers⟩ := (evaluate_allowed_iff _ _).1 hallowed
    obtain ⟨permission, hmem, hcovers⟩ := any_eq_true.1 hcovers
    refine ⟨context, rfl, any_eq_true.2 ⟨permission, hmem, ?_⟩⟩
    simp only [ScopedPermission.covers, authorizationRequest, Bool.and_eq_true] at hcovers
    simp [isCandidate, hcovers]
  · exact ⟨rfl, rfl, rfl⟩

/-- The entry is found for the request, it is not public, and the id is given if the pattern has
    one. -/
structure Exchange.Finds (x : Exchange) (route : PlatformRoute) (id : String) : Prop where
  found : x.route = some route
  isPrivate : route.isPublic = false
  extracted : id = "" → extractPathParam x.request.path route.pattern = ""

section Finds

variable (hfinds : x.Finds route id)

include hfinds

theorem authorize_eq (context : TrustedContext) :
    x.authorize (some context) id scope
      = evaluated context route.resourceKind id route.action scope := by
  have hid : (if id = "" then extractPathParam x.request.path route.pattern else id) = id := by
    split
    · next hempty => rw [hfinds.extracted hempty, hempty]
    · rfl
  unfold authorize
  rw [hfinds.found]
  simp only [hfinds.isPrivate, hid]
  rfl

theorem checked_authorize : Checked route id trusted (x.authorize trusted id scope) := by
  cases trusted with
  | none =>
    unfold authorize
    rw [hfinds.found]
    simp only [hfinds.isPrivate]
    trivial
  | some =>
    rw [authorize_eq hfinds]
    exact checked_evaluated

theorem checked_candidate : Checked route id trusted (x.hasAuthorizationCandidate trusted id) := by
  unfold hasAuthorizationCandidate
  rw [hfinds.found]
  cases trusted with
  | none => trivial
  | some context =>
    simp only
    split
    · trivial
    split
    · next hany => exact ⟨context, rfl, hany⟩
    · exact ⟨rfl, rfl, rfl⟩

/-! ## The handlers -/

theorem checks_authorized (scope : ResourceScope) : ChecksEntry route id (x.authorized id scope) := by
  exact (checked_authorize hfinds).entry fun h => h

theorem checks_authorizedCandidate : ChecksEntry route id (x.authorizedCandidate id) := by
  exact (checked_candidate hfinds).entry fun h => h

theorem checks_authorizedStored (trusted : Option TrustedContext)
    (scope : ResourceScope → ResourceScope) :
    ChecksEntry route id (x.authorizedStored trusted id scope) := by
  refine (checked_candidate hfinds).entry fun _ => ?_
  split
  · trivial
  · exact (checked_authorize hfinds).entry fun h => h

end Finds

theorem resolved_error (h : x.resolved context = .error refusal) : refusal.IsOf route id := by
  unfold Exchange.resolved at h
  split at h
  · simp at h
  · rw [← Except.error.inj h]
    trivial
  · simp at h

theorem evidence_error (hkind : route.resourceKind = "operation") {expected : Action}
    (haction : expected = route.action)
    (h : x.delegationOperationEvidence id expected = .error refusal) : refusal.IsOf route id := by
  unfold delegationOperationEvidence at h
  split at h
  · simp at h
  · rw [← Except.error.inj h]
    trivial
  split at h
  · rw [← Except.error.inj h]
    trivial
  split at h
  · next hresolved =>
    rw [← Except.error.inj h]
    exact resolved_error hresolved
  split at h
  · next heval =>
    rw [← hkind, haction] at heval
    rw [Except.error.inj h] at heval
    exact checked_evaluated.isOf heval
  · simp at h

theorem checks_handleOperation (hfinds : x.Finds route id) (hkind : route.resourceKind = "operation")
    {expected : Action} (haction : expected = route.action) :
    ChecksEntry route id (x.handleOperation id expected) := by
  unfold handleOperation
  split
  · trivial
  split
  · next h => exact checksEntry_error (evidence_error hkind haction h)
  · exact checks_authorizedStored hfinds _ _

theorem checks_handleListOperations (hfinds : x.Finds route "")
    (hkind : route.resourceKind = "operation") (haction : .list = route.action) :
    ChecksEntry route "" x.handleListOperations := by
  unfold handleListOperations
  split
  · next h => exact checksEntry_error (evidence_error hkind haction h)
  · exact (checked_authorize hfinds).entry fun h => h

theorem checks_authorizedIntent (hfinds : x.Finds route "") :
    ChecksEntry route "" x.authorizedIntent := by
  unfold authorizedIntent
  split
  · trivial
  split
  · next h => exact checksEntry_error (resolved_error h)
  · exact (checked_authorize hfinds).entry fun h => h

end Checks

/-! ## The table -/

namespace Handler

def isPublic : Handler → Bool
  | health | livez | startupz | readyz | consoleBootstrap => true
  | _ => false

def namesResource : Handler → Bool
  | getOperation | approve | reject | cancel | getRuntimeTarget | deleteRuntimeTarget | getCluster
  | updateCluster | deleteCluster | updateClusterDescription | issueClusterKubeconfig
  | heartbeatCluster | saveManifest | getManifest | deleteManifest => true
  | _ => false

def operationAction : Handler → Option Action
  | listOperations => some .list
  | getOperation => some .read
  | approve => some .approve
  | reject => some .reject
  | cancel => some .cancel
  | _ => none

end Handler

/-- The entry for a registration is public if the handler is, and the handlers of operations have
    entries for what they do. -/
def Registration.agrees (registration : Registration) (route : PlatformRoute) : Bool :=
  route.pattern == registration.pattern && (registration.handler.isPublic || !route.isPublic)
    && registration.handler.operationAction.all fun action =>
      route.resourceKind == "operation" && route.action == action

theorem registrations_agree : ∀ registration ∈ registrations,
    (declaredRoute registration).any registration.agrees := by
  decide +kernel

theorem registrations_wildcards : ∀ registration ∈ registrations,
    (parsePattern registration.pattern).count .wildcard
        = (if registration.handler.namesResource then 1 else 0)
      ∧ (registration.handler.namesResource = false →
        textBefore idMarker registration.pattern.toList = none) := by
  decide +kernel

theorem approve_pattern : ∀ registration ∈ registrations, registration.handler = .approve →
    parsePattern registration.pattern
      = (parsePattern registration.pattern).dropLast ++ [.literal "approve".toList] := by
  decide +kernel

theorem platformRoutes_ne_head : ∀ route ∈ platformRoutes, route.method ≠ .head := by decide

section Table

variable {x : Exchange} {registration : Registration} {route : PlatformRoute} {id : String}

/-- A registration that the mux dispatches to, after the guard has found an entry. -/
structure Dispatched (x : Exchange) (registration : Registration) (id : String) : Prop where
  dispatch : dispatch x.request = some (registration, id)
  route : x.route.isSome

section Dispatched

variable (h : Dispatched x registration id)

include h

theorem Dispatched.mem : registration ∈ registrations :=
  (exists_match?_of_dispatch h.dispatch).1

theorem Dispatched.id_eq_empty (hnames : registration.handler.namesResource = false) : id = "" := by
  obtain ⟨hmem, values, hmatch, rfl⟩ := exists_match?_of_dispatch h.dispatch
  have hlength := length_values (of_match? hmatch).2.2
  rw [(registrations_wildcards registration hmem).1, hnames] at hlength
  rw [eq_nil_of_length_eq_zero hlength]
  rfl

theorem Dispatched.id_ne_empty (hnames : registration.handler.namesResource = true) : id ≠ "" := by
  obtain ⟨hmem, values, hmatch, rfl⟩ := exists_match?_of_dispatch h.dispatch
  have hsegments := (of_match? hmatch).2.2
  have hlength := length_values hsegments
  rw [(registrations_wildcards registration hmem).1, hnames] at hlength
  cases values with
  | nil => simp at hlength
  | cons value => exact ne_empty_of_mem_values hsegments value mem_cons_self

theorem Dispatched.method_eq : x.request.method = registration.method := by
  obtain ⟨hmem, values, hmatch, -⟩ := exists_match?_of_dispatch h.dispatch
  have haccepts := (of_match? hmatch).1
  obtain ⟨found, hfound⟩ := isSome_iff_exists.1 h.route
  rw [Exchange.route, matchRoute] at hfound
  have hmethod := find?_some hfound
  have hne := platformRoutes_ne_head found (mem_of_find?_eq_some hfound)
  simp only [Bool.and_eq_true, beq_iff_eq] at hmethod
  simp only [accepts, Bool.or_eq_true, Bool.and_eq_true, beq_iff_eq] at haccepts
  rcases haccepts with hsame | ⟨-, hhead⟩
  · exact hsame.symm
  · exact absurd (hmethod.1.trans hhead) hne

theorem Dispatched.route_eq : x.route
    = if registration.handler = .reject ∨ registration.handler = .cancel
      then declaredRoute ⟨.post, "/v1/operations/\x7bid\x7d/approve", .approve⟩
      else declaredRoute registration := by
  obtain ⟨hmem, values, hmatch, -⟩ := exists_match?_of_dispatch h.dispatch
  rw [Exchange.route, matchRoute_of_match? hmem hmatch, h.method_eq, matchRoute_leading _ hmem]

theorem Dispatched.finds (hdeclared : declaredRoute registration = some route)
    (hreject : registration.handler ≠ .reject) (hcancel : registration.handler ≠ .cancel)
    (hprivate : registration.handler.isPublic = false) : x.Finds route id := by
  have hagrees := registrations_agree registration h.mem
  rw [hdeclared, any_some, agrees] at hagrees
  simp only [Bool.and_eq_true, beq_iff_eq, hprivate, Bool.false_or, Bool.not_eq_true'] at hagrees
  refine ⟨?_, hagrees.1.2, fun hempty => ?_⟩
  · rw [h.route_eq, if_neg (by simp [hreject, hcancel]), hdeclared]
  have hnames : registration.handler.namesResource = false := by
    by_contra hnames
    exact h.id_ne_empty (by simpa using hnames) hempty
  rw [extractPathParam, hagrees.1.1, (registrations_wildcards registration h.mem).2 hnames]

theorem Dispatched.operation (hdeclared : declaredRoute registration = some route) {action : Action}
    (haction : registration.handler.operationAction = some action) :
    route.resourceKind = "operation" ∧ route.action = action := by
  have hagrees := registrations_agree registration h.mem
  rw [hdeclared, any_some, agrees, haction] at hagrees
  simp only [Bool.and_eq_true, beq_iff_eq, all_some] at hagrees
  exact hagrees.2

theorem Dispatched.expectedAction_approve (hhandler : registration.handler = .approve) :
    x.expectedAction = .approve := by
  obtain ⟨hmem, values, hmatch, -⟩ := exists_match?_of_dispatch h.dispatch
  obtain ⟨-, hslash, hsegments⟩ := of_match? hmatch
  rw [approve_pattern registration hmem hhandler] at hsegments
  have hsuffix : "/approve".toList <:+ x.request.path := by
    rw [Request.path, hslash]
    simpa using literal_isSuffix hsegments
  rw [expectedAction, if_pos (isSuffixOf_iff_suffix.2 hsuffix)]

/-- Every handler but those of `reject` and `cancel` checks the entry of its pattern. -/
theorem checks_authorization (hdeclared : declaredRoute registration = some route)
    (hreject : registration.handler ≠ .reject) (hcancel : registration.handler ≠ .cancel)
    {result : Except Refusal (Option TrustedContext)}
    (hresult : registration.handler.authorization x id = some result) : ChecksEntry route id result := by
  have hfinds := h.finds hdeclared hreject hcancel
  have hid := h.id_eq_empty
  have hexpected := h.expectedAction_approve
  have hoperation : ∀ action, registration.handler.operationAction = some action → _ :=
    fun _ => h.operation hdeclared
  generalize registration.handler = handler at *
  cases handler with
  | health | livez | startupz | readyz | consoleBootstrap | registerSecret
  | updateClusterDescription | issueClusterKubeconfig =>
    simp [Handler.authorization] at hresult
  | reject => exact absurd rfl hreject
  | cancel => exact absurd rfl hcancel
  | createRuntimeIntentBatch | listRuntimeTargets | createCluster | getClusters | saveCompatibility
  | checkCompatibility =>
    obtain rfl := hid rfl
    cases hresult
    exact checks_authorized (hfinds rfl) _
  | saveManifest | getManifest | deleteManifest =>
    cases hresult
    exact checks_authorized (hfinds rfl) _
  | getCluster | updateCluster | deleteCluster | heartbeatCluster =>
    cases hresult
    exact checks_authorizedCandidate (hfinds rfl)
  | submitOperation | createRuntimeTarget =>
    obtain rfl := hid rfl
    cases hresult
    simp only [handleSubmitOperation, handleCreateRuntimeTarget]
    split
    · trivial
    · exact checks_authorized (hfinds rfl) _
  | getRuntimeTarget | deleteRuntimeTarget =>
    cases hresult
    unfold handleRuntimeTarget
    split
    · trivial
    · exact checks_authorizedStored (hfinds rfl) _ _
  | submitIntent =>
    obtain rfl := hid rfl
    simp only [Handler.authorization] at hresult
    split at hresult
    · cases hresult
      trivial
    · simp at hresult
    · cases hresult
      exact checks_authorizedIntent (hfinds rfl)
  | listOperations =>
    obtain ⟨hkind, haction⟩ := hoperation _ rfl
    obtain rfl := hid rfl
    cases hresult
    exact checks_handleListOperations (hfinds rfl) hkind haction.symm
  | getOperation =>
    obtain ⟨hkind, haction⟩ := hoperation _ rfl
    cases hresult
    exact checks_handleOperation (hfinds rfl) hkind haction.symm
  | approve =>
    obtain ⟨hkind, haction⟩ := hoperation _ rfl
    cases hresult
    exact checks_handleOperation (hfinds rfl) hkind ((hexpected rfl).trans haction.symm)

end Dispatched

end Table

/-! ## Every request -/

theorem serve_eq_handled {x : Exchange} {registration : Registration} {id : String}
    {authorization : Option (Except Refusal (Option TrustedContext))}
    (h : serve x = .handled registration id authorization) :
    Dispatched x registration id ∧ authorization = registration.handler.authorization x id := by
  unfold serve at h
  split at h
  · simp at h
  next route hroute =>
  split_ifs at h
  split at h
  · simp at h
  next registration' id' hdispatch =>
  obtain ⟨rfl, rfl, rfl⟩ := Served.handled.inj h
  exact ⟨⟨hdispatch, by rw [hroute]; rfl⟩, rfl⟩

/-- A user of tenant `t1` with one permission, on any operation. -/
def operator (action : Action) : TrustedContext where
  subjectId := "alice"
  tenantId := "t1"
  policyVersion := "v1"
  scopedPermissions :=
    [{ resourceKind := "operation", resourceId := "", action := action, tenantId := "t1",
       projectId := "", environmentId := "", namespaceId := "" }]
  projectId := ""
  environmentId := ""
  namespaceId := ""

/-- A request of that user with an access token, for a resource that is stored without a scope. -/
def operatorExchange (request : Request) (action : Action) : Exchange where
  request := request
  aiSource := false
  operationId := ""
  trusted := some (operator action)
  correlationId := ""
  correlationHeader := ""
  delegation := none
  resolver := none
  body := none
  intent := .other
  stored := some .none

section Requests

variable {request : Request} {registration : Registration} {id : String}

/-- The entry for the approval of an operation. -/
def approveRoute : PlatformRoute where
  method := .post
  pattern := "/v1/operations/\x7bid\x7d/approve"
  resourceKind := "operation"
  action := .approve
  resourceIdParam := "id"
  isPublic := false

theorem decision_method : ∀ registration ∈ registrations,
    registration.handler = .reject ∨ registration.handler = .cancel → registration.method = .post := by
  decide

section Decision

variable (h : dispatch request = some (registration, id))
  (hhandler : registration.handler = .reject ∨ registration.handler = .cancel)

include h hhandler

theorem matchRoute_of_decision :
    matchRoute platformRoutes request.method request.path = some approveRoute := by
  obtain ⟨hmem, values, hmatch, -⟩ := exists_match?_of_dispatch h
  have haccepts := (of_match? hmatch).1
  have hpost := decision_method registration hmem hhandler
  have hmethod : request.method = registration.method := by
    simp only [accepts, hpost, Bool.or_eq_true, Bool.and_eq_true, beq_iff_eq] at haccepts
    rcases haccepts with hsame | ⟨hget, -⟩
    · rw [hpost, hsame]
    · simp at hget
  rw [matchRoute_of_match? hmem hmatch, hmethod, matchRoute_leading _ hmem, if_pos hhandler]
  decide +kernel

/-- Someone who may only reject is refused the rejection, for want of the permission to approve; so
    it is with `cancel`. -/
theorem serve_operatorExchange (hid : isUuid id = true) {action : Action}
    (haction : action = .reject ∨ action = .cancel) :
    serve (operatorExchange request action) = .handled registration id
      (some (.error (.denied (operator action) "operation" .approve id))) := by
  have hroute : (operatorExchange request action).route = some approveRoute :=
    matchRoute_of_decision h hhandler
  have hcandidate : (operatorExchange request action).hasAuthorizationCandidate
      (some (operator action)) id = .error (.denied (operator action) "operation" .approve id) := by
    unfold hasAuthorizationCandidate
    rw [hroute]
    rcases haction with rfl | rfl <;> rfl
  have hoperation : ∀ expected, (operatorExchange request action).handleOperation id expected
      = .error (.denied (operator action) "operation" .approve id) := by
    intro expected
    rw [handleOperation, if_neg (by simp [hid])]
    show (operatorExchange request action).authorizedStored (some (operator action)) id _ = _
    rw [authorizedStored, hcandidate]
  have hauthorization : registration.handler.authorization (operatorExchange request action) id
      = some (.error (.denied (operator action) "operation" .approve id)) := by
    rcases hhandler with hhandler | hhandler <;> rw [hhandler] <;>
      exact congrArg some (hoperation _)
  unfold serve
  rw [hroute]
  show (match dispatch request with
    | none => Served.notDispatched
    | some (registration, id) => .handled registration id
        (registration.handler.authorization (operatorExchange request action) id)) = _
  rw [h]
  exact congrArg (Served.handled registration id) hauthorization

/-- Whoever holds the permission declared for such a decision is denied another. -/
theorem not_checksEntry_of_decision (hid : isUuid id = true) {route : PlatformRoute}
    (hagrees : registration.agrees route) :
    ∃ x : Exchange, x.request = request ∧ ∃ authorization,
      serve x = .handled registration id (some authorization)
        ∧ ¬ ChecksEntry route id authorization := by
  obtain ⟨action, haction, hdecision⟩ : ∃ action, registration.handler.operationAction = some action
        ∧ (action = .reject ∨ action = .cancel) := by
    rcases hhandler with hhandler | hhandler <;> rw [hhandler]
    · exact ⟨.reject, rfl, .inl rfl⟩
    · exact ⟨.cancel, rfl, .inr rfl⟩
  simp only [agrees, haction, Bool.and_eq_true, beq_iff_eq, all_some] at hagrees
  obtain ⟨-, hkind, haction'⟩ := hagrees
  have hholds : Holds (some (operator action)) route id := by
    refine ⟨operator action, rfl, ?_⟩
    simp [operator, isCandidate, hkind, haction']
  refine ⟨operatorExchange request action, rfl, _,
    serve_operatorExchange h hhandler hid hdecision, fun hentry => ?_⟩
  obtain ⟨-, happrove, -⟩ := hentry hholds
  rw [haction'] at happrove
  rcases hdecision with rfl | rfl <;> exact absurd happrove (by decide)

end Decision

/-- The permission that is checked for a request is that of the pattern it is dispatched to, unless
    it rejects or cancels an operation. -/
theorem declared_permission_checked_iff (h : dispatch request = some (registration, id)) :
    (∀ x : Exchange, x.request = request → ∀ authorization,
      serve x = .handled registration id (some authorization) →
        ∃ route, declaredRoute registration = some route ∧ ChecksEntry route id authorization)
    ↔ ¬ (isUuid id = true ∧ (registration.handler = .reject ∨ registration.handler = .cancel)) := by
  have hmem := (exists_match?_of_dispatch h).1
  obtain ⟨route, hroute, hagrees⟩ := (any_eq_true _ _).1 (registrations_agree registration hmem)
  constructor
  · rintro hchecks ⟨hid, hhandler⟩
    obtain ⟨x, hx, authorization, hserve, hnot⟩ :=
      not_checksEntry_of_decision h hhandler hid hagrees
    obtain ⟨route', hroute', hentry⟩ := hchecks x hx authorization hserve
    obtain rfl : route = route' := Option.some.inj (hroute.symm.trans hroute')
    exact hnot hentry
  intro hcond x hx authorization hserve
  obtain ⟨hdispatched, hauthorization⟩ := serve_eq_handled hserve
  refine ⟨route, hroute, ?_⟩
  by_cases hhandler : registration.handler = .reject ∨ registration.handler = .cancel
  · -- The id is no UUID, which is found out before anything is checked.
    have hid : isUuid id = false := by
      rw [← Bool.not_eq_true]
      exact fun hid => hcond ⟨hid, hhandler⟩
    have hrefused : x.handleAction id = .error (.invalidRequest "operation id must be a UUID") := by
      rw [handleAction, handleOperation, if_pos hid]
    have hsome : some authorization = some (x.handleAction id) := by
      rw [hauthorization]
      rcases hhandler with hhandler | hhandler <;> rw [hhandler] <;> rfl
    rw [Option.some.inj hsome, hrefused]
    trivial
  · rw [not_or] at hhandler
    exact checks_authorization hdispatched hroute hhandler.1 hhandler.2 hauthorization.symm

end Requests

/-! ## Decisions on one operation -/

def exampleId : String := "00000000-0000-4000-8000-000000000001"

/-- `POST` to a path under an operation. -/
def operationRequest (decision : String) : Request where
  method := .post
  segments := ["v1", "operations", exampleId, decision]
  trailingSlash := false
  clean := true

theorem declared_permission_checked_of_approval :
    let registration : Registration := ⟨.post, "/v1/operations/\x7bid\x7d/approve", .approve⟩
    dispatch (operationRequest "approve") = some (registration, exampleId)
    ∧ ∀ x : Exchange, x.request = operationRequest "approve" → ∀ authorization,
      serve x = .handled registration exampleId (some authorization) →
        ∃ route, declaredRoute registration = some route
          ∧ ChecksEntry route exampleId authorization := by
  have hdispatch : dispatch (operationRequest "approve")
      = some (⟨.post, "/v1/operations/\x7bid\x7d/approve", .approve⟩, exampleId) := by
    decide +kernel
  exact ⟨hdispatch, (declared_permission_checked_iff hdispatch).2 (by simp)⟩

/-- The entry for the rejection of an operation. -/
def rejectRoute : PlatformRoute where
  method := .post
  pattern := "/v1/operations/\x7bid\x7d/reject"
  resourceKind := "operation"
  action := .reject
  resourceIdParam := "id"
  isPublic := false

/-- The permission to approve admits a rejection, and the permission to reject does not. -/
theorem rejection_needs_approval :
    let registration : Registration := ⟨.post, "/v1/operations/\x7bid\x7d/reject", .reject⟩
    let admitted : Except Refusal (Option TrustedContext) := .ok (some (operator .approve))
    let denied : Except Refusal (Option TrustedContext) :=
      .error (.denied (operator .reject) "operation" .approve exampleId)
    declaredRoute registration = some rejectRoute
    ∧ serve (operatorExchange (operationRequest "reject") .approve)
      = .handled registration exampleId (some admitted)
    ∧ ¬ ChecksEntry rejectRoute exampleId admitted
    ∧ serve (operatorExchange (operationRequest "reject") .reject)
      = .handled registration exampleId (some denied)
    ∧ ¬ ChecksEntry rejectRoute exampleId denied := by
  refine ⟨by decide +kernel, by decide +kernel, ?_, by decide +kernel, fun h => ?_⟩
  · rintro ⟨context, hcontext, hholds⟩
    cases hcontext
    exact absurd hholds (by decide)
  · exact absurd (h ⟨operator .reject, rfl, by decide⟩).2.1 (by decide)

end HnbCloud.Api
