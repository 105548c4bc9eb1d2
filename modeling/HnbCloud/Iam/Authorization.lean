import Mathlib.Data.List.Nodup

set_option autoImplicit false

/-! # Authorization

`pkg/iam/authorization.go`: the decision over a snapshot of permissions that a verified token
carries. A request is allowed when one permission of the snapshot covers it; a snapshot or a request
that breaks a bound is refused as a whole. -/

namespace HnbCloud.Iam

/-- `AuthorizationAction`: the ten actions, and what else a token may say. -/
inductive Action where
  | read
  | list
  | create
  | update
  | delete
  | execute
  | approve
  | reject
  | cancel
  | switchTenant
  | other (text : String)
deriving DecidableEq, Repr

/-- `validAction`. -/
def Action.valid : Action → Bool
  | other _ => false
  | _ => true

structure ScopedPermission where
  (resourceKind resourceId : String)
  action : Action
  (tenantId projectId environmentId namespaceId : String)
deriving DecidableEq, Repr

open ScopedPermission

/-- `TrustedContext`, as far as decisions read it. -/
structure TrustedContext where
  (subjectId tenantId policyVersion : String)
  scopedPermissions : List ScopedPermission
  (projectId environmentId namespaceId : String)
deriving DecidableEq, Repr

structure AuthorizationRequest where
  (subjectId tenantId resourceKind resourceId : String)
  action : Action
  (projectId environmentId namespaceId : String)
deriving DecidableEq, Repr

/-- The reason codes of a decision. -/
inductive ReasonCode where
  | permissionDenied
  | identityScopeMismatch
  | invalidPolicySnapshot
  | invalidAuthorizationRequest
  | permissionGranted
deriving DecidableEq, Repr

/-- `AuthorizationDecision`. -/
structure Decision where
  allowed : Bool
  reasonCode : ReasonCode
  (policyVersion resourceKind resourceId : String)
  action : Action
deriving DecidableEq, Repr

/-! ## Bounds -/

def boundedClaim (value : String) (maximum : Nat) : Bool :=
  value != "" && value.utf8ByteSize ≤ maximum

def boundedOptional (value : String) (maximum : Nat) (required : Bool) : Bool :=
  if value = "" then !required
  else value.utf8ByteSize ≤ maximum
    && value.toList.all fun c => c.toNat != 0 && c != '\r' && c != '\n'

def validRequestScope (projectId environmentId namespaceId : String) : Bool :=
  boundedOptional projectId 128 false && boundedOptional environmentId 128 false
    && boundedOptional namespaceId 253 false

def validScope (projectId environmentId namespaceId : String) : Bool :=
  validRequestScope projectId environmentId namespaceId
    && (environmentId == "" || projectId != "") && (namespaceId == "" || environmentId != "")

/-- A permission of a snapshot of this tenant is well formed. -/
def ScopedPermission.valid (tenantId : String) (permission : ScopedPermission) : Bool :=
  permission.tenantId == tenantId && permission.tenantId != "*"
    && boundedOptional permission.resourceKind 128 true
    && boundedOptional permission.resourceId 256 false && permission.action.valid
    && validScope permission.projectId permission.environmentId permission.namespaceId

/-- `ValidatePermissionSnapshot` returns no error. -/
def validPermissionSnapshot (policyVersion : String) (permissions : List ScopedPermission)
    (tenantId : String) : Bool :=
  boundedClaim policyVersion 128 && boundedClaim tenantId 128 && tenantId != "*"
    && permissions.length ≤ 64 && permissions.all (valid tenantId)
    && decide permissions.Nodup

/-! ## The decision -/

/-- The permission covers the request: an empty id or scope covers all. -/
def ScopedPermission.covers (permission : ScopedPermission) (request : AuthorizationRequest) :
    Bool :=
  permission.tenantId == request.tenantId && permission.action == request.action
    && (permission.resourceKind == "*" || permission.resourceKind == request.resourceKind)
    && (permission.resourceId == "" || permission.resourceId == request.resourceId)
    && (permission.projectId == "" || permission.projectId == request.projectId)
    && (permission.environmentId == "" || permission.environmentId == request.environmentId)
    && (permission.namespaceId == "" || permission.namespaceId == request.namespaceId)

def AuthorizationRequest.valid (request : AuthorizationRequest) : Bool :=
  boundedOptional request.resourceKind 128 true && request.resourceKind != "*"
    && request.action.valid && boundedOptional request.resourceId 256 false
    && validRequestScope request.projectId request.environmentId request.namespaceId

def evaluate (trusted : TrustedContext) (request : AuthorizationRequest) : Decision :=
  let decision (allowed : Bool) (reasonCode : ReasonCode) : Decision :=
    { allowed := allowed, reasonCode := reasonCode, policyVersion := trusted.policyVersion,
      resourceKind := request.resourceKind, resourceId := request.resourceId,
      action := request.action }
  if request.subjectId = "" ∨ request.subjectId ≠ trusted.subjectId ∨ request.tenantId = ""
      ∨ request.tenantId ≠ trusted.tenantId then decision false .identityScopeMismatch
  else if validPermissionSnapshot trusted.policyVersion trusted.scopedPermissions trusted.tenantId
      = false then decision false .invalidPolicySnapshot
  else if request.valid = false then decision false .invalidAuthorizationRequest
  else if trusted.scopedPermissions.any (covers · request) then
    decision true .permissionGranted
  else decision false .permissionDenied

/-- A request is allowed exactly when it is about the subject and the tenant of the context, the
    snapshot and the request keep their bounds, and a permission covers the request. -/
theorem evaluate_allowed_iff (trusted : TrustedContext) (request : AuthorizationRequest) :
    (evaluate trusted request).allowed = true
      ↔ (request.subjectId ≠ "" ∧ request.subjectId = trusted.subjectId ∧ request.tenantId ≠ ""
          ∧ request.tenantId = trusted.tenantId)
        ∧ validPermissionSnapshot trusted.policyVersion trusted.scopedPermissions trusted.tenantId
          = true
        ∧ request.valid = true
        ∧ trusted.scopedPermissions.any (covers · request) = true := by
  unfold evaluate
  split
  · next h =>
    refine ⟨fun h' => absurd h' (by simp), fun h' => ?_⟩
    rcases h with h | h | h | h
    · exact absurd h h'.1.1
    · exact absurd h'.1.2.1 h
    · exact absurd h h'.1.2.2.1
    · exact absurd h'.1.2.2.2 h
  next hidentity =>
  simp only [not_or, not_not] at hidentity
  split
  · next h => simp [h]
  next hsnapshot =>
  split
  · next h => simp [h]
  next hvalid =>
  split
  · next h =>
    exact ⟨fun _ => ⟨hidentity, by simpa using hsnapshot, by simpa using hvalid, h⟩, fun _ => rfl⟩
  · next h => simp [h]

end HnbCloud.Iam
