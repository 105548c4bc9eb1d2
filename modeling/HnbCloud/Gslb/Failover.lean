import HnbCloud.Gslb.Pools

set_option autoImplicit false

/-! # Automatic failover

`EnsureFailoverRequest` of `gslb-controller/internal/store/switch_request_store.go`: when no member of
a service is healthy, the reconciler has a failover request written, unless one is on its way. The
request and its event always have the same idempotency keys, made of the id of the service. Both
tables keep them: the first request is also the last. -/

namespace HnbCloud.Gslb

open Messaging List Program

structure ServiceRow where
  (id tenantId domain activePoolId : String)

/-! ## The calls of the store -/

/-- The queries, the transaction, the clock and the UUID generator. -/
inductive FailoverOp where
  /-- The first query of `BackupPool`. -/
  | backupPool (serviceId activePoolId : String)
  /-- The second one. -/
  | backupPoolMembers (poolId : String)
  | hasActiveFailoverRequest (serviceId : String)
  /-- The transaction. -/
  | insertRequest (request : SwitchRequest) (event : Event)
  | now
  | newUuid

/-- What a call answers; an error is its text. -/
abbrev FailoverOp.Reply : FailoverOp → Type
  | backupPool .. => Except String (Option String)
  | backupPoolMembers .. => Except String (List String)
  | hasActiveFailoverRequest .. => Except String Bool
  | insertRequest .. => Except String Unit
  | now => Int
  | newUuid => String

/-- A program of the store; `true` is a request that was created. -/
abbrev FailoverProgram := Program FailoverOp FailoverOp.Reply (Except String Bool)

/-! ## EnsureFailoverRequest -/

def autoFailoverIntent (service : ServiceRow) (backupPoolId correlationId : String) : Intent where
  apiVersion := Gslb.apiVersion
  kind := .failover
  serviceId := service.id
  tenantId := service.tenantId
  targetPoolId := backupPoolId
  weights := []
  reason := "auto-failover: active pool unhealthy"
  drGroupRef := ""
  idempotencyKey := "auto-failover-" ++ service.id
  correlationId := correlationId

/-- The row that is inserted for it. -/
def autoFailoverRequest (sha : String → String) (intent : Intent) (plan : Plan)
    (requestId operationId : String) (now : Int) : SwitchRequest where
  id := requestId
  tenantId := intent.tenantId
  serviceId := intent.serviceId
  intentKind := intent.kind.text
  intentDigest := intent.semanticDigest sha
  planSnapshot := plan.marshal
  idempotencyKey := intent.idempotencyKey
  correlationId := intent.correlationId
  requireApproval := true
  status := .pendingApproval
  operationId := operationId
  drGroupRef := ""
  actorId := "gslb-controller"
  approvedBy := ""
  approvedAt := none
  reason := intent.reason
  error := ""
  createdAt := now
  updatedAt := now

def autoFailoverEvent (sha : String → String) (intent : Intent) (requestId messageId : String) :
    Event where
  messageId := messageId
  messageType := eventIntentSubmitted
  tenantId := intent.tenantId
  actorId := "gslb-controller"
  correlationId := intent.correlationId
  idempotencyKey := "gslb-auto-" ++ intent.serviceId
  aggregateId := intent.serviceId
  payload := .obj [("requestId", .str requestId), ("serviceId", .str intent.serviceId),
    ("kind", .str intent.kind.text), ("digest", .str (intent.semanticDigest sha)),
    ("reason", .str "auto-failover")]

/-- What its plan is made of. -/
def autoFailoverInput (service : ServiceRow) (backupPoolId : String) (backupTargets : List String) :
    PlanInput where
  serviceId := service.id
  tenantId := service.tenantId
  domain := service.domain
  targetPoolId := backupPoolId
  targets := backupTargets
  weights := []
  previousTargets := []

/-- The part of `EnsureFailoverRequest` after its checks. -/
def createFailover (sha : String → String) (service : ServiceRow) (backupPoolId : String)
    (backupTargets : List String) : FailoverProgram :=
  .call .newUuid fun correlationId =>
  let intent := autoFailoverIntent service backupPoolId correlationId
  match intent.buildPlan sha (autoFailoverInput service backupPoolId backupTargets) with
  | .error err => .done (.error err)
  | .ok plan =>
  .call .newUuid fun requestId =>
  .call .newUuid fun operationId =>
  .call .now fun now =>
  .call .newUuid fun messageId =>
  .call (.insertRequest (autoFailoverRequest sha intent plan requestId operationId now)
    (autoFailoverEvent sha intent requestId messageId)) fun
  | .error err => .done (.error err)
  | .ok () => .done (.ok true)

def ensureFailoverRequest (sha : String → String) (service : ServiceRow) : FailoverProgram :=
  .call (.backupPool service.id service.activePoolId) fun
  | .error err => .done (.error err)
  | .ok none => .done (.ok false)
  | .ok (some backupPoolId) =>
  .call (.backupPoolMembers backupPoolId) fun
  | .error err => .done (.error err)
  | .ok backupTargets =>
  if backupPoolId = "" ∨ backupTargets = [] then .done (.ok false)
  else
  .call (.hasActiveFailoverRequest service.id) fun
  | .error err => .done (.error err)
  | .ok active =>
  if active then .done (.ok false)
  else createFailover sha service backupPoolId backupTargets

/-! ## What the calls do -/

/-- `PendingApproval`, `Approved` and `Dispatched`. -/
def RequestStatus.isActive : RequestStatus → Bool
  | pendingApproval | approved | dispatched => true
  | _ => false

namespace Estate

variable (s : Estate)

/-- The pool with the highest priority that is not the active one. Of several the query may take any;
    here it is the first. -/
def backupPool (serviceId activePoolId : String) : Option String :=
  (((s.pools.rows.filter fun row => row.serviceId == serviceId && row.id != activePoolId).insertionSort
    fun a b => b.priority ≤ a.priority).head?).map Pool.id

def hasActiveFailoverRequest (serviceId : String) : Bool :=
  s.traffic.requests.rows.any fun row => row.serviceId == serviceId
    && row.intentKind == IntentKind.failover.text && row.status.isActive

/-- The transaction, without the rows of the Operation Center. -/
def insertFailover (request : SwitchRequest) (event : Event) : Except String (Estate × Unit) :=
  if s.traffic.requests.rows.any (fun row => row.tenantId == request.tenantId
      && row.serviceId == request.serviceId && row.idempotencyKey == request.idempotencyKey) then
    .error "insert auto failover request"
  else
  match s.traffic.requests.insert? request with
  | none => .error "insert auto failover request"
  | some requests =>
  match insertOutboxEvent s.traffic.outbox s.traffic.now (event.toOutbox s.traffic.now) with
  | none => .error "insert auto failover outbox"
  | some outbox =>
    .ok ({ s with traffic := { s.traffic with requests := requests, outbox := outbox } }, ())

end Estate

/-- What is left to chance in a call. -/
structure FailoverNature where
  outcome : ApiOutcome
  uuid : String

/-- The store of the controller. -/
def failoverStore : HnbCloud.Service Estate FailoverOp FailoverOp.Reply FailoverNature where
  perform s op n :=
    match op with
    | .backupPool serviceId activePoolId =>
      n.outcome.commit s (.ok (s, s.backupPool serviceId activePoolId))
    | .backupPoolMembers poolId => n.outcome.commit s (.ok (s, s.poolMemberClusterIds poolId))
    | .hasActiveFailoverRequest serviceId =>
      n.outcome.commit s (.ok (s, s.hasActiveFailoverRequest serviceId))
    | .insertRequest request event => n.outcome.commit s (s.insertFailover request event)
    | .now => (s, s.traffic.now)
    | .newUuid => (s, n.uuid)

/-! ## When a request is created -/

/-- A new failover request of the service. -/
def Estate.Created (s s' : Estate) (service : ServiceRow) : Prop :=
  ∃ request, s.traffic.requests.get? request.id = none
    ∧ s'.traffic.requests.get? request.id = some request ∧ request.serviceId = service.id
    ∧ request.tenantId = service.tenantId ∧ request.intentKind = IntentKind.failover.text
    ∧ request.status = .pendingApproval

/-- No request and no event has the keys of an automatic failover of the service. -/
def Estate.unused (s : Estate) (service : ServiceRow) : Bool :=
  s.traffic.requests.rows.all (fun row => !(row.tenantId == service.tenantId
      && row.serviceId == service.id && row.idempotencyKey == "auto-failover-" ++ service.id))
    && s.traffic.outbox.rows.all fun row => !(row.event.tenantId == service.tenantId
      && row.event.messageType == eventIntentSubmitted
      && row.event.idempotencyKey == "gslb-auto-" ++ service.id)

/-- A UUID that was just drawn. -/
structure Estate.Fresh (s : Estate) (uuid : String) : Prop where
  form : isHyphenatedUuid uuid = true
  request : s.traffic.requests.get? uuid = none
  event : ∀ row ∈ s.traffic.outbox.rows, row.event.messageId ≠ uuid

/-- The tenants that `Validate` takes. -/
def tenantAllowed (tenantId : String) : Bool :=
  tenantId != "" && decide (tenantId.utf8ByteSize ≤ 128)

section Created

variable {s : Estate} {service : ServiceRow} {sha : String → String}

theorem matchesIdemPattern_auto {id : String} (h : isHyphenatedUuid id = true) :
    matchesIdemPattern ("auto-failover-" ++ id) = true := by
  have hlength : id.toList.length = 36 := by
    simp only [isHyphenatedUuid, Bool.and_eq_true, beq_iff_eq] at h
    exact h.1
  have hchars : ∀ c ∈ ("auto-failover-" ++ id).toList, '!' ≤ c ∧ c ≤ '~' := by
    intro c hc
    rw [String.toList_append, mem_append] at hc
    rcases hc with hc | hc
    · revert c
      simp
    rcases eq_or_isHexDigit_of_mem h hc with rfl | hhex
    · decide
    · obtain ⟨hlow, hhigh⟩ := le_of_isHexDigit hhex
      exact ⟨Char.le_trans (by decide) hlow, Char.le_trans hhigh (by decide)⟩
  simp only [matchesIdemPattern, Bool.and_eq_true, decide_eq_true_eq, all_eq_true]
  refine ⟨⟨?_, ?_⟩, hchars⟩
  · rw [String.toList_append, length_append]
    omega
  · rw [String.toList_append, length_append, hlength]
    decide

theorem validate_autoFailover {poolId correlationId : String}
    (hservice : isHyphenatedUuid service.id = true) (hpool : isHyphenatedUuid poolId = true)
    (hcorrelation : isHyphenatedUuid correlationId = true) :
    (autoFailoverIntent service poolId correlationId).validate = none
      ↔ tenantAllowed service.tenantId = true := by
  have hkey := matchesIdemPattern_auto hservice
  have hreason : ¬ 512 < "auto-failover: active pool unhealthy".utf8ByteSize := by decide
  unfold Intent.validate
  show (if isHyphenatedUuid service.id = false then _ else
    if service.tenantId = "" ∨ 128 < service.tenantId.utf8ByteSize then _ else
    if matchesIdemPattern ("auto-failover-" ++ service.id) = false then _ else
    if isHyphenatedUuid correlationId = false then _ else
    if 512 < "auto-failover: active pool unhealthy".utf8ByteSize then _ else
    if "" ≠ "" ∧ matchesDRGroupRefPattern "" = false then _ else
    if isHyphenatedUuid poolId = false then _ else none) = none ↔ _
  have hform : ∀ {b : Bool}, b = true → ¬ b = false := fun h => by simp [h]
  rw [if_neg (hform hservice)]
  by_cases htenant : service.tenantId = "" ∨ 128 < service.tenantId.utf8ByteSize
  · rw [if_pos htenant]
    rcases htenant with htenant | htenant
    · simp [tenantAllowed, htenant]
    · simp [tenantAllowed, Nat.not_le_of_lt htenant]
  · rw [if_neg htenant, if_neg (hform hkey), if_neg (hform hcorrelation), if_neg hreason,
      if_neg (fun h => h.1 rfl), if_neg (hform hpool)]
    simp only [not_or, Nat.not_lt] at htenant
    simp [tenantAllowed, htenant.1, htenant.2]

/-- The plan of an automatic failover is made if the tenant is valid. -/
theorem buildPlan_autoFailover (sha : String → String) {poolId correlationId : String} {targets : List String}
    (hservice : isHyphenatedUuid service.id = true) (hpool : isHyphenatedUuid poolId = true)
    (hcorrelation : isHyphenatedUuid correlationId = true) (htargets : targets ≠ []) :
    (∃ plan, (autoFailoverIntent service poolId correlationId).buildPlan sha
        (autoFailoverInput service poolId targets) = .ok plan)
      ↔ tenantAllowed service.tenantId = true := by
  rw [← validate_autoFailover hservice hpool hcorrelation, Intent.buildPlan]
  cases (autoFailoverIntent service poolId correlationId).validate with
  | some => simp
  | none =>
    have hsame : ¬ (autoFailoverInput service poolId targets).serviceId
        ≠ (autoFailoverIntent service poolId correlationId).serviceId :=
      fun hne => hne rfl
    refine iff_of_true ?_ rfl
    rw [if_neg hsame]
    show ∃ plan, (if targets = [] then _ else Except.ok _) = Except.ok plan
    rw [if_neg htargets]
    exact ⟨_, rfl⟩

variable {request : SwitchRequest}

theorem insertFailover_inserts {s' : Estate} {event : Event}
    (h : s.insertFailover request event = .ok (s', ())) :
    s.traffic.requests.insert? request = some s'.traffic.requests := by
  unfold Estate.insertFailover at h
  split_ifs at h
  split at h
  · simp at h
  next requests hinsert =>
  split at h
  · simp at h
  simp only [Except.ok.injEq, Prod.mk.injEq, and_true] at h
  subst h
  exact hinsert

/-- The transaction goes through if neither unique index has its row. -/
theorem insertFailover_iff {event : Event} (hrequest : s.traffic.requests.get? request.id = none)
    (hevent : ∀ row ∈ s.traffic.outbox.rows, row.event.messageId ≠ event.messageId) :
    (∃ s', s.insertFailover request event = .ok (s', ()))
      ↔ s.traffic.requests.rows.any (fun row => row.tenantId == request.tenantId
          && row.serviceId == request.serviceId && row.idempotencyKey == request.idempotencyKey) = false
        ∧ s.traffic.outbox.rows.any (fun row =>
          row.event.sameCommand (event.toOutbox s.traffic.now)) = false := by
  unfold Estate.insertFailover
  split
  · next htaken => simp [htaken]
  next hfree =>
  obtain ⟨requests, hinsert⟩ := s.traffic.requests.exists_insert? request hrequest
  simp only [hinsert]
  by_cases hcommand : s.traffic.outbox.rows.any (fun row =>
      row.event.sameCommand (event.toOutbox s.traffic.now)) = true
  · simp [insertOutboxEvent, hcommand]
  obtain ⟨outbox, houtbox⟩ := s.traffic.outbox.exists_insert?
    (OutboxRow.new s.traffic.now (event.toOutbox s.traffic.now))
    (Table.get?_eq_none_iff.2 hevent)
  simp [insertOutboxEvent, hcommand, houtbox, hfree]

section Run

variable {choice : Nat → FailoverNature} {poolId : String} {targets : List String} {start : Nat}

/-- A request is created if the tenant is valid and the keys of the service are unused. -/
theorem run_createFailover_iff (hanswered : ∀ i, (choice i).outcome = .ok)
    (hfresh : ∀ i, s.Fresh (choice i).uuid) (hservice : isHyphenatedUuid service.id = true)
    (hpool : isHyphenatedUuid poolId = true) (htargets : targets ≠ []) :
    let r := (createFailover sha service poolId targets).run failoverStore choice start s
    (r.2 = .ok true ∧ s.Created r.1 service)
      ↔ tenantAllowed service.tenantId = true ∧ s.unused service = true := by
  have hallowed := buildPlan_autoFailover sha hservice hpool (hfresh start).form htargets
  cases hplan : (autoFailoverIntent service poolId (choice start).uuid).buildPlan sha
      (autoFailoverInput service poolId targets) with
  | error err =>
    simp only [createFailover, run_call, failoverStore, hplan, run_done]
    rw [hplan] at hallowed
    simp [← hallowed]
  | ok plan =>
    let request := autoFailoverRequest sha (autoFailoverIntent service poolId (choice start).uuid)
      plan (choice (start + 1)).uuid (choice (start + 2)).uuid s.traffic.now
    let event := autoFailoverEvent sha (autoFailoverIntent service poolId (choice start).uuid)
      (choice (start + 1)).uuid (choice (start + 4)).uuid
    have hunused : (∃ s', s.insertFailover request event = .ok (s', ()))
        ↔ s.unused service = true := by
      have hinsert : s.traffic.requests.get? request.id = none := (hfresh (start + 1)).request
      refine (insertFailover_iff hinsert (hfresh (start + 4)).event).trans ?_
      rw [Estate.unused, Bool.and_eq_true, ← not_any_eq_all_not, ← not_any_eq_all_not,
        Bool.not_eq_true', Bool.not_eq_true']
      rfl
    have htenant := hallowed.1 ⟨plan, hplan⟩
    rw [← hunused]
    simp only [createFailover, run_call, failoverStore, hplan, hanswered, ApiOutcome.commit]
    cases hinsert : s.insertFailover request event with
    | error => simp
    | ok stored =>
      obtain ⟨s', ⟨⟩⟩ := stored
      simp only [run_done]
      refine iff_of_true ⟨trivial, request, (hfresh (start + 1)).request,
        (Table.get?_insert? (insertFailover_inserts hinsert) request.id).trans (if_pos rfl), rfl, rfl,
        rfl, rfl⟩ ⟨htenant, s', rfl⟩

theorem mem_of_backupPool {serviceId activePoolId : String}
    (h : s.backupPool serviceId activePoolId = some poolId) :
    ∃ pool ∈ s.pools.rows, pool.id = poolId ∧ poolId ≠ activePoolId := by
  obtain ⟨pool, hhead, hid⟩ := Option.map_eq_some_iff.1 h
  have hmem := mem_of_mem_head? hhead
  rw [mem_insertionSort, mem_filter] at hmem
  obtain ⟨hpool, hother⟩ := hmem
  refine ⟨pool, hpool, hid, ?_⟩
  rw [← hid]
  simpa using (Bool.and_eq_true_iff.1 hother).2

end Run

end Created

/-- Where every query is answered and the backup pool has members, a failover request is created if no
    other one is active, the tenant is valid and the keys of the service were never used: automatic
    failover works once. -/
theorem failover_created_iff (sha : String → String) (s : Estate) (service : ServiceRow)
    (choice : Nat → FailoverNature) (poolId : String)
    (hanswered : ∀ i, (choice i).outcome = .ok) (hfresh : ∀ i, s.Fresh (choice i).uuid)
    (hservice : isHyphenatedUuid service.id = true)
    (hpools : ∀ pool ∈ s.pools.rows, isHyphenatedUuid pool.id = true)
    (hpool : s.backupPool service.id service.activePoolId = some poolId)
    (hmembers : s.poolMemberClusterIds poolId ≠ [])
    (hinactive : s.hasActiveFailoverRequest service.id = false) :
    let r := (ensureFailoverRequest sha service).run failoverStore choice 0 s
    (r.2 = .ok true ∧ s.Created r.1 service)
      ↔ tenantAllowed service.tenantId = true ∧ s.unused service = true := by
  have hform : isHyphenatedUuid poolId = true := by
    obtain ⟨pool, hmem, rfl, -⟩ := mem_of_backupPool hpool
    exact hpools pool hmem
  have hne : poolId ≠ "" := by
    rintro rfl
    exact absurd hform (by decide)
  -- With a backup pool that has members, and no active request, the checks are passed.
  have hchecks : ¬ (poolId = "" ∨ s.poolMemberClusterIds poolId = []) := by
    simp [hne, hmembers]
  simp only [ensureFailoverRequest, run_call, failoverStore, hanswered, commit_ok, hpool,
    if_neg hchecks, hinactive, Bool.false_eq_true, if_false]
  exact run_createFailover_iff hanswered hfresh hservice hform hmembers

/-! ## The first failover and the second -/

def firstService : ServiceRow where
  id := estateUuid "a1"
  tenantId := "t1"
  domain := "app.hnb.io"
  activePoolId := estateUuid "b1"

/-- Every query is answered, and the UUIDs end with this digit and the number of the call. -/
def answeredFailover (digit : String) (i : Nat) : FailoverNature where
  outcome := .ok
  uuid := estateUuid (digit ++ toString (i % 8))

def failoverOf (s : Estate) (digit : String) : Estate × Except String Bool :=
  (ensureFailoverRequest id firstService).run failoverStore (answeredFailover digit) 0 s

theorem failover_created_at_first : (failoverOf twoTenants "c").2 = .ok true
      ∧ twoTenants.Created (failoverOf twoTenants "c").1 firstService := by
  obtain ⟨hforms, hpools, hservice, hmembers, hallowed⟩ :
      (∀ i < 8, isHyphenatedUuid (answeredFailover "c" i).uuid = true)
      ∧ (∀ pool ∈ twoTenants.pools.rows, isHyphenatedUuid pool.id = true)
      ∧ isHyphenatedUuid firstService.id = true
      ∧ twoTenants.poolMemberClusterIds (estateUuid "b2") ≠ []
      ∧ tenantAllowed firstService.tenantId = true := by
    decide +kernel
  have hfresh : ∀ i, twoTenants.Fresh (answeredFailover "c" i).uuid := by
    intro i
    refine ⟨?_, rfl, by simp [twoTenants, TrafficWorld.start]⟩
    have hform := hforms (i % 8) (Nat.mod_lt _ (by decide))
    rwa [answeredFailover, Nat.mod_mod] at hform
  exact (failover_created_iff id twoTenants firstService (answeredFailover "c") (estateUuid "b2")
    (fun _ => rfl) hfresh hservice hpools (by decide +kernel) hmembers rfl).2 ⟨hallowed, rfl⟩

/-- The first failover request was rejected. -/
def rejectedOnce : Estate :=
  ((reject (estateUuid "c4") approver).run estateRepository (fun i => answeredRepo (toString i)) 0
    (failoverOf twoTenants "c").1).1

/-- The primary fails again. There is a backup pool with a member and no active request, but no request
    is created. -/
theorem second_failover_fails :
    rejectedOnce.backupPool firstService.id firstService.activePoolId = some (estateUuid "b2")
      ∧ rejectedOnce.poolMemberClusterIds (estateUuid "b2") = ["south"]
      ∧ rejectedOnce.traffic.requests.rows.map SwitchRequest.status = [.rejected]
      ∧ rejectedOnce.hasActiveFailoverRequest firstService.id = false
      ∧ (failoverOf rejectedOnce "d").2 = .error "insert auto failover request"
      ∧ (failoverOf rejectedOnce "d").1.traffic.requests.rows.length = 1 := by
  decide +kernel

end HnbCloud.Gslb
