import Mathlib.Data.List.Sort
import HnbCloud.Gslb.Approval

set_option autoImplicit false

/-! # Services, pools and their members

The tables that the calls of the API server read: `gslb_services`, `gslb_pools` and
`gslb_pool_members`. A pool belongs to a service, and a service to a tenant.
`GetPoolMemberClusterIDs` asks for the members of a pool by the id of the pool alone, and the id comes
from the intent: whoever knows the id of a pool can have its clusters in a plan. The id of a pool in an
intent is read as the database reads it; the other ids are taken as the database writes them. -/

namespace HnbCloud.Gslb

open Messaging Iam List Program Intent AppProgram

variable {intent : Intent} {sha : String → String} {plan : Plan} {service : Service}

/-- A row of `gslb_pools`. -/
structure Pool where
  (id serviceId : String)
  priority : Int

/-- A row of `gslb_pool_members`. -/
structure PoolMember where
  (poolId clusterId : String)
  enabled : Bool

/-- The tables of the services with those of the switch requests. -/
structure Estate where
  services : Table Service String Service.id
  pools : Table Pool String Pool.id
  members : List PoolMember
  traffic : Traffic

namespace Estate

variable (s : Estate)

/-- The query of `GetService`. -/
def getService (id tenantId : String) : Option Service :=
  (s.services.get? id).filter fun row => row.tenantId == tenantId

/-- What the query of `GetPoolMemberClusterIDs` finds. -/
def poolMemberClusterIds (poolId : String) : List String :=
  ((s.members.filter fun row => row.poolId == uuidText poolId && row.enabled).map
    PoolMember.clusterId).insertionSort (· ≤ ·)

def getPoolMemberClusterIds (poolId : String) : Except String (Estate × List String) :=
  if (uuidValue? poolId).isNone then .error ("gslb pool members: " ++ uuidError poolId)
  else .ok (s, s.poolMemberClusterIds poolId)

/-- The cluster is an enabled member of a pool of the service, which is one of the tenant. -/
def Owns (serviceId tenantId cluster : String) : Prop :=
  (s.getService serviceId tenantId).isSome ∧ ∃ pool ∈ s.pools.rows, pool.serviceId = serviceId
      ∧ ∃ row ∈ s.members, row.poolId = pool.id ∧ row.enabled = true ∧ row.clusterId = cluster

instance (serviceId tenantId cluster : String) : Decidable (s.Owns serviceId tenantId cluster) :=
  inferInstanceAs (Decidable (_ ∧ ∃ pool ∈ s.pools.rows, _ ∧ ∃ row ∈ s.members, _))

end Estate

/-- The repository of the API server over these tables. -/
def estateRepository : HnbCloud.Service Estate RepoOp RepoOp.Reply RepoNature where
  perform s op n :=
    match op with
    | .getService id tenantId => n.outcome.commit s (.ok (s, s.getService id tenantId))
    | .getPoolMemberClusterIds poolId => n.outcome.commit s (s.getPoolMemberClusterIds poolId)
    | op =>
      let r := repository.perform s.traffic op n
      ({ s with traffic := r.1 }, r.2)

/-! ## The clusters of a request -/

def documentField (name : String) : Json → Json
  | .obj fields => ((fields.find? fun field => field.1 == name).map Prod.snd).getD .null
  | _ => .null

def documentItems : Json → List Json
  | .arr items => items
  | _ => []

def documentText : Json → Option String
  | .str text => some text
  | _ => none

/-- The targets in the steps of a plan, as it is stored. -/
def snapshotTargets (snapshot : Json) : List String :=
  (documentItems (documentField "steps" snapshot)).flatMap fun step =>
    (documentItems (documentField "targets" (documentField "inputs" step))).filterMap documentText

def DrillReport.targets (report : DrillReport) : List String :=
  report.currentTargets ++ report.projectedTargets

/-- The clusters that a submission from `s` to `s'` has put into the request and its drill report. -/
def submittedTargets (s s' : Estate) (request : SwitchRequest) : List String :=
  snapshotTargets request.planSnapshot
    ++ (s'.traffic.drills.drop s.traffic.drills.length).flatMap DrillReport.targets

/-! ## Plans -/

def Step.targets (step : Step) : List String :=
  (documentItems (step.input "targets")).filterMap documentText

theorem snapshotTargets_marshal (plan : Plan) :
    snapshotTargets plan.marshal = plan.steps.flatMap Step.targets := by
  have hsteps : documentItems (documentField "steps" plan.marshal) = plan.steps.map Step.marshal := rfl
  rw [snapshotTargets, hsteps, flatMap_map]
  refine flatMap_congr fun step _ => ?_
  have hinputs : documentField "inputs" step.marshal = .obj step.inputs := rfl
  rw [hinputs, Step.targets, Step.input, documentField]
  cases step.inputs.find? fun entry => entry.1 == "targets" <;> rfl

theorem targets_stringSlice (texts : List String) :
    (documentItems (stringSlice texts)).filterMap documentText = texts := by
  unfold stringSlice
  split
  · next h => rw [h]; rfl
  · simp [documentItems, Json.strings, filterMap_map, Function.comp_def, documentText]

theorem applyStep_targets (intent : Intent) (input : PlanInput) :
    (intent.applyStep input).targets = input.targets := targets_stringSlice _

theorem verifyStep_targets (intent : Intent) (input : PlanInput) :
    (intent.verifyStep input).targets = input.targets := targets_stringSlice _

theorem revertStep_targets (intent : Intent) (input : PlanInput) :
    (intent.revertStep input).targets = input.previousTargets := targets_stringSlice _

/-- The targets of a plan are those of a switch; other plans have none. -/
theorem mem_targets_of_buildPlan {input : PlanInput} (h : intent.buildPlan sha input = .ok plan) (cluster : String) :
    cluster ∈ plan.steps.flatMap Step.targets
      ↔ (intent.kind = .failover ∨ intent.kind = .switchback)
        ∧ (cluster ∈ input.targets ∨ cluster ∈ input.previousTargets) := by
  have hswitch : cluster ∈ [intent.applyStep input, intent.verifyStep input,
      intent.revertStep input].flatMap Step.targets
        ↔ cluster ∈ input.targets ∨ cluster ∈ input.previousTargets := by
    simp [applyStep_targets, verifyStep_targets, revertStep_targets]
  rcases steps_of_buildPlan h with ⟨hkind, -, hsteps⟩ | ⟨hkind, hsteps⟩ | ⟨hkind, hsteps⟩
  · rw [hsteps, hswitch]
    exact (and_iff_right hkind).symm
  · simp [hkind, hsteps, weightSteps, Step.targets, Step.input, documentItems]
  · simp [hkind, hsteps, drillSteps, Step.targets, Step.input, documentItems]

/-! ## Submissions -/

/-- The pool that an intent or a service names, if any. -/
def Estate.namedPool (s : Estate) (poolId : String) : List String :=
  if poolId = "" then [] else s.poolMemberClusterIds poolId

section Submission

variable {s s' : Estate} {choice : Nat → RepoNature} {i : Nat} {request : SwitchRequest}

/-- The program, run alone from here, returns the request. -/
abbrev AppProgram.Returns (p : AppProgram) (choice : Nat → RepoNature) (i : Nat) (s s' : Estate)
    (request : SwitchRequest) : Prop :=
  p.run estateRepository choice i s = (s', .ok request)

theorem not_returns_error {err : AppError} :
    ¬ Returns (.done (.error err)) choice i s s' request := by
  simp [Returns]

theorem returns_of_poolMembers {poolId : String} {wanted : Bool} {next : List String → AppProgram}
    (h : (poolMembers wanted poolId next).Returns choice i s s' request) :
    ∃ j, (next (if wanted then s.poolMemberClusterIds poolId else [])).Returns choice j s s' request := by
  cases wanted with
  | false => exact ⟨i, h⟩
  | true =>
    rw [poolMembers, if_pos rfl, Returns, run_call] at h
    dsimp only [estateRepository] at h
    unfold Estate.getPoolMemberClusterIds at h
    by_cases hnone : (uuidValue? poolId).isNone
    · -- No outcome makes an answer of the refused query.
      rw [if_pos hnone] at h
      rcases hn : choice i with ⟨_ | _ | _⟩ <;> rw [hn] at h <;> exact absurd h not_returns_error
    rw [if_neg hnone] at h
    rcases hn : choice i with ⟨_ | _ | _⟩ <;> rw [hn] at h
    · exact ⟨i + 1, h⟩
    · exact absurd h not_returns_error
    · exact absurd h not_returns_error

theorem Estate.namedPool_eq (s : Estate) (poolId : String) :
    (if (poolId != "") = true then s.poolMemberClusterIds poolId else []) = s.namedPool poolId := by
  rw [Estate.namedPool]
  by_cases h : poolId = ""
  · simp [h]
  · simp [h]

/-- A plan is made of the members of the pools that are named. -/
structure Estate.Planned (s : Estate) (intent : Intent) (service : Service) (input : PlanInput) :
    Prop where
  domain : input.domain = service.domain
  targets : input.targets = s.namedPool intent.targetPoolId
  previous : input.previousTargets = if service.activePoolId = intent.targetPoolId then []
    else s.namedPool service.activePoolId

theorem returns_of_buildPlan
    {next : Plan → AppProgram} (h : (buildPlan sha intent service next).Returns choice i s s' request) :
    ∃ input plan j, s.Planned intent service input ∧ intent.buildPlan sha input = .ok plan
      ∧ (next plan).Returns choice j s s' request := by
  obtain ⟨j, h⟩ := returns_of_poolMembers h
  rw [s.namedPool_eq] at h
  obtain ⟨k, h⟩ := returns_of_poolMembers h
  have hprevious : (if (service.activePoolId != "" && service.activePoolId != intent.targetPoolId) = true
      then s.poolMemberClusterIds service.activePoolId else [])
      = if service.activePoolId = intent.targetPoolId then [] else s.namedPool service.activePoolId := by
    by_cases heq : service.activePoolId = intent.targetPoolId
    · simp [heq]
    · rw [if_neg heq, ← s.namedPool_eq]
      simp [heq]
  rw [hprevious] at h
  split at h
  · exact absurd h not_returns_error
  · next plan hplan => exact ⟨_, plan, k, ⟨rfl, rfl, rfl⟩, hplan, h⟩

theorem returns_of_drillReportFor {requestId : String} {now : Int}
    {next : Option DrillReport → AppProgram}
    (h : (drillReportFor intent service requestId now next).Returns choice i s s' request) :
    ∃ drill j, (next drill).Returns choice j s s' request
      ∧ ∀ cluster, (∃ report ∈ drill, cluster ∈ report.targets) ↔ intent.kind = .drill
        ∧ (cluster ∈ s.namedPool service.activePoolId ∨ cluster ∈ s.namedPool intent.targetPoolId) := by
  unfold drillReportFor at h
  split at h
  · next hdrill =>
    have hkind : intent.kind = .drill := by simpa [isDrill] using hdrill
    obtain ⟨j, h⟩ := returns_of_poolMembers h
    rw [s.namedPool_eq] at h
    obtain ⟨k, h⟩ := returns_of_poolMembers h
    rw [s.namedPool_eq] at h
    rw [Returns, run_call] at h
    rcases hn : choice k with ⟨_ | _ | _⟩ <;> rw [hn] at h
    rotate_left
    · exact absurd h not_returns_error
    · exact absurd h not_returns_error
    refine ⟨_, k + 2, h, fun cluster => ?_⟩
    simp [hkind, DrillReport.targets]
  · next hdrill =>
    have hkind : intent.kind ≠ .drill := by simpa [isDrill] using hdrill
    exact ⟨none, i, h, fun cluster => by simp [hkind]⟩

variable {trusted : TrustedContext}

theorem returns_of_createRequest
    (h : (createRequest sha intent service trusted plan).Returns choice i s s' request) :
    request.planSnapshot = plan.marshal
      ∧ ∃ drill : Option DrillReport, s'.traffic.drills = s.traffic.drills ++ drill.toList
        ∧ ∀ cluster, (∃ report ∈ drill, cluster ∈ report.targets) ↔ intent.kind = .drill
          ∧ (cluster ∈ s.namedPool service.activePoolId
            ∨ cluster ∈ s.namedPool intent.targetPoolId) := by
  obtain ⟨drill, j, h, hdrill⟩ := returns_of_drillReportFor h
  rw [Returns, run_call, run_call, run_call] at h
  split at h
  · exact absurd h not_returns_error
  next hcreated =>
  replace hcreated : ((choice (j + 1 + 1)).outcome.commit s.traffic
      (s.traffic.createSwitchRequest _ drill _)).2 = .ok () := hcreated
  have htx := commit_eq_ok hcreated
  obtain ⟨hstate, hrequest⟩ := Prod.mk.inj h
  refine ⟨?_, drill, ?_, hdrill⟩
  · rw [← Except.ok.inj hrequest]
    rfl
  · obtain ⟨requests, outbox, -, -, hs'⟩ := Traffic.createSwitchRequest_eq_ok htx
    rw [← hstate]
    exact congrArg Traffic.drills hs'

section Returned

variable {body : Json} {pathServiceId : String}
  (h : (submitIntent sha body pathServiceId trusted).Returns choice 0 s s' request)
  (hnew : s.traffic.requests.get? request.id = none)

include h hnew

/-- A submission that creates a request makes a plan for it. -/
theorem returns_of_submitIntent :
    ∃ intent service input plan j, parseIntent body = .ok intent ∧ intent.serviceId = pathServiceId
      ∧ s.getService pathServiceId trusted.tenantId = some service ∧ s.Planned intent service input
      ∧ intent.buildPlan sha input = .ok plan
      ∧ (createRequest sha intent service trusted plan).Returns choice j s s' request := by
  unfold submitIntent at h
  split at h
  · exact absurd h not_returns_error
  next intent hintent =>
  split at h
  · exact absurd h not_returns_error
  next hpath =>
  split at h
  · exact absurd h not_returns_error
  split at h
  · exact absurd h not_returns_error
  rw [Returns, run_call] at h
  rcases hn : choice 0 with ⟨_ | _ | _⟩ <;> rw [hn] at h
  rotate_left
  · exact absurd h not_returns_error
  · exact absurd h not_returns_error
  simp only [estateRepository, commit_ok] at h
  cases hservice : s.getService pathServiceId trusted.tenantId with
  | none =>
    rw [hservice] at h
    exact absurd h not_returns_error
  | some service =>
  rw [hservice] at h
  rw [run_call] at h
  rcases hn : choice 1 with ⟨_ | _ | _⟩ <;> rw [hn] at h
  rotate_left
  · exact absurd h not_returns_error
  · exact absurd h not_returns_error
  simp only [repository, commit_ok] at h
  cases hexisting : s.traffic.requests.rows.find? fun row => row.tenantId == trusted.tenantId
    && row.serviceId == pathServiceId && row.idempotencyKey == intent.idempotencyKey with
  | some row =>
    -- The request that was found is not a new one.
    rw [hexisting] at h
    obtain rfl : row = request := Except.ok.inj (congrArg Prod.snd h)
    rw [Table.get?_of_mem (mem_of_find?_eq_some hexisting)] at hnew
    simp at hnew
  | none =>
  rw [hexisting] at h
  obtain ⟨input, plan, j, hinput, hplan, h⟩ := returns_of_buildPlan h
  exact ⟨intent, service, input, plan, j, hintent, not_not.1 hpath, rfl, hinput, hplan, h⟩

/-- The clusters in a request that is created are those of the pools that are named. -/
theorem mem_submittedTargets :
    ∃ intent service, parseIntent body = .ok intent
      ∧ s.getService pathServiceId trusted.tenantId = some service
      ∧ ∀ cluster, cluster ∈ submittedTargets s s' request ↔ intent.kind ≠ .weightUpdate
        ∧ (cluster ∈ s.namedPool service.activePoolId
          ∨ cluster ∈ s.namedPool intent.targetPoolId) := by
  obtain ⟨intent, service, input, plan, j, hintent, -, hservice, hinput, hplan, h⟩ :=
    returns_of_submitIntent h hnew
  obtain ⟨hsnapshot, drill, hdrills, hdrill⟩ := returns_of_createRequest h
  refine ⟨intent, service, hintent, hservice, fun cluster => ?_⟩
  have hreport : cluster ∈ (s'.traffic.drills.drop s.traffic.drills.length).flatMap DrillReport.targets
      ↔ ∃ report ∈ drill, cluster ∈ report.targets := by
    rw [hdrills, drop_left]
    simp
  rw [submittedTargets, mem_append, hsnapshot, snapshotTargets_marshal,
    mem_targets_of_buildPlan hplan, hreport, hdrill, hinput.targets, hinput.previous]
  have hswitch : (cluster ∈ s.namedPool intent.targetPoolId
        ∨ cluster ∈ if service.activePoolId = intent.targetPoolId then []
          else s.namedPool service.activePoolId)
      ↔ cluster ∈ s.namedPool service.activePoolId ∨ cluster ∈ s.namedPool intent.targetPoolId := by
    by_cases heq : service.activePoolId = intent.targetPoolId
    · simp [heq]
    · rw [if_neg heq]
      exact or_comm
  rw [hswitch]
  rcases steps_of_buildPlan hplan with ⟨hkind | hkind, -⟩ | ⟨hkind, -⟩ | ⟨hkind, -⟩ <;> simp [hkind]

end Returned

end Submission

/-- The clusters in an accepted intent's plan and drill report are clusters of its service, if and only
    if those of the pools that the service and the intent name are. The intents that only change
    weights name no targets. -/
theorem submitted_targets_owned_iff (sha : String → String) (body : Json) (pathServiceId : String)
    (trusted : TrustedContext) (s : Estate) (choice : Nat → RepoNature) (request : SwitchRequest)
    (haccepted : ((submitIntent sha body pathServiceId trusted).run estateRepository choice 0 s).2
      = .ok request)
    (hnew : s.traffic.requests.get? request.id = none) :
    let s' := ((submitIntent sha body pathServiceId trusted).run estateRepository choice 0 s).1
    (∀ cluster ∈ submittedTargets s s' request, s.Owns pathServiceId trusted.tenantId cluster)
    ↔ ∀ intent service, parseIntent body = .ok intent →
        s.getService pathServiceId trusted.tenantId = some service → intent.kind ≠ .weightUpdate →
        ∀ poolId ∈ [service.activePoolId, intent.targetPoolId], ∀ cluster ∈ s.namedPool poolId,
          s.Owns pathServiceId trusted.tenantId cluster := by
  intro s'
  obtain ⟨intent, service, hintent, hservice, hmem⟩ := mem_submittedTargets
    (Prod.ext rfl haccepted : Returns _ choice 0 s s' request) hnew
  constructor
  · intro h intent' service' hintent' hservice' hkind poolId hpool cluster hcluster
    obtain rfl := Except.ok.inj (hintent.symm.trans hintent')
    obtain rfl := Option.some.inj (hservice.symm.trans hservice')
    refine h cluster ((hmem cluster).2 ⟨hkind, ?_⟩)
    rcases mem_pair.1 hpool with rfl | rfl
    · exact .inl hcluster
    · exact .inr hcluster
  · intro h cluster hcluster
    obtain ⟨hkind, hcluster⟩ := (hmem cluster).1 hcluster
    rcases hcluster with hcluster | hcluster
    · exact h intent service hintent hservice hkind _ mem_cons_self cluster hcluster
    · exact h intent service hintent hservice hkind _ (mem_cons_of_mem _ mem_cons_self)
        cluster hcluster

/-! ## Two tenants -/

def estateUuid (digits : String) : String := "00000000-0000-4000-8000-0000000000" ++ digits

/-- A service of the one tenant with two pools, and a service of the other with one. -/
def twoTenants : Estate where
  services := ⟨[{ id := estateUuid "a1", tenantId := "t1", domain := "app.hnb.io"
                  activePoolId := estateUuid "b1", requireApproval := true },
                { id := estateUuid "a2", tenantId := "t2", domain := "shop.hnb.io"
                  activePoolId := estateUuid "b3", requireApproval := true }], by decide +kernel⟩
  pools := ⟨[{ id := estateUuid "b1", serviceId := estateUuid "a1", priority := 0 },
             { id := estateUuid "b2", serviceId := estateUuid "a1", priority := 1 },
             { id := estateUuid "b3", serviceId := estateUuid "a2", priority := 0 }], by decide +kernel⟩
  members := [{ poolId := estateUuid "b1", clusterId := "north", enabled := true },
     { poolId := estateUuid "b2", clusterId := "south", enabled := true },
     { poolId := estateUuid "b3", clusterId := "east", enabled := true }]
  traffic := (TrafficWorld.start .empty .empty 0).traffic

/-- A failover of the first service to a pool. -/
def failoverTo (poolId : String) : Intent where
  apiVersion := Gslb.apiVersion
  kind := .failover
  serviceId := estateUuid "a1"
  tenantId := "t1"
  targetPoolId := poolId
  weights := []
  reason := ""
  drGroupRef := ""
  idempotencyKey := "k1"
  correlationId := estateUuid "c1"

/-- Someone of the first tenant who may submit it. -/
def submitter : TrustedContext :=
  { approver with
    scopedPermissions :=
      [{ resourceKind := "gslb", resourceId := "", action := .execute, tenantId := "t1",
         projectId := "", environmentId := "", namespaceId := "" }] }

def submitFailoverTo (poolId : String) : Estate × Except AppError SwitchRequest :=
  (submitIntent id (failoverTo poolId).marshal (estateUuid "a1") submitter).run estateRepository
    (fun i => answeredRepo (toString i)) 0 twoTenants

theorem submitted_targets_owned_of_failover :
    ∃ request, (submitFailoverTo (estateUuid "b2")).2 = .ok request
      ∧ ∀ cluster ∈ submittedTargets twoTenants (submitFailoverTo (estateUuid "b2")).1 request,
        twoTenants.Owns (estateUuid "a1") "t1" cluster := by
  obtain ⟨hok, htarget, hpools⟩ :
      (submitFailoverTo (estateUuid "b2")).2.toOption.map (fun _ => ()) = some ()
      ∧ (parseIntent (failoverTo (estateUuid "b2")).marshal).toOption.map targetPoolId
        = some (estateUuid "b2")
      ∧ ∀ poolId ∈ [estateUuid "b1", estateUuid "b2"], ∀ cluster ∈ twoTenants.namedPool poolId,
        twoTenants.Owns (estateUuid "a1") "t1" cluster := by
    decide +kernel
  obtain ⟨request, hresult, -⟩ := except_eq_ok_of_map hok
  refine ⟨request, hresult, (submitted_targets_owned_iff id (failoverTo (estateUuid "b2")).marshal
    (estateUuid "a1") submitter twoTenants (fun i => answeredRepo (toString i)) request hresult
    rfl).2 fun intent service hintent hservice _ => ?_⟩
  rw [hintent] at htarget
  have hactive : service.activePoolId = estateUuid "b1" := by
    rw [← Option.some.inj hservice]
  rw [hactive, Option.some.inj htarget]
  exact hpools

/-- The plan of the first tenant sends traffic to the cluster of the second. -/
theorem foreign_pool_in_plan : ∃ request, (submitFailoverTo (estateUuid "b3")).2 = .ok request
      ∧ "east" ∈ submittedTargets twoTenants (submitFailoverTo (estateUuid "b3")).1 request
      ∧ ¬ twoTenants.Owns (estateUuid "a1") "t1" "east" := by
  have htargets : (submitFailoverTo (estateUuid "b3")).2.toOption.map
      (submittedTargets twoTenants (submitFailoverTo (estateUuid "b3")).1)
        = some ["east", "east", "north"] := by
    decide +kernel
  obtain ⟨request, hresult, htargets⟩ := except_eq_ok_of_map htargets
  refine ⟨request, hresult, ?_, by decide +kernel⟩
  rw [htargets]
  exact mem_cons_self

end HnbCloud.Gslb
