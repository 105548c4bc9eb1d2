import HnbCloud.Gslb.Steering

set_option autoImplicit false

/-! # Where the traffic goes

What the row of a service and its read model say, compared with the switches that have succeeded. They
agree as long as every switch that succeeds goes to the pool the service was configured with, every
projection finds all its members healthy, and a drill finds a row in the read model. A failover, which
is a switch to another pool, leaves them behind. -/

namespace HnbCloud.Gslb

open Iam List Table Option Steering SwitchRequest

namespace Steering

/-- The operation leaves the services and the read model right. -/
def steady (s : Steering) : SteeringOp → Bool
  | .controller _ op _ =>
    op.completes.all fun id => (s.estate.traffic.requests.get? id).all fun row =>
      !row.isSwitch || (s.estate.services.get? row.serviceId).all fun service =>
        row.targetPoolId == service.activePoolId
  | .project domain healthyTargets _ =>
    (s.estate.findServiceByDomain domain).all fun service =>
      (s.estate.poolMemberClusterIds service.activePoolId).all healthyTargets.contains
        && ((s.estate.poolMemberClusterIds service.activePoolId).isEmpty
          || s.estate.pools.rows.any fun pool =>
            pool.id == service.activePoolId && pool.serviceId == service.id)
  | .api (.createSwitchRequest _ (some report) _) _ =>
    (s.estate.services.get? report.serviceId).all fun service =>
      (s.readModels.get? service.id).isSome
        || (s.estate.poolMemberClusterIds service.activePoolId).isEmpty
  | _ => true

/-- The read model of a service shows the members of the pool. -/
def Shows (s : Steering) (serviceId poolId : String) : Prop :=
  ∀ model, s.readModels.get? serviceId = some model →
    model.currentDnsTargets = s.estate.poolMemberClusterIds poolId

end Steering

/-! ## A projection -/

theorem Estate.insertionSort_poolMemberClusterIds (s : Estate) (poolId : String) :
    (s.poolMemberClusterIds poolId).insertionSort (· ≤ ·) = s.poolMemberClusterIds poolId :=
  (pairwise_insertionSort (· ≤ ·) _).insertionSort_eq

/-- All members of the active pool are projected if they are healthy. -/
theorem Estate.currentTargets_of_healthy {s : Estate} {service : Service}
    {healthyTargets : List String}
    (hhealthy : (s.poolMemberClusterIds service.activePoolId).all healthyTargets.contains = true)
    (hpool : s.poolMemberClusterIds service.activePoolId = []
      ∨ ∃ pool ∈ s.pools.rows, pool.id = service.activePoolId ∧ pool.serviceId = service.id) :
    s.currentTargets service healthyTargets = s.poolMemberClusterIds service.activePoolId := by
  unfold Estate.currentTargets
  by_cases hempty : s.poolMemberClusterIds service.activePoolId = []
  · rw [hempty]
    simp
  obtain ⟨pool, hpool, hid, hservice⟩ := hpool.resolve_left hempty
  have hcontains : (s.healthyPools service.id healthyTargets).contains service.activePoolId
      = true := by
    obtain ⟨cluster, hcluster⟩ := exists_mem_of_ne_nil _ hempty
    rw [contains_iff_mem]
    unfold Estate.healthyPools
    rw [(perm_insertionSort _ _).mem_iff]
    refine mem_map.2 ⟨pool, mem_filter.2 ⟨hpool, ?_⟩, hid⟩
    rw [hservice, hid, beq_self_eq_true, Bool.true_and]
    exact any_eq_true.2 ⟨cluster, hcluster, all_eq_true.1 hhealthy cluster hcluster⟩
  rw [if_pos hcontains, filter_eq_self.2 (all_eq_true.1 hhealthy)]
  exact s.insertionSort_poolMemberClusterIds service.activePoolId

/-! ## What a run keeps -/

/-- Services, pools and members are those of the start; every switch that succeeded went to the pool
    its service was configured with, whose members the read model shows. -/
structure SteeringInv (s₀ s : Steering) : Prop where
  same : s₀.estate.SameServices s.estate
  switched : ∀ row ∈ s.succeeded, row.isSwitch = true → ∀ service,
    s₀.estate.services.get? row.serviceId = some service → row.targetPoolId = service.activePoolId
  shown : ∀ id service, s₀.estate.services.get? id = some service → s.Shows id service.activePoolId

namespace SteeringInv

variable {s₀ s s' : Steering}

theorem shows_of_same (inv : SteeringInv s₀ s)
    (hsame : s.estate.SameServices s'.estate) (hmodels : s'.readModels = s.readModels) :
    ∀ id service, s₀.estate.services.get? id = some service → s'.Shows id service.activePoolId := by
  intro id service hservice model hmodel
  rw [hmodels] at hmodel
  rw [hsame.poolMemberClusterIds]
  exact inv.shown id service hservice model hmodel

/-- What a row of the read model shows after it has been written for one service. -/
theorem shows_upsert (inv : SteeringInv s₀ s)
    (hsame : s.estate.SameServices s'.estate) {new : ReadModel} {f : ReadModel → ReadModel}
    {hf : ∀ row, (f row).serviceId = row.serviceId}
    (hmodels : s'.readModels = s.readModels.upsert new f hf)
    (hnew : ∀ service, s₀.estate.services.get? new.serviceId = some service →
      ∀ model, (s.readModels.get? new.serviceId).elim new f = model →
        model.currentDnsTargets = s.estate.poolMemberClusterIds service.activePoolId) :
    ∀ id service, s₀.estate.services.get? id = some service → s'.Shows id service.activePoolId := by
  intro id service hservice model hmodel
  rw [hmodels] at hmodel
  rw [hsame.poolMemberClusterIds]
  by_cases hid : id = new.serviceId
  · subst hid
    rw [get?_upsert_self] at hmodel
    exact hnew service hservice model (Option.some.inj hmodel)
  · rw [get?_upsert_of_ne _ _ _ _ hid] at hmodel
    exact inv.shown id service hservice model hmodel

theorem next (inv : SteeringInv s₀ s) {op : SteeringOp}
    (hsteady : s.steady op = true) (h : s.Does op s') : SteeringInv s₀ s' := by
  cases h with
  | other _ estate readModels succeeded =>
    refine ⟨inv.same.trans estate, ?_, inv.shows_of_same estate readModels⟩
    rw [succeeded]
    exact inv.switched
  | drilled _ report _ _ estate readModels succeeded =>
    refine ⟨inv.same.trans estate, ?_, ?_⟩
    · rw [succeeded]
      exact inv.switched
    unfold projectDrill at readModels
    split at readModels
    · exact inv.shows_of_same estate readModels
    next drilled hdrilled =>
    refine inv.shows_upsert estate readModels ?_
    intro service hservice model hmodel
    have hid : drilled.id = report.serviceId := key_of_get? hdrilled
    have hsame : s₀.estate.services.get? drilled.id = some drilled := by
      rw [hid, ← inv.same.services]
      exact hdrilled
    obtain rfl : drilled = service := Option.some.inj (hsame.symm.trans hservice)
    simp only [steady, hdrilled, all_some, Bool.or_eq_true, List.isEmpty_iff] at hsteady
    subst hmodel
    -- A row that is there keeps its targets; a new one has none.
    cases hmodel : s.readModels.get? drilled.id with
    | some old =>
      have hshown := inv.shown drilled.id drilled hsame old hmodel
      rw [show (drillModel drilled report).serviceId = drilled.id from rfl, hmodel]
      exact hshown
    | none =>
      rw [hmodel] at hsteady
      rw [show (drillModel drilled report).serviceId = drilled.id from rfl, hmodel,
        hsteady.resolve_left (by simp)]
      rfl
  | succeeded _ _ _ _ _ row stored estate readModels succeeded =>
    refine ⟨inv.same.trans estate, ?_, inv.shows_of_same estate readModels⟩
    rw [succeeded]
    intro row' hrow'
    rcases mem_append.1 hrow' with hrow' | hrow'
    · exact inv.switched row' hrow'
    obtain rfl := mem_singleton.1 hrow'
    intro hswitch service hservice
    simp only [steady, ControllerOp.completes, if_true, all_some, stored,
      Bool.or_eq_true, Bool.not_eq_true'] at hsteady
    rcases hsteady with hno | htarget
    · exact absurd (hno.symm.trans hswitch) (by simp)
    · rw [inv.same.services, show s₀.estate.services.get? row.serviceId = some service
        from hservice, all_some, beq_iff_eq] at htarget
      exact htarget
  | projected _ healthyTargets _ found hfound estate readModels succeeded =>
    have hsame : s.estate.SameServices s'.estate := estate ▸ .refl _
    refine ⟨inv.same.trans hsame, ?_, inv.shows_upsert hsame readModels ?_⟩
    · rw [succeeded]
      exact inv.switched
    intro service hservice model hmodel
    have hstored : s₀.estate.services.get? found.id = some found := by
      rw [← inv.same.services]
      exact get?_of_mem (mem_of_find?_eq_some hfound)
    obtain rfl : found = service := Option.some.inj (hstored.symm.trans hservice)
    simp only [steady, hfound, all_some, Bool.and_eq_true, Bool.or_eq_true,
      List.isEmpty_iff, List.any_eq_true, beq_iff_eq] at hsteady
    obtain ⟨hhealthy, hpool⟩ := hsteady
    rw [← Estate.currentTargets_of_healthy hhealthy hpool, ← hmodel]
    cases s.readModels.get? (s.estate.projectedModel found healthyTargets).serviceId <;> rfl

end SteeringInv

/-- In a run whose operations are steady, the active pool of every service is the target of the last
    failover or switchback that has succeeded, or the pool it was configured with, and its read model
    shows the enabled members of that pool. -/
theorem active_pool_current (sha : String → String) (s₀ : Steering) (hnew : s₀.succeeded = [])
    (hshown : ∀ service ∈ s₀.estate.services.rows, s₀.Shows service.id service.activePoolId)
    (events : List SteeringEvent)
    (hsteady : ∀ x ∈ (steeringMachine sha).trace (.start s₀) events,
      (x.pre.operation x.call).all x.pre.state.steady = true) :
    let s := ((steeringMachine sha).run (.start s₀) events).state
    ∀ configured ∈ s₀.estate.services.rows, ∃ service,
      s.estate.services.get? configured.id = some service
        ∧ service.activePoolId = s.lastTarget configured
        ∧ s.Shows configured.id (s.lastTarget configured) := by
  intro s configured hconfigured
  have inv : SteeringInv s₀ s := by
    refine (steeringMachine sha).run_induction_of_trace (P := fun w => SteeringInv s₀ w.state)
      (C := fun w event => (w.operation event).all w.state.steady = true) ?_ ?_ hsteady
    · intro w event hevent inv
      show SteeringInv s₀ (w.nextState event)
      unfold SteeringWorld.nextState
      cases hop : w.operation event with
      | none => exact inv
      | some op =>
        rw [hop] at hevent
        exact inv.next hevent (does_apply w.state op)
    · refine ⟨.refl _, ?_, ?_⟩
      · intro row hrow
        rw [show (SteeringWorld.start s₀).state = s₀ from rfl, hnew] at hrow
        simp at hrow
      · intro id service hservice
        rw [← key_of_get? hservice]
        exact hshown service (mem_of_get? hservice)
  have hstored : s₀.estate.services.get? configured.id = some configured := get?_of_mem hconfigured
  have htarget : s.lastTarget configured = configured.activePoolId := by
    unfold lastTarget
    cases hlast : (s.succeeded.filter fun request =>
        request.serviceId == configured.id && request.isSwitch).getLast? with
    | none => rfl
    | some row =>
      obtain ⟨hrow, hown⟩ := mem_filter.1 (mem_of_getLast? hlast)
      simp only [Bool.and_eq_true, beq_iff_eq] at hown
      exact inv.switched row hrow hown.2 configured (hown.1 ▸ hstored)
  refine ⟨configured, ?_, htarget.symm, ?_⟩
  · rw [inv.same.services]
    exact hstored
  · rw [htarget]
    exact inv.shown configured.id configured hstored

/-! ## A switch -/

/-- The estate of two tenants; the read model shows the members of the active pool. -/
def steeringStart : Steering where
  estate := twoTenants
  readModels := ⟨[{ serviceId := estateUuid "a1", tenantId := "t1", domain := "app.hnb.io"
                    activePoolId := estateUuid "b1", healthyPools := [estateUuid "b1"]
                    currentDnsTargets := ["north"], lastDrillReportId := ""
                    lastDrillVerdict := none }], nodup_singleton _⟩
  succeeded := []

/-- The request that a submission creates. -/
def switchRequest (poolId : String) : SwitchRequest :=
  (submitFailoverTo poolId).2.toOption.getD pendingFailover

/-- The command of its approval. -/
def switchCommand (poolId : String) : Json :=
  (stepRequestedEvent "m2" (switchRequest poolId).planSnapshot none approver
    (switchRequest poolId)).payload

/-- A failover to a pool is submitted, approved and executed, and all clusters are healthy. -/
def switchTo (poolId : String) : List SteeringEvent :=
  .submit (failoverTo poolId).marshal (estateUuid "a1") submitter
    :: (range 10).map (fun i => .perform 0 (answeredRepo (toString i)))
    ++ .approve (switchRequest poolId).id approver
    :: ["", "", "m1", "m2", ""].map (fun uuid => .perform 1 (answeredRepo uuid))
    ++ .deliver (switchCommand poolId) :: replicate 5 (.handle 0 answeredController)
    ++ [.project "app.hnb.io" ["north", "south", "east"] .ok]

def switchedTo (poolId : String) : Steering :=
  ((steeringMachine id).run (.start steeringStart) (switchTo poolId)).state

/-- A failover to the second pool has succeeded, and the service and its read model still name the
    first one. -/
theorem switched_pool_not_active :
    (switchedTo (estateUuid "b2")).succeeded.map targetPoolId = [estateUuid "b2"]
      ∧ ((switchedTo (estateUuid "b2")).estate.services.get? (estateUuid "a1")).map
        Service.activePoolId = some (estateUuid "b1")
      ∧ ((switchedTo (estateUuid "b2")).readModels.get? (estateUuid "a1")).map
        ReadModel.currentDnsTargets = some ["north"]
      ∧ (switchedTo (estateUuid "b2")).estate.poolMemberClusterIds (estateUuid "b2") = ["south"] := by
  decide +kernel

theorem active_pool_current_of_return :
    (switchedTo (estateUuid "b1")).succeeded.map targetPoolId = [estateUuid "b1"]
      ∧ ∀ configured ∈ twoTenants.services.rows, ∃ service,
        (switchedTo (estateUuid "b1")).estate.services.get? configured.id = some service
          ∧ service.activePoolId = (switchedTo (estateUuid "b1")).lastTarget configured
          ∧ (switchedTo (estateUuid "b1")).Shows configured.id
            ((switchedTo (estateUuid "b1")).lastTarget configured) := by
  obtain ⟨hsucceeded, hsteady⟩ :
      (switchedTo (estateUuid "b1")).succeeded.map targetPoolId = [estateUuid "b1"]
      ∧ ∀ x ∈ (steeringMachine id).trace (.start steeringStart) (switchTo (estateUuid "b1")),
        (x.pre.operation x.call).all x.pre.state.steady = true := by
    decide +kernel
  refine ⟨hsucceeded, active_pool_current id steeringStart rfl ?_ (switchTo (estateUuid "b1"))
    hsteady⟩
  intro service hservice model hmodel
  have hshown : ∀ service ∈ twoTenants.services.rows,
      ∀ model ∈ steeringStart.readModels.get? service.id,
        model.currentDnsTargets = twoTenants.poolMemberClusterIds service.activePoolId := by
    decide +kernel
  exact hshown service hservice model hmodel

end HnbCloud.Gslb
