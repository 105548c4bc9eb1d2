import HnbCloud.Gslb.Failover
import HnbCloud.Gslb.Switch

set_option autoImplicit false

/-! # Two ways to a failover

A failover is requested by an operator, through the API server, or by the controller itself. Both read
the same tables and have the plan made by `BuildPlan`. The controller leaves out the previous targets,
so the compensation of its plan has nothing to go back to. -/

namespace HnbCloud.Gslb

/-! ## The work of a plan -/

def documentTexts (data : Json) : List String := (documentItems data).filterMap documentText

/-- A step of a stored plan without the key that names it: its texts, the steps it depends on and its
    targets. -/
def stepWork (step : Json) : List (Option String) × List String × List String :=
  let inputs := documentField "inputs" step
  ((["stepId", "stepType", "compensation"].map fun name => documentText (documentField name step))
      ++ ["serviceId", "domain", "targetPoolId"].map fun name =>
        documentText (documentField name inputs),
    documentTexts (documentField "dependsOn" step), documentTexts (documentField "targets" inputs))

def snapshotWork (snapshot : Json) : List (List (Option String) × List String × List String) :=
  (documentItems (documentField "steps" snapshot)).map stepWork

/-- Two switches of a service to the same targets differ in what they go back to. -/
theorem snapshotWork_eq_iff {intent intent' : Intent} {input input' : PlanInput} {plan plan' : Plan}
    (hsteps : plan.steps
      = [intent.applyStep input, intent.verifyStep input, intent.revertStep input])
    (hsteps' : plan'.steps
      = [intent'.applyStep input', intent'.verifyStep input', intent'.revertStep input'])
    (hservice : intent'.serviceId = intent.serviceId)
    (hpool : intent'.targetPoolId = intent.targetPoolId) (hdomain : input'.domain = input.domain)
    (htargets : input'.targets = input.targets) :
    snapshotWork plan.marshal = snapshotWork plan'.marshal
      ↔ input.previousTargets = input'.previousTargets := by
  have hwork : ∀ plan : Plan, snapshotWork plan.marshal
      = plan.steps.map fun step => stepWork step.marshal := fun plan => List.map_map
  have htexts : ∀ texts, documentTexts (stringSlice texts) = texts := targets_stringSlice
  rw [hwork, hwork, hsteps, hsteps']
  simp [stepWork, Step.marshal, documentField, Intent.applyStep, Intent.verifyStep,
    Intent.revertStep, hservice, hpool, hdomain, htargets, htexts]

/-! ## The request of the controller -/

/-- The row of the service, as the controller reads it. -/
def Service.row (service : Service) : ServiceRow where
  id := service.id
  tenantId := service.tenantId
  domain := service.domain
  activePoolId := service.activePoolId

section Automatic

variable {s : Estate} {service : ServiceRow} {sha : String → String}

/-- A request that is new in `s'` carries a plan for the backup pool, without previous targets. -/
def AutoPlanned (sha : String → String) (s : Estate) (service : ServiceRow) (s' : Estate) : Prop :=
  ∀ request, s.traffic.requests.get? request.id = none →
    s'.traffic.requests.get? request.id = some request →
    ∃ poolId correlationId plan, s.backupPool service.id service.activePoolId = some poolId
      ∧ (autoFailoverIntent service poolId correlationId).buildPlan sha
        (autoFailoverInput service poolId (s.poolMemberClusterIds poolId)) = .ok plan
      ∧ request.planSnapshot = plan.marshal

theorem autoPlanned_refl : AutoPlanned sha s service s := by
  intro request hnew hstored
  rw [hnew] at hstored
  simp at hstored

abbrev FailoverProgram.Plans (sha : String → String) (s : Estate) (service : ServiceRow)
    (p : FailoverProgram) : Prop :=
  p.Ensures failoverStore Eq (fun _ => AutoPlanned sha s service) s

theorem plans_done (result : Except String Bool) :
    FailoverProgram.Plans sha s service (.done result) := by
  rintro _ rfl
  exact autoPlanned_refl

theorem plans_createFailover {poolId : String}
    (hpool : s.backupPool service.id service.activePoolId = some poolId) :
    (createFailover sha service poolId (s.poolMemberClusterIds poolId)).Plans sha s service := by
  rintro _ rfl n
  dsimp only
  split
  · exact plans_done _
  next plan hplan =>
  rintro _ rfl n₁ _ rfl n₂ _ rfl n₃ _ rfl n₄ _ rfl n₅
  -- Whatever the transaction answers, the only new request is the one it inserts.
  dsimp only
  split <;>
  · rintro _ rfl
    refine commit_induction n₅.outcome autoPlanned_refl ?_
    intro s' _ h request hnew hstored
    rw [Table.get?_insert? (insertFailover_inserts h)] at hstored
    split at hstored
    · cases hstored
      exact ⟨poolId, _, plan, hpool, hplan, rfl⟩
    · exact autoPlanned_refl request hnew hstored

theorem plans_ensureFailoverRequest : (ensureFailoverRequest sha service).Plans sha s service := by
  rintro _ rfl ⟨_ | _ | _⟩
  rotate_left
  · exact plans_done _
  · exact plans_done _
  simp only [failoverStore, commit_ok]
  cases hpool : s.backupPool service.id service.activePoolId with
  | none => exact plans_done _
  | some =>
  rintro _ rfl ⟨_ | _ | _⟩
  rotate_left
  · exact plans_done _
  · exact plans_done _
  dsimp only [failoverStore, commit_ok]
  split
  · exact plans_done _
  rintro _ rfl ⟨_ | _ | _⟩
  rotate_left
  · exact plans_done _
  · exact plans_done _
  dsimp only [failoverStore, commit_ok]
  split
  · exact plans_done _
  · exact plans_createFailover hpool

end Automatic

/-! ## The two plans -/

/-- The plan of an automatic failover and that of an operator's failover to the same pool do the same
    work if and only if the active pool has no member to go back to. -/
theorem failover_plans_agree_iff (sha : String → String) (s : Estate) (service : Service)
    (body : Json) (intent : Intent) (trusted : Iam.TrustedContext) (choice : Nat → FailoverNature)
    (choice' : Nat → RepoNature) (auto manual : SwitchRequest)
    (hservice : s.getService service.id trusted.tenantId = some service)
    (hauto : s.traffic.requests.get? auto.id = none
      ∧ ((ensureFailoverRequest sha service.row).run failoverStore choice 0
        s).1.traffic.requests.get? auto.id = some auto)
    (hmanual : s.traffic.requests.get? manual.id = none
      ∧ ((submitIntent sha body service.id trusted).run estateRepository choice' 0 s).2 = .ok manual)
    (hintent : parseIntent body = .ok intent) (hkind : intent.kind = .failover)
    (hpool : s.backupPool service.id service.activePoolId = some intent.targetPoolId) :
    snapshotWork auto.planSnapshot = snapshotWork manual.planSnapshot
      ↔ s.namedPool service.activePoolId = [] := by
  obtain ⟨poolId, correlationId, plan, hpool', hplan, hsnapshot⟩ :=
    plans_ensureFailoverRequest.run choice 0 auto hauto.1 hauto.2
  obtain ⟨intent', service', input, plan', j, hintent', hid, hservice', hinput, hplan', hcreated⟩ :=
    returns_of_submitIntent (Prod.ext rfl hmanual.2 : AppProgram.Returns _ choice' 0 s _ manual)
      hmanual.1
  obtain rfl := Option.some.inj (hservice.symm.trans hservice')
  obtain rfl := Except.ok.inj (hintent.symm.trans hintent')
  obtain rfl : poolId = intent.targetPoolId := Option.some.inj (hpool'.symm.trans hpool)
  obtain ⟨-, hsteps⟩ := buildPlan_steps (.inl rfl) hplan
  obtain ⟨htargets, hsteps'⟩ := buildPlan_steps (.inl hkind) hplan'
  -- The operator names the pool that the controller finds, which is not the active one.
  have hne : intent.targetPoolId ≠ "" := by
    intro hempty
    exact htargets (hinput.targets.trans (if_pos hempty))
  obtain ⟨-, -, -, hother⟩ := mem_of_backupPool hpool
  rw [hsnapshot, (returns_of_createRequest hcreated).1,
    snapshotWork_eq_iff hsteps hsteps' hid rfl hinput.domain (hinput.targets.trans (if_neg hne)),
    hinput.previous, if_neg hother.symm]
  exact eq_comm

/-- The request that an automatic failover of the first service creates. -/
def autoRequest (s : Estate) : Option SwitchRequest :=
  (failoverOf s "c").1.traffic.requests.rows.head?

/-- An operator has it fail over to its second pool. -/
def manualRequest (s : Estate) : Except AppError SwitchRequest :=
  ((submitIntent id (failoverTo (estateUuid "b2")).marshal (estateUuid "a1") submitter).run
    estateRepository (fun i => answeredRepo (toString i)) 0 s).2

/-- The first service, with no member in its active pool. -/
def emptyPrimary : Estate := { twoTenants with members := twoTenants.members.drop 1 }

theorem failover_plans_agree_of_emptyPrimary :
    ∃ auto manual, autoRequest emptyPrimary = some auto ∧ manualRequest emptyPrimary = .ok manual
      ∧ snapshotWork auto.planSnapshot = snapshotWork manual.planSnapshot := by
  obtain ⟨hauto, hmanual, hpool, hmembers⟩ : (autoRequest emptyPrimary).isSome = true
      ∧ (manualRequest emptyPrimary).toOption.map (fun _ => ()) = some ()
      ∧ emptyPrimary.backupPool (estateUuid "a1") (estateUuid "b1") = some (estateUuid "b2")
      ∧ emptyPrimary.namedPool (estateUuid "b1") = [] := by
    decide +kernel
  obtain ⟨auto, hauto⟩ := Option.isSome_iff_exists.1 hauto
  obtain ⟨manual, hmanual, -⟩ := except_eq_ok_of_map hmanual
  exact ⟨auto, manual, hauto, hmanual, (failover_plans_agree_iff id emptyPrimary
    { id := estateUuid "a1", tenantId := "t1", domain := "app.hnb.io"
      activePoolId := estateUuid "b1", requireApproval := true }
    (failoverTo (estateUuid "b2")).marshal (failoverTo (estateUuid "b2")) submitter
    (answeredFailover "c") (fun i => answeredRepo (toString i)) auto manual rfl
    ⟨rfl, Table.get?_of_mem (List.mem_of_mem_head? hauto)⟩ ⟨rfl, hmanual⟩ rfl rfl hpool).2 hmembers⟩

/-- The automatic failover of a service with a member in each pool has nothing to go back to, unlike
    that of an operator. -/
theorem auto_failover_not_compensated :
    (autoRequest twoTenants).map (fun r => snapshotTargets r.planSnapshot) = some ["south", "south"]
      ∧ (manualRequest twoTenants).toOption.map (fun r => snapshotTargets r.planSnapshot)
        = some ["south", "south", "north"]
      ∧ (autoRequest twoTenants).map (fun r => snapshotWork r.planSnapshot)
        ≠ (manualRequest twoTenants).toOption.map fun r => snapshotWork r.planSnapshot := by
  decide +kernel

end HnbCloud.Gslb
