import HnbCloud.Gslb.Switch

set_option autoImplicit false

/-! # The objects of the services

What the executor does to the DNSEndpoint objects of the cluster. The object of a service is named
after its domain, and two domains can have one name. The plan of a weight update carries no targets,
so its first step deletes the object. `DeleteRecords` does not look at the name it is given: it
deletes every object that this controller has made. -/

namespace HnbCloud.Gslb

open List Program ApiOutcome

/-! ## Weight updates -/

def DNSEndpoint.targets (endpoint : DNSEndpoint) : List String :=
  endpoint.endpoints.flatMap DNSRecord.targets

open DNSEndpoint

/-- The object is still there, with the same set of targets. -/
def DnsState.KeepsTargets (s s' : DnsState) (name : String) : Prop :=
  ∀ endpoint, s.objects.get? name = some endpoint → ∃ endpoint', s'.objects.get? name = some endpoint'
    ∧ ∀ target, target ∈ endpoint'.targets ↔ target ∈ endpoint.targets

section WeightUpdate

variable {intent : Intent} {input : PlanInput} {sha : String → String} {plan : Plan}
  {order : List String}

/-- Without targets, the one request of an execution is the deletion. -/
theorem run_weightUpdate (hsteps : plan.steps = intent.weightSteps input)
    (horder : order.Perm ["apply", "verify"]) (ttl : Nat) (choice : Nat → ApiOutcome)
    (s : DnsState) :
    ((executePlan ttl plan order).run dnsApi choice 0 s).1
      = (dnsApi.perform s (.delete (endpointName input.domain)) (choice 0)).1 := by
  have hsort : topoSort plan.steps order = .ok (intent.weightSteps input) := by
    have hmem := mem_permutations'.2 horder
    simp only [permutations', permutations'Aux, flatMap_cons, flatMap_nil, map_cons, map_nil,
      append_nil, mem_cons, not_mem_nil, or_false] at hmem
    rw [hsteps]
    rcases hmem with rfl | rfl <;> rfl
  obtain ⟨apply, verify, hlist, happly, hverify, hnone, hnone'⟩ : ∃ apply verify,
      intent.weightSteps input = [apply, verify]
      ∧ (∀ next, executeStep ttl apply next = deleteEndpoint (endpointName input.domain) next)
      ∧ (∀ next, executeStep ttl verify next = next (.error "dns targets not verified"))
      ∧ apply.compensation = "" ∧ verify.compensation = "" :=
    ⟨_, _, rfl, fun _ => rfl, fun _ => rfl, rfl, rfl⟩
  rw [executePlan, hsort, hlist]
  simp only [executeSteps, happly, hverify, deleteEndpoint, run_call,
    compensate_of_none hnone, compensate_of_none hnone']
  -- Whatever is answered, `verify` finds no targets.
  rcases dnsApi.perform s (.delete (endpointName input.domain)) (choice 0) with ⟨s', answer⟩
  rcases answer with (_ | text) | ⟨⟩ <;> rfl

theorem get?_remove (s : DnsState) (name other : String) :
    (s.remove name).objects.get? other = if other = name then none else s.objects.get? other :=
  s.objects.get?_deleteWhere_key name other

/-- The object of a service keeps its targets in a weight update if and only if the request to delete
    it is refused. -/
theorem weight_update_keeps_iff (sha : String → String) (intent : Intent) (input : PlanInput)
    (plan : Plan) (order : List String) (ttl : Nat) (choice : Nat → ApiOutcome) (s : DnsState)
    (endpoint : DNSEndpoint) (hkind : intent.kind = .weightUpdate)
    (hplan : intent.buildPlan sha input = .ok plan) (horder : order.Perm (plan.steps.map Step.stepId))
    (hstored : s.objects.get? (endpointName input.domain) = some endpoint) :
    s.KeepsTargets ((executePlan ttl plan order).run dnsApi choice 0 s).1 (endpointName input.domain)
      ↔ ∃ text, choice 0 = .refused text := by
  have hsteps : plan.steps = intent.weightSteps input := by
    simpa [hkind] using Intent.steps_of_buildPlan hplan
  rw [hsteps] at horder
  rw [run_weightUpdate hsteps horder]
  have hremoved : ¬ s.KeepsTargets (s.remove (endpointName input.domain))
      (endpointName input.domain) := by
    intro h
    obtain ⟨endpoint', hget, -⟩ := h endpoint hstored
    simp [get?_remove] at hget
  have hsame : s.KeepsTargets s (endpointName input.domain) :=
    fun endpoint' hget => ⟨endpoint', hget, fun _ => Iff.rfl⟩
  simp only [dnsApi, hstored]
  cases choice 0 with
  | ok | lost => simpa [apply] using hremoved
  | refused => simpa [apply] using hsame

end WeightUpdate

/-- New weights for `app.example.com`. -/
def reweigh : Intent :=
  { failover with kind := .weightUpdate, targetPoolId := "", weights := [("10.0.1.1", 60)] }

/-- The object before. -/
def weighed : DnsState where
  objects := ⟨[{ name := "app-example-com", endpoints := recordsForTargets "app" ["10.0.1.1"] }],
    by decide⟩
  writes := []

def reweighed (choice : Nat → ApiOutcome) : DnsState × ExecutionReport :=
  (executePlan 60 (reweigh.planOf id (reweigh.weightSteps failoverInput)) ["apply", "verify"]).run
    dnsApi choice 0 weighed

theorem weight_update_keeps_of_refused :
    weighed.KeepsTargets (reweighed fun _ => .refused "").1 "app-example-com" :=
  (weight_update_keeps_iff id reweigh failoverInput _ ["apply", "verify"] 60 (fun _ => .refused "")
    weighed _ rfl rfl (.refl _) rfl).2 ⟨"", rfl⟩

/-- Every request is answered, and the object of the service is gone. -/
theorem weight_update_deletes :
    (weighed.objects.get? "app-example-com").map targets = some ["10.0.1.1"]
      ∧ (reweighed fun _ => .ok).1.objects.get? "app-example-com" = none := by
  decide +kernel

/-! ## DeleteRecords -/

/-- The requests of a cleanup. -/
inductive CleanupOp where
  /-- The names of the objects with this owner in their label. -/
  | list (ownerId : String)
  | delete (name : String)

abbrev CleanupOp.Reply : CleanupOp → Type
  | list .. => Except ApiError (List String)
  | delete .. => Except ApiError Unit

/-- The API of the cluster, for objects with these owners. -/
def cleanupApi (owner : String → String) :
    HnbCloud.Service DnsState CleanupOp CleanupOp.Reply ApiOutcome where
  perform s op outcome :=
    match op with
    | .list ownerId => outcome.apply s s
        (.ok ((s.objects.rows.map name).filter fun name => owner name == ownerId))
    | .delete name => dnsApi.perform s (.delete name) outcome

abbrev CleanupProgram := Program CleanupOp CleanupOp.Reply (Except String Unit)

/-- The loop of `CleanupOrphaned`. -/
def cleanupEach (activeNames : List String) : List String → CleanupProgram
  | [] => .done (.ok ())
  | name :: rest =>
    if name ∈ activeNames then cleanupEach activeNames rest else
    .call (.delete name) fun
    | .ok () | .error .notFound => cleanupEach activeNames rest
    | .error err => .done (.error ("cleanup orphaned dnsendpoint " ++ name ++ ": delete dnsendpoint "
        ++ name ++ ": " ++ err.text))

def cleanupOrphaned (ownerId : String) (activeNames : List String) : CleanupProgram :=
  .call (.list ownerId) fun
  | .error err => .done (.error ("list dnsendpoints: " ++ err.text))
  | .ok names => cleanupEach activeNames names

/-- `DeleteRecords`: the name is not used, and no name counts as active. -/
def deleteRecords (ownerId _name : String) : CleanupProgram := cleanupOrphaned ownerId []

/-! ## The objects of others -/

/-- The object of this name is neither written nor deleted between the two states. -/
def DnsState.Spares (s : DnsState) (name : String) (s' : DnsState) : Prop :=
  s'.objects.get? name = s.objects.get? name
    ∧ s'.writes.filter (fun e => e.name == name) = s.writes.filter fun e => e.name == name

def DnsOp.name : DnsOp → String
  | get name | delete name => name
  | update endpoint | create endpoint => endpoint.name

section Spares

variable {s s₀ : DnsState} {name other : String}

theorem spares_apply {α : Type} {s' : DnsState} {answer : Except ApiError α}
    (h : s₀.Spares name s) (h' : s₀.Spares name s') (outcome : ApiOutcome) :
    s₀.Spares name (outcome.apply s s' answer).1 := by
  cases outcome
  exacts [h', h, h']

/-- A request about one object leaves the others. -/
theorem spares_perform (op : DnsOp) (outcome : ApiOutcome) (hne : op.name ≠ name)
    (h : s₀.Spares name s) : s₀.Spares name (dnsApi.perform s op outcome).1 := by
  have hwrite : ∀ endpoint : DNSEndpoint, endpoint.name ≠ name → s₀.Spares name (s.write endpoint) := by
    refine fun endpoint hne => ⟨(Table.get?_upsert_of_ne _ _ _ _ hne.symm).trans h.1, ?_⟩
    simp [DnsState.write, filter_append, hne, h.2]
  have hremove : ∀ other, other ≠ name → s₀.Spares name (s.remove other) := by
    refine fun other hne => ⟨(get?_remove s other name).trans ((if_neg hne.symm).trans h.1), ?_⟩
    simp [DnsState.remove, filter_append, hne, h.2]
  cases op with
  | get =>
    simp only [dnsApi]
    split <;> exact spares_apply h h outcome
  | update endpoint =>
    simp only [dnsApi]
    split
    · exact spares_apply h (hwrite endpoint hne) outcome
    · exact spares_apply h h outcome
  | create endpoint =>
    simp only [dnsApi]
    split
    · exact spares_apply h h outcome
    · exact spares_apply h (hwrite endpoint hne) outcome
  | delete other =>
    simp only [dnsApi]
    split
    · exact spares_apply h (hremove other hne) outcome
    · exact spares_apply h h outcome

/-! The requests of an execution are about the object of its domain. -/

section Within

variable {domain : String} {ttl : Nat}

/-- A program whose requests are all about this object. -/
abbrev DnsProgram.About (name : String) (p : DnsProgram) : Prop :=
  p.Within (fun op => op.name = name) fun _ _ => True

variable {next : Except String Unit → DnsProgram}

theorem about_ensureEndpoint {records : List DNSRecord}
    (h : ∀ r, (next r).About name) : (ensureEndpoint name records next).About name := by
  unfold ensureEndpoint deleteEndpoint
  split
  · refine ⟨rfl, fun answer _ => ?_⟩
    rcases answer with (_ | text) | ⟨⟩ <;> exact h _
  refine ⟨rfl, fun answer _ => ?_⟩
  rcases answer with (_ | text) | endpoint
  · refine ⟨rfl, fun answer _ => ?_⟩
    rcases answer with err | ⟨⟩ <;> exact h _
  · exact h _
  · refine ⟨rfl, fun answer _ => ?_⟩
    rcases answer with err | ⟨⟩ <;> exact h _

/-- The step is one for this domain, or it makes no request. -/
def Step.For (domain : String) (step : Step) : Prop :=
  step.stepType = .drillCompute ∨ step.domain = domain

theorem about_executeStep {step : Step} (hstep : step.For domain)
    (h : ∀ r, (next r).About (endpointName domain)) :
    (executeStep ttl step next).About (endpointName domain) := by
  unfold executeStep
  rcases hstep with hdrill | rfl
  · rw [hdrill]
    exact h _
  split
  · exact about_ensureEndpoint h
  · exact about_ensureEndpoint h
  · unfold verifyTargets
    split
    · exact h _
    · exact about_ensureEndpoint h
  · exact h _
  · exact h _

variable {plan : Plan}

theorem about_executeSteps {steps : List Step} {ran : List (String × Bool)}
    (hplan : ∀ step ∈ plan.steps, step.For domain) (hsteps : ∀ step ∈ steps, step.For domain) :
    (executeSteps ttl plan steps ran).About (endpointName domain) := by
  induction steps generalizing ran with
  | nil => trivial
  | cons step _ ih =>
    refine about_executeStep (hsteps step mem_cons_self) fun r => ?_
    cases r with
    | ok => exact ih fun step hstep => hsteps step (mem_cons_of_mem _ hstep)
    | error =>
      dsimp only
      unfold compensate
      split
      · trivial
      split
      · trivial
      next candidate hcandidate =>
      exact about_executeStep (hplan candidate (mem_of_find?_eq_some hcandidate)) fun _ => trivial

theorem about_executePlan (hplan : ∀ step ∈ plan.steps, step.For domain)
    (order : List String) : (executePlan ttl plan order).About (endpointName domain) := by
  unfold executePlan
  split
  · trivial
  · trivial
  next ordered hsort =>
  refine about_executeSteps hplan fun step hstep => hplan step ?_
  simp only [topoSort, Except.map] at hsort
  split at hsort
  · simp at hsort
  · cases hsort
    obtain ⟨id, -, hid⟩ := mem_filterMap.1 hstep
    exact mem_reverse.1 (mem_of_find?_eq_some hid)

theorem for_of_buildPlan {intent : Intent} {sha : String → String} {input : PlanInput}
    (h : intent.buildPlan sha input = .ok plan) : ∀ step ∈ plan.steps, step.For input.domain := by
  rcases Intent.steps_of_buildPlan h with ⟨-, -, hsteps⟩ | ⟨-, hsteps⟩ | ⟨-, hsteps⟩ <;> rw [hsteps]
  · simp only [forall_mem_cons]
    exact ⟨.inr rfl, .inr rfl, .inr rfl, forall_mem_nil _⟩
  · exact forall_mem_cons.2 ⟨.inr rfl, forall_mem_singleton.2 (.inr rfl)⟩
  · exact forall_mem_singleton.2 (.inl rfl)

end Within

/-! A cleanup deletes the objects that are listed. -/

theorem within_cleanupEach {P : String → Prop} {activeNames names : List String}
    (h : ∀ name ∈ names, P name) : (cleanupEach activeNames names).Within
      (fun op => ∃ name, P name ∧ op = .delete name) fun _ _ => True := by
  induction names with
  | nil => trivial
  | cons name _ ih =>
    obtain ⟨hname, hrest⟩ := forall_mem_cons.1 h
    unfold cleanupEach
    split
    · exact ih hrest
    · refine ⟨⟨name, hname, rfl⟩, fun answer _ => ?_⟩
      rcases answer with (_ | text) | ⟨⟩
      exacts [ih hrest, trivial, ih hrest]

theorem gone_cleanupEach (owner : String → String) {names : List String} (s : DnsState) (i : Nat)
    (h : name ∈ names ∨ s.objects.get? name = none) :
    ((cleanupEach [] names).run (cleanupApi owner) (fun _ => .ok) i s).1.objects.get? name = none := by
  induction names generalizing s i with
  | nil => exact h.resolve_left not_mem_nil
  | cons other _ ih =>
    rw [mem_cons, or_assoc] at h
    rw [cleanupEach, if_neg not_mem_nil, run_call]
    cases hget : s.objects.get? other with
    | none =>
      have hdelete : (cleanupApi owner).perform s (.delete other) .ok = (s, .error .notFound) := by
        simp [cleanupApi, dnsApi, hget, apply]
      rw [hdelete]
      rcases h with rfl | h
      · exact ih s _ (.inr hget)
      · exact ih s _ h
    | some =>
      have hdelete : (cleanupApi owner).perform s (.delete other) .ok = (s.remove other, .ok ()) := by
        simp [cleanupApi, dnsApi, hget, apply]
      rw [hdelete]
      refine ih _ _ ?_
      rw [get?_remove]
      rcases h with rfl | h | h
      · exact .inr (if_pos rfl)
      · exact .inl h
      · exact .inr (by rw [h, ite_self])

end Spares

/-! ## Two services -/

/-- Whatever is executed or deleted for a service with the first domain, the object of the second is
    neither written nor deleted. -/
def Apart (owner : String → String) (ownerId : String) (s : DnsState) (first second : String) : Prop :=
  (∀ sha (intent : Intent) input plan order ttl choice, input.domain = first →
    intent.buildPlan sha input = .ok plan → order.Perm (plan.steps.map Step.stepId) →
    s.Spares (endpointName second) ((executePlan ttl plan order).run dnsApi choice 0 s).1)
  ∧ ∀ choice, s.Spares (endpointName second)
      ((deleteRecords ownerId (endpointName first)).run (cleanupApi owner) choice 0 s).1

/-- Two services are kept apart if and only if their domains have different names and the object of the
    second is not one that this controller has made. -/
theorem apart_iff (owner : String → String) (ownerId : String) (s : DnsState) (first second : String) :
    Apart owner ownerId s first second ↔ endpointName first ≠ endpointName second
      ∧ ¬ (endpointName second ∈ s.objects.rows.map name
        ∧ owner (endpointName second) = ownerId) := by
  let names := (s.objects.rows.map name).filter fun name => owner name == ownerId
  have hlisted : endpointName second ∈ names ↔ endpointName second ∈ s.objects.rows.map name
      ∧ owner (endpointName second) = ownerId := by
    rw [mem_filter, beq_iff_eq]
  rw [← hlisted]
  constructor
  · rintro ⟨hplans, hdeletes⟩
    refine ⟨fun hname => ?_, fun hmem => ?_⟩
    · have hswitch : Switch id failover { failoverInput with domain := first } _
          ["apply", "verify", "revert"] := ⟨.inl rfl, rfl, by simp [failoverInput], .refl _⟩
      have hwrites := (hplans id failover _ _ _ 60 (fun _ => .ok) rfl hswitch.planned hswitch.order).2
      rw [hswitch.run_of_ok s fun _ _ => rfl, DnsState.writes_writeAll, filter_append] at hwrites
      simp [switchOrder, revertsEarly, switchTarget, hname] at hwrites
    · have hget := (hdeletes fun _ => .ok).1
      have hgone : ((deleteRecords ownerId (endpointName first)).run (cleanupApi owner)
          (fun _ => .ok) 0 s).1.objects.get? (endpointName second) = none :=
        gone_cleanupEach owner s 1 (.inl hmem)
      obtain ⟨endpoint, hstored, hname⟩ := mem_map.1 (hlisted.1 hmem).1
      exact Table.get?_eq_none_iff.1 (hget.symm.trans hgone) endpoint hstored hname
  · rintro ⟨hne, hunlisted⟩
    refine ⟨fun sha intent input plan order ttl choice hdomain hplan _ => ?_, fun choice => ?_⟩
    · refine (about_executePlan (for_of_buildPlan hplan) order).run ?_ choice 0 ⟨rfl, rfl⟩
      intro s' op n hop h
      exact spares_perform op n (by rw [hop, hdomain]; exact hne) h
    rw [deleteRecords, cleanupOrphaned, run_call]
    have hkept : s.Spares (endpointName second)
        ((cleanupEach [] names).run (cleanupApi owner) choice 1 s).1 := by
      refine (within_cleanupEach fun name hmem => hmem).run ?_ choice 1 ⟨rfl, rfl⟩
      rintro s' _ n ⟨name, hmem, rfl⟩ h
      refine spares_perform (.delete name) n ?_ h
      rintro rfl
      exact hunlisted hmem
    cases hchoice : choice 0 with
    | ok => exact hkept
    | _ => exact ⟨rfl, rfl⟩

/-- Two domains have one object, which a failover of the first writes; the records of a third are deleted
    with those of the first. -/
theorem services_not_apart : endpointName "app.example.com" = endpointName "app-example.com"
      ∧ ((executePlan 60 failoverPlan ["apply", "verify", "revert"]).run dnsApi (fun _ => .ok) 0
        weighed).1.writes.map name = ["app-example-com", "app-example-com", "app-example-com"]
      ∧ ((deleteRecords "c1" "shop-example-com").run (cleanupApi fun _ => "c1") (fun _ => .ok) 0
        weighed).1.objects.get? (endpointName "app.example.com") = none := by
  decide +kernel

end HnbCloud.Gslb
