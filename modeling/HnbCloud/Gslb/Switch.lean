import Mathlib.Data.List.Permutation
import Mathlib.Tactic.Tauto
import HnbCloud.Gslb.Executor

set_option autoImplicit false

/-! # Executing a switch

The plan of a failover or a switchback has three steps: `apply` writes the new targets, `verify`
writes them once more, and `revert`, the compensation of `apply`, writes the previous ones. Each is a
write of the same object, so an execution is a sequence of writes that ends with the first that
fails. This module says what every execution of such a plan does, for every order in which the map
of steps is iterated and every failure of the API.

`revert` depends on nothing, so it is part of the order like the other two. -/

namespace HnbCloud.Gslb

open List Program Intent ApiOutcome DnsState

variable {step : Step} {rest done : List Step} {order : List String} {choice : Nat → ApiOutcome}

/-! ## One write -/

section Write

variable (choice : Nat → ApiOutcome) (i : Nat)

/-- The two requests of a write that starts with request `i` are answered. -/
def writeSucceeds : Prop := choice i = .ok ∧ choice (i + 1) = .ok

instance : Decidable (writeSucceeds choice i) := instDecidableAnd

/-- The write is carried out: its second request is made and not refused. -/
def writeCarriedOut : Bool :=
  match choice i, choice (i + 1) with
  | .ok, .ok => true
  | .ok, .lost _ => true
  | _, _ => false

variable {choice i} {name : String} {records : List DNSRecord} {s : DnsState}
  {next : Except String Unit → DnsProgram}

theorem ok_or_failed (outcome : ApiOutcome) :
    outcome = .ok ∨ ∃ text, outcome = .refused text ∨ outcome = .lost text := by
  cases outcome <;> simp

theorem run_ensureEndpoint (hrecords : records ≠ []) (h : writeSucceeds choice i) :
    (ensureEndpoint name records next).run dnsApi choice i s
      = (next (.ok ())).run dnsApi choice (i + 2) (s.write ⟨name, records⟩) := by
  obtain ⟨h₀, h₁⟩ := h
  rw [ensureEndpoint, if_neg hrecords, run_call]
  cases hget : s.objects.get? name <;>
    simp [dnsApi, hget, h₀, h₁, apply, run_call]

theorem lost_of_carriedOut (h : ¬ writeSucceeds choice i) (hcarried : writeCarriedOut choice i) :
    choice i = .ok ∧ ∃ text, choice (i + 1) = .lost text := by
  unfold writeCarriedOut at hcarried
  split at hcarried
  · next h₀ h₁ => exact absurd ⟨h₀, h₁⟩ h
  · next text h₀ h₁ => exact ⟨h₀, text, h₁⟩
  · simp at hcarried

theorem carriedOut_of_lost {text : String} (h₀ : choice i = .ok) (h₁ : choice (i + 1) = .lost text) :
    writeCarriedOut choice i := by
  simp [writeCarriedOut, h₀, h₁]

/-- A write that fails goes on with an error, and may have been carried out. -/
theorem run_ensureEndpoint_error (name : String) (s : DnsState)
    (next : Except String Unit → DnsProgram) (hrecords : records ≠ [])
    (h : ¬ writeSucceeds choice i) :
    ∃ err used, (ensureEndpoint name records next).run dnsApi choice i s
      = (next (.error err)).run dnsApi choice (i + used)
          (if writeCarriedOut choice i then s.write ⟨name, records⟩ else s) := by
  rw [ensureEndpoint, if_neg hrecords, run_call]
  rcases ok_or_failed (choice i) with h₀ | ⟨text, htext⟩
  · rcases ok_or_failed (choice (i + 1)) with h₁ | ⟨text, htext⟩
    · exact absurd ⟨h₀, h₁⟩ h
    cases hobject : s.objects.get? name with
    | none =>
      refine ⟨"create dnsendpoint " ++ name ++ ": " ++ text, 2, ?_⟩
      rcases htext with htext | htext <;>
        simp [run_call, dnsApi, hobject, h₀, htext, apply, ApiError.text, writeCarriedOut]
    | some =>
      refine ⟨"update dnsendpoint " ++ name ++ ": " ++ text, 2, ?_⟩
      rcases htext with htext | htext <;>
        simp [run_call, dnsApi, hobject, h₀, htext, apply, ApiError.text, writeCarriedOut]
  · refine ⟨"get dnsendpoint " ++ name ++ ": " ++ text, 1, ?_⟩
    rcases htext with htext | htext <;> cases hget : s.objects.get? name <;>
      simp [dnsApi, hget, htext, apply, ApiError.text, writeCarriedOut]

end Write

/-! ## A sequence of writes -/

/-- The step is a write of this object. -/
structure Step.WritesTo (ttl : Nat) (step : Step) (endpoint : DNSEndpoint) : Prop where
  nonempty : endpoint.endpoints ≠ []
  executes : ∀ next, executeStep ttl step next = ensureEndpoint endpoint.name endpoint.endpoints next

open Step

section Sequence

variable {choice : Nat → ApiOutcome} {ttl : Nat} {plan : Plan} {target : Step → DNSEndpoint}
  {ran : List (String × Bool)} {i : Nat} {s : DnsState}

/-- The writes of a list of steps, one after the other. -/
def DnsState.writeAll (s : DnsState) (endpoints : List DNSEndpoint) : DnsState :=
  endpoints.foldl write s

theorem DnsState.writes_writeAll (s : DnsState) (endpoints : List DNSEndpoint) :
    (s.writeAll endpoints).writes = s.writes ++ endpoints := by
  induction endpoints generalizing s with
  | nil => simp [writeAll]
  | cons endpoint _ ih =>
    have := ih (s.write endpoint)
    simp only [writeAll, foldl_cons] at this ⊢
    rw [this]
    simp [write]

theorem run_executeSteps_append (hdone : ∀ step ∈ done, step.WritesTo ttl (target step))
    (h : ∀ k < 2 * done.length, choice (i + k) = .ok) :
    (executeSteps ttl plan (done ++ rest) ran).run dnsApi choice i s
      = (executeSteps ttl plan rest (ran ++ done.map fun step => (step.stepId, true))).run dnsApi
          choice (i + 2 * done.length) (s.writeAll (done.map target)) := by
  induction done generalizing ran i s with
  | nil => simp [writeAll]
  | cons step _ ih =>
    have hsucceeds : writeSucceeds choice i := by
      refine ⟨?_, ?_⟩
      · simpa using h 0 (by simp)
      · exact h 1 (by simp; omega)
    have hstep := hdone step mem_cons_self
    rw [cons_append, executeSteps, hstep.executes, run_ensureEndpoint hstep.nonempty hsucceeds,
      ih (fun step hstep => hdone step (mem_cons_of_mem _ hstep)) ?_]
    · simp only [append_assoc, map_cons, length_cons, writeAll,
        foldl_cons, singleton_append]
      congr 1
      omega
    · intro k hk
      have := h (k + 2) (by simp; omega)
      rw [← this]
      congr 1
      omega

/-- A step that fails is compensated, and ends the execution with an error. -/
theorem run_executeSteps_failed (plan : Plan) (ran : List (String × Bool))
    (rest : List Step) (s : DnsState) (hstep : step.WritesTo ttl (target step)) (h : ¬ writeSucceeds choice i) :
    ∃ err used, (executeSteps ttl plan (step :: rest) ran).run dnsApi choice i s
      = (compensate ttl plan step fun compensated =>
          .done { ran := ran ++ [(step.stepId, false)] ++ compensated, result := .error err }).run
          dnsApi choice (i + used)
          (if writeCarriedOut choice i then s.write (target step) else s) := by
  rw [executeSteps, hstep.executes]
  exact Exists.imp' (fun err => "execute step " ++ step.stepType.text ++ ": " ++ err)
    (fun _ hrun => hrun) (run_ensureEndpoint_error (target step).name s _ hstep.nonempty h)

theorem compensate_of_none (hnone : step.compensation = "")
    (next : List (String × Bool) → DnsProgram) : compensate ttl plan step next = next [] := by
  rw [compensate, if_pos hnone]

/-- A compensation is a write that succeeds, or the step it runs has failed. -/
theorem run_compensate {candidate : Step} (hsome : step.compensation ≠ "")
    (hfind : plan.steps.find? (fun candidate => candidate.stepId == step.compensation)
      = some candidate) (hcandidate : candidate.WritesTo ttl (target candidate))
    (next : List (String × Bool) → DnsProgram) :
    (∃ used, (compensate ttl plan step next).run dnsApi choice i s
        = (next [(candidate.stepId, true)]).run dnsApi choice (i + used)
            (s.write (target candidate)))
    ∨ ∃ used s', (compensate ttl plan step next).run dnsApi choice i s
        = (next [(candidate.stepId, false)]).run dnsApi choice (i + used) s' := by
  have heq : compensate ttl plan step next
      = ensureEndpoint (target candidate).name (target candidate).endpoints
          fun r => next [(candidate.stepId, r.isOk)] := by
    rw [compensate, if_neg hsome, hfind]
    exact hcandidate.executes _
  by_cases h : writeSucceeds choice i
  · refine .inl ⟨2, ?_⟩
    rw [heq, run_ensureEndpoint hcandidate.nonempty h]
    rfl
  · obtain ⟨err, used, hrun⟩ := run_ensureEndpoint_error (target candidate).name s
      (fun r => next [(candidate.stepId, r.isOk)]) hcandidate.nonempty h
    exact .inr ⟨used, _, by rw [heq, hrun]; rfl⟩

/-- Unless all requests of a list of writes are answered, there is a first write that fails. -/
theorem exists_failing_write {n : Nat} (h : ¬ ∀ k < 2 * n, choice k = .ok) :
    ∃ m < n, (∀ k < 2 * m, choice k = .ok) ∧ ¬ writeSucceeds choice (2 * m) := by
  induction n with
  | zero => exact absurd (fun k hk => by omega) h
  | succ n ih =>
    by_cases hn : ∀ k < 2 * n, choice k = .ok
    · refine ⟨n, Nat.lt_succ_self n, hn, fun hwrite => h fun k hk => ?_⟩
      obtain hk | rfl | rfl : k < 2 * n ∨ k = 2 * n ∨ k = 2 * n + 1 := by omega
      · exact hn k hk
      · exact hwrite.1
      · exact hwrite.2
    · obtain ⟨m, hm, hfirst⟩ := ih hn
      exact ⟨m, Nat.lt_succ_of_lt hm, hfirst⟩

variable {ordered : List Step} (plan) (s : DnsState)

theorem run_executeSteps_of_ok (hordered : ∀ step ∈ ordered, step.WritesTo ttl (target step))
    (hok : ∀ k < 2 * ordered.length, choice k = .ok) :
    (executeSteps ttl plan ordered []).run dnsApi choice 0 s = (s.writeAll (ordered.map target),
          { ran := ordered.map fun step => (step.stepId, true), result := .ok () }) := by
  have hok' : ∀ k < 2 * ordered.length, choice (0 + k) = .ok := by simpa using hok
  have hrun : (executeSteps ttl plan (ordered ++ []) []).run dnsApi choice 0 s = _ :=
    run_executeSteps_append hordered hok'
  rw [append_nil] at hrun
  exact hrun

/-- Otherwise the execution gets to a step that fails, which may be compensated. -/
theorem run_executeSteps_of_failed (hordered : ∀ step ∈ ordered, step.WritesTo ttl (target step))
    (hfailed : ¬ ∀ k < 2 * ordered.length, choice k = .ok) :
    ∃ done step rest err used, ordered = done ++ step :: rest
      ∧ (∀ k < 2 * done.length, choice k = .ok) ∧ ¬ writeSucceeds choice (2 * done.length)
      ∧ (executeSteps ttl plan ordered []).run dnsApi choice 0 s
        = (compensate ttl plan step fun compensated =>
            .done { ran := (done.map fun step => (step.stepId, true)) ++ [(step.stepId, false)]
                      ++ compensated
                    result := .error err }).run dnsApi choice (2 * done.length + used)
            (if writeCarriedOut choice (2 * done.length)
              then (s.writeAll (done.map target)).write (target step)
              else s.writeAll (done.map target)) := by
  obtain ⟨m, hm, hbefore, hfails⟩ := exists_failing_write hfailed
  have hsplit : ordered = ordered.take m ++ ordered[m] :: ordered.drop (m + 1) := by simp
  have hlength : (ordered.take m).length = m := by simp; omega
  have hbefore' : ∀ k < 2 * (ordered.take m).length, choice (0 + k) = .ok := by
    simpa only [hlength, Nat.zero_add] using hbefore
  have hrun : (executeSteps ttl plan (ordered.take m ++ ordered[m] :: ordered.drop (m + 1)) []).run
      dnsApi choice 0 s = _ :=
    run_executeSteps_append (fun step hstep => hordered step (mem_of_mem_take hstep)) hbefore'
  rw [← hsplit, hlength, Nat.zero_add] at hrun
  obtain ⟨err, used, hcompensate⟩ := run_executeSteps_failed plan
    ([] ++ (ordered.take m).map fun step => (step.stepId, true)) (ordered.drop (m + 1))
    (s.writeAll ((ordered.take m).map target)) (hordered ordered[m] (getElem_mem hm)) hfails
  refine ⟨ordered.take m, ordered[m], ordered.drop (m + 1), err, used, hsplit, ?_, ?_, ?_⟩
  · rwa [hlength]
  · rwa [hlength]
  · rw [hrun, hcompensate, hlength]
    rfl

end Sequence

/-! ## The steps of a switch -/

section Plan

variable {intent : Intent} {input : PlanInput} {ttl : Nat}

theorem anyToStrings_stringSlice (texts : List String) : anyToStrings (stringSlice texts) = texts := by
  unfold stringSlice
  split
  · next h => rw [h]; rfl
  · simp [Json.strings, anyToStrings, filterMap_map]

/-- What `apply` and `revert` write for their targets. -/
def switchRecord (ttl : Nat) (domain : String) (targets : List String) : DNSRecord where
  dnsName := domain
  targets := targets
  weight := 0
  ttl := ttl
  setId := ""

/-- The object each step of a switch writes. -/
def switchTarget (ttl : Nat) (input : PlanInput) (step : Step) : DNSEndpoint where
  name := endpointName input.domain
  endpoints :=
    if step.stepId = "apply" then [switchRecord ttl input.domain input.targets]
    else if step.stepId = "verify" then
      recordsForTargets (endpointName input.domain) input.targets
    else [switchRecord ttl input.domain input.previousTargets]

theorem ensureEndpoint_eq {targets : List String} (hdomain : step.domain = input.domain)
    (htargets : step.input "targets" = stringSlice targets) (hweights : step.input "weights" = .null)
    (hne : targets ≠ []) (next : Except String Unit → DnsProgram) :
    ensureEndpoint (endpointName step.domain) (recordsFromInputs ttl step) next
      = ensureEndpoint (endpointName input.domain) [switchRecord ttl input.domain targets] next := by
  simp [recordsFromInputs, htargets, hweights, anyToStrings_stringSlice, hne, hdomain, anyToInts,
    switchRecord]

theorem applyStep_writesTo (hne : input.targets ≠ []) :
    (intent.applyStep input).WritesTo ttl (switchTarget ttl input (intent.applyStep input)) := by
  exact ⟨by simp [switchTarget, applyStep], ensureEndpoint_eq rfl rfl rfl hne⟩

theorem verifyStep_writesTo (hne : input.targets ≠ []) :
    (intent.verifyStep input).WritesTo ttl (switchTarget ttl input (intent.verifyStep input)) := by
  refine ⟨by simp [switchTarget, verifyStep, recordsForTargets], fun next => ?_⟩
  show verifyTargets (endpointName (intent.verifyStep input).domain)
    (anyToStrings (stringSlice input.targets)) next = _
  rw [anyToStrings_stringSlice, verifyTargets, if_neg hne]
  rfl

theorem revertStep_writesTo (hne : input.previousTargets ≠ []) :
    (intent.revertStep input).WritesTo ttl (switchTarget ttl input (intent.revertStep input)) := by
  exact ⟨by simp [switchTarget, revertStep], ensureEndpoint_eq rfl rfl rfl hne⟩

theorem buildPlan_steps {sha : String → String} {plan : Plan}
    (hkind : intent.kind = .failover ∨ intent.kind = .switchback)
    (hplan : intent.buildPlan sha input = .ok plan) :
    input.targets ≠ [] ∧
      plan.steps = [intent.applyStep input, intent.verifyStep input, intent.revertStep input] := by
  rcases steps_of_buildPlan hplan with ⟨-, h⟩ | ⟨hother, -⟩ | ⟨hother, -⟩
  · exact h
  · simp [hother] at hkind
  · simp [hother] at hkind

/-- `revert` is visited before `verify`. -/
def revertsEarly (order : List String) : Prop := order.idxOf "revert" < order.idxOf "verify"

instance (order : List String) : Decidable (revertsEarly order) := Nat.decLt _ _

/-- The number of requests before those of `verify`. -/
def verifyStart (order : List String) : Nat := if revertsEarly order then 4 else 2

def switchOrder (intent : Intent) (input : PlanInput) (order : List String) : List Step :=
  if order = ["apply", "revert", "verify"] then
    [intent.applyStep input, intent.revertStep input, intent.verifyStep input]
  else if revertsEarly order then
    [intent.revertStep input, intent.applyStep input, intent.verifyStep input]
  else [intent.applyStep input, intent.verifyStep input, intent.revertStep input]

theorem topoSort_switch (horder : order.Perm ["apply", "verify", "revert"]) :
    topoSort [intent.applyStep input, intent.verifyStep input, intent.revertStep input] order
      = .ok (switchOrder intent input order) := by
  have hmem := mem_permutations'.2 horder
  have hall : ["apply", "verify", "revert"].permutations'
      = [["apply", "verify", "revert"], ["verify", "apply", "revert"],
         ["verify", "revert", "apply"], ["apply", "revert", "verify"],
         ["revert", "apply", "verify"], ["revert", "verify", "apply"]] := by decide
  rw [hall] at hmem
  simp only [mem_cons, not_mem_nil, or_false] at hmem
  rcases hmem with rfl | rfl | rfl | rfl | rfl | rfl <;> rfl

theorem mem_switchOrder :
    step ∈ switchOrder intent input order
      ↔ step ∈ [intent.applyStep input, intent.verifyStep input, intent.revertStep input] := by
  unfold switchOrder
  split
  · simp only [mem_cons]; tauto
  split
  · simp only [mem_cons]; tauto
  · exact Iff.rfl

/-- Where a step of a switch is executed: `apply` comes before `verify`, and `revert` anywhere. -/
theorem switchOrder_eq_append
    (h : switchOrder intent input order = done ++ step :: rest) :
    (step = intent.applyStep input ∧ 2 * done.length + 2 ≤ verifyStart order)
    ∨ (step = intent.verifyStep input ∧ 2 * done.length = verifyStart order
        ∧ done.getLast? = some (if order = ["apply", "revert", "verify"]
            then intent.revertStep input else intent.applyStep input))
    ∨ (step = intent.revertStep input ∧ (2 * done.length + 2 ≤ verifyStart order
        ∨ verifyStart order + 2 = 2 * done.length)) := by
  have hthree : ∀ {a b c : Step}, [a, b, c] = done ++ step :: rest →
      (done = [] ∧ step = a) ∨ (done = [a] ∧ step = b) ∨ (done = [a, b] ∧ step = c) := by
    intro a b c heq
    simp only [cons_eq_append_iff, nil_eq_append_iff] at heq
    grind
  unfold switchOrder at h
  split at h
  · next horder =>
    have hstart : verifyStart order = 4 := by rw [horder]; decide
    rcases hthree h with ⟨rfl, rfl⟩ | ⟨rfl, rfl⟩ | ⟨rfl, rfl⟩
    · exact .inl ⟨rfl, by simp [hstart]⟩
    · exact .inr (.inr ⟨rfl, .inl (by simp [hstart])⟩)
    · exact .inr (.inl ⟨rfl, by simp [hstart], by simp [horder]⟩)
  next horder =>
  split at h
  · next hearly =>
    have hstart : verifyStart order = 4 := if_pos hearly
    rcases hthree h with ⟨rfl, rfl⟩ | ⟨rfl, rfl⟩ | ⟨rfl, rfl⟩
    · exact .inr (.inr ⟨rfl, .inl (by simp [hstart])⟩)
    · exact .inl ⟨rfl, by simp [hstart]⟩
    · exact .inr (.inl ⟨rfl, by simp [hstart], by simp [horder]⟩)
  · next hearly =>
    have hstart : verifyStart order = 2 := if_neg hearly
    rcases hthree h with ⟨rfl, rfl⟩ | ⟨rfl, rfl⟩ | ⟨rfl, rfl⟩
    · exact .inl ⟨rfl, by simp [hstart]⟩
    · exact .inr (.inl ⟨rfl, by simp [hstart], by simp [horder]⟩)
    · exact .inr (.inr ⟨rfl, .inr (by simp [hstart])⟩)

theorem length_switchOrder (intent : Intent) (input : PlanInput) (order : List String) :
    (switchOrder intent input order).length = 3 := by
  unfold switchOrder
  split
  · rfl
  split <;> rfl

end Plan

/-! ## Every execution of a switch -/

/-- A plan made for a failover or a switchback with previous targets, and an order in which the map
    of its steps is iterated. -/
structure Switch (sha : String → String) (intent : Intent) (input : PlanInput) (plan : Plan)
    (order : List String) : Prop where
  kind : intent.kind = .failover ∨ intent.kind = .switchback
  planned : intent.buildPlan sha input = .ok plan
  previous : input.previousTargets ≠ []
  order : order.Perm (plan.steps.map stepId)

namespace Switch

variable {sha : String → String} {intent : Intent} {input : PlanInput} {plan : Plan}
  {order : List String} {ttl : Nat} {choice : Nat → ApiOutcome}
  (h : Switch sha intent input plan order)

include h

theorem steps :
    plan.steps = [intent.applyStep input, intent.verifyStep input, intent.revertStep input] :=
  (buildPlan_steps h.kind h.planned).2

theorem perm : order.Perm ["apply", "verify", "revert"] := by
  have := h.order
  rw [h.steps] at this
  exact this

theorem executePlan_eq :
    executePlan ttl plan order = executeSteps ttl plan (switchOrder intent input order) [] := by
  rw [executePlan, h.steps, topoSort_switch h.perm]

theorem writesTo
    (hstep : step ∈ [intent.applyStep input, intent.verifyStep input, intent.revertStep input]) :
    step.WritesTo ttl (switchTarget ttl input step) := by
  have hne := (buildPlan_steps h.kind h.planned).1
  simp only [mem_cons, not_mem_nil, or_false] at hstep
  rcases hstep with rfl | rfl | rfl
  · exact applyStep_writesTo hne
  · exact verifyStep_writesTo hne
  · exact revertStep_writesTo h.previous

theorem run_of_ok (s : DnsState) (hok : ∀ k < 6, choice k = .ok) :
    (executePlan ttl plan order).run dnsApi choice 0 s
      = (s.writeAll ((switchOrder intent input order).map (switchTarget ttl input)),
          { ran := (switchOrder intent input order).map fun step => (step.stepId, true)
            result := .ok () }) := by
  rw [h.executePlan_eq]
  refine run_executeSteps_of_ok plan s (fun step hstep => h.writesTo (mem_switchOrder.1 hstep)) ?_
  rwa [length_switchOrder]

/-- A failing execution stops at its first failing step. A failing `apply` is followed by `revert`,
    which ends with the previous targets or fails too; after another step nothing is done. -/
theorem failed (s : DnsState) (hfailed : ¬ ∀ k < 6, choice k = .ok) :
    ∃ done step rest, switchOrder intent input order = done ++ step :: rest
      ∧ (∀ k < 2 * done.length, choice k = .ok) ∧ ¬ writeSucceeds choice (2 * done.length)
      ∧ ∃ s' ran err, (executePlan ttl plan order).run dnsApi choice 0 s
          = (s', { ran := ran, result := .error err })
        ∧ ((step = intent.applyStep input ∧ (("revert", false) ∈ ran
              ∨ ∃ s₀ : DnsState, s' = s₀.write (switchTarget ttl input (intent.revertStep input))))
          ∨ (step ≠ intent.applyStep input ∧ s' = (if writeCarriedOut choice (2 * done.length)
                  then (s.writeAll (done.map (switchTarget ttl input))).write
                    (switchTarget ttl input step)
                  else s.writeAll (done.map (switchTarget ttl input)))
              ∧ ran = (done.map fun step => (step.stepId, true)) ++ [(step.stepId, false)])) := by
  have hwrites : ∀ step ∈ switchOrder intent input order,
      step.WritesTo ttl (switchTarget ttl input step) :=
    fun step hstep => h.writesTo (mem_switchOrder.1 hstep)
  rw [← show 2 * (switchOrder intent input order).length = 6 by rw [length_switchOrder]] at hfailed
  obtain ⟨done, step, rest, err, used, hsplit, hbefore, hfails, hrun⟩ :=
    run_executeSteps_of_failed plan s hwrites hfailed
  refine ⟨done, step, rest, hsplit, hbefore, hfails, ?_⟩
  rw [h.executePlan_eq, hrun]
  have hmem : step ∈ switchOrder intent input order := by simp [hsplit]
  rw [mem_switchOrder] at hmem
  simp only [mem_cons, not_mem_nil, or_false] at hmem
  rcases hmem with rfl | hmem
  · have hfind : plan.steps.find?
        (fun candidate => candidate.stepId == (intent.applyStep input).compensation)
          = some (intent.revertStep input) := by rw [h.steps]; rfl
    have hrevert : (intent.revertStep input).WritesTo ttl
        (switchTarget ttl input (intent.revertStep input)) := revertStep_writesTo h.previous
    rcases run_compensate (by simp [applyStep]) hfind hrevert _ with
      ⟨_, hcompensated⟩ | ⟨_, s', hcompensated⟩
    · exact ⟨_, _, err, hcompensated, .inl ⟨rfl, .inr ⟨_, rfl⟩⟩⟩
    · exact ⟨_, _, err, hcompensated, .inl ⟨rfl, .inl (by simp [revertStep])⟩⟩
  · have hnone : step.compensation = "" ∧ step ≠ intent.applyStep input := by
      rcases hmem with rfl | rfl
      · exact ⟨rfl, fun heq => absurd (congrArg stepId heq) (by simp [verifyStep, applyStep])⟩
      · exact ⟨rfl, fun heq => absurd (congrArg stepId heq) (by simp [revertStep, applyStep])⟩
    rw [compensate_of_none hnone.1]
    exact ⟨_, _, err, rfl, .inr ⟨hnone.2, rfl, by simp⟩⟩

end Switch

/-! ## A failover -/

/-- A failover of `app.example.com`, with its plan. -/
def failover : Intent where
  apiVersion := apiVersion
  kind := .failover
  serviceId := "11111111-1111-4111-8111-111111111111"
  tenantId := "tenant-a"
  targetPoolId := "22222222-2222-4222-8222-222222222222"
  weights := []
  reason := ""
  drGroupRef := ""
  idempotencyKey := "failover-1"
  correlationId := "33333333-3333-4333-8333-333333333333"

def failoverInput : PlanInput where
  serviceId := failover.serviceId
  tenantId := failover.tenantId
  domain := "app.example.com"
  targetPoolId := failover.targetPoolId
  targets := ["10.0.2.1"]
  weights := []
  previousTargets := ["10.0.1.1"]

def failoverPlan : Plan :=
  failover.planOf id [failover.applyStep failoverInput, failover.verifyStep failoverInput,
      failover.revertStep failoverInput]

theorem switch_failover : Switch id failover failoverInput failoverPlan
    ["apply", "verify", "revert"] where
  kind := .inl rfl
  planned := rfl
  previous := by decide
  order := .refl _

/-! ## Success -/

/-- An execution that returns no error leaves one endpoint, with the domain and the targets of the
    plan, and has not run the compensation. -/
def SwitchedOver (input : PlanInput) (s : DnsState) (report : ExecutionReport) : Prop :=
  report.result = .ok () → (∃ record, s.objects.get? (endpointName input.domain)
        = some { name := endpointName input.domain, endpoints := [record] }
      ∧ record.dnsName = input.domain ∧ record.targets = input.targets)
    ∧ ∀ step ∈ report.ran, step.1 ≠ "revert"

section Results

variable {sha : String → String} {intent : Intent} {input : PlanInput} {plan : Plan}
  {order : List String}

/-- The compensation is a step like the others, so every execution that succeeds has run it. -/
theorem switched_over_iff_request_fails (h : Switch sha intent input plan order) (ttl : Nat)
    (choice : Nat → ApiOutcome) (s : DnsState) :
    let r := (executePlan ttl plan order).run dnsApi choice 0 s
    SwitchedOver input r.1 r.2 ↔ ∃ k < 6, choice k ≠ .ok := by
  intro r
  by_cases hok : ∀ k < 6, choice k = .ok
  · have hrun : r = _ := h.run_of_ok s hok
    refine iff_of_false (fun hover => ?_) (fun ⟨k, hk, hne⟩ => hne (hok k hk))
    rw [hrun] at hover
    have hmem : intent.revertStep input ∈ switchOrder intent input order :=
      mem_switchOrder.2 (by simp)
    exact (hover rfl).2 _ (mem_map_of_mem hmem) rfl
  · obtain ⟨_, _, _, -, -, -, s', ran, err, hrun, -⟩ := h.failed s hok
    refine iff_of_true (fun hresult => ?_) (by simpa using hok)
    rw [show r = _ from hrun] at hresult
    simp at hresult

theorem switched_over_iff_request_fails_of_failover : SwitchedOver failoverInput
      ((executePlan 60 failoverPlan ["apply", "verify", "revert"]).run dnsApi (fun _ => .refused "")
        0 ⟨.empty, []⟩).1
      ((executePlan 60 failoverPlan ["apply", "verify", "revert"]).run dnsApi (fun _ => .refused "")
        0 ⟨.empty, []⟩).2 :=
  (switched_over_iff_request_fails switch_failover 60 (fun _ => .refused "") ⟨.empty, []⟩).2
    ⟨0, by decide, by decide⟩

/-- Every request is answered and the execution returns no error, but it ends with the previous
    targets. -/
theorem failover_reverted :
    let r := (executePlan 60 failoverPlan ["apply", "verify", "revert"]).run dnsApi (fun _ => .ok) 0
      ⟨.empty, []⟩
    r.2.result = .ok () ∧ ("revert", true) ∈ r.2.ran
    ∧ r.1.objects.get? "app-example-com" = some
        { name := "app-example-com", endpoints := [switchRecord 60 "app.example.com" ["10.0.1.1"]] }
    ∧ ¬ SwitchedOver failoverInput r.1 r.2 := by
  refine ⟨rfl, by decide, rfl, fun h => ?_⟩
  exact (h rfl).2 ("revert", true) (by decide) rfl

/-! ## Failure -/

/-- An execution that returns an error, and whose `revert` has not failed, has written nothing or
    has written the previous targets last. -/
def Compensated (input : PlanInput) (writes : List DNSEndpoint) (report : ExecutionReport) : Prop :=
  (∃ err, report.result = .error err) → ("revert", false) ∉ report.ran →
    writes = [] ∨ ∃ record, writes.getLast?
        = some { name := endpointName input.domain, endpoints := [record] }
      ∧ record.targets = input.previousTargets

/-- The steps before `verify` succeed, and then `verify` fails with the new targets written last:
    by `apply` right before it, or by its own request, the answer to which was lost. -/
def verifyFails (order : List String) (choice : Nat → ApiOutcome) : Prop :=
  (∀ k < verifyStart order, choice k = .ok)
  ∧ ((order ≠ ["apply", "revert", "verify"] ∧ ¬ writeSucceeds choice (verifyStart order))
    ∨ (choice (verifyStart order) = .ok ∧ ∃ text, choice (verifyStart order + 1) = .lost text))

theorem not_verifyFails_of_failed {i : Nat}
    (hi : i + 2 ≤ verifyStart order) (hfails : ¬ writeSucceeds choice i) :
    ¬ verifyFails order choice :=
  fun h => hfails ⟨h.1 i (by omega), h.1 (i + 1) (by omega)⟩

theorem not_verifyFails_of_succeeds
    (h : writeSucceeds choice (verifyStart order)) : ¬ verifyFails order choice := by
  rintro ⟨-, ⟨-, hfails⟩ | ⟨-, text, hlost⟩⟩
  · exact hfails h
  · rw [h.2] at hlost
    simp at hlost

/-- What a list of writes ends with, if the last is a step of a switch. -/
theorem compensated_iff_of_getLast? {ttl : Nat} {writes : List DNSEndpoint}
    {report : ExecutionReport} (herr : ∃ err, report.result = .error err)
    (hrevert : ("revert", false) ∉ report.ran)
    (hlast : writes.getLast? = some (switchTarget ttl input step)) :
    Compensated input writes report
      ↔ step.stepId ≠ "apply" ∧ step.stepId ≠ "verify" ∨ input.targets = input.previousTargets := by
  have hne : writes ≠ [] := fun hnil => by simp [hnil] at hlast
  have hiff : Compensated input writes report ↔ ∃ record, writes.getLast?
      = some { name := endpointName input.domain, endpoints := [record] }
        ∧ record.targets = input.previousTargets :=
    ⟨fun h => (h herr hrevert).resolve_left hne, fun h _ _ => .inr h⟩
  rw [hiff, hlast]
  unfold switchTarget
  split_ifs with happly hverify
  · simp [happly, switchRecord]
  · simp [hverify, recordsForTargets]
  · simp [happly, hverify, switchRecord]

/-- After a failing `verify` the last write is its own, or that of the step before it. -/
theorem compensated_iff_of_verify_failed {ttl : Nat}
    (objects : Table DNSEndpoint String DNSEndpoint.name) (err : String)
    (hbefore : ∀ k < verifyStart order, choice k = .ok)
    (hfails : ¬ writeSucceeds choice (verifyStart order))
    (hlast : done.getLast? = some (if order = ["apply", "revert", "verify"]
      then intent.revertStep input else intent.applyStep input)) :
    let written := writeAll ⟨objects, []⟩ (done.map (switchTarget ttl input))
    Compensated input (if writeCarriedOut choice (verifyStart order)
          then written.write (switchTarget ttl input (intent.verifyStep input)) else written).writes
        { ran := (done.map fun step => (step.stepId, true))
            ++ [((intent.verifyStep input).stepId, false)]
          result := .error err }
      ↔ (verifyFails order choice → input.targets = input.previousTargets) := by
  intro written
  have hran : ("revert", false) ∉ (done.map fun step => (step.stepId, true))
      ++ [((intent.verifyStep input).stepId, false)] := by simp [verifyStep]
  by_cases hcarried : writeCarriedOut choice (verifyStart order) = true
  · have hverify : verifyFails order choice := ⟨hbefore, .inr (lost_of_carriedOut hfails hcarried)⟩
    rw [if_pos hcarried, compensated_iff_of_getLast? ⟨err, rfl⟩ hran
      (by simp [write] : _ = some (switchTarget ttl input (intent.verifyStep input)))]
    simp [hverify, verifyStep]
  have hwrites : ∀ step, done.getLast? = some step →
      written.writes.getLast? = some (switchTarget ttl input step) := by
    intro step hstep
    simp [written, writes_writeAll, hstep]
  rw [if_neg hcarried, compensated_iff_of_getLast? ⟨err, rfl⟩ hran (hwrites _ hlast)]
  by_cases horder : order = ["apply", "revert", "verify"]
  · have hverify : ¬ verifyFails order choice := by
      rintro ⟨-, ⟨hne, -⟩ | ⟨h₀, text, h₁⟩⟩
      · exact hne horder
      · exact hcarried (carriedOut_of_lost h₀ h₁)
    refine iff_of_true (.inl ?_) fun hfails => absurd hfails hverify
    rw [if_pos horder]
    simp [revertStep]
  · have hverify : verifyFails order choice := ⟨hbefore, .inl ⟨horder, hfails⟩⟩
    simp [hverify, horder, applyStep]

/-- Only `apply` declares a compensation, so a failing `verify` leaves the new targets behind. -/
theorem compensated_iff_not_verifyFails (h : Switch sha intent input plan order) (ttl : Nat)
    (choice : Nat → ApiOutcome) (objects : Table DNSEndpoint String DNSEndpoint.name) :
    let r := (executePlan ttl plan order).run dnsApi choice 0 { objects := objects, writes := [] }
    Compensated input r.1.writes r.2
      ↔ ¬ (verifyFails order choice ∧ input.targets ≠ input.previousTargets) := by
  intro r
  by_cases hok : ∀ k < 6, choice k = .ok
  · have hstart : verifyStart order + 2 ≤ 6 := by unfold verifyStart; split <;> omega
    have hrun : r = _ := h.run_of_ok _ hok
    refine iff_of_true (fun ⟨err, herr⟩ => ?_) fun hfails => ?_
    · rw [hrun] at herr
      simp at herr
    · exact not_verifyFails_of_succeeds ⟨hok _ (by omega), hok _ (by omega)⟩ hfails.1
  obtain ⟨done, step, rest, hsplit, hbefore, hfails, s', ran, err, hrun, hend⟩ := h.failed _ hok
  rw [show r = _ from hrun]
  rcases switchOrder_eq_append hsplit with ⟨rfl, hpos⟩ | ⟨rfl, hpos, hlast⟩ | ⟨rfl, hpos⟩
  · -- `apply` fails: `revert` is run, and fails or has the last word.
    refine iff_of_true ?_ fun hverify => not_verifyFails_of_failed hpos hfails hverify.1
    rcases hend with ⟨-, hrevert | ⟨s₀, rfl⟩⟩ | ⟨hne, -⟩
    · exact fun _ hnot => absurd hrevert hnot
    · exact fun _ _ => .inr ⟨switchRecord ttl input.domain input.previousTargets,
        by simp [write, switchTarget, revertStep], rfl⟩
    · exact absurd rfl hne
  · -- `verify` fails: nothing compensates it.
    obtain ⟨-, rfl, rfl⟩ := hend.resolve_left fun heq => absurd (congrArg stepId heq.1)
      (by simp [verifyStep, applyStep])
    rw [hpos] at hbefore hfails ⊢
    rw [not_and_not_right]
    exact compensated_iff_of_verify_failed objects err hbefore hfails hlast
  · -- `revert` fails itself, before `verify` or after it has succeeded.
    obtain ⟨-, rfl, rfl⟩ := hend.resolve_left fun heq => absurd (congrArg stepId heq.1)
      (by simp [revertStep, applyStep])
    refine iff_of_true (fun _ hnot => absurd (by simp [revertStep]) hnot) fun hverify => ?_
    rcases hpos with hpos | hpos
    · exact not_verifyFails_of_failed hpos hfails hverify.1
    · exact not_verifyFails_of_succeeds ⟨hbefore _ (by omega), hbefore _ (by omega)⟩ hverify.1

theorem compensated_iff_not_verifyFails_of_failover : Compensated failoverInput
      ((executePlan 60 failoverPlan ["apply", "verify", "revert"]).run dnsApi
        (fun k => if k = 1 then .lost "timeout" else .ok) 0 ⟨.empty, []⟩).1.writes
      ((executePlan 60 failoverPlan ["apply", "verify", "revert"]).run dnsApi
        (fun k => if k = 1 then .lost "timeout" else .ok) 0 ⟨.empty, []⟩).2 :=
  (compensated_iff_not_verifyFails switch_failover 60 (fun k => if k = 1 then .lost "timeout" else .ok)
    .empty).2 fun h => absurd (h.1.1 1 (by decide)) (by decide)

/-- `apply` succeeds and the request of `verify` is refused: the new targets stay. -/
theorem failed_verify_not_reverted :
    let r := (executePlan 60 failoverPlan ["apply", "verify", "revert"]).run dnsApi
      (fun k => if k = 2 then .refused "unavailable" else .ok) 0 ⟨.empty, []⟩
    r.2.result = .error "execute step gslb_dns_verify: get dnsendpoint app-example-com: unavailable"
    ∧ r.2.ran = [("apply", true), ("verify", false)]
    ∧ r.1.objects.get? "app-example-com" = some
        { name := "app-example-com", endpoints := [switchRecord 60 "app.example.com" ["10.0.2.1"]] }
    ∧ ¬ Compensated failoverInput r.1.writes r.2 := by
  refine ⟨rfl, rfl, rfl, fun h => ?_⟩
  obtain hnil | ⟨record, hlast, htargets⟩ := h ⟨_, rfl⟩ (by decide)
  · exact absurd hnil (by decide)
  have hwritten : some (DNSEndpoint.mk "app-example-com"
      [switchRecord 60 "app.example.com" ["10.0.2.1"]]) = some ⟨_, [record]⟩ := hlast
  obtain ⟨-, rfl⟩ : _ ∧ switchRecord 60 "app.example.com" ["10.0.2.1"] = record := by
    simpa using hwritten
  exact absurd htargets (by decide)

end Results

end HnbCloud.Gslb
