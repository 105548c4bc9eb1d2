import HnbCloud.Gslb.Plan
import HnbCloud.Lib.Program
import HnbCloud.Lib.Table

set_option autoImplicit false

/-! # The executor of plans

`gslb-controller/internal/executor`, `provider` and `dns`: the one place that writes DNS. A plan is
executed step by step in an order that respects the dependencies; a step writes the DNSEndpoint
object of its service through the Kubernetes API, and each request to the API can fail. A failing
request may or may not have been carried out. -/

namespace HnbCloud.Gslb

open List

/-! ## The API -/

structure DNSRecord where
  dnsName : String
  targets : List String
  weight : Int
  ttl : Nat
  setId : String
deriving DecidableEq, Repr

/-- A DNSEndpoint object: its name and the endpoints of its `spec`. -/
structure DNSEndpoint where
  name : String
  endpoints : List DNSRecord
deriving DecidableEq, Repr

/-- The objects of the namespace, and every write to one that was carried out. -/
structure DnsState where
  objects : Table DNSEndpoint String DNSEndpoint.name
  writes : List DNSEndpoint

/-- The requests that the manager makes. -/
inductive DnsOp where
  | get (name : String)
  | update (endpoint : DNSEndpoint)
  | create (endpoint : DNSEndpoint)
  | delete (name : String)

/-- The errors of the API: the object is not there, or anything else. -/
inductive ApiError where
  | notFound
  | other (text : String)
deriving DecidableEq, Repr

def ApiError.text : ApiError → String
  | notFound => "not found"
  | other text => text

abbrev DnsOp.Reply : DnsOp → Type
  | get .. => Except ApiError DNSEndpoint
  | update .. => Except ApiError Unit
  | create .. => Except ApiError Unit
  | delete .. => Except ApiError Unit

/-- What becomes of a request. -/
inductive ApiOutcome where
  | ok
  /-- It is not carried out. -/
  | refused (text : String)
  /-- It is carried out, and the caller gets an error. -/
  | lost (text : String)
deriving DecidableEq, Repr

/-- An object takes these endpoints. -/
def DnsState.write (s : DnsState) (endpoint : DNSEndpoint) : DnsState where
  objects := s.objects.upsert endpoint (fun e => { e with endpoints := endpoint.endpoints })
    (fun _ => rfl)
  writes := s.writes ++ [endpoint]

/-- An object is removed. -/
def DnsState.remove (s : DnsState) (name : String) : DnsState where
  objects := s.objects.deleteWhere fun e => e.name == name
  writes := s.writes ++ [{ name := name, endpoints := [] }]

/-- A request that would leave `s'` behind with this answer. -/
def ApiOutcome.apply {α : Type} (s s' : DnsState) (answer : Except ApiError α) :
    ApiOutcome → DnsState × Except ApiError α
  | ok => (s', answer)
  | refused text => (s, .error (.other text))
  | lost text => (s', .error (.other text))

/-- The API of the cluster. -/
def dnsApi : Service DnsState DnsOp DnsOp.Reply ApiOutcome where
  perform s op outcome :=
    match op with
    | .get name =>
      match s.objects.get? name with
      | some endpoint => outcome.apply s s (.ok endpoint)
      | none => outcome.apply s s (.error .notFound)
    | .update endpoint =>
      match s.objects.get? endpoint.name with
      | some _ => outcome.apply s (s.write endpoint) (.ok ())
      | none => outcome.apply s s (.error .notFound)
    | .create endpoint =>
      match s.objects.get? endpoint.name with
      | some _ => outcome.apply s s (.error (.other "already exists"))
      | none => outcome.apply s (s.write endpoint) (.ok ())
    | .delete name =>
      match s.objects.get? name with
      | some _ => outcome.apply s (s.remove name) (.ok ())
      | none => outcome.apply s s (.error .notFound)

/-! ## The manager and the provider -/

structure ExecutionReport where
  /-- The steps that `ExecuteStep` was called with, and whether it returned no error. -/
  ran : List (String × Bool)
  result : Except String Unit

abbrev DnsProgram := Program DnsOp DnsOp.Reply ExecutionReport

def deleteEndpoint (name : String) (next : Except String Unit → DnsProgram) : DnsProgram :=
  .call (.delete name) fun
  | .ok () => next (.ok ())
  | .error .notFound => next (.ok ())
  | .error err => next (.error ("delete dnsendpoint " ++ name ++ ": " ++ err.text))

/-- `EnsureEndpoint`: without records the object is deleted. -/
def ensureEndpoint (name : String) (records : List DNSRecord)
    (next : Except String Unit → DnsProgram) : DnsProgram :=
  if records = [] then deleteEndpoint name next else
  .call (.get name) fun
  | .ok _ =>
    .call (.update { name := name, endpoints := records }) fun
    | .ok () => next (.ok ())
    | .error err => next (.error ("update dnsendpoint " ++ name ++ ": " ++ err.text))
  | .error .notFound =>
    .call (.create { name := name, endpoints := records }) fun
    | .ok () => next (.ok ())
    | .error err => next (.error ("create dnsendpoint " ++ name ++ ": " ++ err.text))
  | .error err => next (.error ("get dnsendpoint " ++ name ++ ": " ++ err.text))

/-- `recordsForTargets`: the record has the name of the object, and not the domain. -/
def recordsForTargets (name : String) (targets : List String) : List DNSRecord :=
  [{ dnsName := name, targets := targets, weight := 0, ttl := 300, setId := "" }]

/-- `VerifyTargets` of `ExternalDNS`: it writes the targets once more. -/
def verifyTargets (name : String) (expected : List String)
    (next : Except String Unit → DnsProgram) : DnsProgram :=
  if expected = [] then next (.error "dns targets not verified")
  else ensureEndpoint name (recordsForTargets name expected) next

/-! ## ExecuteStep -/

def anyToStrings : Json → List String
  | .arr items => items.filterMap fun
      | .str s => some s
      | _ => none
  | _ => []

/-- `anyToInts`, as a map. -/
def anyToInts : Json → List (String × Int)
  | .obj fields => fields.filterMap fun
      | (key, .num n) => some (key, n)
      | _ => none
  | _ => []

/-- The domain among the inputs; another value counts as none. -/
def Step.domain (step : Step) : String :=
  match step.input "domain" with
  | .str domain => domain
  | _ => ""

def endpointName (domain : String) : String :=
  if domain = "" then "gslb-default"
  else String.ofList (domain.toList.flatMap fun c =>
    if c = '*' then "wildcard".toList else if c = '.' then ['-'] else [c])

/-- `recordsFromInputs`: one record for all targets, with the weight of the last that has one. -/
def recordsFromInputs (ttl : Nat) (step : Step) : List DNSRecord :=
  let targets := anyToStrings (step.input "targets")
  let weights := anyToInts (step.input "weights")
  if targets = [] then []
  else
    [{ dnsName := step.domain
       targets := targets
       weight := targets.foldl (fun weight target => (weights.lookup target).getD weight) 0
       ttl := ttl
       setId := "" }]

def executeStep (ttl : Nat) (step : Step) (next : Except String Unit → DnsProgram) : DnsProgram :=
  match step.stepType with
  | .dnsApply | .dnsRevert =>
    ensureEndpoint (endpointName step.domain) (recordsFromInputs ttl step) next
  | .dnsVerify =>
    verifyTargets (endpointName step.domain) (anyToStrings (step.input "targets")) next
  | .drillCompute => next (.ok ())
  | .other text => next (.error ("unsupported step type \"" ++ text ++ "\""))

/-! ## The order of the steps -/

/-- Why there is no order. -/
inductive OrderError where
  | cycle (id : String)
  /-- The recursion of the model ended early; see `topoSort_ne_outOfFuel`. -/
  | outOfFuel
deriving DecidableEq, Repr

/-- The state of `topoSort`: the ids that are being visited, and the steps that are done. -/
structure Visits where
  (visiting done : List String)

/-- `byID[id]`: of several steps with one id the last counts. -/
def stepById (steps : List Step) (id : String) : Option Step :=
  steps.reverse.find? fun step => step.stepId == id

def knownDependencies (steps : List Step) (id : String) : List String :=
  match stepById steps id with
  | none => []
  | some step => step.dependsOn.filter fun dep => (stepById steps dep).isSome

/-- `visit`, with a bound on its depth. -/
def visit (dependencies : String → List String) : Nat → String → Visits → Except OrderError Visits
  | 0, _, _ => .error .outOfFuel
  | fuel + 1, id, v =>
    if id ∈ v.visiting then .error (.cycle id)
    else if id ∈ v.done then .ok v
    else
      ((dependencies id).foldlM (fun v dep => visit dependencies fuel dep v)
        { v with visiting := id :: v.visiting }).map
        fun v' => { visiting := v.visiting, done := v'.done ++ [id] }

/-- `topoSort`; the ids are visited in the order in which the map is iterated. -/
def topoSort (steps : List Step) (order : List String) : Except OrderError (List Step) :=
  (order.foldlM (fun v id => visit (knownDependencies steps) (order.length + 1) id v)
    { visiting := [], done := [] }).map
    fun v => v.done.filterMap (stepById steps)

/-- A visit keeps what is being visited, and does not end early. -/
def Completes (visiting : List String) (r : Except OrderError Visits) : Prop :=
  r ≠ .error .outOfFuel ∧ ∀ v, r = .ok v → v.visiting = visiting

theorem completes_foldlM {f : Visits → String → Except OrderError Visits} {visiting ids : List String}
    (hf : ∀ v, v.visiting = visiting → ∀ id ∈ ids, Completes visiting (f v id)) {v : Visits}
    (hv : v.visiting = visiting) : Completes visiting (ids.foldlM f v) := by
  induction ids generalizing v with
  | nil =>
    refine ⟨by simp [pure, Except.pure], fun v' h => ?_⟩
    rw [← Except.ok.inj h]
    exact hv
  | cons id _ ih =>
    obtain ⟨hfuel, hvisiting⟩ := hf v hv id mem_cons_self
    rw [foldlM_cons]
    cases hr : f v id with
    | error =>
      refine ⟨fun h => ?_, fun v' h => absurd h (by simp [bind, Except.bind])⟩
      rw [hr] at hfuel
      exact hfuel h
    | ok v' =>
      exact ih (fun v hv id hid => hf v hv id (mem_cons_of_mem _ hid)) (hvisiting v' hr)

/-- The ids that are being visited are distinct keys, so the depth is bounded by their number. -/
theorem completes_visit {dependencies : String → List String} {keys : List String}
    (hclosed : ∀ id, ∀ dep ∈ dependencies id, dep ∈ keys) (fuel : Nat) {id : String} {v : Visits}
    (hid : id ∈ keys) (hnodup : v.visiting.Nodup) (hsub : v.visiting ⊆ keys)
    (hfuel : keys.length + 1 ≤ fuel + v.visiting.length) :
    Completes v.visiting (visit dependencies fuel id v) := by
  induction fuel generalizing id v with
  | zero =>
    have := (subperm_of_subset hnodup hsub).length_le
    omega
  | succ fuel ih =>
    unfold visit
    split
    · exact ⟨by simp, fun v' h => absurd h (by simp)⟩
    next hvisiting =>
    split
    · refine ⟨by simp, fun v' h => ?_⟩
      rw [Except.ok.inj h]
    have hfold : Completes (id :: v.visiting)
        ((dependencies id).foldlM (fun v dep => visit dependencies fuel dep v)
          { v with visiting := id :: v.visiting }) := by
      refine completes_foldlM (fun v' hv' dep hdep => ?_) rfl
      rw [← hv']
      refine ih (hclosed id dep hdep) ?_ ?_ ?_
      · rw [hv']
        exact nodup_cons.2 ⟨hvisiting, hnodup⟩
      · rw [hv']
        exact cons_subset.2 ⟨hid, hsub⟩
      · rw [hv', length_cons]
        omega
    cases hr : (dependencies id).foldlM (fun v dep => visit dependencies fuel dep v)
        { v with visiting := id :: v.visiting } with
    | error =>
      refine ⟨fun h => hfold.1 ?_, fun v' h => absurd h (by simp [Except.map])⟩
      simpa [hr, Except.map] using h
    | ok =>
      refine ⟨by simp [Except.map], fun v'' h => ?_⟩
      rw [← Except.ok.inj h]

/-- The bound on the depth is never reached: an order that iterates over all steps gives an order
    of the steps or a cycle. -/
theorem topoSort_ne_outOfFuel {steps : List Step} {order : List String}
    (horder : ∀ step ∈ steps, step.stepId ∈ order) :
    topoSort steps order ≠ .error .outOfFuel := by
  have hclosed : ∀ id, ∀ dep ∈ knownDependencies steps id, dep ∈ order := by
    intro id dep hdep
    unfold knownDependencies at hdep
    split at hdep
    · exact absurd hdep not_mem_nil
    obtain ⟨-, hknown⟩ := mem_filter.1 hdep
    obtain ⟨step, hstep⟩ := Option.isSome_iff_exists.1 hknown
    have hmem := mem_reverse.1 (mem_of_find?_eq_some hstep)
    have hkey : step.stepId = dep := by simpa using List.find?_some hstep
    exact hkey ▸ horder step hmem
  have hfold : Completes [] (order.foldlM
      (fun v id => visit (knownDependencies steps) (order.length + 1) id v)
      { visiting := [], done := [] }) := by
    refine completes_foldlM (fun v hv id hid => ?_) rfl
    rw [← hv]
    exact completes_visit hclosed _ hid (by simp [hv]) (by simp [hv]) (by omega)
  intro h
  refine hfold.1 ?_
  unfold topoSort at h
  cases hr : order.foldlM (fun v id => visit (knownDependencies steps) (order.length + 1) id v)
      { visiting := [], done := [] } with
  | error err => simpa [hr, Except.map] using h
  | ok v => simp [hr, Except.map] at h

section

variable (deps : String → List String)

/-- Between two visits, with `ids` done: no id is done twice, or before its dependencies. -/
structure Visits.Sound (path ids : List String) (v : Visits) : Prop where
  path : v.visiting = path
  nodup : (v.visiting ++ v.done).Nodup
  sub : ids ⊆ v.done
  first : ∀ {before id}, before ++ [id] <+: v.done → deps id ⊆ before

/-- What visits come to. -/
def Visited (path ids : List String) : Except OrderError Visits → Prop
  | .ok v => v.Sound deps path ids
  | .error (.cycle id) => Relation.TransGen (fun a b => b ∈ deps a) id id
  | .error .outOfFuel => True

variable {deps} {path ids : List String} (fuel : Nat) {v : Visits}
  (hv : v.Sound deps path ids)
include hv

theorem visited_foldlM {l : List String} (hl : ∀ {ids v}, v.Sound deps path ids →
      ∀ id ∈ l, Visited deps path (ids ++ [id]) (visit deps fuel id v)) :
    Visited deps path (ids ++ l)
      (l.foldlM (fun v id => visit deps fuel id v) v) := by
  induction l generalizing ids v with
  | nil =>
    rw [append_nil]
    exact hv
  | cons id l ih =>
    have hid := hl hv id mem_cons_self
    rw [foldlM_cons, append_cons]
    cases hr : visit deps fuel id v with
    | error err =>
      rw [hr] at hid
      cases err <;> exact hid
    | ok v' =>
      rw [hr] at hid
      exact ih hid fun hv x hx => hl hv x (mem_cons_of_mem _ hx)

/-- Each id that is being visited leads to the next, so meeting one again closes a cycle. -/
theorem visited_visit {id : String}
    (hpath : ∀ x ∈ path, Relation.TransGen (fun a b => b ∈ deps a) x id) :
    Visited deps path (ids ++ [id]) (visit deps fuel id v) := by
  induction fuel generalizing id v path ids with
  | zero => trivial
  | succ fuel ih =>
    obtain ⟨rfl, hnodup, hsub, hfirst⟩ := hv
    unfold visit
    split
    next hmem => exact hpath id hmem
    next hvisiting =>
    split
    next hdone => exact ⟨rfl, hnodup, by simp [hsub, hdone], hfirst⟩
    next hdone =>
    have hv' : Visits.Sound deps (id :: v.visiting) ids ⟨id :: v.visiting, v.done⟩ :=
      ⟨rfl, nodup_cons.2 ⟨by simp [hvisiting, hdone], hnodup⟩, hsub, hfirst⟩
    -- While the dependencies are visited, `id` is the end of the path.
    have hfold := visited_foldlM fuel hv' fun hv dep (hdep : dep ∈ deps id) =>
      ih hv fun x hx => by
        rcases mem_cons.1 hx with rfl | hx
        · exact .single hdep
        · exact (hpath x hx).tail hdep
    revert hfold
    rcases foldlM _ _ (deps id) with (_ | _) | ⟨_, done⟩
    · exact fun hcycle => hcycle
    · exact fun h => h
    rintro ⟨rfl, hnodup, hsub, hfirst⟩
    refine ⟨rfl, by grind, by grind, fun hbefore => ?_⟩
    rcases prefix_concat_iff.1 hbefore with h | h
    · obtain ⟨rfl, rfl⟩ := by simpa using h
      exact (append_subset.1 hsub).2
    · exact hfirst h

end

/-- Whatever the order of the map: `topoSort` ends, with the steps in an order that puts each after
    its dependencies, or at a step that depends on itself. -/
theorem topoSort_correct (steps : List Step) (order : List String) :
    match topoSort steps order with
    | .ok sorted => ∃ v : Visits, v.Sound (knownDependencies steps) [] order ∧
        sorted = v.done.filterMap (stepById steps)
    | .error (.cycle id) => Relation.TransGen (fun a b => b ∈ knownDependencies steps a) id id
    | .error .outOfFuel => ¬ ∀ step ∈ steps, step.stepId ∈ order := by
  have hends := @topoSort_ne_outOfFuel steps order
  have hstart : Visits.Sound (knownDependencies steps) [] [] ⟨[], []⟩ :=
    ⟨rfl, nodup_nil, nil_subset _, by simp⟩
  have hfold := visited_foldlM (order.length + 1) hstart fun hv id (_ : id ∈ order) =>
    visited_visit _ hv (by simp)
  revert hfold hends
  unfold topoSort
  rcases foldlM _ _ order with (_ | _) | v
  · exact fun _ hcycle => hcycle
  · exact fun hends _ horder => hends horder rfl
  · exact fun _ hv => ⟨v, hv, rfl⟩

/-! ## ExecutePlan -/

/-- The compensation of a step that has failed: its errors are not looked at. -/
def compensate (ttl : Nat) (plan : Plan) (step : Step) (next : List (String × Bool) → DnsProgram) :
    DnsProgram :=
  if step.compensation = "" then next [] else
  match plan.steps.find? (fun candidate => candidate.stepId == step.compensation) with
  | none => next []
  | some candidate =>
    executeStep ttl candidate fun r => next [(candidate.stepId, r.isOk)]

/-- The loop of `ExecutePlan`. -/
def executeSteps (ttl : Nat) (plan : Plan) : List Step → List (String × Bool) → DnsProgram
  | [], ran => .done { ran := ran, result := .ok () }
  | step :: rest, ran =>
    executeStep ttl step fun
    | .ok () => executeSteps ttl plan rest (ran ++ [(step.stepId, true)])
    | .error err =>
      compensate ttl plan step fun compensated =>
      .done
        { ran := ran ++ [(step.stepId, false)] ++ compensated
          result := .error ("execute step " ++ step.stepType.text ++ ": " ++ err) }

/-- `ExecutePlan`, for the order in which the map of steps is iterated. -/
def executePlan (ttl : Nat) (plan : Plan) (order : List String) : DnsProgram :=
  match topoSort plan.steps order with
  | .error (.cycle id) =>
    .done { ran := [], result := .error ("plan dependency cycle at \"" ++ id ++ "\"") }
  | .error .outOfFuel => .done { ran := [], result := .error "" }
  | .ok ordered => executeSteps ttl plan ordered []

end HnbCloud.Gslb
