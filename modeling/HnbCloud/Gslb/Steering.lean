import HnbCloud.Gslb.Failover
import HnbCloud.Gslb.Snapshot

set_option autoImplicit false

/-! # The active pool and the read model

Where the traffic of a service goes is kept in three places: in the row of the service
(`active_pool_id`), in the switch requests that succeeded, and in the read model, which the reconciler
of the controller writes and which a drill of the API server may write as well. The API server plans
the next switch, and the way back from it, from the row of the service.

Nothing writes that row after the service has been configured. A switch to another pool that succeeds
leaves it, and the read model goes on to show the members of the pool it names.

All programs are here over one database: the calls of the API server, the commands of the controller,
its automatic failovers and its projections. `ProjectReadModel` reads tables that no program writes, so
it is one step. -/

namespace HnbCloud.Gslb

open Messaging Iam List

/-- A row of `gslb_read_model`, without the life cycle and the instants. -/
structure ReadModel where
  (serviceId tenantId domain activePoolId : String)
  (healthyPools currentDnsTargets : List String)
  lastDrillReportId : String
  lastDrillVerdict : Option DrillVerdict

open ReadModel

/-- The tables, and the switch requests in the order in which they have reached `Succeeded`. -/
structure Steering where
  estate : Estate
  readModels : Table ReadModel String serviceId
  succeeded : List SwitchRequest

/-! ## ProjectReadModel -/

namespace Estate

variable (s : Estate)

/-- `FindServiceByDomain`; the rows are in the order in which they were created. -/
def findServiceByDomain (domain : String) : Option Service :=
  s.services.rows.find? fun row => row.domain == domain

/-- The pools of a service of which an enabled member is healthy. -/
def healthyPools (serviceId : String) (healthyTargets : List String) : List String :=
  ((s.pools.rows.filter fun pool => pool.serviceId == serviceId
    && (s.poolMemberClusterIds pool.id).any healthyTargets.contains).map
      Pool.id).insertionSort (· ≤ ·)

/-- The healthy members of the active pool, if it is a healthy pool of the service. -/
def currentTargets (service : Service) (healthyTargets : List String) : List String :=
  if (s.healthyPools service.id healthyTargets).contains service.activePoolId then
    ((s.poolMemberClusterIds service.activePoolId).filter
      healthyTargets.contains).insertionSort (· ≤ ·)
  else []

/-- The row that is projected. -/
def projectedModel (service : Service) (healthyTargets : List String) : ReadModel where
  serviceId := service.id
  tenantId := service.tenantId
  domain := service.domain
  activePoolId := service.activePoolId
  healthyPools := s.healthyPools service.id healthyTargets
  currentDnsTargets := s.currentTargets service healthyTargets
  lastDrillReportId := ""
  lastDrillVerdict := none

end Estate

/-- What a projection sets in a row that is there. -/
def ReadModel.refreshed (new row : ReadModel) : ReadModel :=
  { new with serviceId := row.serviceId, lastDrillReportId := row.lastDrillReportId
             lastDrillVerdict := row.lastDrillVerdict }

theorem ReadModel.serviceId_refreshed (new row : ReadModel) :
    (new.refreshed row).serviceId = row.serviceId := rfl

def ReadModel.drilled (report : DrillReport) (row : ReadModel) : ReadModel :=
  { row with lastDrillReportId := report.id, lastDrillVerdict := some report.verdict }

theorem ReadModel.serviceId_drilled (report : DrillReport) (row : ReadModel) :
    (row.drilled report).serviceId = row.serviceId := rfl

namespace Steering

variable (s : Steering)

def projectReadModel (domain : String) (healthyTargets : List String) :
    Except String (Steering × Unit) :=
  match s.estate.findServiceByDomain domain with
  | none => .ok (s, ())
  | some service =>
    let new := s.estate.projectedModel service healthyTargets
    .ok ({ s with readModels := s.readModels.upsert new new.refreshed new.serviceId_refreshed }, ())

/-! ## The calls of the API server -/

/-- The row that a drill inserts if there is none. -/
def drillModel (service : Service) (report : DrillReport) : ReadModel where
  serviceId := service.id
  tenantId := service.tenantId
  domain := service.domain
  activePoolId := ""
  healthyPools := []
  currentDnsTargets := []
  lastDrillReportId := report.id
  lastDrillVerdict := some report.verdict

def projectDrill (report : DrillReport) : Table ReadModel String serviceId :=
  match s.estate.services.get? report.serviceId with
  | none => s.readModels
  | some service =>
    s.readModels.upsert (drillModel service report) _ (serviceId_drilled report)

def createSwitchRequest (request : SwitchRequest) (drill : Option DrillReport)
    (events : List Event) : Except String (Steering × Unit) :=
  match s.estate.traffic.createSwitchRequest request drill events with
  | .error err => .error err
  | .ok (traffic, ()) => .ok ({ s with
          estate := { s.estate with traffic := traffic }
          readModels := drill.elim s.readModels s.projectDrill }, ())

end Steering

/-- The repository of the API server over these tables. -/
def steeringRepository : HnbCloud.Service Steering RepoOp RepoOp.Reply RepoNature where
  perform s op n :=
    match op with
    | .getReadModel id tenantId => n.outcome.commit s (.ok (s,
        ((s.readModels.get? id).filter fun row => row.tenantId == tenantId).map healthyPools))
    | .createSwitchRequest request drill events =>
      n.outcome.commit s (s.createSwitchRequest request drill events)
    | op =>
      let r := estateRepository.perform s.estate op n
      ({ s with estate := r.1 }, r.2)

/-! ## The calls of the controller -/

/-- The request that an operation is to bring to `Succeeded`. -/
def ControllerOp.completes : ControllerOp → Option String
  | transition id _ target _ => if target = .succeeded then some id else none
  | _ => none

/-- The request, if it has come to `Succeeded`. -/
def newlySucceeded (before after : Traffic) (id : String) : List SwitchRequest :=
  if before.status id = some .succeeded then []
  else ((after.requests.get? id).filter fun row => row.status == .succeeded).toList

/-- What an operation adds to the requests that have succeeded. -/
def reached (before after : Traffic) (op : ControllerOp) : List SwitchRequest :=
  op.completes.elim [] (newlySucceeded before after)

/-- The store and the executor of the controller, for the command of a request. -/
def steeringController (requestId : String) :
    HnbCloud.Service Steering ControllerOp ControllerOp.Reply ControllerNature where
  perform s op n :=
    let r := (controllerStore requestId).perform s.estate.traffic op n
    ({ s with
        estate := { s.estate with traffic := r.1 }
        succeeded := s.succeeded ++ reached s.estate.traffic r.1 op }, r.2)

/-- The store of the automatic failovers. -/
def steeringFailover : HnbCloud.Service Steering FailoverOp FailoverOp.Reply FailoverNature where
  perform s op n :=
    let r := failoverStore.perform s.estate op n
    ({ s with estate := r.1 }, r.2)

/-! ## Everything in any order -/

/-- The programs that are at work. -/
structure SteeringWorld where
  state : Steering
  calls : List AppProgram
  /-- The request that a command names, and what is left of `HandleCommand`. -/
  commands : List (String × ControllerProgram)
  failovers : List FailoverProgram

/-- What happens next. -/
inductive SteeringEvent where
  | submit (body : Json) (pathServiceId : String) (trusted : TrustedContext)
  | approve (requestId : String) (trusted : TrustedContext)
  | reject (requestId : String) (trusted : TrustedContext)
  /-- A call of the API server performs its next operation. -/
  | perform (call : Nat) (n : RepoNature)
  /-- The controller gets a command. -/
  | deliver (data : Json)
  /-- The handling of a command performs its next operation. -/
  | handle (command : Nat) (n : ControllerNature)
  /-- The reconciler has found no healthy member: `EnsureFailoverForDomain`. -/
  | reportUnhealthy (domain : String)
  /-- An automatic failover performs its next operation. -/
  | ensure (failover : Nat) (n : FailoverNature)
  | project (domain : String) (healthyTargets : List String) (outcome : ApiOutcome)
  | tick (now : Int)

/-- An operation on the tables. -/
inductive SteeringOp where
  | api (op : RepoOp) (n : RepoNature)
  | controller (requestId : String) (op : ControllerOp) (n : ControllerNature)
  | failover (op : FailoverOp) (n : FailoverNature)
  | project (domain : String) (healthyTargets : List String) (outcome : ApiOutcome)
  | tick (now : Int)

def Steering.apply (s : Steering) : SteeringOp → Steering
  | .api op n => (steeringRepository.perform s op n).1
  | .controller requestId op n => ((steeringController requestId).perform s op n).1
  | .failover op n => (steeringFailover.perform s op n).1
  | .project domain healthyTargets outcome =>
    (outcome.commit s (s.projectReadModel domain healthyTargets)).1
  | .tick now =>
    { s with estate := { s.estate with traffic := { s.estate.traffic with now := now } } }

namespace SteeringWorld

variable (w : SteeringWorld)

/-- The service row that `EnsureFailoverForDomain` finds. -/
def unhealthyService (domain : String) : Option ServiceRow :=
  (w.state.estate.findServiceByDomain domain).map fun service =>
    { id := service.id, tenantId := service.tenantId, domain := service.domain
      activePoolId := service.activePoolId }

def operation : SteeringEvent → Option SteeringOp
  | .perform call n =>
    match w.calls[call]? with
    | some (.call op _) => some (.api op n)
    | _ => none
  | .handle command n =>
    match w.commands[command]? with
    | some (requestId, .call op _) => some (.controller requestId op n)
    | _ => none
  | .ensure failover n =>
    match w.failovers[failover]? with
    | some (.call op _) => some (.failover op n)
    | _ => none
  | .project domain healthyTargets outcome => some (.project domain healthyTargets outcome)
  | .tick now => some (.tick now)
  | _ => none

/-- The tables after an event. -/
def nextState (event : SteeringEvent) : Steering :=
  (w.operation event).elim w.state w.state.apply

/-- The calls of the API server after an event. -/
def nextCalls (sha : String → String) : SteeringEvent → List AppProgram
  | .submit body pathServiceId trusted =>
    w.calls ++ [submitIntent sha body pathServiceId trusted]
  | .approve requestId trusted => w.calls ++ [Gslb.approve requestId trusted]
  | .reject requestId trusted => w.calls ++ [Gslb.reject requestId trusted]
  | .perform call n =>
    match w.calls[call]? with
    | some (.call op next) => w.calls.set call (next (steeringRepository.perform w.state op n).2)
    | _ => w.calls
  | _ => w.calls

def nextCommands : SteeringEvent → List (String × ControllerProgram)
  | .deliver data => w.commands ++ [(commandRequestId data, handleCommand data)]
  | .handle command n =>
    match w.commands[command]? with
    | some (requestId, .call op next) =>
      w.commands.set command
        (requestId, next ((steeringController requestId).perform w.state op n).2)
    | _ => w.commands
  | _ => w.commands

/-- The automatic failovers after an event. -/
def nextFailovers (sha : String → String) : SteeringEvent → List FailoverProgram
  | .reportUnhealthy domain =>
    w.failovers ++ (w.unhealthyService domain).toList.map (ensureFailoverRequest sha)
  | .ensure failover n =>
    match w.failovers[failover]? with
    | some (.call op next) =>
      w.failovers.set failover (next (steeringFailover.perform w.state op n).2)
    | _ => w.failovers
  | _ => w.failovers

/-- Nothing is at work. -/
def start (state : Steering) : SteeringWorld :=
  { state := state, calls := [], commands := [], failovers := [] }

end SteeringWorld

def steeringMachine (sha : String → String) : Machine SteeringWorld SteeringEvent Unit where
  step w event :=
    ({ state := w.nextState event, calls := w.nextCalls sha event, commands := w.nextCommands event
       failovers := w.nextFailovers sha event }, ())

/-! ## The pool of the last switch -/

/-- A failover or a switchback. -/
def SwitchRequest.isSwitch (request : SwitchRequest) : Bool :=
  request.intentKind == IntentKind.failover.text
    || request.intentKind == IntentKind.switchback.text

/-- The target pool of a switch, which is in the first step of its plan. -/
def SwitchRequest.targetPoolId (request : SwitchRequest) : String :=
  (((documentItems (documentField "steps" request.planSnapshot)).filterMap fun step =>
    documentText (documentField "targetPoolId" (documentField "inputs" step))).head?).getD ""

/-- The pool that the last switch of a service has made its target, or else the one the service was
    configured with. -/
def Steering.lastTarget (s : Steering) (configured : Service) : String :=
  ((s.succeeded.filter fun request =>
    request.serviceId == configured.id && request.isSwitch).getLast?).elim configured.activePoolId
      SwitchRequest.targetPoolId

/-- The plan of a switch is stored with the target pool of the intent. -/
theorem targetPoolId_of_buildPlan {intent : Intent} {sha : String → String} {input : PlanInput}
    {plan : Plan} {request : SwitchRequest}
    (hkind : intent.kind = .failover ∨ intent.kind = .switchback)
    (h : intent.buildPlan sha input = .ok plan) (hsnapshot : request.planSnapshot = plan.marshal) :
    request.targetPoolId = intent.targetPoolId := by
  obtain ⟨rest, hsteps⟩ : ∃ rest, plan.steps = intent.applyStep input :: rest := by
    rcases Intent.steps_of_buildPlan h with ⟨-, -, hsteps⟩ | ⟨hother, -⟩ | ⟨hother, -⟩
    · exact ⟨_, hsteps⟩
    · simp [hother] at hkind
    · simp [hother] at hkind
  have hitems : documentItems (documentField "steps" plan.marshal)
      = (intent.applyStep input).marshal :: rest.map Step.marshal := by
    have hdocument : documentItems (documentField "steps" plan.marshal)
        = plan.steps.map Step.marshal := rfl
    rw [hdocument, hsteps, map_cons]
  unfold SwitchRequest.targetPoolId
  rw [hsnapshot, hitems]
  rfl

/-! ## What an operation does -/

/-- The tables of the services are as they were. -/
structure Estate.SameServices (s s' : Estate) : Prop where
  services : s'.services = s.services
  pools : s'.pools = s.pools
  members : s'.members = s.members

theorem Estate.SameServices.refl (s : Estate) : s.SameServices s := ⟨rfl, rfl, rfl⟩

theorem Estate.SameServices.trans {a b c : Estate} (h : a.SameServices b) (h' : b.SameServices c) :
    a.SameServices c :=
  ⟨h'.services.trans h.services, h'.pools.trans h.pools, h'.members.trans h.members⟩

theorem Estate.SameServices.poolMemberClusterIds {s s' : Estate} (h : s.SameServices s')
    (poolId : String) : s'.poolMemberClusterIds poolId = s.poolMemberClusterIds poolId := by
  unfold Estate.poolMemberClusterIds
  rw [h.members]

theorem sameServices_query {α : Type} (outcome : ApiOutcome) (s : Estate) (a : α) :
    s.SameServices (outcome.commit s (.ok (s, a))).1 := by
  rw [commit_query_fst]
  exact .refl s

theorem sameServices_estateRepository (s : Estate) (op : RepoOp) (n : RepoNature) :
    s.SameServices (estateRepository.perform s op n).1 := by
  cases op with
  | getService => exact sameServices_query n.outcome s _
  | getPoolMemberClusterIds poolId =>
    refine commit_induction n.outcome (.refl s) ?_
    intro s' a h
    unfold Estate.getPoolMemberClusterIds at h
    split at h
    · simp at h
    · obtain rfl := congrArg Prod.fst (Except.ok.inj h)
      exact .refl s
  | _ => exact ⟨rfl, rfl, rfl⟩

theorem sameServices_failoverStore (s : Estate) (op : FailoverOp) (n : FailoverNature) :
    s.SameServices (failoverStore.perform s op n).1 := by
  cases op with
  | insertRequest =>
    refine commit_induction n.outcome (.refl s) ?_
    intro s' a h
    unfold Estate.insertFailover at h
    split at h
    · simp at h
    split at h
    · simp at h
    split at h
    · simp at h
    obtain rfl := congrArg Prod.fst (Except.ok.inj h)
    exact ⟨rfl, rfl, rfl⟩
  | now | newUuid => exact .refl s
  | _ => exact sameServices_query n.outcome s _

namespace Steering

variable {s s' : Steering}

/-- What an operation can do: the services stay, and of the rest at most one thing changes. -/
inductive Does (s : Steering) : SteeringOp → Steering → Prop where
  /-- Neither the read model nor the switches that succeeded. -/
  | other {s' : Steering} (op : SteeringOp) (estate : s.estate.SameServices s'.estate)
      (readModels : s'.readModels = s.readModels) (succeeded : s'.succeeded = s.succeeded) :
      Does s op s'
  /-- A drill is entered into the read model. -/
  | drilled {s' : Steering} (request : SwitchRequest) (report : DrillReport) (events : List Event)
      (n : RepoNature) (estate : s.estate.SameServices s'.estate)
      (readModels : s'.readModels = s.projectDrill report) (succeeded : s'.succeeded = s.succeeded) :
      Does s (.api (.createSwitchRequest request (some report) events) n) s'
  /-- A request reaches `Succeeded`. -/
  | succeeded {s' : Steering} (requestId id : String) (source : List RequestStatus)
      (errorMsg : String) (n : ControllerNature) (row : SwitchRequest)
      (stored : s.estate.traffic.requests.get? id = some row)
      (estate : s.estate.SameServices s'.estate) (readModels : s'.readModels = s.readModels)
      (succeeded : s'.succeeded
        = s.succeeded ++ [row.moved s.estate.traffic.now .succeeded errorMsg]) :
      Does s (.controller requestId (.transition id source .succeeded errorMsg) n) s'
  /-- A service is projected. -/
  | projected {s' : Steering} (domain : String) (healthyTargets : List String)
      (outcome : ApiOutcome) (service : Service)
      (found : s.estate.findServiceByDomain domain = some service)
      (estate : s'.estate = s.estate)
      (readModels : s'.readModels = s.readModels.upsert
        (s.estate.projectedModel service healthyTargets) _
        (s.estate.projectedModel service healthyTargets).serviceId_refreshed)
      (succeeded : s'.succeeded = s.succeeded) :
      Does s (.project domain healthyTargets outcome) s'

theorem does_nothing (s : Steering) (op : SteeringOp) : Does s op s :=
  .other op (.refl _) rfl rfl

theorem does_api (s : Steering) (op : RepoOp) (n : RepoNature) :
    Does s (.api op n) (s.apply (.api op n)) := by
  cases op with
  | getReadModel id tenantId =>
    have hsame : s.apply (.api (.getReadModel id tenantId) n) = s := commit_query_fst n.outcome s _
    rw [hsame]
    exact does_nothing s _
  | createSwitchRequest request drill events =>
    refine commit_induction (P := fun t => Does s (.api (.createSwitchRequest request drill events) n) t)
      n.outcome (does_nothing s _) ?_
    intro s' a h
    unfold createSwitchRequest at h
    split at h
    · simp at h
    obtain rfl := congrArg Prod.fst (Except.ok.inj h)
    cases drill with
    | none => exact .other _ ⟨rfl, rfl, rfl⟩ rfl rfl
    | some report => exact .drilled request report events n ⟨rfl, rfl, rfl⟩ rfl rfl
  | _ => exact .other _ (sameServices_estateRepository s.estate _ n) rfl rfl

theorem newlySucceeded_self (traffic : Traffic) (id : String) :
    newlySucceeded traffic traffic id = [] := by
  unfold newlySucceeded
  split_ifs with hstatus
  · rfl
  cases hrow : traffic.requests.get? id with
  | none => rfl
  | some row =>
    have hne : row.status ≠ .succeeded := by
      intro heq
      exact hstatus (by rw [Traffic.status, hrow, Option.map_some, heq])
    simp [Option.filter, hne]

theorem does_controller (s : Steering) (requestId : String) (op : ControllerOp)
    (n : ControllerNature) :
    Does s (.controller requestId op n) (s.apply (.controller requestId op n)) := by
  cases op with
  | transition id source target errorMsg =>
    by_cases htarget : target = .succeeded
    · subst htarget
      -- What the transaction leaves, and what the controller has counted as succeeded.
      have hsucceeded : (s.apply (.controller requestId
          (.transition id source .succeeded errorMsg) n)).succeeded = s.succeeded
          ++ newlySucceeded s.estate.traffic (n.outcome.commit s.estate.traffic
            (s.estate.traffic.transition id source .succeeded errorMsg)).1 id := rfl
      rcases commit_cases n.outcome s.estate.traffic
        (s.estate.traffic.transition id source .succeeded errorMsg)
        with ⟨err, heq⟩ | ⟨traffic, a, htx, heq⟩
      · rw [heq, newlySucceeded_self, append_nil] at hsucceeded
        exact .other _ ⟨rfl, rfl, rfl⟩ rfl hsucceeded
      have hfst : (n.outcome.commit s.estate.traffic
          (s.estate.traffic.transition id source .succeeded errorMsg)).1 = traffic := by
        rcases heq with heq | ⟨text, heq⟩ <;> rw [heq]
      rw [hfst] at hsucceeded
      -- A request that has just reached `Succeeded` is the one that was there, moved.
      obtain ⟨row, hrow, -, rfl⟩ := Traffic.transition_eq_ok htx
      unfold newlySucceeded at hsucceeded
      split_ifs at hsucceeded
      · rw [append_nil] at hsucceeded
        exact .other _ ⟨rfl, rfl, rfl⟩ rfl hsucceeded
      · rw [Table.get?_update_self _ _ _ _ hrow] at hsucceeded
        exact .succeeded requestId id source errorMsg n row hrow ⟨rfl, rfl, rfl⟩ rfl hsucceeded
    · refine .other _ ⟨rfl, rfl, rfl⟩ rfl ?_
      have hcompletes : (ControllerOp.transition id source target errorMsg).completes = none :=
        if_neg htarget
      have hsucceeded : (s.apply (.controller requestId (.transition id source target errorMsg)
          n)).succeeded = s.succeeded ++ reached s.estate.traffic _
            (.transition id source target errorMsg) := rfl
      rw [hsucceeded, reached, hcompletes]
      exact append_nil _
  | _ =>
    refine .other _ ⟨rfl, rfl, rfl⟩ rfl ?_
    exact append_nil _

theorem does_project (s : Steering) (domain : String) (healthyTargets : List String)
    (outcome : ApiOutcome) :
    Does s (.project domain healthyTargets outcome)
      (s.apply (.project domain healthyTargets outcome)) := by
  refine commit_induction (P := fun t => Does s (.project domain healthyTargets outcome) t)
    outcome (does_nothing s _) ?_
  intro s' a h
  unfold projectReadModel at h
  split at h
  · obtain rfl := congrArg Prod.fst (Except.ok.inj h)
    exact does_nothing s _
  · next service hfound =>
    obtain rfl := congrArg Prod.fst (Except.ok.inj h)
    exact .projected domain healthyTargets outcome service hfound rfl rfl rfl

theorem does_apply (s : Steering) (op : SteeringOp) : Does s op (s.apply op) := by
  cases op with
  | api op n => exact does_api s op n
  | controller requestId op n => exact does_controller s requestId op n
  | failover op n => exact .other _ (sameServices_failoverStore s.estate op n) rfl rfl
  | project domain healthyTargets outcome => exact does_project s domain healthyTargets outcome
  | tick => exact .other _ ⟨rfl, rfl, rfl⟩ rfl rfl

end Steering

end HnbCloud.Gslb
