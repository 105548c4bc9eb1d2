import HnbCloud.Lib.Machine

set_option autoImplicit false

/-! # Health of clusters

The trackers of the GSLB controller, which wait for several results before they change their mind
(`gslb-controller/internal/health/failover.go`). Whatever the clock says comes with a probe. -/

namespace HnbCloud.Gslb

open List Machine

inductive ClusterState where
  | healthy
  | degraded
  | unhealthy
deriving DecidableEq, Repr

structure FailoverConfig where
  (consecutiveSuccesses consecutiveFailures : Int)
  debounceDuration : Int

structure FailoverTracker where
  state : ClusterState
  (consecutiveSuccesses consecutiveFailures : Int)
  lastTransitionAt : Int
  cfg : FailoverConfig

def newFailoverTracker (cfg : FailoverConfig) (now : Int) : FailoverTracker :=
  ⟨.healthy, 0, 0, now, cfg⟩

/-- A result, and the clock as `RecordProbe` reads it: for the debounce, and for a transition. -/
structure ProbeResult where
  status : String
  (checkedAt now : Int)

def ProbeResult.healthy (p : ProbeResult) : Bool := p.status == "healthy"

def ProbeResult.failed (p : ProbeResult) : Bool :=
  p.status == "unreachable" || p.status == "degraded"

def FailoverTracker.recordProbe (t : FailoverTracker) (p : ProbeResult) : FailoverTracker :=
  if p.healthy then
    let t := { t with
      consecutiveFailures := 0, consecutiveSuccesses := t.consecutiveSuccesses + 1 }
    if t.state ≠ .healthy ∧ t.cfg.consecutiveSuccesses ≤ t.consecutiveSuccesses
        ∧ t.cfg.debounceDuration ≤ p.checkedAt - t.lastTransitionAt then
      { t with state := .healthy, lastTransitionAt := p.now, consecutiveSuccesses := 0 }
    else t
  else if p.failed then
    let t := { t with
      consecutiveSuccesses := 0, consecutiveFailures := t.consecutiveFailures + 1 }
    if t.state = .healthy ∧ t.cfg.consecutiveFailures ≤ t.consecutiveFailures
        ∧ t.cfg.debounceDuration ≤ p.checkedAt - t.lastTransitionAt then
      { t with state := .unhealthy, lastTransitionAt := p.now, consecutiveFailures := 0 }
    else t
  else t

/-- `RecordProbe` answers the state, and whether it was healthy before. -/
def failoverTracker : Machine FailoverTracker ProbeResult (ClusterState × Bool) where
  step t p := (t.recordProbe p, (t.recordProbe p).state, decide (t.state = .healthy))

abbrev ProbeEntry : Type := Entry FailoverTracker ProbeResult (ClusterState × Bool)

/-! ## Transitions -/

/-- How many of the results count, since the last one that resets. -/
def since (resets counts : ProbeResult → Bool) (past : List ProbeResult) : Nat :=
  (past.reverse.takeWhile fun p => !resets p).countP counts

theorem since_append (resets counts : ProbeResult → Bool) (past : List ProbeResult)
    (p : ProbeResult) : since resets counts (past ++ [p])
      = if resets p then 0 else since resets counts past + if counts p then 1 else 0 := by
  unfold since
  cases hresets : resets p <;> simp [hresets, countP_cons]

/-- The time of the last transition, or of the start. -/
def lastTransition (start : Int) (trace : List ProbeEntry) : Int :=
  ((trace.reverse.find? fun entry => entry.pre.state ≠ entry.post.state).map
    fun entry => entry.call.now).getD start

theorem lastTransition_append (start : Int) (trace : List ProbeEntry) (entry : ProbeEntry) :
    lastTransition start (trace ++ [entry])
      = if entry.pre.state = entry.post.state then lastTransition start trace else entry.call.now := by
  unfold lastTransition
  by_cases hsame : entry.pre.state = entry.post.state <;> simp [hsame]

theorem not_failed_of_healthy {p : ProbeResult} (h : p.healthy = true) : p.failed = false := by
  simp_all [ProbeResult.healthy, ProbeResult.failed]

/-- The counter that decides the next transition is that of the history. -/
structure Tracks (cfg : FailoverConfig) (start : Int) (t : FailoverTracker)
    (past : List ProbeEntry) : Prop where
  cfg : t.cfg = cfg
  settled : t.state ≠ .degraded
  lastTransitionAt : t.lastTransitionAt = lastTransition start past
  failures : t.state = .healthy →
    t.consecutiveFailures = since ProbeResult.healthy ProbeResult.failed (past.map Entry.call)
  successes : t.state = .unhealthy →
    t.consecutiveSuccesses = since ProbeResult.failed ProbeResult.healthy (past.map Entry.call)

variable {cfg : FailoverConfig} {start : Int} {t : FailoverTracker}
  {past : List ProbeEntry}

theorem Tracks.next (h : Tracks cfg start t past) (p : ProbeResult) :
    Tracks cfg start (failoverTracker.next t p) (past ++ [failoverTracker.entry t p]) := by
  obtain ⟨hcfg, hsettled, hlast, hfailures, hsuccesses⟩ := h
  have hnot := not_failed_of_healthy (p := p)
  constructor
  all_goals
    simp only [map_append, map_cons, map_nil, since_append, lastTransition_append, entry, Machine.next,
      failoverTracker, FailoverTracker.recordProbe]
    grind

/-- **Transitions of a tracker.** A tracker that is healthy becomes unhealthy exactly at a probe that
    fails, when enough probes have failed since the last healthy one and enough time has passed since
    the last transition. The same holds the other way round. -/
theorem transitions_iff (cfg : FailoverConfig) (start : Int) (probes : List ProbeResult)
    (p : ProbeResult) :
    let t := failoverTracker.run (newFailoverTracker cfg start) probes
    let past := failoverTracker.trace (newFailoverTracker cfg start) probes
    (t.state = .healthy ∧ (failoverTracker.next t p).state = .unhealthy
      ↔ t.state = .healthy ∧ p.failed = true
        ∧ cfg.consecutiveFailures ≤ since ProbeResult.healthy ProbeResult.failed (probes ++ [p])
        ∧ cfg.debounceDuration ≤ p.checkedAt - lastTransition start past)
    ∧ (t.state = .unhealthy ∧ (failoverTracker.next t p).state = .healthy
      ↔ t.state = .unhealthy ∧ p.healthy = true
        ∧ cfg.consecutiveSuccesses ≤ since ProbeResult.failed ProbeResult.healthy (probes ++ [p])
        ∧ cfg.debounceDuration ≤ p.checkedAt - lastTransition start past) := by
  intro t past
  have htracks : Tracks cfg start t past :=
    failoverTracker.history_induction (C := fun _ _ => True) (fun _ _ p _ h => h.next p)
      ⟨rfl, by simp [newFailoverTracker], rfl, fun _ => rfl, fun _ => rfl⟩ fun _ _ => trivial
  obtain ⟨hcfg, -, hlast, hfailures, hsuccesses⟩ := htracks
  have hcalls : past.map Entry.call = probes := map_call_trace ..
  rw [hcalls] at hfailures hsuccesses
  have hnot := not_failed_of_healthy (p := p)
  simp only [since_append, Machine.next, failoverTracker, FailoverTracker.recordProbe]
  constructor <;> grind

end HnbCloud.Gslb
