import HnbCloud.Dr.Protocol

set_option autoImplicit false

/-! # Conflicts and reports

`InitiateSwitch` refuses a group that has a run in progress, by the statuses that are stored;
`ListRuns` derives the status of a run from its switch requests, and stores nothing. A run therefore
stays in the way of the next one after it has been reported as completed. -/

namespace HnbCloud.Dr

open Messaging Iam Gslb List Program

/-! ## What is reported -/

variable {run : SwitchRun} {trusted : TrustedContext}

namespace DrStore

variable (s : DrStore)

/-- The status that `aggregateRuns` reports for a run. -/
def reportedStatus (run : SwitchRun) : RunStatus :=
  if run.status ≠ .awaitingApproval ∧ run.status ≠ .trafficDispatched then run.status
  else aggregateStatus run (s.statusesOf run.trafficRequestIds)

/-- The runs of a group, as `ListRuns` reports them. -/
def reportedRuns (groupId tenantId : String) : List SwitchRun :=
  (s.runsOf groupId tenantId).map fun run => { run with status := s.reportedStatus run }

theorem active_of_reportedStatus (h : (s.reportedStatus run).active = true) :
    run.status.active = true := by
  unfold reportedStatus aggregateStatus at h
  split at h
  · exact h
  split at h
  · exact h
  split at h
  · exact absurd h (by decide)
  split at h
  · exact absurd h (by decide)
  · exact h

end DrStore

/-! ## What the calls answer -/

section Answers

variable {s : DrStore} {choice : Nat → DrNature}

theorem run_aggregateEach (next : List SwitchRun → DrProgram) (hok : ∀ i, (choice i).outcome = .ok)
    (runs reported : List SwitchRun) (i : Nat) : ∃ j,
      (aggregateEach next runs reported).run drRepository choice i s
        = (next (reported ++ runs.map fun run => { run with status := s.reportedStatus run })).run
            drRepository choice j s := by
  induction runs generalizing reported i with
  | nil => exact ⟨i, by rw [map_nil, append_nil]; rfl⟩
  | cons run _ ih =>
    unfold aggregateEach
    split
    · next hother =>
      have hsame : { run with status := s.reportedStatus run } = run := by
        rw [DrStore.reportedStatus, if_pos hother]
      obtain ⟨j, hj⟩ := ih (reported ++ [run]) i
      exact ⟨j, by rw [hj, map_cons, hsame, append_assoc, singleton_append]⟩
    next hwaits =>
    have hstatus : s.reportedStatus run
        = aggregateStatus run (s.statusesOf run.trafficRequestIds) := by
      rw [DrStore.reportedStatus, if_neg hwaits]
    obtain ⟨j, hj⟩ := ih
      (reported ++ [{ run with status := aggregateStatus run (s.statusesOf run.trafficRequestIds) }])
      (i + 1)
    refine ⟨j, ?_⟩
    rw [run_call, perform_trafficRequestStatuses, hok, commit_ok, map_cons, hstatus,
      ← singleton_append, ← append_assoc]
    exact hj

theorem run_listRuns {groupId : String} {group : Group}
    (hpermission : hasPermission trusted resourceDr .read = true)
    (hgroup : s.getGroup groupId trusted.tenantId = .ok (s, some group))
    (hok : ∀ i, (choice i).outcome = .ok) (i : Nat) :
    (listRuns groupId trusted).run drRepository choice i s
      = (s, .ok (.runs (s.reportedRuns groupId trusted.tenantId))) := by
  unfold listRuns withGroup aggregateRuns
  rw [if_neg (by simp [hpermission]), run_call, perform_getGroup, hgroup, hok, commit_ok]
  rw [run_call, perform_listRuns, hok, commit_ok]
  obtain ⟨j, hj⟩ := run_aggregateEach (s := s) (fun runs => .done (.ok (.runs runs))) hok
    (s.runsOf groupId trusted.tenantId) [] (i + 1 + 1)
  exact hj

end Answers

/-! ## What leads to a conflict -/

/-- The checks that `InitiateSwitch` makes before it looks at the runs of the group. -/
structure Considered (s : DrStore) (groupId direction idempotencyKey : String)
    (trusted : TrustedContext) : Prop where
  permission : hasPermission trusted resourceDr .execute = true
  direction : (Direction.ofText? direction).isSome
  key : idempotencyKey ≠ "" ∧ idempotencyKey.utf8ByteSize ≤ 128
  group : ∃ group, s.getGroup groupId trusted.tenantId = .ok (s, some group)
  fresh : s.runByKey groupId idempotencyKey = none

section Conflict

variable {sha : String → String} {s : DrStore} {groupId direction reason idempotencyKey : String}
  {trusted : TrustedContext} {choice : Nat → DrNature}

/-- A call that ends in a conflict has passed the checks before, and has found a run that is stored
    as in progress. -/
theorem considered_of_conflict {text : String}
    (h : ((initiateSwitch sha groupId direction reason idempotencyKey trusted).run drRepository
      choice 0 s).2 = .error (.conflict text)) :
    Considered s groupId direction idempotencyKey trusted
      ∧ ∃ run ∈ s.runsOf groupId trusted.tenantId, run.status.active = true := by
  unfold initiateSwitch withGroup at h
  split at h
  · simp at h
  next hpermission =>
  split at h
  · simp at h
  next direction' hdirection =>
  split at h
  · simp at h
  next hkey =>
  rw [run_call, perform_getGroup] at h
  rcases hgroup : s.getGroup groupId trusted.tenantId with err | ⟨same, found⟩
  · rw [hgroup] at h
    rcases hn : choice 0 with ⟨_ | _ | _⟩ <;> rw [hn] at h <;> cases h
  obtain rfl := (DrStore.getGroup_fst hgroup).symm
  rw [hgroup] at h
  rcases hn : choice 0 with ⟨_ | _ | _⟩ <;> rw [hn] at h
  rotate_left
  · cases h
  · cases h
  rw [commit_ok] at h
  rcases found with _ | group
  · simp at h
  rw [run_call, perform_getRunByKey] at h
  rcases hn : choice 1 with ⟨_ | _ | _⟩ <;> rw [hn] at h
  rotate_left
  · cases h
  · cases h
  rw [commit_ok] at h
  rcases hexisting : s.runByKey groupId idempotencyKey with _ | existing
  swap
  · rw [hexisting] at h
    simp at h
  rw [hexisting] at h
  rw [run_call, perform_listRuns] at h
  rcases hn : choice 2 with ⟨_ | _ | _⟩ <;> rw [hn] at h
  rotate_left
  · cases h
  · cases h
  rw [commit_ok] at h
  rcases hactive : (s.runsOf groupId trusted.tenantId).find? fun run => run.status.active
    with _ | run
  · -- Without a run in progress the rest of the call ends otherwise.
    simp only [hactive] at h
    have hrest := obeys_listMembers (Q := fun result _ => ∀ text, result ≠ .error (.conflict text))
      (fun _ _ _ hno => hno) sha groupId direction reason idempotencyKey direction' trusted
    obtain ⟨_, hno⟩ := hrest.run drRepository choice 3 s
    exact absurd h (hno text)
  refine ⟨⟨by simpa using hpermission, by simp [hdirection], by simpa [not_or] using hkey,
    ⟨group, hgroup⟩, hexisting⟩, run, mem_of_find?_eq_some hactive, by simpa using find?_some hactive⟩

/-- A call that has passed the checks ends in a conflict if a run is stored as in progress. -/
theorem conflict_of_considered (hconsidered : Considered s groupId direction idempotencyKey trusted)
    (hok : ∀ i, (choice i).outcome = .ok)
    (hrun : run ∈ s.runsOf groupId trusted.tenantId) (hactive : run.status.active = true) :
    ∃ text, ((initiateSwitch sha groupId direction reason idempotencyKey trusted).run drRepository
      choice 0 s).2 = .error (.conflict text) := by
  obtain ⟨direction', hdirection⟩ := Option.isSome_iff_exists.1 hconsidered.direction
  obtain ⟨group, hgroup⟩ := hconsidered.group
  have hfound : ((s.runsOf groupId trusted.tenantId).find? fun run => run.status.active).isSome := by
    rw [find?_isSome]
    exact ⟨run, hrun, hactive⟩
  obtain ⟨first, hfirst⟩ := Option.isSome_iff_exists.1 hfound
  have hkey : ¬ (idempotencyKey = "" ∨ 128 < idempotencyKey.utf8ByteSize) := by
    rintro (hempty | hlong)
    · exact hconsidered.key.1 hempty
    · exact absurd hconsidered.key.2 (by omega)
  refine ⟨activeRunText first, ?_⟩
  unfold initiateSwitch withGroup
  rw [if_neg (by simp [hconsidered.permission]), hdirection]
  simp only
  rw [if_neg hkey, run_call, perform_getGroup, hgroup, hok, commit_ok]
  rw [run_call, perform_getRunByKey, hok, commit_ok, hconsidered.fresh]
  rw [run_call, perform_listRuns, hok, commit_ok]
  simp only [hfirst, run_done]

end Conflict

/-! ## Runs that have ended -/

/-- The switch requests of a run have decided it: all of them are found, and one of them has failed
    or was rejected, or all have succeeded. -/
def DrStore.Ended (s : DrStore) (run : SwitchRun) : Prop :=
  (run.status = .awaitingApproval ∨ run.status = .trafficDispatched)
    ∧ s.statusesOf run.trafficRequestIds ≠ []
    ∧ (s.statusesOf run.trafficRequestIds).length = run.trafficRequestIds.length
    ∧ ((∃ status ∈ s.statusesOf run.trafficRequestIds, status = .failed ∨ status = .rejected)
      ∨ ∀ status ∈ s.statusesOf run.trafficRequestIds, status = .succeeded)

theorem DrStore.active_reportedStatus_iff (s : DrStore) (run : SwitchRun) :
    (s.reportedStatus run).active = true ↔ run.status.active = true ∧ ¬ s.Ended run := by
  constructor
  · intro h
    refine ⟨s.active_of_reportedStatus h, ?_⟩
    rintro ⟨hwaits, hsome, hall, hended⟩
    have hlooked : ¬ (run.status ≠ .awaitingApproval ∧ run.status ≠ .trafficDispatched) := by
      rintro ⟨hawaiting, hdispatched⟩
      exact hwaits.elim hawaiting hdispatched
    rw [reportedStatus, if_neg hlooked, aggregateStatus,
      if_neg (not_or.2 ⟨hsome, not_not.2 hall⟩)] at h
    split at h
    · exact absurd h (by decide)
    next hfailed =>
    rw [if_pos] at h
    · exact absurd h (by decide)
    · rcases hended with ⟨status, hmem, hstatus⟩ | hsucceeded
      · exact absurd (any_eq_true.2 ⟨status, hmem, by simpa using hstatus⟩) hfailed
      · exact all_eq_true.2 fun status hmem => by simpa using hsucceeded status hmem
  · rintro ⟨hactive, hrunning⟩
    unfold reportedStatus
    split
    · exact hactive
    next hlooked =>
    have hwaits : run.status = .awaitingApproval ∨ run.status = .trafficDispatched := by
      by_contra hneither
      exact hlooked (not_or.1 hneither)
    unfold aggregateStatus
    split
    · exact hactive
    next hcomplete =>
    obtain ⟨hsome, hall⟩ := not_or.1 hcomplete
    rw [not_not] at hall
    rw [if_neg, if_neg]
    · exact hactive
    · intro hsucceeded
      refine hrunning ⟨hwaits, hsome, hall, .inr fun status hmem => ?_⟩
      simpa using all_eq_true.1 hsucceeded status hmem
    · intro hfailed
      obtain ⟨status, hmem, hstatus⟩ := any_eq_true.1 hfailed
      exact hrunning ⟨hwaits, hsome, hall, .inl ⟨status, hmem, by simpa using hstatus⟩⟩

/-- Whatever has happened to a group and to its switch requests: a switch is refused as a conflict
    only while a run is reported as in progress, exactly if, where the call comes to look at the
    runs and one is stored as in progress, one of those has not ended. -/
theorem conflict_only_while_reported_iff (sha : String → String) (s : DrStore)
    (groupId direction reason idempotencyKey : String) (trusted : TrustedContext) :
    (∀ choice text, ((initiateSwitch sha groupId direction reason idempotencyKey trusted).run
        drRepository choice 0 s).2 = .error (.conflict text) →
      ∃ run ∈ s.reportedRuns groupId trusted.tenantId, run.status.active = true)
      ↔ (Considered s groupId direction idempotencyKey trusted →
          (∃ run ∈ s.runsOf groupId trusted.tenantId, run.status.active = true) →
          ∃ run ∈ s.runsOf groupId trusted.tenantId, run.status.active = true ∧ ¬ s.Ended run) := by
  have hreported : (∃ run ∈ s.reportedRuns groupId trusted.tenantId, run.status.active = true)
      ↔ ∃ run ∈ s.runsOf groupId trusted.tenantId, run.status.active = true ∧ ¬ s.Ended run := by
    simp only [DrStore.reportedRuns, mem_map, exists_exists_and_eq_and,
      DrStore.active_reportedStatus_iff]
  rw [hreported]
  constructor
  · rintro h hconsidered ⟨run, hrun, hactive⟩
    -- With nothing but answers the call does end in a conflict.
    have hok : ∀ i : Nat, ((fun _ => answers "00") i).outcome = .ok := fun _ => rfl
    obtain ⟨text, htext⟩ := conflict_of_considered hconsidered hok hrun hactive
    exact h _ text htext
  · intro h choice text htext
    obtain ⟨hconsidered, hactive⟩ := considered_of_conflict htext
    exact h hconsidered hactive

/-- A failover of the group, whose switch request is approved and succeeds. -/
def failoverEvents : List DrEvent :=
  groupEvents ++ served 2 (.initiateSwitch (sampleUuid "01") "failover" "outage" "k1" drOperator)
      ["20", "21", "22", "23", "24", "25", "26", "27", "28", "29", "2a", "2b", "2c", "2d", "2e", "2f",
       "30", "31", "32", "33", "34", "35", "36"]
    ++ [.traffic (.updateSwitchRequestStatus (sampleUuid "30") .approved "u2" 1 []) (answers "40").traffic,
        .controller (sampleUuid "30") (.transition (sampleUuid "30") [.approved] .dispatched "")
          ⟨.ok, .ok (), "", ""⟩,
        .controller (sampleUuid "30") (.transition (sampleUuid "30") [.dispatched] .succeeded "")
          ⟨.ok, .ok (), "", ""⟩]

def afterFailover : DrStore := ((drMachine fun _ => "").run emptyDrWorld failoverEvents).store

/-- After a failover whose only request has succeeded, `ListRuns` reports the run as completed, and
    the switch back is refused because of it. -/
theorem completed_failover_blocks_switchback :
    ((listRuns (sampleUuid "01") drOperator).run drRepository (fun _ => answers "50") 0
        afterFailover).2
      = .ok (.runs (afterFailover.reportedRuns (sampleUuid "01") "t1"))
      ∧ (afterFailover.reportedRuns (sampleUuid "01") "t1").map SwitchRun.status = [.completed]
      ∧ ((initiateSwitch (fun _ => "") (sampleUuid "01") "switchback" "repaired" "k2"
          drOperator).run drRepository (fun _ => answers "50") 0 afterFailover).2
        = .error (.conflict ("active run " ++ sampleUuid "25" ++ " in progress")) := by
  decide +kernel

end HnbCloud.Dr
