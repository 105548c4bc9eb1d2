import HnbCloud.Dr.Conflict
import HnbCloud.Dr.Runs

set_option autoImplicit false

/-! # The order of a switch

Two things that `InitiateSwitch` and `ConfirmDataLayer` are to ensure of the runs of a group, for any
interleaving of their calls.

At most one run is in progress: the check for a run in progress and the insert of a new one are
separate transactions, and nothing but the idempotency key is unique, so this holds only as long as
nothing has come in between.

The data layer comes before the traffic: no switch request is submitted for a run of a group with a
data layer before the confirmation of that run is recorded. This holds in every run of the machine. -/

namespace HnbCloud.Dr

open Messaging Iam Gslb List Table SwitchRun

/-! ## One run in progress -/

def DrStore.AtMostOne (s : DrStore) (groupId : String) : Prop :=
  ∀ run ∈ s.runs.rows, ∀ run' ∈ s.runs.rows, run.groupId = groupId → run'.groupId = groupId →
    run.status.active = true → run'.status.active = true → run = run'

/-- A run of the group is inserted only when none is in progress. -/
def DrWorld.createsAlone (groupId : String) (w : DrWorld) (event : DrEvent) : Bool :=
  match w.performing event with
  | some (_, .createRun run _) => run.groupId != groupId
      || w.store.runs.rows.all fun row => row.groupId != groupId || !row.status.active
  | _ => true

variable {run : SwitchRun}

section AtMostOne

variable {sha : String → String} {w : DrWorld} {phase : Nat → Phase} {groupId : String}

theorem DrStore.AtMostOne.created {s s' : DrStore} (h : s.AtMostOne groupId)
    (hinsert : s.runs.insert? run = some s'.runs) (halone : run.groupId = groupId →
      ∀ row ∈ s.runs.rows, row.groupId = groupId → row.status.active = false) :
    s'.AtMostOne groupId := by
  intro r hr r' hr' hgroup hgroup' hactive hactive'
  rw [mem_insert? hinsert] at hr hr'
  rcases hr with hr | rfl <;> rcases hr' with hr' | rfl
  · exact h r hr r' hr' hgroup hgroup' hactive hactive'
  · rw [halone hgroup' r hr hgroup] at hactive
    simp at hactive
  · rw [halone hgroup r' hr' hgroup'] at hactive'
    simp at hactive'
  · rfl

theorem DrStore.AtMostOne.updated {s s' : DrStore} (h : s.AtMostOne groupId) {id : String}
    {now : Int} {status : RunStatus} {fields : RunFields} {row : SwitchRun}
    (hruns : s'.runs = s.runs.update id _ (id_updated now status fields))
    (hrow : s.runs.get? id = some row) (hactive : row.status.active = true) :
    s'.AtMostOne groupId := by
  -- Every run that is in progress afterwards was so before.
  have hbefore : ∀ r ∈ s'.runs.rows, r.groupId = groupId → r.status.active = true →
      ∃ r₀ ∈ s.runs.rows, (if r₀.id = id then r₀.updated now status fields else r₀) = r
        ∧ r₀.groupId = groupId ∧ r₀.status.active = true := by
    intro r hr hgroup hr_active
    rw [hruns] at hr
    obtain ⟨r₀, hr₀, heq⟩ := (s.runs.mem_update _ _ _ r).1 hr
    refine ⟨r₀, hr₀, heq, ?_⟩
    split at heq
    · next hid =>
      obtain rfl : row = r₀ := by
        rw [← hid, get?_of_mem hr₀] at hrow
        exact (Option.some.inj hrow).symm
      rw [← heq] at hgroup
      exact ⟨hgroup, hactive⟩
    · rw [heq]
      exact ⟨hgroup, hr_active⟩
  intro r hr r' hr' hgroup hgroup' hr_active hr'_active
  obtain ⟨r₀, hr₀, heq, hg, ha⟩ := hbefore r hr hgroup hr_active
  obtain ⟨r₀', hr₀', heq', hg', ha'⟩ := hbefore r' hr' hgroup' hr'_active
  obtain rfl := h r₀ hr₀ r₀' hr₀' hg hg' ha ha'
  exact heq.symm.trans heq'

theorem DrInv.atMostOne (h : DrInv w phase) (hone : w.store.AtMostOne groupId) (event : DrEvent)
    (halone : w.createsAlone groupId event = true) :
    ((drMachine sha).next w event).store.AtMostOne groupId := by
  rcases h.runs_cases event with hruns | ⟨i, n, call, known, op, next, rfl, hperforms⟩
  · rwa [DrStore.AtMostOne, hruns]
  show (w.perform i n).store.AtMostOne groupId
  cases hperforms.effect.runs with
  | kept hruns => rwa [DrStore.AtMostOne, hruns]
  | created _ _ heq hinsert =>
    subst heq
    refine hone.created hinsert fun hgroup row hrow hrow_group => ?_
    simp only [DrWorld.createsAlone, hperforms.performing, hgroup, bne_self_eq_false, Bool.false_or,
      all_eq_true] at halone
    simpa [hrow_group] using halone row hrow
  | updated _ _ _ _ heq hruns hemit =>
    subst heq
    cases hperforms.backed.written hperforms.allows hemit with
    | confirmed _ _ _ hstored hpending => exact hone.updated hruns hstored (by rw [hpending]; rfl)
    | ended _ _ _ _ hstored hcompleted => exact hone.updated hruns hstored (by rw [hcompleted]; rfl)

end AtMostOne

/-- As long as a run of a group is inserted only when none of its runs is in progress, at most one is
    at any time, however the calls interleave and whatever fails. -/
theorem at_most_one_active_run (sha : String → String) (s : DrStore) (groupId : String)
    (hone : s.AtMostOne groupId) (events : List DrEvent)
    (halone : ∀ x ∈ (drMachine sha).trace (.start s) events,
      x.pre.createsAlone groupId x.call = true) :
    ((drMachine sha).run (.start s) events).store.AtMostOne groupId := by
  have hinv := (drMachine sha).run_induction_of_trace
    (P := fun w => (∃ phase, DrInv w phase) ∧ w.store.AtMostOne groupId)
    (C := fun w event => w.createsAlone groupId event = true)
    (fun w event hevent ⟨⟨phase, hinv⟩, hone⟩ =>
      ⟨⟨_, hinv.next event⟩, hinv.atMostOne hone event hevent⟩)
    ⟨⟨fun _ => .start, drInv_start s _⟩, hone⟩ halone
  exact hinv.2

instance (s : DrStore) (groupId : String) : Decidable (s.AtMostOne groupId) :=
  inferInstanceAs (Decidable (∀ run ∈ _, ∀ run' ∈ _, _ → _ → _ → _ → _))

/-- The failover of a group in which nothing has happened before. -/
theorem at_most_one_active_run_of_failover :
    ((drMachine fun _ => "").run (.start emptyDrWorld.store) failoverEvents).store.AtMostOne
      (sampleUuid "01") :=
  at_most_one_active_run (fun _ => "") emptyDrWorld.store (sampleUuid "01") (by decide +kernel)
    failoverEvents (by decide +kernel)

/-- A group with a traffic service and a data layer. -/
def layeredEvents : List DrEvent :=
  groupEvents ++ served 2 (.addMember (sampleUuid "01") "data_layer_ref" "pg-main" "db" drOperator)
      ["14", "15", "16", "17"]

/-- Two switches of the group, each of which looks for a run in progress before the other inserts
    its own. -/
def racingEvents : List DrEvent :=
  layeredEvents ++ served 3 (.initiateSwitch (sampleUuid "01") "failover" "outage" "k1" drOperator)
      ["20", "21", "22", "23"]
    ++ served 4 (.initiateSwitch (sampleUuid "01") "switchback" "mistake" "k2" drOperator)
      ["30", "31", "32", "33"]
    ++ ["24", "25", "26", "27", "28", "29"].map (fun digits => .perform 3 (answers digits))
    ++ ["34", "35", "36", "37", "38", "39"].map (fun digits => .perform 4 (answers digits))

/-- Both switches get a run, and both runs are in progress, as they are stored and as they are
    reported. -/
theorem racing_switches_are_both_active :
    let s := ((drMachine fun _ => "").run emptyDrWorld racingEvents).store
    ¬ s.AtMostOne (sampleUuid "01")
      ∧ (s.reportedRuns (sampleUuid "01") "t1").map (fun run => (run.idempotencyKey, run.status))
        = [("k1", .dataLayerPending), ("k2", .dataLayerPending)] := by
  decide +kernel

/-! ## The data layer before the traffic -/

/-- What happened with one event. -/
abbrev DrEntry := Machine.Entry DrWorld DrEvent Unit

def Initiates (runId : String) (x : DrEntry) (active : ActiveCall) : Prop :=
  ∃ run events, x.pre.performing x.call = some (active, .createRun run events) ∧ run.id = runId
    ∧ x.pre.store.runs.get? runId = none ∧ x.post.store.runs.get? runId = some run

/-- A `ConfirmDataLayer` on the run records that its data layer is switched. -/
def Confirms (runId : String) (x : DrEntry) : Prop :=
  ∃ active trusted fields events, active.call = .confirmDataLayer runId trusted
    ∧ x.pre.performing x.call = some (active, .updateRun runId .dataLayerCompleted fields events)
    ∧ (x.pre.store.runs.get? runId).map status = some .dataLayerPending
    ∧ (x.post.store.runs.get? runId).map status = some .dataLayerCompleted

/-- When the call began, the group had a data layer. -/
def ActiveCall.FoundDataLayer (active : ActiveCall) (groupId : String) : Prop :=
  ∃ m ∈ active.known.rows, m.groupId = groupId ∧ m.memberType = .dataLayer

/-- The run may be dispatched: it has been confirmed, or its group had no data layer. -/
def Cleared (past : List DrEntry) (run : SwitchRun) : Prop :=
  (∃ x ∈ past, Confirms run.id x)
    ∨ ∃ x ∈ past, ∃ active, Initiates run.id x active ∧ ¬ active.FoundDataLayer run.groupId

/-- Every run that is being dispatched is cleared. -/
def ClearedRuns (w : DrWorld) (phase : Nat → Phase) (past : List DrEntry) : Prop :=
  ∀ i a run, w.calls[i]? = some a → (phase i).stage.works = some run → Cleared past run

section Order

variable {sha : String → String} {w : DrWorld} {phase : Nat → Phase} {past : List DrEntry}

theorem Cleared.append (h : Cleared past run) (more : List DrEntry) :
    Cleared (past ++ more) run := by
  rcases h with ⟨x, hx, hconfirms⟩ | ⟨x, hx, hinitiates⟩
  · exact .inl ⟨x, mem_append_left _ hx, hconfirms⟩
  · exact .inr ⟨x, mem_append_left _ hx, hinitiates⟩

variable {known : Table Member String Member.id}

/-- A run that is inserted as one without a data layer has none that the call could have found. -/
theorem Backed.not_foundDataLayer {s : DrStore} {call : DrCall}
    {phase : Phase} {program : DrProgram}
    (h : Backed s call known phase) (hallows : phase.AllowsCreate call run)
    (hcompleted : run.status = .dataLayerCompleted) :
    ¬ (ActiveCall.mk call known program).FoundDataLayer run.groupId := by
  rintro ⟨m, hm, hgroup, htype⟩
  obtain ⟨-, -, -, members, hread, hstatus⟩ := hallows
  have hmem : m ∈ dataMembers members :=
    mem_filter.2 ⟨(h.read _ _ hread).2 m hm hgroup, by simp [htype]⟩
  have hnone : dataMembers members = [] := by
    by_contra hsome
    rw [if_neg hsome, hcompleted] at hstatus
    exact absurd hstatus (by decide)
  rw [hnone] at hmem
  simp at hmem

/-- The operation by which a call comes to dispatch a run clears the run. -/
theorem Performs.cleared {i : Nat} {n : DrNature} {call : DrCall}
    {op : DrOp} {next : op.Reply → DrProgram}
    (h : Performs w phase i n call known op next) (hcleared : ClearedRuns w phase past)
    (hworks : ((drProtocol call).after (phase i) op
      (drRepository.perform w.store op n).2).stage.works = some run) :
    Cleared (past ++ [(drMachine sha).entry w (.perform i n)]) run := by
  have hpost : ((drMachine sha).entry w (.perform i n)).post.store
      = (drRepository.perform w.store op n).1 := congrArg DrWorld.store h.world
  have hlast : (drMachine sha).entry w (.perform i n)
      ∈ past ++ [(drMachine sha).entry w (.perform i n)] :=
    mem_append_right _ (mem_singleton_self _)
  cases h.backed.stageChange n h.allows with
  | same heq => exact (hcleared i _ run h.atWork (heq ▸ hworks)).append _
  | rests hrest => simp [hrest] at hworks
  | asked _ _ _ heq =>
    rw [heq, Stage.works_submitted] at hworks
    exact (hcleared i _ run h.atWork hworks).append _
  | created _ events hop hcompleted hinsert heq =>
    subst hop
    rw [heq] at hworks
    cases hworks
    refine .inr ⟨_, hlast, _, ⟨run, events, h.performing, rfl, get?_eq_none_of_insert? hinsert, ?_⟩,
      h.backed.not_foundDataLayer h.allows hcompleted⟩
    rw [hpost]
    exact (get?_insert? hinsert run.id).trans (if_pos rfl)
  | confirmed found fields events hstage hop hget hruns heq =>
    subst hop
    rw [heq] at hworks
    cases hworks
    obtain ⟨⟨trusted, hconfirm, -⟩, hpending, -⟩ := h.backed.confirming found hstage
    refine .inl ⟨_, hlast, _, trusted, fields, events, hconfirm, h.performing, ?_, ?_⟩
    · show (w.store.runs.get? found.id).map status = _
      rw [hget, Option.map_some, hpending]
    · rw [hpost, hruns, get?_update_self _ _ _ _ hget]
      rfl

theorem DrInv.cleared (h : DrInv w phase) (hcleared : ClearedRuns w phase past) (event : DrEvent) :
    ClearedRuns ((drMachine sha).next w event) (w.phaseAfter phase event)
      (past ++ [(drMachine sha).entry w event]) := by
  intro j a run ha hworks
  rcases h.phase_cases ha with
    ⟨a', ha', hphase⟩ | hidle | ⟨n, call, known, op, next, rfl, hperforms, hphase⟩
  · rw [hphase] at hworks
    exact (hcleared j a' run ha' hworks).append _
  · rw [hidle] at hworks
    simp [Stage.works] at hworks
  · rw [hphase] at hworks
    exact hperforms.cleared hcleared hworks

end Order

/-- The data layer before the traffic, however the calls interleave and whatever fails: where a call
    of the traffic service is made for a run whose group had a data layer when the run was
    initiated, a `ConfirmDataLayer` on the run has recorded the confirmation before. -/
theorem traffic_after_data_layer (sha : String → String) (s : DrStore) (events : List DrEvent)
    (past rest : List DrEntry) (x : DrEntry)
    (htrace : (drMachine sha).trace (.start s) events = past ++ x :: rest) (active : ActiveCall)
    (run : SwitchRun) (op : RepoOp)
    (hx : x.pre.performing x.call = some (active, .gslb run op))
    (hlayer : ∀ y ∈ past, ∀ initiator, Initiates run.id y initiator →
      initiator.FoundDataLayer run.groupId) :
    ∃ y ∈ past, Confirms run.id y := by
  obtain ⟨before, event, after, rfl, rfl, rfl, -⟩ := Machine.trace_eq_append_cons htrace
  have hstart : ∃ phase, DrInv (.start s) phase ∧ ClearedRuns (.start s) phase [] :=
    ⟨fun _ => .start, drInv_start s _, fun i a run ha => absurd ha (by simp [DrWorld.start])⟩
  have hevery : ∀ y ∈ (drMachine sha).trace (.start s) before, True := fun _ _ => trivial
  obtain ⟨phase, hinv, hcleared⟩ := (drMachine sha).history_induction
    (P := fun w past => ∃ phase, DrInv w phase ∧ ClearedRuns w phase past) (C := fun _ _ => True)
    (fun w past event _ hpre => by
      obtain ⟨phase, hinv, hcleared⟩ := hpre
      exact ⟨_, hinv.next event, hinv.cleared hcleared event⟩) hstart hevery
  obtain ⟨i, next, hcall⟩ := DrWorld.getElem?_of_performing hx
  obtain ⟨⟨requestIds, hstage⟩, -⟩ := (hinv.keeps i _ hcall).1
  rcases hcleared i _ run hcall (by rw [hstage]; rfl) with hconfirmed | ⟨y, hy, initiator, hinit, hbare⟩
  · exact hconfirmed
  · exact absurd (hlayer y hy initiator hinit) hbare

/-- A switch of the group with a data layer, up to the first call of the traffic service. -/
def confirmedEvents : List DrEvent :=
  layeredEvents ++ served 3 (.initiateSwitch (sampleUuid "01") "failover" "outage" "k1" drOperator)
      ["20", "21", "22", "23", "24", "25", "26", "27", "28", "29"]
    ++ served 4 (.confirmDataLayer (sampleUuid "25") drOperator) ["30", "31", "32", "33", "34"]

/-- The traffic service is called for this run of the group. -/
def DrWorld.callsFor (w : DrWorld) (event : DrEvent) (runId groupId : String) : Bool :=
  match w.performing event with
  | some (_, .gslb run _) => run.id == runId && run.groupId == groupId
  | _ => false

/-- In that switch the traffic service is called, and the run has been confirmed before. -/
theorem traffic_after_data_layer_of_confirmed :
    ∃ y ∈ (drMachine fun _ => "").trace (.start emptyDrWorld.store) confirmedEvents,
      Confirms (sampleUuid "25") y := by
  have hcalled : ((drMachine fun _ => "").run (.start emptyDrWorld.store) confirmedEvents).callsFor
      (.perform 4 (answers "35")) (sampleUuid "25") (sampleUuid "01") = true := by
    decide +kernel
  have hfound : ∀ y ∈ (drMachine fun _ => "").trace (.start emptyDrWorld.store) confirmedEvents,
      (match y.pre.performing y.call with
      | some (initiator, .createRun _ _) => initiator.known.rows.any fun m =>
        m.groupId == sampleUuid "01" && m.memberType == .dataLayer
      | _ => true) = true := by
    decide +kernel
  unfold DrWorld.callsFor at hcalled
  split at hcalled
  swap
  · simp at hcalled
  next active run op hperforming =>
  simp only [Bool.and_eq_true, beq_iff_eq] at hcalled
  rw [← hcalled.1]
  refine traffic_after_data_layer (fun _ => "") emptyDrWorld.store
    (confirmedEvents ++ [DrEvent.perform 4 (answers "35")]) _ [] ((drMachine fun _ => "").entry
      ((drMachine fun _ => "").run (.start emptyDrWorld.store) confirmedEvents) (.perform 4 (answers "35")))
    (Machine.trace_append _ _ _ _) active run op ?_ fun y hy initiator hinitiates => ?_
  · simpa only [Machine.entry] using hperforming
  obtain ⟨created, events, hcreates, -⟩ := hinitiates
  have hany := hfound y hy
  simp only [hcreates, any_eq_true, Bool.and_eq_true, beq_iff_eq] at hany
  rw [hcalled.2]
  exact hany

end HnbCloud.Dr
