import HnbCloud.Lib.Machine
import HnbCloud.Lib.Table

set_option autoImplicit false

/-! # Alert events

`AlertManager` stores every event it fires and remembers it in a map with one place per rule.
`ResolveEvent` resolves the event it finds there, and takes it out. An event whose place was taken by
a later one of its rule, or was lost with the map at a restart, or whose update failed, goes on
firing.

The store keeps the ids as they are given. (`alert_instances.rule_id` is a UUID: there a rule named in
another case is the same rule.) -/

namespace HnbCloud.Alert

open Table Function

inductive Status where
  | firing
  | acknowledged
  | resolved
  deriving DecidableEq, Repr

/-- An event, in memory and as a row of `alert_instances`. -/
structure AlertEvent where
  id : String
  ruleId : String
  status : Status
  startedAt : Int
  resolvedAt : Option Int
  acknowledgedBy : String
  deriving DecidableEq, Repr

abbrev Instances := Table AlertEvent String AlertEvent.id

/-- The `SET` of `UpdateEvent`. -/
def AlertEvent.set (event row : AlertEvent) : AlertEvent :=
  { row with
    status := event.status, resolvedAt := event.resolvedAt, acknowledgedBy := event.acknowledgedBy }

theorem AlertEvent.id_set (event row : AlertEvent) : (event.set row).id = row.id := rfl

/-- The manager with its store. -/
structure AlertManager where
  instances : Instances
  active : String → Option AlertEvent

section Calls

variable (am : AlertManager)

/-- `written` says whether the statement gets through to the store. -/
def AlertManager.fireEvent (event : AlertEvent) (now : Int) (written : Bool) : AlertManager :=
  let event := { event with status := .firing, startedAt := now }
  match if written then am.instances.insert? event else none with
  | none => am
  | some instances => ⟨instances, update am.active event.ruleId (some event)⟩

/-- An error of the update is logged only. -/
def AlertManager.resolveEvent (ruleId : String) (now : Int) (written : Bool) : AlertManager :=
  match am.active ruleId with
  | none => am
  | some event =>
    let event := { event with status := .resolved, resolvedAt := some now }
    ⟨if written then am.instances.update event.id event.set event.id_set else am.instances,
      update am.active ruleId none⟩

/-- `NewAlertManager`: the map is empty. -/
def AlertManager.start (instances : Instances) : AlertManager := ⟨instances, fun _ => none⟩

end Calls

inductive AlertCall where
  | fireEvent (event : AlertEvent) (now : Int) (written : Bool)
  | resolveEvent (ruleId : String) (now : Int) (written : Bool)
  | restart

/-- The manager, through its restarts. -/
def alerts : Machine AlertManager AlertCall Unit where
  step am
    | .fireEvent event now written => (am.fireEvent event now written, ())
    | .resolveEvent ruleId now written => (am.resolveEvent ruleId now written, ())
    | .restart => (.start am.instances, ())

open AlertManager

/-- What `ResolveEvent` is for: no event of the rule is firing, and those of other rules are as they
    were. -/
structure Resolves (ruleId : String) (before after : Instances) : Prop where
  resolved : ∀ row ∈ after.rows, row.ruleId = ruleId → row.status ≠ .firing
  others : ∀ row, row.ruleId ≠ ruleId → (row ∈ after.rows ↔ row ∈ before.rows)

variable {am : AlertManager} {ruleId : String}

theorem resolves_self {t : Instances} : Resolves ruleId t t
    ↔ ∀ row ∈ t.rows, row.ruleId = ruleId → row.status ≠ .firing :=
  ⟨fun h => h.resolved, fun h => ⟨h, fun _ _ => .rfl⟩⟩

/-- If an event of the rule is firing, then it is the one in the map, and the update gets through. -/
def Remembered (am : AlertManager) (ruleId : String) (written : Bool) : Prop :=
  ∀ row ∈ am.instances.rows, row.ruleId = ruleId → row.status = .firing →
    written = true ∧ (am.active ruleId).map AlertEvent.id = some row.id

/-- The events in the map are stored, for the rule they are found under. -/
def Filed (am : AlertManager) : Prop :=
  ∀ ruleId event, am.active ruleId = some event →
    ∃ row, am.instances.get? event.id = some row ∧ row.ruleId = ruleId

theorem Filed.fireEvent (h : Filed am) (event : AlertEvent) (now : Int) (written : Bool) :
    Filed (am.fireEvent event now written) := by
  unfold AlertManager.fireEvent
  dsimp only
  split
  · exact h
  next instances hwritten =>
  obtain ⟨-, hinsert⟩ := Option.ite_none_right_eq_some.1 hwritten
  intro ruleId other hactive
  dsimp only at hactive
  rw [update_apply] at hactive
  split_ifs at hactive with hrule
  · cases hactive
    exact ⟨_, (get?_insert? hinsert _).trans (if_pos rfl), hrule.symm⟩
  · obtain ⟨row, hrow, hfiled⟩ := h ruleId other hactive
    exact ⟨row, get?_of_insert? hinsert hrow, hfiled⟩

theorem Filed.resolveEvent (h : Filed am) (ruleId : String) (now : Int) (written : Bool) :
    Filed (am.resolveEvent ruleId now written) := by
  unfold AlertManager.resolveEvent
  split
  · exact h
  next event hevent =>
  intro ruleId' other hactive
  dsimp only at hactive ⊢
  rw [update_apply] at hactive
  split_ifs at hactive
  obtain ⟨row, hrow, hfiled⟩ := h ruleId' other hactive
  cases written with
  | false => exact ⟨row, hrow, hfiled⟩
  | true =>
    -- The update keeps the rule of the row, should it be the one of another event.
    rw [if_pos rfl, get?_update]
    split_ifs with hid
    · rw [← hid, hrow]
      exact ⟨_, rfl, hfiled⟩
    · exact ⟨row, hrow, hfiled⟩

theorem filed_run (instances : Instances) (calls : List AlertCall) :
    Filed (alerts.run (.start instances) calls) := by
  refine alerts.run_induction (P := Filed) (fun am call h => ?_) (by simp [Filed, start]) calls
  cases call with
  | fireEvent event now written => exact h.fireEvent event now written
  | resolveEvent ruleId now written => exact h.resolveEvent ruleId now written
  | restart => simp [Filed, Machine.next, alerts, start]

theorem resolves_iff (h : Filed am) (ruleId : String) (now : Int) (written : Bool) :
    Resolves ruleId am.instances (am.resolveEvent ruleId now written).instances
      ↔ Remembered am ruleId written := by
  unfold AlertManager.resolveEvent Remembered
  rcases hactive : am.active ruleId with _ | event
  · simp [resolves_self]
  obtain ⟨old, hold, rfl⟩ := h ruleId event hactive
  cases written with
  | false => simp [resolves_self]
  | true =>
    simp only [if_true, Option.map_some, Option.some.injEq, true_and]
    constructor
    · intro hresolves row hrow hrule hfiring
      by_contra hne
      exact hresolves.resolved row ((mem_update_of_ne _ _ _ _ (Ne.symm hne)).2 hrow) hrule hfiring
    intro hremembered
    refine ⟨fun row hrow hrule hfiring => ?_, fun row hother => ?_⟩
    · rcases mem_update_cases hrow hold with rfl | ⟨hrow, hne⟩
      · simp [AlertEvent.set] at hfiring
      · exact hne (hremembered row hrow hrule hfiring).symm
    by_cases hid : row.id = event.id
    · -- The row of the event is one of its rule, before and after.
      refine iff_of_false (fun hrow => hother ?_) (fun hrow => hother ?_)
      · rcases mem_update_cases hrow hold with rfl | ⟨-, hne⟩
        · rfl
        · exact absurd hid hne
      · rw [am.instances.eq_of_key_eq hrow (mem_of_get? hold) (hid.trans (key_of_get? hold).symm)]
    · exact mem_update_of_ne _ _ _ _ hid

/-- **Resolving.** After every history of calls and restarts: `ResolveEvent` leaves no event of its
    rule firing, and the events of other rules as they were, exactly if the event in the map is the
    only one of the rule that is firing and the update gets through, or none is firing. -/
theorem resolveEvent_resolves_iff (instances : Instances) (calls : List AlertCall)
    (ruleId : String) (now : Int) (written : Bool) :
    let am := alerts.run (.start instances) calls
    Resolves ruleId am.instances (alerts.next am (.resolveEvent ruleId now written)).instances
      ↔ Remembered am ruleId written :=
  resolves_iff (filed_run instances calls) ruleId now written

/-- An event as the caller passes it. -/
def sampleEvent (id : String) : AlertEvent := ⟨id, "r1", .firing, 0, none, ""⟩

/-- Two events of one rule: the first one goes on firing. -/
theorem earlier_event_keeps_firing :
    let am := alerts.run (.start .empty)
      [.fireEvent (sampleEvent "e1") 1 true, .fireEvent (sampleEvent "e2") 2 true]
    ¬ Resolves "r1" am.instances (alerts.next am (.resolveEvent "r1" 3 true)).instances := by
  intro am h
  exact h.resolved { sampleEvent "e1" with startedAt := 1 } (by decide) rfl rfl

end HnbCloud.Alert
