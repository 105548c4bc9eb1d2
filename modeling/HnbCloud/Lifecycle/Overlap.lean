import HnbCloud.Lib.Pool
import HnbCloud.Lifecycle.Manager

set_option autoImplicit false

/-! # Overlapping calls of Apply

The check of the record and the write of the record are two critical sections, with the requests to
the cluster between them. A call that has passed the check is not stopped by anything that happens
later: it makes its requests and overwrites the record, also if a call of a larger generation has
come in between.

If calls on one target do not overlap, the record is still the one that was checked, and what is
written and requested is never older than the record. -/

namespace HnbCloud.Lifecycle

open Provider Program Function Option Pool TargetRecord

def ApplyCall.record (call : ApplyCall) (s : LifecycleState) : Option TargetRecord :=
  (s.targets call.kind).get? call.input.targetId

open ApplyCall

/-- Two calls on different targets; the two managers do not share theirs. -/
def ApplyCall.Apart (a b : ApplyCall) : Prop :=
  a.kind ≠ b.kind ∨ a.input.targetId ≠ b.input.targetId

/-- Nothing comes from outside. -/
def noEvent (_ : LifecycleState) (e : Empty) : LifecycleState := e.elim

abbrev ManagerPool : Type :=
  Pool LifecycleState ApplyCall LifecycleOp LifecycleOp.Reply (Except StatusError Result)

abbrev ManagerEvent : Type := Pool.Event ApplyCall LifecycleChance Empty

def managers : Machine ManagerPool ManagerEvent Unit :=
  machine world program noEvent

abbrev ManagerEntry : Type := Machine.Entry ManagerPool ManagerEvent Unit

/-! ## The properties -/

/-- The recorded generation of a target does not decrease. -/
def GenerationKept (x : ManagerEntry) : Prop :=
  ∀ kind targetId r, (x.pre.state.targets kind).get? targetId = some r →
    ∃ r', (x.post.state.targets kind).get? targetId = some r'
      ∧ r.fencingGeneration ≤ r'.fencingGeneration

/-- The request creates, updates or deletes. -/
def isWrite : NamespaceRequest → Bool
  | .get _ => false
  | _ => true

/-- A namespace is written only for a call that is not older than the record of its target. -/
def WritesFresh (x : ManagerEntry) : Prop :=
  ∀ call request n, Pool.Performs x.pre x.call call (.cluster request) n → isWrite request = true →
    ∀ r, call.record x.pre.state = some r → r.fencingGeneration ≤ call.execution.fencingGeneration

/-! ## A call on its own target -/

/-- The record is not newer than the call. -/
def Fresh (call : ApplyCall) (s : LifecycleState) : Prop :=
  ∀ r, call.record s = some r → r.fencingGeneration ≤ call.execution.fencingGeneration

/-- Nobody else writes the record of the call's target. -/
def SameRecord (call : ApplyCall) (s s' : LifecycleState) : Prop := call.record s' = call.record s

/-- What a call does once it has checked the record. -/
def Permitted (call : ApplyCall) (s : LifecycleState) : LifecycleOp → Prop
  | .writeRecord kind r => (kind = call.kind ∧ r.targetId = call.input.targetId
      ∧ r.fencingGeneration = call.execution.fencingGeneration) ∧ Fresh call s
  | .cluster _ => Fresh call s
  | _ => True

abbrev Keeps {α : Type} (call : ApplyCall) (p : LifecycleProgram α) (s : LifecycleState) : Prop :=
  p.Respects world (SameRecord call) (Permitted call) s

variable {call : ApplyCall} {s : LifecycleState} {op : LifecycleOp} {kind : ManagerKind}

theorem Fresh.of_same {s' : LifecycleState} (h : Fresh call s)
    (hsame : SameRecord call s s') : Fresh call s' := by
  intro r hr
  exact h r (hsame.symm.trans hr)

theorem targets_perform (s : LifecycleState) (op : LifecycleOp) (n : LifecycleChance)
    (h : ∀ kind r, op ≠ .writeRecord kind r) : (world.perform s op n).1.targets = s.targets := by
  cases op with
  | writeRecord kind r => exact absurd rfl (h kind r)
  | register | unregister =>
    simp only [world]
    split <;> rfl
  | _ => rfl

/-- The rule for an operation after the check: whatever it answers, the rest finds the record as the
    check has left it. -/
theorem keeps_call {α : Type} {next : op.Reply → LifecycleProgram α} (hfresh : Fresh call s)
    (hop : ∀ kind r, op ≠ .writeRecord kind r) (hpermitted : ∀ s, Fresh call s → Permitted call s op)
    (hnext : ∀ answer s, Fresh call s → Keeps call (next answer) s) :
    Keeps call (.call op next) s := by
  refine respects_call fun s' hsame => ⟨hpermitted s' (hfresh.of_same hsame), ?_⟩
  intro n answer _
  refine hnext answer _ ?_
  intro r hr
  rw [record, targets_perform s' op n hop] at hr
  exact hfresh.of_same hsame r hr

theorem actionRules_keeps (α : Type) (call : ApplyCall) :
    ActionRules call.kind call.execution call.input (Keeps (α := α) call) (Fresh call) (Fresh call)
      fun _ => True where
  ends _ hs := hs
  asks {s op next} hop hcluster hs hnext := by
    refine keeps_call hs hop (fun s hs => ?_) hnext
    cases op with
    | writeRecord kind r => exact absurd rfl (hop kind r)
    | cluster request => exact absurd rfl (hcluster request)
    | _ => trivial
  reads hs hnext := keeps_call hs (by simp) (fun _ h => h) fun answer s hs =>
    hnext answer s hs fun _ _ => trivial
  changes _ hs hnext := keeps_call hs (by simp) (fun _ h => h) hnext

theorem keeps_apply (call : ApplyCall) (s : LifecycleState) : Keeps call call.program s := by
  refine respects_call fun s' _ => ⟨trivial, fun n answer _ => ?_⟩
  rcases answer with _ | _
  · dsimp only
    split
    · trivial
    refine respects_call fun t _ => ⟨trivial, fun n' record hrecord => ?_⟩
    rcases hcheck : checkRecord call.kind record call.execution call.input with err | _ | result
    · trivial
    · -- From here on the record is the one that was checked.
      have hfresh : Fresh call t := by
        intro r hr
        obtain rfl : record = some r := hrecord.symm.trans hr
        simp only [checkRecord, bind, Except.bind, pure, Except.pure, throw, throwThe,
          MonadExceptOf.throw] at hcheck
        by_contra hlt
        rw [if_pos (not_le.1 hlt)] at hcheck
        split_ifs at hcheck
      refine (actionRules_keeps _ call).action (fun result s hs => ?_) hfresh
      rcases result with err | ⟨⟩
      · trivial
      · exact respects_call fun u hsame =>
          ⟨⟨⟨rfl, rfl, rfl⟩, hs.of_same hsame⟩, fun _ _ _ => trivial⟩
    · trivial
  · trivial

/-! ## Calls that do not overlap on a target -/

variable (n : LifecycleChance)

theorem record_perform_of_apart {a b : ApplyCall} (hapart : a.Apart b) (hop : Permitted a s op) :
    SameRecord b s (world.perform s op n).1 := by
  by_cases hwrite : ∃ kind r, op = .writeRecord kind r
  · obtain ⟨kind, r, rfl⟩ := hwrite
    obtain ⟨⟨rfl, htarget, -⟩, -⟩ := hop
    simp only [SameRecord, record, world]
    by_cases hkind : b.kind = a.kind
    · rw [hkind, update_self, Table.get?_put, if_neg]
      rw [htarget]
      exact fun h => hapart.elim (fun hne => hne hkind.symm) fun hne => hne h.symm
    · rw [update_of_ne hkind]
  · rw [SameRecord, record, record, targets_perform s op n]
    exact fun kind r h => hwrite ⟨kind, r, h⟩

theorem discipline : Pool.Discipline world program noEvent ApplyCall.Apart
    (fun _ => True) SameRecord Permitted where
  refl _ _ := rfl
  trans _ _ _ _ h h' := Eq.trans h' h
  begins call s _ := keeps_apply call s
  perform _ _ _ _ _ _ := trivial
  others _ _ _ _ n hapart _ hop := record_perform_of_apart n hapart hop
  outside _ e _ := e.elim

theorem generation_perform (hop : Permitted call s op) (kind : ManagerKind) (targetId : String)
    (r : TargetRecord) (hr : (s.targets kind).get? targetId = some r) :
    ∃ r', ((world.perform s op n).1.targets kind).get? targetId = some r'
      ∧ r.fencingGeneration ≤ r'.fencingGeneration := by
  by_cases hwrite : ∃ kind r, op = .writeRecord kind r
  · obtain ⟨kind', r', rfl⟩ := hwrite
    obtain ⟨⟨rfl, htarget, hgeneration⟩, hfresh⟩ := hop
    simp only [world]
    by_cases hkind : kind = call.kind
    · subst hkind
      rw [update_self, Table.get?_put]
      split
      · next heq =>
        refine ⟨r', rfl, ?_⟩
        rw [heq, htarget] at hr
        rw [hgeneration]
        exact hfresh r hr
      · exact ⟨r, hr, Int.le_refl _⟩
    · rw [update_of_ne hkind]
      exact ⟨r, hr, Int.le_refl _⟩
  · rw [targets_perform s op n fun kind r h => hwrite ⟨kind, r, h⟩]
    exact ⟨r, hr, Int.le_refl _⟩

/-- As long as a call begins only when no call on its target is running, recorded generations do not
    decrease, and no namespace is written for a call that is older than the record. -/
theorem generations_kept_without_overlap (s : LifecycleState) (events : List ManagerEvent)
    (h : ∀ x ∈ managers.trace (idle s) events, Pool.Admitted ApplyCall.Apart x.pre x.call) :
    ∀ x ∈ managers.trace (idle s) events, GenerationKept x ∧ WritesFresh x := by
  refine managers.trace_forall_of_trace
    (P := Pool.Orderly world ApplyCall.Apart (fun _ => True) SameRecord Permitted)
    (C := Pool.Admitted ApplyCall.Apart) (fun w e he hw => hw.next discipline he) ?_
    (orderly_idle trivial) h
  intro w e _ hw
  constructor
  · intro kind targetId r hr
    show ∃ r', ((w.next world program noEvent e).state.targets kind).get? targetId = some r'
      ∧ r.fencingGeneration ≤ r'.fencingGeneration
    rcases w.next_state_cases e with hsame | ⟨call, op, n, hop, hstate⟩ | ⟨change, -, -⟩
    · rw [hsame]
      exact ⟨r, hr, Int.le_refl _⟩
    · rw [hstate]
      exact generation_perform n (hw.permitted discipline hop) kind targetId r hr
    · exact change.elim
  · intro call request n hop _ r hr
    exact hw.permitted discipline hop r hr

/-! ## Two calls on one target -/

def sampleTarget : String := "3a7d1c52-0b6e-4c1f-8d2a-9e5f60718293"

def sampleCreate : ApplyCall := sampleCall sampleTarget "create" 1 ⟨by decide, by decide⟩

def sampleImport : ApplyCall := sampleCall sampleTarget "import" 2 ⟨by decide, by decide⟩

/-- One call after the other. -/
def sampleTurns : List ManagerEvent :=
  [.start sampleCreate] ++ List.replicate 5 (.perform 0 {})
    ++ [.start sampleImport] ++ List.replicate 5 (.perform 1 {})

theorem generations_kept_in_turns :
    (sampleImport.record (managers.run (idle .empty) sampleTurns).state).map
        fencingGeneration = some 2
    ∧ ∀ x ∈ managers.trace (idle .empty) sampleTurns, GenerationKept x ∧ WritesFresh x := by
  obtain ⟨hrecord, hquiet⟩ :
      (sampleImport.record (managers.run (idle .empty) sampleTurns).state).map
          fencingGeneration = some 2
        ∧ (managers.trace (idle .empty) sampleTurns).all
          (fun x => isQuiet x.pre x.call) = true := by
    decide +kernel
  exact ⟨hrecord, generations_kept_without_overlap .empty sampleTurns fun x hx =>
    admitted_of_isQuiet (List.all_eq_true.1 hquiet x hx)⟩

/-- The creation has checked that nothing is recorded. Then the import, of a larger generation, comes
    in and is recorded. -/
def sampleOverlap : List ManagerEvent :=
  [.start sampleCreate, .start sampleImport] ++ List.replicate 3 (.perform 0 {})
    ++ List.replicate 5 (.perform 1 {})

/-- What is about to be performed: for which target, in which generation, and whether it is a write to
    the cluster. -/
def summary : ApplyCall × LifecycleOp → ManagerKind × String × Int × Bool
  | (call, .cluster request) =>
    (call.kind, call.input.targetId, call.execution.fencingGeneration, isWrite request)
  | (call, _) => (call.kind, call.input.targetId, call.execution.fencingGeneration, false)

def recordedGeneration (s : LifecycleState) (kind : ManagerKind) (targetId : String) : Option Int :=
  ((s.targets kind).get? targetId).map fencingGeneration

/-- The creation goes on all the same: it makes its namespace while the record has generation 2, and
    then overwrites the record with generation 1. -/
theorem older_call_overwrites_record :
    (∃ x ∈ managers.trace (idle .empty) (sampleOverlap ++ [.perform 0 {}, .perform 0 {}]),
      ¬ WritesFresh x)
    ∧ ∃ x ∈ managers.trace (idle .empty) (sampleOverlap ++ [.perform 0 {}, .perform 0 {}]),
      ¬ GenerationKept x := by
  obtain ⟨w, hw⟩ : ∃ w, managers.run (idle .empty) sampleOverlap = w := ⟨_, rfl⟩
  obtain ⟨hpending, hbefore, hstill, hafter⟩ :
      (w.pending 0).map summary = some (.kubernetes, sampleTarget, 1, true)
        ∧ recordedGeneration w.state .kubernetes sampleTarget = some 2
        ∧ recordedGeneration (managers.next w (.perform 0 {})).state .kubernetes sampleTarget = some 2
        ∧ recordedGeneration (managers.next (managers.next w (.perform 0 {})) (.perform 0 {})).state
          .kubernetes sampleTarget = some 1 := by
    rw [← hw]
    decide +kernel
  rw [Machine.trace_append, hw]
  refine ⟨⟨managers.entry w (.perform 0 {}), by simp, ?_⟩,
    managers.entry (managers.next w (.perform 0 {})) (.perform 0 {}), by simp, ?_⟩
  · intro h
    obtain ⟨r, hr, hgeneration⟩ := map_eq_some_iff.1 hbefore
    obtain ⟨⟨call, op⟩, hop, hsummary⟩ := map_eq_some_iff.1 hpending
    cases op with
    | cluster request =>
      simp only [summary, Prod.mk.injEq] at hsummary
      obtain ⟨hkind, htarget, hold, hwrite⟩ := hsummary
      rw [← hkind, ← htarget] at hr
      have hle := h call request _ (performs_of_pending hop _) hwrite r hr
      omega
    | _ => simp [summary] at hsummary
  · intro h
    obtain ⟨r, hr, hgeneration⟩ := map_eq_some_iff.1 hstill
    obtain ⟨r', hr', hle⟩ := h _ _ r hr
    obtain ⟨r'', hr'', hgeneration'⟩ := map_eq_some_iff.1 hafter
    obtain rfl : r' = r'' := Option.some.inj (hr'.symm.trans hr'')
    omega

end HnbCloud.Lifecycle
