import HnbCloud.Lib.Machine
import HnbCloud.Lifecycle.Manager

set_option autoImplicit false

/-! # The namespaces a call may change

Calls of `Apply` one after the other, on any targets, and restarts of a provider, which lose its
records. A call makes at most one change to the cluster, to the namespace that its target's id names:
it creates it if there is none, and it updates or deletes it if the namespace is of its provider and
of its tenant.

The name has only the first eight characters of the id, and nothing compares the id in the namespace's
annotations with the target's. Targets of one tenant whose ids begin alike therefore share a
namespace. -/

namespace HnbCloud.Lifecycle

open Provider List ObjectStore StringMap Machine

/-- The namespaces of the cluster. -/
abbrev Namespaces : Type := ObjectStore String Namespace

/-! ## What one call does to the namespaces -/

/-- The namespace that the id of the call's target names. -/
def ApplyCall.namespaceName (call : ApplyCall) : String :=
  Lifecycle.namespaceName call.kind call.input.targetId

/-- The change a call makes, and the condition under which it makes it. -/
inductive Effect (call : ApplyCall) (s : Namespaces) : Namespaces → Prop where
  | nothing : Effect call s s
  | creates (uid : String) (h : s.get? call.namespaceName = none) : Effect call s (s.write
        ⟨call.namespaceName, uid, 0, managedNamespace call.kind call.execution call.input⟩)
  | updates (o : Stored String Namespace) (h : s.get? call.namespaceName = some o)
      (hcheck : checkNamespace call.kind call.execution o.value = .ok ()) :
      Effect call s (s.write { o with value := o.value.upgraded call.execution call.input })
  | deletes (o : Stored String Namespace) (h : s.get? call.namespaceName = some o)
      (hcheck : checkNamespace call.kind call.execution o.value = .ok ()) :
      Effect call s (s.remove call.namespaceName)

/-- Run alone, the program leaves the namespaces as the call may change them. -/
abbrev Leaves {α : Type} (call : ApplyCall) (before : Namespaces) (p : LifecycleProgram α)
    (s : LifecycleState) : Prop :=
  p.Ensures world Eq (fun _ s' => Effect call before s'.namespaces) s

theorem namespaces_perform (s : LifecycleState) (op : LifecycleOp) (n : LifecycleChance)
    (h : ∀ request, op ≠ .cluster request) :
    (world.perform s op n).1.namespaces = s.namespaces := by
  cases op with
  | cluster request => exact absurd rfl (h request)
  | register | unregister =>
    simp only [world]
    split <;> rfl
  | _ => rfl

section Programs

variable {α : Type} {call : ApplyCall} {before : Namespaces} {s : LifecycleState}

theorem leaves_call {op : LifecycleOp} {next : op.Reply → LifecycleProgram α}
    (hop : ∀ request, op ≠ .cluster request)
    (hnext : ∀ answer s', s'.namespaces = s.namespaces → Leaves call before (next answer) s') :
    Leaves call before (.call op next) s := by
  refine Program.ensures_call fun s' hs n answer _ => ?_
  subst hs
  exact hnext answer _ (namespaces_perform s op n hop)

theorem leaves_cluster {request : NamespaceRequest} {next : request.Reply → LifecycleProgram α}
    (hnext : ∀ answer (s' : LifecycleState), s.namespaces.Does request s'.namespaces →
      (∃ n, (ObjectStore.server.perform s.namespaces request n)
        = (s'.namespaces, answer)) → Leaves call before (next answer) s') :
    Leaves call before (.call (.cluster request) next) s := by
  refine Program.ensures_call fun s' hs n answer hanswer => ?_
  subst hs
  refine hnext answer _ (s.namespaces.does_perform request n.object) ⟨n.object, ?_⟩
  exact Prod.ext rfl hanswer

theorem actionRules_leaves (call : ApplyCall) (before : Namespaces) :
    ActionRules call.kind call.execution call.input (Leaves (α := α) call before)
      (fun s => s.namespaces = before) (fun s => Effect call before s.namespaces)
      (fun o => before.get? call.namespaceName = some o) where
  ends s hs := hs ▸ .nothing
  asks _ hop hs hnext := leaves_call hop fun answer s' hs' => hnext answer s' (hs'.trans hs)
  reads {s next} hs hnext := by
    refine leaves_cluster fun answer s' hdoes hperform => ?_
    obtain ⟨n, hperform⟩ := hperform
    have hsame : s'.namespaces = before := by
      rw [hs] at hdoes
      generalize s'.namespaces = after at hdoes ⊢
      cases hdoes with
      | nothing => rfl
    refine hnext answer s' hsame fun o ho => ?_
    subst ho
    exact hs ▸ (get?_of_reply (congrArg Prod.snd hperform)).1
  changes hchange hs hnext := by
    refine leaves_cluster fun answer s' hdoes _ => hnext answer s' ?_
    rw [hs] at hdoes
    generalize s'.namespaces = after at hdoes ⊢
    cases hchange with
    | create =>
      cases hdoes with
      | nothing => exact .nothing
      | creates _ _ uid hnone => exact .creates uid hnone
    | update o hread hcheck =>
      cases hdoes with
      | nothing => exact .nothing
      | updates _ current hcurrent =>
        rw [key_of_get? hread] at hcurrent
        obtain rfl : o = current := Option.some.inj (hread.symm.trans hcurrent)
        exact .updates o hread hcheck
    | delete o hread hcheck =>
      cases hdoes with
      | nothing => exact .nothing
      | deletes => exact .deletes o hread hcheck

end Programs

/-- A call that is run alone makes at most one change, to its own namespace. -/
theorem effect_of_run (call : ApplyCall) (choice : Nat → LifecycleChance) (s : LifecycleState) :
    Effect call s.namespaces (call.program.run world choice 0 s).1.namespaces := by
  have hdone : ∀ (result : Except StatusError Result) (t : LifecycleState),
      Effect call s.namespaces t.namespaces → Leaves call s.namespaces (.done result) t := by
    rintro result t ht _ rfl
    exact ht
  refine Program.Ensures.run
    (Q := fun _ (s' : LifecycleState) => Effect call s.namespaces s'.namespaces) ?_ choice 0
  refine leaves_call (by simp) fun cancelled t ht => ?_
  have hsame : Effect call s.namespaces t.namespaces := ht ▸ .nothing
  rcases cancelled with _ | _
  · dsimp only
    split
    · exact hdone _ t hsame
    refine leaves_call (by simp) fun record u hu => ?_
    have hsame : Effect call s.namespaces u.namespaces := (hu.trans ht) ▸ .nothing
    split
    · exact hdone _ u hsame
    · exact hdone _ u hsame
    refine (actionRules_leaves call _).action (fun result v hv => ?_) (hu.trans ht)
    rcases result with err | ⟨⟩
    · exact hdone _ v hv
    · exact leaves_call (by simp) fun _ v' hv' => hdone _ v' (hv' ▸ hv)
  · exact hdone _ t hsame

/-! ## Histories -/

/-- What happens: a call, with what chance decides in it, or a restart. -/
inductive Turn where
  | apply (call : ApplyCall) (choice : Nat → LifecycleChance)
  | restart (kind : ManagerKind)

/-- The providers in one cluster. -/
def turns : Machine LifecycleState Turn (Option (Except StatusError Result)) where
  step s
    | .apply call choice =>
      ((call.program.run world choice 0 s).1, some (call.program.run world choice 0 s).2)
    | .restart kind => (s.restart kind, none)

abbrev TurnEntry : Type := Machine.Entry LifecycleState Turn (Option (Except StatusError Result))

/-- Whom a namespace was created for. -/
abbrev Owner : Type := ManagerKind × String

def ApplyCall.owner (call : ApplyCall) : Owner := (call.kind, call.input.targetId)

/-- The target of a turn. -/
def Turn.owner? : Turn → Option Owner
  | .apply call _ => some call.owner
  | .restart _ => none

/-- The target that the namespace of this name was created for, after one more entry. -/
def ownerAfter (name : String) (owner : Option Owner) (x : TurnEntry) : Option Owner :=
  match x.pre.namespaces.get? name, x.post.namespaces.get? name with
  | _, none => none
  | none, some _ => x.call.owner?
  | some _, some _ => owner

/-- The target that the namespace of this name was created for. A namespace that was there before the
    history has none. -/
def owner? (name : String) (past : List TurnEntry) : Option Owner :=
  past.foldl (ownerAfter name) none

theorem owner?_append (name : String) (past : List TurnEntry) (x : TurnEntry) :
    owner? name (past ++ [x]) = ownerAfter name (owner? name past) x := by
  simp [owner?]

def Namespace.Foreign (n : Namespace) : Prop :=
  ∀ kind : ManagerKind, n.annotationAt managedByAnnotation ≠ kind.texts.providerValue

open Namespace

/-- No two targets of one tenant begin alike. -/
def DistinctTargets (events : List Turn) : Prop :=
  ∀ a b choice choice', .apply a choice ∈ events → .apply b choice' ∈ events → a.kind = b.kind →
    a.execution.tenantId = b.execution.tenantId →
    a.input.targetId.toList.take 8 = b.input.targetId.toList.take 8 →
    a.input.targetId = b.input.targetId

/-- The namespace carries the marks of a call of the history, on the target it was created for; or it
    is not managed. -/
def Marked (events : List Turn) (past : List TurnEntry) (name : String) (n : Namespace) : Prop :=
  n.Foreign ∨ ∃ a choice, .apply a choice ∈ events ∧ owner? name past = some a.owner
    ∧ name = a.namespaceName
    ∧ n.annotationAt managedByAnnotation = a.kind.texts.providerValue
    ∧ n.annotationAt tenantAnnotation = a.execution.tenantId

/-- Every namespace is marked. -/
def Accounted (events : List Turn) (s : LifecycleState) (past : List TurnEntry) : Prop :=
  ∀ name o, s.namespaces.get? name = some o → Marked events past name o.value

/-! ### Annotations -/

variable {kind : ManagerKind}

theorem annotation_upgraded (execution : ExecutionContext) (input : LifecycleInput) (n : Namespace)
    {name : String} (hfencing : name ≠ fencingAnnotation) (hversion : name ≠ versionAnnotation) :
    (n.upgraded execution input).annotationAt name = n.annotationAt name := by
  simp only [annotationAt, upgraded]
  rw [value_insert_of_ne _ _ hfencing, value_insert_of_ne _ _ hversion]

theorem providerValue_injective {a b : ManagerKind}
    (h : a.texts.providerValue = b.texts.providerValue) : a = b := by
  cases a <;> cases b
  · rfl
  · exact absurd h (by decide)
  · exact absurd h (by decide)
  · rfl

theorem take_of_namespaceName {a b : String}
    (h : namespaceName kind a = namespaceName kind b) : a.toList.take 8 = b.toList.take 8 := by
  have htext := congrArg String.toList h
  simp only [namespaceName, String.toList_append, String.toList_ofList] at htext
  exact append_cancel_left htext

/-! ### Steps -/

section Steps

variable {events : List Turn} {s : LifecycleState} {past : List TurnEntry}

theorem Accounted.changes (hdistinct : DistinctTargets events) (hs : Accounted events s past)
    {call : ApplyCall} {choice : Nat → LifecycleChance} (hcall : .apply call choice ∈ events)
    {after : Namespaces} (heffect : Effect call s.namespaces after) {name : String}
    (hchanged : after.get? name ≠ s.namespaces.get? name) :
    name = call.namespaceName
      ∧ (s.namespaces.get? name = none ∨ owner? name past = some call.owner) := by
  -- An existing namespace passed the check: it is of the provider and of the tenant.
  have hexisting : ∀ o, s.namespaces.get? call.namespaceName = some o →
      checkNamespace call.kind call.execution o.value = .ok () →
      owner? call.namespaceName past = some call.owner := by
    intro o ho hcheck
    unfold checkNamespace at hcheck
    split_ifs at hcheck with hmanaged htenant
    rw [not_not] at hmanaged htenant
    rcases hs _ o ho with hforeign | ⟨a, choice', ha, howner, hname, hmanaged', htenant'⟩
    · exact absurd hmanaged (hforeign _)
    have hkind : call.kind = a.kind := providerValue_injective (hmanaged.symm.trans hmanaged')
    rw [ApplyCall.namespaceName, ApplyCall.namespaceName, hkind] at hname
    have htarget := hdistinct call a choice choice' hcall ha hkind
      (htenant.symm.trans htenant') (take_of_namespaceName hname)
    rw [howner, ApplyCall.owner, ApplyCall.owner, hkind, htarget]
  cases heffect with
  | nothing => exact absurd rfl hchanged
  | creates _ hnone =>
    rw [get?_write] at hchanged
    split at hchanged
    · next hname => exact ⟨hname, .inl (hname ▸ hnone)⟩
    · exact absurd rfl hchanged
  | updates o ho hcheck =>
    rw [get?_write] at hchanged
    split at hchanged
    · next hname =>
      have hkey : o.key = call.namespaceName := key_of_get? ho
      obtain rfl : name = call.namespaceName := hname.trans hkey
      exact ⟨rfl, .inr (hexisting o ho hcheck)⟩
    · exact absurd rfl hchanged
  | deletes o ho hcheck =>
    rw [get?_remove] at hchanged
    split at hchanged
    · next hname =>
      subst hname
      exact ⟨rfl, .inr (hexisting o ho hcheck)⟩
    · exact absurd rfl hchanged

theorem Marked.next {x : TurnEntry} {name : String} {n n' : Namespace}
    {o o' : Stored String Namespace} (h : Marked events past name n)
    (hpre : x.pre.namespaces.get? name = some o) (hpost : x.post.namespaces.get? name = some o')
    (hmanaged : n'.annotationAt managedByAnnotation = n.annotationAt managedByAnnotation)
    (htenant : n'.annotationAt tenantAnnotation = n.annotationAt tenantAnnotation) :
    Marked events (past ++ [x]) name n' := by
  rcases h with hforeign | ⟨a, choice, ha, howner, hname, hmanaged', htenant'⟩
  · exact .inl fun kind => hmanaged ▸ hforeign kind
  · refine .inr ⟨a, choice, ha, ?_, hname, hmanaged.trans hmanaged', htenant.trans htenant'⟩
    simp only [owner?_append, ownerAfter, hpre, hpost, howner]

theorem Accounted.next (hs : Accounted events s past) {event : Turn} (hevent : event ∈ events) :
    Accounted events (turns.next s event) (past ++ [turns.entry s event]) := by
  intro name o ho
  have hkept : s.namespaces.get? name = some o →
      Marked events (past ++ [turns.entry s event]) name o.value :=
    fun hpre => (hs name o hpre).next hpre ho rfl rfl
  cases event with
  | restart => exact hkept ho
  | apply call choice =>
    have heffect := effect_of_run call choice s
    have hpost : (call.program.run world choice 0 s).1.namespaces.get? name = some o := ho
    generalize (call.program.run world choice 0 s).1.namespaces = after at heffect hpost
    cases heffect with
    | nothing => exact hkept hpost
    | creates _ hnone =>
      rw [get?_write] at hpost
      split at hpost
      · next hname =>
        cases hpost
        refine .inr ⟨call, choice, hevent, ?_, hname, value_insert_self _ _ _,
          (value_insert_of_ne _ _ (show tenantAnnotation ≠ managedByAnnotation by decide)).trans
            (value_insert_self _ _ _)⟩
        have hpre : (turns.entry s (.apply call choice)).pre.namespaces.get? name = none :=
          hname ▸ hnone
        have hnew : (turns.entry s (.apply call choice)).post.namespaces.get? name = some _ := ho
        simp only [owner?_append, ownerAfter, hpre, hnew]
        rfl
      · exact hkept hpost
    | updates o₀ ho₀ =>
      rw [get?_write] at hpost
      split at hpost
      · next hname =>
        cases hpost
        have hkey : o₀.key = call.namespaceName := key_of_get? ho₀
        have hpre : s.namespaces.get? name = some o₀ := by
          rw [hname, hkey]
          exact ho₀
        exact (hs name o₀ hpre).next hpre ho (annotation_upgraded _ _ _ (by decide) (by decide))
          (annotation_upgraded _ _ _ (by decide) (by decide))
      · exact hkept hpost
    | deletes =>
      rw [get?_remove] at hpost
      split_ifs at hpost
      exact hkept hpost

end Steps

/-- If no two targets of one tenant begin alike, then whatever a turn changes in the cluster is a
    namespace that it creates, or one that was created for its own target. -/
theorem changes_own_namespace (s : LifecycleState)
    (hs : ∀ name o, s.namespaces.get? name = some o → o.value.Foreign) (events : List Turn)
    (hdistinct : DistinctTargets events) (past later : List TurnEntry) (x : TurnEntry)
    (htrace : turns.trace s events = past ++ x :: later) (name : String)
    (hchanged : x.post.namespaces.get? name ≠ x.pre.namespaces.get? name) :
    ∃ call choice, x.call = .apply call choice ∧ name = call.namespaceName
      ∧ (x.pre.namespaces.get? name = none ∨ owner? name past = some call.owner) := by
  obtain ⟨before, event, after, rfl, rfl, rfl, -⟩ := trace_eq_append_cons htrace
  have haccounted : Accounted (before ++ event :: after) (turns.run s before)
      (turns.trace s before) := by
    refine turns.history_induction (P := Accounted (before ++ event :: after))
      (C := fun _ e => e ∈ before ++ event :: after) (fun t past e he ht => ht.next he) ?_ ?_
    · exact fun name o ho => .inl (hs name o ho)
    · intro y hy
      exact mem_append_left _ (call_mem_of_mem_trace hy)
  cases event with
  | restart => exact absurd rfl hchanged
  | apply call choice =>
    have hevent : .apply call choice ∈ before ++ Turn.apply call choice :: after :=
      mem_append_right _ mem_cons_self
    obtain ⟨hname, howner⟩ := haccounted.changes hdistinct hevent
      (effect_of_run call choice (turns.run s before)) hchanged
    exact ⟨call, choice, rfl, hname, howner⟩

/-! ## Two targets of one tenant -/

def works (call : ApplyCall) : Turn := .apply call fun _ => {}

def firstTarget : String := "3a7d1c52-0b6e-4c1f-8d2a-9e5f60718293"

/-- It begins like the first one. -/
def secondTarget : String := "3a7d1c52-77aa-4d3e-a1b2-c3d4e5f60718"

def thirdTarget : String := "90c4e1b8-5f2d-4a6b-8e7c-1d2f3a4b5c6d"

/-- The first target is created, then another one, and the first one is upgraded. -/
def sampleHistory : List Turn :=
  [works (sampleCall firstTarget "create" 1 (by decide)),
   works (sampleCall thirdTarget "create" 2 (by decide)),
   works (sampleCall firstTarget "upgrade" 3 ⟨by decide, by decide⟩)]

def unmanageFirst : ApplyCall := sampleCall firstTarget "unmanage" 4 (by decide)

theorem distinctTargets_sampleHistory : DistinctTargets (sampleHistory ++ [works unmanageFirst]) := by
  intro a b choice choice' ha hb _ _ hbegin
  have hids : ∀ c choice, .apply c choice ∈ sampleHistory ++ [works unmanageFirst] →
      c.input.targetId = firstTarget ∨ c.input.targetId = thirdTarget := by
    intro c choice hc
    simp only [sampleHistory, works, cons_append, nil_append, mem_cons,
      Turn.apply.injEq, not_mem_nil, or_false] at hc
    rcases hc with ⟨rfl, -⟩ | ⟨rfl, -⟩ | ⟨rfl, -⟩ | ⟨rfl, -⟩
    · exact .inl rfl
    · exact .inr rfl
    · exact .inl rfl
    · exact .inl rfl
  rcases hids a choice ha with h | h <;> rcases hids b choice' hb with h' | h' <;>
    rw [h, h'] at hbegin ⊢
  · exact absurd hbegin (by decide)
  · exact absurd hbegin (by decide)

/-- There is a namespace of the name that the target's id gives. -/
def hasNamespace (s : LifecycleState) (targetId : String) : Bool :=
  (s.namespaces.get? (namespaceName .kubernetes targetId)).isSome

/-- Unmanaging the first target deletes a namespace, which was created for it. -/
theorem changes_own_namespace_of_sample :
    hasNamespace (turns.run .empty sampleHistory) firstTarget = true
      ∧ hasNamespace (turns.next (turns.run .empty sampleHistory) (works unmanageFirst)) firstTarget
        = false
      ∧ ∃ call choice, works unmanageFirst = .apply call choice
        ∧ namespaceName .kubernetes firstTarget = call.namespaceName
        ∧ ((turns.run .empty sampleHistory).namespaces.get?
              (namespaceName .kubernetes firstTarget) = none
          ∨ owner? (namespaceName .kubernetes firstTarget) (turns.trace .empty sampleHistory)
            = some call.owner) := by
  obtain ⟨hbefore, hafter⟩ : hasNamespace (turns.run .empty sampleHistory) firstTarget = true
        ∧ hasNamespace (turns.next (turns.run .empty sampleHistory) (works unmanageFirst)) firstTarget
          = false := by
    decide +kernel
  refine ⟨hbefore, hafter, changes_own_namespace .empty (fun name o ho => absurd ho (by simp))
    (sampleHistory ++ [works unmanageFirst]) distinctTargets_sampleHistory
    (turns.trace .empty sampleHistory) [] (turns.entry (turns.run .empty sampleHistory)
      (works unmanageFirst)) (trace_append turns _ _ _) _ ?_⟩
  intro heq
  have hsame : hasNamespace (turns.next (turns.run .empty sampleHistory) (works unmanageFirst))
      firstTarget = hasNamespace (turns.run .empty sampleHistory) firstTarget :=
    congrArg Option.isSome heq
  rw [hbefore, hafter] at hsame
  exact absurd hsame (by decide)

/-- The first target is created. Then another one of the tenant, whose id begins like the first
    one's, is imported, which makes no namespace. -/
def sharedHistory : List Turn :=
  [works (sampleCall firstTarget "create" 1 (by decide)),
   works (sampleCall secondTarget "import" 2 (by decide))]

def unmanageSecond : ApplyCall := sampleCall secondTarget "unmanage" 3 ⟨by decide, by decide⟩

/-- Unmanaging the second target succeeds, and deletes the namespace that was created for the
    first. -/
theorem unmanage_deletes_other_namespace :
    isCanonicalUuid firstTarget = true ∧ isCanonicalUuid secondTarget = true
      ∧ owner? (namespaceName .kubernetes firstTarget) (turns.trace .empty sharedHistory)
        = some (.kubernetes, firstTarget)
      ∧ unmanageSecond.owner = (.kubernetes, secondTarget)
      ∧ hasNamespace (turns.run .empty sharedHistory) firstTarget = true
      ∧ hasNamespace (turns.next (turns.run .empty sharedHistory) (works unmanageSecond)) firstTarget
        = false
      ∧ (turns.answer (turns.run .empty sharedHistory) (works unmanageSecond)).map Except.toBool
        = some true := by
  decide +kernel

end HnbCloud.Lifecycle
