import HnbCloud.Lib.Machine
import HnbCloud.Lib.Program

set_option autoImplicit false

/-! # Pools of programs as machines

Requests of type `β` are served concurrently: each one begins a program, and the programs of a pool
perform their operations on one shared state in any order. What else changes the state comes from
outside, as events of type `ε`. A member of a pool keeps the request it serves, so that a property
of a run can say who performs an operation.

The rule of the module, `Pool.Orderly.next`, takes a relation `R b` for what happens to the
state between two operations of a program that serves `b`, and a permission `P b` for what it
performs. Whoever respects the permission must leave `R b'` to the requests `b'` it is kept apart
from. Then every operation of every run is permitted, as long as a request begins only when it is
kept apart from all that are being served.

The second rule, `Pool.Sound.next`, is for a permission that an operation gives to the one after it,
such as what a read has found: it holds where it is used as long as no event takes it from a member
that is about to use it. -/

namespace HnbCloud

open List

/-- A member of a pool: the request it serves, and what is left of its program. -/
structure Pool.Member (β ι : Type) (ρ : ι → Type) (α : Type) where
  request : β
  program : Program ι ρ α

/-- The shared state, and everyone who works on it. -/
structure Pool (σ β ι : Type) (ρ : ι → Type) (α : Type) where
  state : σ
  members : List (Pool.Member β ι ρ α)

/-- What happens in a pool: a request comes in, a member performs its next operation, or the state
    changes from outside. -/
inductive Pool.Event (β ν ε : Type) where
  | start (request : β)
  | perform (member : Nat) (chance : ν)
  | outside (event : ε)

namespace Pool

variable {σ β ι ν ε α : Type} {ρ : ι → Type}

/-- The member has more operations to perform. -/
def Member.Running (m : Member β ι ρ α) : Prop := ∀ a, m.program ≠ .done a

variable (S : Service σ ι ρ ν) (begins : β → Program ι ρ α) (changes : σ → ε → σ)

/-- One event. A member that has ended performs nothing. -/
def next (w : Pool σ β ι ρ α) : Event β ν ε → Pool σ β ι ρ α
  | .start b => { w with members := w.members ++ [⟨b, begins b⟩] }
  | .perform i n =>
    match w.members[i]? with
    | some ⟨b, .call op rest⟩ =>
      { state := (S.perform w.state op n).1
        members := w.members.set i ⟨b, rest (S.perform w.state op n).2⟩ }
    | _ => w
  | .outside e => { w with state := changes w.state e }

def machine : Machine (Pool σ β ι ρ α) (Event β ν ε) Unit where
  step w e := (w.next S begins changes e, ())

/-- The pool that has not served any request. -/
def idle (s : σ) : Pool σ β ι ρ α := ⟨s, []⟩

/-- In this pool, with this event, the request `b` has the operation `op` performed. -/
inductive Performs : Pool σ β ι ρ α → Event β ν ε → β → ι → ν → Prop where
  | intro {w : Pool σ β ι ρ α} {i : Nat} {n : ν} {b : β} {op : ι} {rest : ρ op → Program ι ρ α}
      (h : w.members[i]? = some ⟨b, .call op rest⟩) : Performs w (.perform i n) b op n

/-- The request a member serves, and the operation it performs next. -/
def pending (w : Pool σ β ι ρ α) (i : Nat) : Option (β × ι) :=
  match w.members[i]? with
  | some ⟨b, .call op _⟩ => some (b, op)
  | _ => none

variable {S begins changes} {w : Pool σ β ι ρ α} {e : Event β ν ε}

theorem performs_of_pending {i : Nat} {b : β} {op : ι} (h : w.pending i = some (b, op)) (n : ν) :
    Performs w (.perform i n : Event β ν ε) b op n := by
  unfold pending at h
  split at h
  · next hi =>
    cases h
    exact .intro hi
  · simp at h

/-- Only one request has an operation performed. -/
theorem Performs.request_unique {b b' : β} {op op' : ι} {n n' : ν} (h : Performs w e b op n)
    (h' : Performs w e b' op' n') : b = b' := by
  cases h with
  | intro hi =>
    cases h' with
    | intro hi' =>
      rw [hi] at hi'
      exact congrArg Member.request (Option.some.inj hi')

theorem next_state_cases (w : Pool σ β ι ρ α) (e : Event β ν ε) :
    (w.next S begins changes e).state = w.state ∨ (∃ b op n, Performs w e b op n
          ∧ (w.next S begins changes e).state = (S.perform w.state op n).1)
      ∨ ∃ change, e = .outside change
          ∧ (w.next S begins changes e).state = changes w.state change := by
  cases e with
  | start => exact .inl rfl
  | outside change => exact .inr (.inr ⟨change, rfl, rfl⟩)
  | perform i n =>
    rcases hi : w.members[i]? with _ | ⟨b, _ | ⟨op, rest⟩⟩
    · left
      simp only [next, hi]
    · left
      simp only [next, hi]
    · refine .inr (.inl ⟨b, op, n, .intro hi, ?_⟩)
      simp only [next, hi]

section Rule

variable {apart : β → β → Prop} {I : σ → Prop} {R : β → σ → σ → Prop} {P : β → σ → ι → Prop}

/-- A request begins only when it is kept apart from all that are being served. -/
def Admitted (apart : β → β → Prop) (w : Pool σ β ι ρ α) (e : Event β ν ε) : Prop :=
  ∀ b, e = .start b → ∀ m ∈ w.members, m.Running → apart m.request b ∧ apart b m.request

def Member.ended (m : Member β ι ρ α) : Bool :=
  match m.program with
  | .done _ => true
  | .call _ _ => false

/-- If a request begins, all others have ended. -/
def isQuiet (w : Pool σ β ι ρ α) : Event β ν ε → Bool
  | .start _ => w.members.all Member.ended
  | _ => true

theorem admitted_of_isQuiet (h : isQuiet w e = true) : Admitted apart w e := by
  rintro b rfl m hm hrunning
  have hended := all_eq_true.1 h m hm
  rcases m with ⟨b', a | ⟨op, rest⟩⟩
  · exact absurd rfl (hrunning a)
  · simp [Member.ended] at hended

/-- The invariant of the rule: every member respects its permission from here on, and those that are
    running are kept apart. -/
structure Orderly (S : Service σ ι ρ ν) (apart : β → β → Prop) (I : σ → Prop)
    (R : β → σ → σ → Prop) (P : β → σ → ι → Prop) (w : Pool σ β ι ρ α) : Prop where
  state : I w.state
  respects : ∀ m ∈ w.members, m.program.Respects S (R m.request) (P m.request) w.state
  apart : ∀ (i j : Nat) (m m' : Member β ι ρ α), w.members[i]? = some m →
    w.members[j]? = some m' → i ≠ j → m.Running → m'.Running → apart m.request m'.request

/-- What a service, a relation and a permission have to do with each other. -/
structure Discipline (S : Service σ ι ρ ν) (begins : β → Program ι ρ α) (changes : σ → ε → σ)
    (apart : β → β → Prop) (I : σ → Prop) (R : β → σ → σ → Prop) (P : β → σ → ι → Prop) :
    Prop where
  refl : ∀ b s, R b s s
  trans : ∀ b {s t u}, R b s t → R b t u → R b s u
  begins : ∀ b s, I s → (begins b).Respects S (R b) (P b) s
  perform : ∀ b s op n, I s → P b s op → I (S.perform s op n).1
  others : ∀ b b' s op n, apart b b' → I s → P b s op → R b' s (S.perform s op n).1
  outside : ∀ s e, I s → I (changes s e) ∧ ∀ b, R b s (changes s e)

theorem orderly_idle {s : σ} (hs : I s) : Orderly S apart I R P (idle s : Pool σ β ι ρ α) where
  state := hs
  respects := fun m hm => absurd hm (by simp [idle])
  apart := fun i j m m' hi => absurd hi (by simp [idle])

/-- One step keeps the invariant. -/
theorem Orderly.next (D : Discipline S begins changes apart I R P) (hw : Orderly S apart I R P w)
    (he : Admitted apart w e) : Orderly S apart I R P (w.next S begins changes e) := by
  cases e with
  | start b =>
    refine ⟨hw.state, ?_, ?_⟩
    · exact forall_mem_append.2 ⟨hw.respects, forall_mem_singleton.2 (D.begins b _ hw.state)⟩
    · intro i j m m' hi hj hij hm hm'
      rcases getElem?_append_cases hi with ⟨hil, hi⟩ | ⟨hil, rfl⟩ <;>
        rcases getElem?_append_cases hj with ⟨hjl, hj⟩ | ⟨hjl, rfl⟩
      · exact hw.apart i j m m' hi hj hij hm hm'
      · exact (he b rfl m (mem_of_getElem? hi) hm).1
      · exact (he b rfl m' (mem_of_getElem? hj) hm').2
      · exact absurd (hil.trans hjl.symm) hij
  | outside =>
    refine ⟨(D.outside _ _ hw.state).1, ?_, hw.apart⟩
    intro m hm
    exact (hw.respects m hm).stable (R := R m.request) (D.trans _) ((D.outside _ _ hw.state).2 _)
  | perform i n =>
    rcases hi : w.members[i]? with _ | ⟨b, _ | ⟨op, rest⟩⟩
    · simpa only [Pool.next, hi] using hw
    · simpa only [Pool.next, hi] using hw
    simp only [Pool.next, hi]
    obtain ⟨hop, hrest⟩ := (hw.respects _ (mem_of_getElem? hi)).perform (D.refl b)
    have hrunning : (⟨b, .call op rest⟩ : Member β ι ρ α).Running := fun a h => by cases h
    refine ⟨D.perform b _ op n hw.state hop, ?_, ?_⟩
    · intro m hm
      obtain ⟨j, hj⟩ := mem_iff_getElem?.1 hm
      rcases getElem?_set_cases hj with ⟨hji, hj⟩ | ⟨-, rfl⟩
      · rcases m with ⟨b', _ | ⟨op', rest'⟩⟩
        · trivial
        -- Another running member is kept apart from the one that performs the operation.
        have hapart := hw.apart i j _ _ hi hj (Ne.symm hji) hrunning fun a h => by cases h
        exact (hw.respects _ (mem_of_getElem? hj)).stable (R := R b') (D.trans b')
          (D.others b b' _ op n hapart hw.state hop)
      · exact hrest n
    · intro j k m m' hj hk hjk hm hm'
      rcases getElem?_set_cases hj with ⟨-, hj'⟩ | ⟨rfl, rfl⟩ <;>
        rcases getElem?_set_cases hk with ⟨-, hk'⟩ | ⟨rfl, rfl⟩
      · exact hw.apart j k m m' hj' hk' hjk hm hm'
      · exact hw.apart j k m ⟨b, .call op rest⟩ hj' hi hjk hm hrunning
      · exact hw.apart j k ⟨b, .call op rest⟩ m' hi hk' hjk hrunning hm'
      · exact absurd rfl hjk

theorem Orderly.permitted (D : Discipline S begins changes apart I R P)
    (hw : Orderly S apart I R P w) {b : β} {op : ι} {n : ν} (h : Performs w e b op n) :
    P b w.state op := by
  cases h with
  | intro hi => exact ((hw.respects _ (mem_of_getElem? hi)).perform (D.refl b)).1

end Rule

section Lasting

variable {P : σ → ι → Prop}

/-- The next operation of the program is permitted. -/
def Allowed (P : σ → ι → Prop) : Program ι ρ α → σ → Prop
  | .done _, _ => True
  | .call op _, s => P s op

/-- Wherever an operation of the program is permitted, the next one is permitted right after it. -/
def Renews (S : Service σ ι ρ ν) (P : σ → ι → Prop) : Program ι ρ α → Prop
  | .done _ => True
  | .call op rest => ∀ s n, P s op → Allowed P (rest (S.perform s op n).2) (S.perform s op n).1
        ∧ Renews S P (rest (S.perform s op n).2)

/-- Every member is permitted what it performs next, and goes on so. -/
structure Sound (S : Service σ ι ρ ν) (P : σ → ι → Prop) (w : Pool σ β ι ρ α) : Prop where
  allowed : ∀ m ∈ w.members, Allowed P m.program w.state
  renews : ∀ m ∈ w.members, Renews S P m.program

/-- The event is an operation of the member with this number. -/
def Event.IsOf (j : Nat) : Event β ν ε → Prop
  | .perform i _ => i = j
  | _ => False

/-- The event leaves every member but the one that performs it the permission it has. -/
def Spares (S : Service σ ι ρ ν) (begins : β → Program ι ρ α) (changes : σ → ε → σ)
    (P : σ → ι → Prop) (w : Pool σ β ι ρ α) (e : Event β ν ε) : Prop :=
  ∀ (j : Nat) (m : Member β ι ρ α), w.members[j]? = some m → ¬ e.IsOf j →
    Allowed P m.program w.state → Allowed P m.program (w.next S begins changes e).state

theorem sound_idle (s : σ) : Sound S P (idle s : Pool σ β ι ρ α) :=
  ⟨fun m hm => absurd hm (by simp [idle]), fun m hm => absurd hm (by simp [idle])⟩

/-- One step keeps the permissions. -/
theorem Sound.next (hbegins : ∀ b s, Allowed P (begins b) s) (hrenews : ∀ b, Renews S P (begins b))
    (hw : Sound S P w) (he : Spares S begins changes P w e) :
    Sound S P (w.next S begins changes e) := by
  cases e with
  | start b =>
    constructor
    · exact forall_mem_append.2 ⟨hw.allowed, forall_mem_singleton.2 (hbegins b _)⟩
    · exact forall_mem_append.2 ⟨hw.renews, forall_mem_singleton.2 (hrenews b)⟩
  | outside =>
    refine ⟨?_, hw.renews⟩
    intro m hm
    obtain ⟨j, hj⟩ := mem_iff_getElem?.1 hm
    exact he j m hj (fun h => h) (hw.allowed m hm)
  | perform i n =>
    rcases hi : w.members[i]? with _ | ⟨b, _ | ⟨op, rest⟩⟩
    · simpa only [Pool.next, hi] using hw
    · simpa only [Pool.next, hi] using hw
    have hmem := mem_of_getElem? hi
    obtain ⟨hallowed, hrest⟩ := hw.renews _ hmem w.state n (hw.allowed _ hmem)
    have hstate : (w.next S begins changes (.perform i n)).state
        = (S.perform w.state op n).1 := by simp only [Pool.next, hi]
    simp only [Spares, hstate] at he
    simp only [Pool.next, hi]
    constructor
    · intro m hm
      obtain ⟨j, hj⟩ := mem_iff_getElem?.1 hm
      rcases getElem?_set_cases hj with ⟨hji, hj⟩ | ⟨-, rfl⟩
      · exact he j m hj (Ne.symm hji) (hw.allowed m (mem_of_getElem? hj))
      · exact hallowed
    · intro m hm
      rcases mem_or_eq_of_mem_set hm with hm | rfl
      · exact hw.renews m hm
      · exact hrest

/-- What is performed in such a pool is permitted. -/
theorem Sound.permitted (hw : Sound S P w) {b : β} {op : ι} {n : ν} (h : Performs w e b op n) :
    P w.state op := by
  cases h with
  | intro hi => exact hw.allowed _ (mem_of_getElem? hi)

end Lasting

end Pool

end HnbCloud
