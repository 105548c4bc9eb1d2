import Mathlib.Data.List.Basic

set_option autoImplicit false

/-! # Machines driven by calls

A `Machine` is a state together with a total step function: every call is accepted in every state
and answers with a result, a refused call being one whose result says so. Concurrent parties whose
calls are atomic are one such machine: an interleaving is a list of calls, and a property of all
interleavings is a property of `Machine.run` (the state reached) and of `Machine.trace` (what every
call saw, answered and left behind).

The rules below are the only inductions over runs in the development: an invariant is carried by
`Machine.run_induction` (or, if the steps have to meet a condition, by
`Machine.run_induction_of_trace`), an invariant that also speaks about what has happened so far by
`Machine.history_induction`, a fact about every entry of a trace by `Machine.trace_forall`, and a
fact about any two entries, one before the other, by `Machine.trace_pairwise`. -/

namespace HnbCloud

open List

/-- A state machine: `step` takes the state before a call to the state after it and the answer. -/
structure Machine (σ ε ρ : Type) where
  step : σ → ε → σ × ρ

/-- One entry of a trace: the state before the call, the call, its answer, the state after it. -/
structure Machine.Entry (σ ε ρ : Type) where
  pre : σ
  call : ε
  result : ρ
  post : σ

namespace Machine

variable {σ ε ρ : Type} (M : Machine σ ε ρ)

/-- The state after one call. -/
def next (s : σ) (e : ε) : σ := (M.step s e).1

/-- The answer to one call. -/
def answer (s : σ) (e : ε) : ρ := (M.step s e).2

/-- The entry a call leaves in the trace. -/
def entry (s : σ) (e : ε) : Entry σ ε ρ :=
  { pre := s, call := e, result := M.answer s e, post := M.next s e }

/-- The state reached by a list of calls. -/
def run (s : σ) : List ε → σ
  | [] => s
  | e :: es => run (M.next s e) es

/-- Everything that happens along a list of calls, first call first. -/
def trace (s : σ) : List ε → List (Entry σ ε ρ)
  | [] => []
  | e :: es => M.entry s e :: trace (M.next s e) es

@[simp] theorem run_nil (s : σ) : M.run s [] = s := rfl

@[simp] theorem run_cons (s : σ) (e : ε) (es : List ε) :
    M.run s (e :: es) = M.run (M.next s e) es := rfl

@[simp] theorem trace_nil (s : σ) : M.trace s [] = [] := rfl

@[simp] theorem trace_cons (s : σ) (e : ε) (es : List ε) :
    M.trace s (e :: es) = M.entry s e :: M.trace (M.next s e) es := rfl

theorem run_append (s : σ) (es fs : List ε) : M.run s (es ++ fs) = M.run (M.run s es) fs := by
  induction es generalizing s with
  | nil => rfl
  | cons _ _ ih => simp only [cons_append, run_cons, ih]

theorem trace_append (s : σ) (es fs : List ε) :
    M.trace s (es ++ fs) = M.trace s es ++ M.trace (M.run s es) fs := by
  induction es generalizing s with
  | nil => rfl
  | cons _ _ ih => simp only [cons_append, trace_cons, run_cons, ih]

variable {es : List ε} {s : σ}

/-- A trace that is cut at an entry comes from a run that is cut there. -/
theorem trace_eq_append_cons {M : Machine σ ε ρ} {xs ys : List (Entry σ ε ρ)}
    {x : Entry σ ε ρ} (h : M.trace s es = xs ++ x :: ys) :
    ∃ es₁ e es₂, es = es₁ ++ e :: es₂ ∧ xs = M.trace s es₁ ∧ x = M.entry (M.run s es₁) e
      ∧ ys = M.trace x.post es₂ := by
  induction xs generalizing s es with
  | nil =>
    cases es with
    | nil => simp at h
    | cons e es =>
      obtain ⟨rfl, rfl⟩ := h
      exact ⟨[], e, es, rfl, rfl, rfl, rfl⟩
  | cons _ _ ih =>
    cases es with
    | nil => simp at h
    | cons e =>
      rw [trace_cons, cons_append, List.cons.injEq] at h
      obtain ⟨rfl, h⟩ := h
      obtain ⟨es₁, e', es₂, rfl, rfl, rfl, hys⟩ := ih h
      exact ⟨e :: es₁, e', es₂, rfl, rfl, rfl, hys⟩

/-- The calls of a trace are those it was made of. -/
theorem map_call_trace (s : σ) (es : List ε) : (M.trace s es).map Entry.call = es := by
  induction es generalizing s with
  | nil => rfl
  | cons _ _ ih => rw [trace_cons, map_cons, ih, entry]

theorem call_mem_of_mem_trace {M : Machine σ ε ρ} {x : Entry σ ε ρ}
    (h : x ∈ M.trace s es) : x.call ∈ es := by
  rw [← M.map_call_trace s es]
  exact mem_map_of_mem h

variable {P : σ → Prop}

/-- An invariant of every step holds after every run. -/
theorem run_induction (hstep : ∀ s e, P s → P (M.next s e)) (hs : P s)
    (es : List ε) : P (M.run s es) := by
  induction es generalizing s with
  | nil => exact hs
  | cons e _ ih => exact ih (hstep s e hs)

variable {C : σ → ε → Prop}

/-- A relation between the state and what has happened so far, kept by every step that meets a
    condition, holds after every run whose steps meet it. -/
theorem history_induction {P : σ → List (Entry σ ε ρ) → Prop}
    (hstep : ∀ s past e, C s e → P s past → P (M.next s e) (past ++ [M.entry s e]))
    (hs : P s []) (hC : ∀ x ∈ M.trace s es, C x.pre x.call) :
    P (M.run s es) (M.trace s es) := by
  suffices h : ∀ past, P s past → P (M.run s es) (past ++ M.trace s es) from h [] hs
  clear hs
  induction es generalizing s with
  | nil =>
    intro past hpast
    simpa using hpast
  | cons e _ ih =>
    intro past hpast
    have hrest := ih (fun x hx => hC x (mem_cons_of_mem _ hx)) (past ++ [M.entry s e])
      (hstep s past e (hC _ mem_cons_self) hpast)
    simpa using hrest

/-- An invariant of every step under a condition holds after every run whose steps meet it. -/
theorem run_induction_of_trace (hstep : ∀ s e, C s e → P s → P (M.next s e)) (hs : P s)
    (hC : ∀ x ∈ M.trace s es, C x.pre x.call) : P (M.run s es) :=
  M.history_induction (P := fun s _ => P s) (fun s _ e => hstep s e) hs hC

/-- What a step that meets a condition establishes in every state of an invariant holds of every
    entry of a trace whose steps meet it. -/
theorem trace_forall_of_trace {Q : Entry σ ε ρ → Prop}
    (hstep : ∀ s e, C s e → P s → P (M.next s e)) (hentry : ∀ s e, C s e → P s → Q (M.entry s e))
    (hs : P s) (hC : ∀ x ∈ M.trace s es, C x.pre x.call) :
    ∀ x ∈ M.trace s es, Q x := by
  refine (M.history_induction (P := fun s past => P s ∧ ∀ x ∈ past, Q x) ?_ ⟨hs, by simp⟩ hC).2
  rintro s past e hmeets ⟨hs, hpast⟩
  refine ⟨hstep s e hmeets hs, forall_mem_append.2 ⟨hpast, ?_⟩⟩
  exact forall_mem_singleton.2 (hentry s e hmeets hs)

/-- What one step establishes in every state of an invariant holds of every entry of a trace. -/
theorem trace_forall {Q : Entry σ ε ρ → Prop} (hstep : ∀ s e, P s → P (M.next s e))
    (hentry : ∀ s e, P s → Q (M.entry s e)) (hs : P s) (es : List ε) :
    ∀ x ∈ M.trace s es, Q x :=
  M.trace_forall_of_trace (C := fun _ _ => True) (fun s e _ => hstep s e)
    (fun s e _ => hentry s e) hs fun _ _ => trivial

/-- A fact that persists from the state after one entry is seen by every later entry: `J x` is what
    entry `x` leaves behind, and `R x y` is what it implies for an entry `y` taken later. -/
theorem trace_pairwise {J : Entry σ ε ρ → σ → Prop}
    {R : Entry σ ε ρ → Entry σ ε ρ → Prop} (hstep : ∀ s e, P s → P (M.next s e))
    (hleave : ∀ s e, P s → J (M.entry s e) (M.next s e))
    (hkeep : ∀ x s e, P s → J x s → J x (M.next s e))
    (hsee : ∀ x s e, P s → J x s → R x (M.entry s e)) (hs : P s) (es : List ε) :
    (M.trace s es).Pairwise R := by
  induction es generalizing s with
  | nil => exact List.Pairwise.nil
  | cons e es ih =>
    rw [trace_cons, pairwise_cons]
    refine ⟨?_, ih (hstep s e hs)⟩
    -- `J` of this entry is an invariant of the rest of the run, on top of `P`.
    refine M.trace_forall (P := fun t => P t ∧ J (M.entry s e) t) ?_ ?_
      ⟨hstep s e hs, hleave s e hs⟩ es
    · intro t f ht
      exact ⟨hstep t f ht.1, hkeep _ t f ht.1 ht.2⟩
    · intro t f ht
      exact hsee _ t f ht.1 ht.2

end Machine

/-- If no two elements of a list, one before the other, both satisfy a condition, at most one
    does: with `Machine.trace_pairwise`, what an entry excludes for all later ones happens at most
    once in a run. -/
theorem countP_le_one_of_pairwise {α : Type} {p : α → Bool} {xs : List α}
    (h : xs.Pairwise fun x y => p x = true → p y = false) : xs.countP p ≤ 1 := by
  induction xs with
  | nil => simp
  | cons x xs ih =>
    rw [pairwise_cons] at h
    rw [countP_cons]
    split
    · next hx =>
      have hrest : xs.countP p = 0 := by
        rw [countP_eq_zero]
        intro y hy
        simp [h.1 y hy hx]
      omega
    · have := ih h.2
      omega

end HnbCloud
