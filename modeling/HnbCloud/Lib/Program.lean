set_option autoImplicit false

/-! # Programs that call a shared service

A program performs operations of type `ι` one after the other, each with an answer of the type
`ρ` gives it, and ends with a result. What an operation does to the state it shares with others,
and what it answers, is the business of a `Service`; `ν` is what the service leaves to chance.

Between two operations the state may change in any way the relation `R` allows. `Ensures` is the
weakest condition under which a program ends, whatever happens in between, only in states with the
postcondition, and `Respects` the one under which it performs every operation in a state where the
operation is permitted. Both are stable under `R`: they survive the steps of others, so a pool of
programs is verified one program at a time. `Follows` is the same for what has happened so far: it
relates what is left of a program to the history of all of them. `Obeys` says of a program alone, for
whatever answers, that it keeps to a protocol: its phases stand for the program in an invariant of
the state it shares. -/

namespace HnbCloud

open List

/-- A program over the operations `ι`. -/
inductive Program (ι : Type) (ρ : ι → Type) (α : Type) where
  | done (result : α)
  | call (op : ι) (next : ρ op → Program ι ρ α)

/-- What the operations do to the shared state, and what they answer. -/
structure Service (σ ι : Type) (ρ : ι → Type) (ν : Type) where
  perform : σ → (op : ι) → ν → σ × ρ op

namespace Program

variable {σ ι ν α : Type} {ρ : ι → Type}

/-! ## The calls of a program -/

/-- With some answers, the program performs this operation. -/
inductive Calls : Program ι ρ α → ι → Prop where
  | here (op : ι) (next : ρ op → Program ι ρ α) : Calls (.call op next) op
  | later {op op' : ι} {next : ρ op → Program ι ρ α} (answer : ρ op) (h : Calls (next answer) op') :
      Calls (.call op next) op'

variable {op : ι} {next : ρ op → Program ι ρ α}

@[simp] theorem calls_done (a : α) (op : ι) : ¬ Calls (.done a : Program ι ρ α) op := by
  intro h
  cases h

@[simp] theorem calls_call (op op' : ι) (next : ρ op → Program ι ρ α) :
    Calls (.call op next) op' ↔ op' = op ∨ ∃ answer, Calls (next answer) op' := by
  constructor
  · intro h
    cases h with
    | here => exact .inl rfl
    | later answer h => exact .inr ⟨answer, h⟩
  · rintro (rfl | ⟨answer, h⟩)
    · exact .here _ _
    · exact .later answer h

/-- As long as the answers are of the kind that is expected, the program performs only operations that
    are permitted. -/
def Within (permits : ι → Prop) (answers : (op : ι) → ρ op → Prop) : Program ι ρ α → Prop
  | .done _ => True
  | .call op next => permits op ∧ ∀ answer, answers op answer → Within permits answers (next answer)

variable {p : Program ι ρ α}

theorem Within.of_calls {P : ι → Prop} (h : p.Within P fun _ _ => True) (hcalls : p.Calls op) :
    P op := by
  induction hcalls with
  | here => exact h.1
  | later answer _ ih => exact ih (h.2 answer trivial)

theorem Within.imp {P Q : ι → Prop} {A : (op : ι) → ρ op → Prop} (h : p.Within P A)
    (himp : ∀ op, P op → Q op) : p.Within Q A := by
  induction p with
  | done => trivial
  | call op next ih => exact ⟨himp op h.1, fun answer hanswer => ih answer (h.2 answer hanswer)⟩

/-- With some answers, the program ends with this result. -/
inductive Ends : Program ι ρ α → α → Prop where
  | here (a : α) : Ends (.done a) a
  | later {op : ι} {a : α} {next : ρ op → Program ι ρ α} (answer : ρ op) (h : Ends (next answer) a) :
      Ends (.call op next) a

@[simp] theorem ends_done (a b : α) : Ends (.done a : Program ι ρ α) b ↔ b = a := by
  constructor
  · intro h
    cases h
    rfl
  · rintro rfl
    exact .here _

theorem Ends.of_call {a : α} (h : Ends (.call op next) a) : ∃ answer, Ends (next answer) a := by
  cases h with
  | later answer h => exact ⟨answer, h⟩

/-! ## Programs as parts of others -/

/-- The program as a part of another one: `perform` makes its operations there, and `next` goes on with
    its result. -/
def expand {ι' β : Type} {ρ' : ι' → Type}
    (perform : (op : ι) → (ρ op → Program ι' ρ' β) → Program ι' ρ' β)
    (next : α → Program ι' ρ' β) : Program ι ρ α → Program ι' ρ' β
  | .done a => next a
  | .call op rest => perform op fun answer => expand perform next (rest answer)

/-! ## Running a program alone -/

/-- The state and the result a program ends with when nothing else happens; `choice` is what chance
    decides for the call with this number. -/
def run (S : Service σ ι ρ ν) (choice : Nat → ν) : Program ι ρ α → Nat → σ → σ × α
  | .done a, _, s => (s, a)
  | .call op next, i, s =>
    run S choice (next (S.perform s op (choice i)).2) (i + 1) (S.perform s op (choice i)).1

@[simp] theorem run_done (S : Service σ ι ρ ν) (choice : Nat → ν) (a : α) (i : Nat) (s : σ) :
    run S choice (.done a) i s = (s, a) := rfl

theorem run_call (S : Service σ ι ρ ν) (choice : Nat → ν) (op : ι) (next : ρ op → Program ι ρ α)
    (i : Nat) (s : σ) : run S choice (.call op next) i s
      = run S choice (next (S.perform s op (choice i)).2) (i + 1) (S.perform s op (choice i)).1 :=
  rfl

variable {s s' : σ}

/-- What every permitted operation keeps, the program keeps. -/
theorem Within.run {permits : ι → Prop} {S : Service σ ι ρ ν} {I : σ → Prop}
    (h : p.Within permits fun _ _ => True)
    (hkeeps : ∀ s op n, permits op → I s → I (S.perform s op n).1) (choice : Nat → ν) (i : Nat)
    (hs : I s) : I (p.run S choice i s).1 := by
  induction p generalizing i s with
  | done => exact hs
  | call op _ ih => exact ih _ (h.2 _ trivial) (i + 1) (hkeeps s op (choice i) h.1 hs)

/-- If chance always decides in the same way, the numbers of the calls do not matter. -/
theorem run_const (S : Service σ ι ρ ν) (n : ν) (p : Program ι ρ α) (i j : Nat) (s : σ) :
    run S (fun _ => n) p i s = run S (fun _ => n) p j s := by
  induction p generalizing i j s with
  | done => rfl
  | call _ _ ih => exact ih _ (i + 1) (j + 1) _

/-! ## Programs among others -/

/-- Whatever the service answers and the others do, the program ends only where `Q` holds, and `Q`
    then stays. -/
def Ensures (S : Service σ ι ρ ν) (R : σ → σ → Prop) (Q : α → σ → Prop) : Program ι ρ α → σ → Prop
  | .done a, s => ∀ s', R s s' → Q a s'
  | .call op next, s => ∀ s', R s s' → ∀ n,
      Ensures S R Q (next (S.perform s' op n).2) (S.perform s' op n).1

variable {S : Service σ ι ρ ν} {R : σ → σ → Prop} {Q : α → σ → Prop}

/-- The steps of others keep the condition. -/
theorem Ensures.stable (htrans : ∀ {a b c}, R a b → R b c → R a c) (h : Ensures S R Q p s)
    (hs : R s s') : Ensures S R Q p s' := by
  cases p with
  | done => exact fun t ht => h t (htrans hs ht)
  | call => exact fun t ht n => h t (htrans hs ht) n

/-- The next operation of the program keeps it. -/
theorem Ensures.perform (hrefl : ∀ s, R s s) (h : Ensures S R Q (.call op next) s) (n : ν) :
    Ensures S R Q (next (S.perform s op n).2) (S.perform s op n).1 :=
  h s (hrefl s) n

/-- The rule for a call: the rest is verified for every answer. -/
theorem ensures_call (h : ∀ s', R s s' → ∀ n answer, (S.perform s' op n).2 = answer →
      Ensures S R Q (next answer) (S.perform s' op n).1) :
    Ensures S R Q (.call op next) s :=
  fun s' hs n => h s' hs n _ rfl

/-- A program that has ended with a stable postcondition. -/
theorem ensures_done {a : α} (hstable : ∀ {s s'}, R s s' → Q a s → Q a s') (h : Q a s) :
    Ensures S R Q (.done a) s :=
  fun _ hs => hstable hs h

theorem Ensures.of_done (hrefl : ∀ s, R s s) {a : α} (h : Ensures S R Q (.done a) s) : Q a s :=
  h s (hrefl s)

/-- A program that is run alone ends with the postcondition. -/
theorem Ensures.run (h : Ensures S Eq Q p s) (choice : Nat → ν) (i : Nat) :
    Q (p.run S choice i s).2 (p.run S choice i s).1 := by
  induction p generalizing s i with
  | done => exact h s rfl
  | call _ _ ih => exact ih _ (h s rfl (choice i)) (i + 1)

/-! ## Postconditions under a condition -/

/-- `Ensures`, as long as the operations of the program meet `C`: it is about the state in which an
    operation is performed, and about what is left to chance. -/
def EnsuresUnder (S : Service σ ι ρ ν) (C : σ → ι → ν → Prop) (R : σ → σ → Prop)
    (Q : α → σ → Prop) : Program ι ρ α → σ → Prop
  | .done a, s => ∀ s', R s s' → Q a s'
  | .call op next, s => ∀ s', R s s' → ∀ n, C s' op n →
      EnsuresUnder S C R Q (next (S.perform s' op n).2) (S.perform s' op n).1

section EnsuresUnder

variable {C : σ → ι → ν → Prop}

theorem EnsuresUnder.stable (htrans : ∀ {a b c}, R a b → R b c → R a c)
    (h : EnsuresUnder S C R Q p s) (hs : R s s') : EnsuresUnder S C R Q p s' := by
  cases p with
  | done => exact fun t ht => h t (htrans hs ht)
  | call => exact fun t ht n => h t (htrans hs ht) n

/-- The rule for a call: the rest is verified for every answer. -/
theorem ensuresUnder_call (h : ∀ s', R s s' → ∀ n, C s' op n → ∀ answer, (S.perform s' op n).2 = answer →
      EnsuresUnder S C R Q (next answer) (S.perform s' op n).1) :
    EnsuresUnder S C R Q (.call op next) s :=
  fun s' hs n hn => h s' hs n hn _ rfl

end EnsuresUnder

/-! ## Permission to call -/

/-- Whatever the service answers and the others do, the program performs an operation only in a
    state with `P`. -/
def Respects (S : Service σ ι ρ ν) (R : σ → σ → Prop) (P : σ → ι → Prop) : Program ι ρ α → σ → Prop
  | .done _, _ => True
  | .call op next, s => ∀ s', R s s' → P s' op ∧ ∀ n,
      Respects S R P (next (S.perform s' op n).2) (S.perform s' op n).1

section Respects

variable {P : σ → ι → Prop}

/-- The rule for a call. -/
theorem respects_call (h : ∀ s', R s s' → P s' op ∧ ∀ n answer, (S.perform s' op n).2 = answer →
      Respects S R P (next answer) (S.perform s' op n).1) :
    Respects S R P (.call op next) s :=
  fun s' hs => ⟨(h s' hs).1, fun n => (h s' hs).2 n _ rfl⟩

theorem Respects.stable (htrans : ∀ {a b c}, R a b → R b c → R a c) (h : Respects S R P p s)
    (hs : R s s') : Respects S R P p s' := by
  cases p with
  | done => trivial
  | call => exact fun t ht => h t (htrans hs ht)

/-- The next operation is permitted, and the rest of the program respects `P` after it. -/
theorem Respects.perform (hrefl : ∀ s, R s s) (h : Respects S R P (.call op next) s) :
    P s op ∧ ∀ n, Respects S R P (next (S.perform s op n).2) (S.perform s op n).1 :=
  h s (hrefl s)

end Respects

/-! ## Programs with a history -/

section History

variable {η : Type}

/-- However the history goes on, `Q` holds of it and of what is left of the program.
    `performed e op answer` says that by the entry `e` the program has performed `op`, with this
    answer. -/
def Follows (performed : η → (op : ι) → ρ op → Prop) (Q : List η → Program ι ρ α → Prop) :
    Program ι ρ α → List η → Prop
  | .done a, past => ∀ past', past <+: past' → Q past' (.done a)
  | .call op next, past => ∀ past', past <+: past' → Q past' (.call op next)
      ∧ ∀ e answer, performed e op answer → Follows performed Q (next answer) (past' ++ [e])

variable {performed : η → (op : ι) → ρ op → Prop} {Q : List η → Program ι ρ α → Prop}
  {p : Program ι ρ α} {past past' : List η}

theorem Follows.now (h : Follows performed Q p past) : Q past p := by
  cases p with
  | done => exact h past prefix_rfl
  | call => exact (h past prefix_rfl).1

/-- The steps of others keep it. -/
theorem Follows.longer (h : Follows performed Q p past) (hpast : past <+: past') :
    Follows performed Q p past' := by
  cases p <;> exact fun later hlater => h later (hpast.trans hlater)

/-- The next operation of the program keeps it. -/
theorem Follows.perform (h : Follows performed Q (.call op next) past) {e : η}
    {answer : ρ op} (hperformed : performed e op answer) :
    Follows performed Q (next answer) (past ++ [e]) :=
  (h past prefix_rfl).2 e answer hperformed

/-- A program that never performs an operation about which `Q` says something. -/
theorem follows_of_calls {C : ι → Prop} (hdone : ∀ past a, Q past (.done a))
    (hcall : ∀ past op next, C op → Q past (.call op next)) (h : ∀ op, p.Calls op → C op)
    (past : List η) : Follows performed Q p past := by
  induction p generalizing past with
  | done a => exact fun later _ => hdone later a
  | call op next ih =>
    refine fun later _ => ⟨hcall later op next (h op (.here op next)), fun e answer _ => ?_⟩
    exact ih answer (fun op' hop' => h op' (.later answer hop')) _

end History

/-! ## Programs that keep to a protocol -/

/-- A protocol: what a program may call in a phase, and the phase that an answer leads to. -/
structure Protocol (φ ι : Type) (ρ : ι → Type) where
  allows : φ → ι → Prop
  after : φ → (op : ι) → ρ op → φ

section Obeys

variable {φ : Type} (P : Protocol φ ι ρ) (Q : α → φ → Prop)

/-- Whatever is answered, the program calls only what its phase allows, and it ends with `Q`. -/
def Obeys : Program ι ρ α → φ → Prop
  | .done a, phase => Q a phase
  | .call op next, phase =>
    P.allows phase op ∧ ∀ answer, Obeys (next answer) (P.after phase op answer)

variable {P Q} {phase : φ}

/-- The rule for a call: the rest is verified for every answer, in the phase the answer leads to. -/
theorem obeys_call (hop : P.allows phase op)
    (h : ∀ answer, Obeys P Q (next answer) (P.after phase op answer)) :
    Obeys P Q (.call op next) phase :=
  ⟨hop, h⟩

/-- The rule for a part of a program: the phases of the part are phases of the whole, and where it
    ends, the rest goes on. -/
theorem obeys_expand {ι' β ψ : Type} {ρ' : ι' → Type} {P' : Protocol ψ ι' ρ'} {Q' : β → ψ → Prop}
    {perform : (op : ι) → (ρ op → Program ι' ρ' β) → Program ι' ρ' β} {next : α → Program ι' ρ' β}
    (lift : φ → ψ) (hperform : ∀ phase op rest, P.allows phase op →
      (∀ answer, Obeys P' Q' (rest answer) (lift (P.after phase op answer))) →
      Obeys P' Q' (perform op rest) (lift phase))
    (hnext : ∀ a phase, Q a phase → Obeys P' Q' (next a) (lift phase)) (h : Obeys P Q p phase) :
    Obeys P' Q' (p.expand perform next) (lift phase) := by
  induction p generalizing phase with
  | done a => exact hnext a phase h
  | call op _ ih => exact hperform phase op _ h.1 fun answer => ih answer (h.2 answer)

/-- A program that is run alone ends with `Q`. -/
theorem Obeys.run (h : Obeys P Q p phase) (S : Service σ ι ρ ν)
    (choice : Nat → ν) (i : Nat) (s : σ) : ∃ phase', Q (p.run S choice i s).2 phase' := by
  induction p generalizing phase i s with
  | done => exact ⟨phase, h⟩
  | call _ _ ih => exact ih _ (h.2 _) (i + 1) _

end Obeys

end Program

/-! ## Pools of programs

A pool is a list: a program that begins is added to its end, and a program that goes on changes its
place in it. -/

theorem getElem?_append_cases {α : Type} {xs : List α} {x a : α} {j : Nat}
    (h : (xs ++ [x])[j]? = some a) :
    (j ≠ xs.length ∧ xs[j]? = some a) ∨ (j = xs.length ∧ a = x) := by
  rw [List.getElem?_append] at h
  split at h
  · next hlt => exact .inl ⟨by omega, h⟩
  next hge =>
  have hj := (List.getElem?_eq_some_iff.1 h).1
  rw [length_singleton] at hj
  have hzero : j - xs.length = 0 := by omega
  rw [hzero] at h
  exact .inr ⟨by omega, (Option.some.inj h).symm⟩

theorem getElem?_set_cases {α : Type} {xs : List α} {x a : α} {i j : Nat}
    (h : (xs.set i x)[j]? = some a) : (j ≠ i ∧ xs[j]? = some a) ∨ (j = i ∧ a = x) := by
  rw [List.getElem?_set] at h
  split at h
  · next hij =>
    split at h
    · exact .inr ⟨hij.symm, (Option.some.inj h).symm⟩
    · simp at h
  · next hij => exact .inl ⟨Ne.symm hij, h⟩

end HnbCloud
