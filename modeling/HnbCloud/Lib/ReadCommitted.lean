import HnbCloud.Lib.Machine
import HnbCloud.Lib.Program

set_option autoImplicit false

/-! # Transactions under READ COMMITTED

Sessions run transactions against one database, a statement at a time. A statement sees what is
committed when it starts, with the writes of its own transaction applied to it; the writes of others
become visible with their commit, all at once, and those of a transaction that rolls back or crashes
never. A statement that needs a key (of a unique index, or of a row) which another open transaction
holds does not go on until that transaction has ended.

The writes of a transaction are a partial function. Where the locks of an actual database keep it
defined, a commit goes through; where it is not defined the transaction is lost, which is one of the
crashes a session has to reckon with anyway.

`Safe` verifies one session among others: `R held` is what the others may do to the committed state
while the session holds these keys, a commit has to be such a step for every session that can be
open beside it, and the answer has to satisfy `A`. `sessions_run` puts the sessions together. -/

namespace HnbCloud

open List

/-- How a transaction ends. -/
inductive Verdict (α : Type) where
  | commit (a : α)
  | rollback (a : α)

/-- What a statement does: its answer, its writes and the keys it keeps until the end. -/
structure Executed (σ κ ρ : Type) where
  answer : ρ
  writes : σ → Option σ
  kept : List κ

/-- The statements of a database: the keys they need, and what they do given what they see. -/
structure Database (σ κ ι : Type) (ρ : ι → Type) where
  waits : ι → List κ
  exec : σ → (stmt : ι) → Executed σ κ (ρ stmt)
  kept_subset : ∀ s stmt, (exec s stmt).kept ⊆ waits stmt

namespace ReadCommitted

/-- An open transaction: what it still has to do, what it has written and the keys it holds. -/
structure Session (σ κ ι : Type) (ρ : ι → Type) (α : Type) where
  rest : Program ι ρ (Verdict α)
  writes : σ → Option σ
  held : List κ

/-- What has become of a call. -/
inductive Progress (σ κ ι : Type) (ρ : ι → Type) (α γ : Type) where
  | running (call : γ) (session : Session σ κ ι ρ α)
  | answered (call : γ) (a : α)
  | lost (call : γ)

/-- The committed state, and every call so far. -/
structure State (σ κ ι : Type) (ρ : ι → Type) (α γ : Type) where
  committed : σ
  calls : List (Progress σ κ ι ρ α γ)

open State

/-- Who acts next. -/
inductive Turn (γ ε : Type) where
  | start (call : γ)
  | advance (i : Nat)
  | crash (i : Nat)
  /-- Something that is not one of the calls changes the committed state. -/
  | outside (e : ε)

variable {σ κ ι α γ ε : Type} {ρ : ι → Type}

section Semantics

variable [DecidableEq κ]

def Progress.holds (keys : List κ) : Progress σ κ ι ρ α γ → Bool
  | running _ session => session.held.any fun k => decide (k ∈ keys)
  | _ => false

/-- Another call than this one holds one of the keys. -/
def State.blocked (s : State σ κ ι ρ α γ) (i : Nat) (keys : List κ) : Bool :=
  s.calls.zipIdx.any fun x => decide (x.2 ≠ i) && x.1.holds keys

/-- The session after a statement. -/
def Session.executed (D : Database σ κ ι ρ) (session : Session σ κ ι ρ α) (stmt : ι)
    (next : ρ stmt → Program ι ρ (Verdict α)) (view : σ) : Session σ κ ι ρ α where
  rest := next (D.exec view stmt).answer
  writes := fun s => (session.writes s).bind (D.exec view stmt).writes
  held := session.held ++ (D.exec view stmt).kept

/-- One step of a call: its next statement, or its end. -/
def State.advance (D : Database σ κ ι ρ) (s : State σ κ ι ρ α γ) (i : Nat) : State σ κ ι ρ α γ :=
  match s.calls[i]? with
  | some (.running call session) =>
    match session.rest with
    | .done (.rollback a) => { s with calls := s.calls.set i (.answered call a) }
    | .done (.commit a) =>
      match session.writes s.committed with
      | none => { s with calls := s.calls.set i (.lost call) }
      | some committed =>
        { committed := committed, calls := s.calls.set i (.answered call a) }
    | .call stmt next =>
      if s.blocked i (D.waits stmt) then s else
      match session.writes s.committed with
      | none => { s with calls := s.calls.set i (.lost call) }
      | some view =>
        { s with calls := s.calls.set i (.running call (session.executed D stmt next view)) }
  | _ => s

/-- The sessions of the calls, over one database. -/
def sessions (D : Database σ κ ι ρ) (program : γ → Program ι ρ (Verdict α))
    (outside : σ → ε → σ) : Machine (State σ κ ι ρ α γ) (Turn γ ε) Unit where
  step s turn :=
    match turn with
    | .start call => ({ s with calls := s.calls ++ [.running call ⟨program call, some, []⟩] }, ())
    | .advance i => (s.advance D i, ())
    | .crash i =>
      match s.calls[i]? with
      | some (.running call _) => ({ s with calls := s.calls.set i (.lost call) }, ())
      | _ => (s, ())
    | .outside e => ({ s with committed := outside s.committed e }, ())

variable (D : Database σ κ ι ρ) (program : γ → Program ι ρ (Verdict α)) (outside : σ → ε → σ)
  (s : State σ κ ι ρ α γ)

/-- What a turn does: a call starts, ends without a trace, commits or executes a statement. -/
inductive Effect : Turn γ ε → State σ κ ι ρ α γ → Prop where
  | none (turn : Turn γ ε) : Effect turn s
  | started (call : γ) : Effect (.start call)
      { s with calls := s.calls ++ [.running call ⟨program call, some, []⟩] }
  | ended (turn : Turn γ ε) (i : Nat) (p : Progress σ κ ι ρ α γ)
      (idle : ∀ call session, p ≠ .running call session)
      (rolledBack : ∀ call a, p = .answered call a → ∃ session,
        s.calls[i]? = some (.running call session) ∧ session.rest = .done (.rollback a)) :
      Effect turn { s with calls := s.calls.set i p }
  | committed (i : Nat) (call : γ) (session : Session σ κ ι ρ α) (a : α) (committed : σ)
      (open_ : s.calls[i]? = some (.running call session))
      (rest : session.rest = .done (.commit a))
      (writes : session.writes s.committed = some committed) :
      Effect (.advance i) { committed := committed, calls := s.calls.set i (.answered call a) }
  | executed (i : Nat) (call : γ) (session : Session σ κ ι ρ α) (stmt : ι)
      (next : ρ stmt → Program ι ρ (Verdict α)) (view : σ)
      (open_ : s.calls[i]? = some (.running call session)) (rest : session.rest = .call stmt next)
      (free : s.blocked i (D.waits stmt) = false)
      (writes : session.writes s.committed = some view) :
      Effect (.advance i)
        { s with calls := s.calls.set i (.running call (session.executed D stmt next view)) }
  | outside (e : ε) : Effect (.outside e) { s with committed := outside s.committed e }

theorem effect_next (turn : Turn γ ε) :
    Effect D program outside s turn ((sessions D program outside).next s turn) := by
  cases turn with
  | start call => exact .started call
  | outside e => exact .outside e
  | crash i =>
    simp only [sessions, Machine.next]
    split
    · exact .ended _ i _ (by simp) (by simp)
    · exact .none _
  | advance i =>
    simp only [sessions, Machine.next, advance]
    split
    · next call session hi =>
      split
      · next a hrest =>
        refine .ended _ i _ (by simp) ?_
        rintro _ _ ⟨⟩
        exact ⟨session, hi, hrest⟩
      · next a hrest =>
        split
        · exact .ended _ i _ (by simp) (by simp)
        · next committed hwrites => exact .committed i call session a committed hi hrest hwrites
      · next stmt next hrest =>
        split
        · exact .none _
        next hfree =>
        split
        · exact .ended _ i _ (by simp) (by simp)
        · next view hview =>
          exact .executed i call session stmt next view hi hrest (by simpa using hfree) hview
    · exact .none _

end Semantics

/-! ## A session alone -/

section Alone

variable [DecidableEq κ] (D : Database σ κ ι ρ)

/-- A transaction that nobody interrupts: the state it leaves and its answer, given what is
    committed and what it sees by now. -/
def serial (committed : σ) : Program ι ρ (Verdict α) → σ → Option (σ × α)
  | .done (.rollback a), _ => some (committed, a)
  | .done (.commit a), view => some (view, a)
  | .call stmt next, view =>
    ((D.exec view stmt).writes view).bind (serial committed (next (D.exec view stmt).answer))

variable (program : γ → Program ι ρ (Verdict α)) (outside : σ → ε → σ)

theorem advance_alone {committed view : σ} {out : σ × α} (call : γ)
    (session : Session σ κ ι ρ α) (hview : session.writes committed = some view)
    (h : serial D committed session.rest view = some out) :
    ∃ n, (sessions D program outside).run ⟨committed, [.running call session]⟩
      (replicate n (.advance 0)) = ⟨out.1, [.answered call out.2]⟩ := by
  obtain ⟨rest, writes, held⟩ := session
  induction rest generalizing writes held view with
  | done verdict =>
    refine ⟨1, ?_⟩
    cases verdict with
    | rollback =>
      simp only [serial, Option.some.injEq] at h
      simp [← h, sessions, Machine.next, advance]
    | commit =>
      simp only [serial, Option.some.injEq] at h
      simp only at hview
      simp [← h, sessions, Machine.next, advance, hview]
  | call stmt next ih =>
    simp only [serial, Option.bind_eq_some_iff] at h
    obtain ⟨view', hview', h⟩ := h
    simp only at hview
    have hwritten : (writes committed).bind (D.exec view stmt).writes = some view' := by
      simp [hview, hview']
    obtain ⟨n, hn⟩ := ih (D.exec view stmt).answer
      (fun s => (writes s).bind (D.exec view stmt).writes) (held ++ (D.exec view stmt).kept)
      hwritten h
    refine ⟨n + 1, ?_⟩
    have hstep : (sessions D program outside).next
        ⟨committed, [.running call ⟨.call stmt next, writes, held⟩]⟩ (.advance 0)
        = ⟨committed, [.running call ⟨next (D.exec view stmt).answer,
          fun s => (writes s).bind (D.exec view stmt).writes,
          held ++ (D.exec view stmt).kept⟩]⟩ := by
      simp [sessions, Machine.next, advance, blocked, hview, Session.executed]
    rw [replicate_succ, Machine.run_cons, hstep, hn]

/-- A call that nobody interrupts does what its transaction does in one go. -/
theorem run_alone {committed : σ} {out : σ × α} (call : γ)
    (h : serial D committed (program call) committed = some out) :
    ∃ n, (sessions D program outside).run ⟨committed, []⟩
      (.start call :: replicate n (.advance 0)) = ⟨out.1, [.answered call out.2]⟩ := by
  obtain ⟨n, hn⟩ := advance_alone D program outside call ⟨program call, some, []⟩ rfl h
  refine ⟨n, ?_⟩
  rw [Machine.run_cons, ← hn]
  simp [sessions, Machine.next]

end Alone

/-! ## One session among others -/

section Safe

variable (D : Database σ κ ι ρ) (R : List κ → σ → σ → Prop) (C : σ → ι → Prop)
  (A : σ → α → Prop)

/-- Whatever the others do, each answer of the session satisfies `A`, and its commit is a step that
    the others reckon with. Statements are taken to meet `C`. -/
def Safe : Program ι ρ (Verdict α) → (σ → Option σ) → List κ → σ → Prop
  | .done (.rollback a), _, held, s => ∀ s', R held s s' → A s' a
  | .done (.commit a), writes, held, s => ∀ s', R held s s' → ∀ s'', writes s' = some s'' →
      (∀ other, List.Disjoint other held → R other s' s'') ∧ A s'' a
  | .call stmt next, writes, held, s => ∀ s', R held s s' → ∀ view, writes s' = some view →
      C view stmt →
      Safe (next (D.exec view stmt).answer) (fun s => (writes s).bind (D.exec view stmt).writes)
        (held ++ (D.exec view stmt).kept) s'

variable {D R C A} {writes : σ → Option σ} {held : List κ} {s s' : σ}

/-- The rule for a statement: the rest is verified for what it answers. -/
theorem safe_call {stmt : ι} {next : ρ stmt → Program ι ρ (Verdict α)}
    (h : ∀ s', R held s s' → ∀ view, writes s' = some view → C view stmt →
      ∀ x, D.exec view stmt = x → Safe D R C A (next x.answer) (fun s => (writes s).bind x.writes)
        (held ++ x.kept) s') :
    Safe D R C A (.call stmt next) writes held s :=
  fun s' hs view hview hC => h s' hs view hview hC _ rfl

/-- The rule for the end of a transaction that has nothing to commit. -/
theorem safe_rollback {a : α} (h : ∀ s', R held s s' → A s' a) :
    Safe D R C A (.done (.rollback a)) writes held s := h

/-- The rule for a commit. -/
theorem safe_commit {a : α} (h : ∀ s', R held s s' → ∀ s'', writes s' = some s'' →
      (∀ other, List.Disjoint other held → R other s' s'') ∧ A s'' a) :
    Safe D R C A (.done (.commit a)) writes held s := h

/-- What the others do keeps a session safe. -/
theorem Safe.stable (htrans : ∀ held a b c, R held a b → R held b c → R held a c)
    {p : Program ι ρ (Verdict α)} (h : Safe D R C A p writes held s) (hs : R held s s') :
    Safe D R C A p writes held s' := by
  match p with
  | .done (.rollback a) => exact fun t ht => h t (htrans held s s' t hs ht)
  | .done (.commit a) => exact fun t ht => h t (htrans held s s' t hs ht)
  | .call stmt next => exact fun t ht => h t (htrans held s s' t hs ht)

end Safe

/-! ## All sessions -/

section Run

variable {D : Database σ κ ι ρ} {program : γ → Program ι ρ (Verdict α)} {outside : σ → ε → σ}
  {R : List κ → σ → σ → Prop} {C : σ → ι → Prop} {I : σ → Prop} {A : γ → σ → α → Prop}

/-- What the rule for sessions needs of `R`, of the invariant and of what answers promise. -/
structure Rely (R : List κ → σ → σ → Prop) (I : σ → Prop) (A : γ → σ → α → Prop) : Prop where
  refl : ∀ held a, R held a a
  trans : ∀ held a b c, R held a b → R held b c → R held a c
  inv : ∀ a b, R [] a b → I a → I b
  answers : ∀ call a b x, R [] a b → A call a x → A call b x

/-- The committed state has its invariant, no two open transactions share a key, every session is
    safe and every answer holds. -/
structure Sound (D : Database σ κ ι ρ) (R : List κ → σ → σ → Prop) (C : σ → ι → Prop) (I : σ → Prop)
    (A : γ → σ → α → Prop) (s : State σ κ ι ρ α γ) : Prop where
  committed : I s.committed
  disjoint : ∀ (i j : Nat) call call' session session', i ≠ j →
    s.calls[i]? = some (.running call session) → s.calls[j]? = some (.running call' session') →
    List.Disjoint session.held session'.held
  safe : ∀ (i : Nat) call session, s.calls[i]? = some (.running call session) →
    Safe D R C (A call) session.rest session.writes session.held s.committed
  answered : ∀ (i : Nat) call a, s.calls[i]? = some (.answered call a) → A call s.committed a

variable {s : State σ κ ι ρ α γ} {i : Nat} {p : Progress σ κ ι ρ α γ} {call : γ}
  {session : Session σ κ ι ρ α} {committed : σ}

/-- The call at `i` has become `p`, and the committed state is as before. -/
theorem Sound.set (h : Sound D R C I A s) {calls : List (Progress σ κ ι ρ α γ)}
    (hcalls : ∀ {j : Nat} {q}, calls[j]? = some q → (j ≠ i ∧ s.calls[j]? = some q) ∨ (j = i ∧ q = p))
    (hopen : ∀ call session, p = .running call session →
      Safe D R C (A call) session.rest session.writes session.held s.committed
      ∧ ∀ (j : Nat) call' session', j ≠ i → s.calls[j]? = some (.running call' session') →
        List.Disjoint session.held session'.held)
    (hanswer : ∀ call a, p = .answered call a → A call s.committed a) :
    Sound D R C I A { s with calls := calls } where
  committed := h.committed
  disjoint := by
    intro j k call call' session session' hjk hj hk
    rcases hcalls hj with ⟨hji, hj⟩ | ⟨rfl, hq⟩
    · rcases hcalls hk with ⟨-, hk⟩ | ⟨rfl, hq⟩
      · exact h.disjoint j k call call' session session' hjk hj hk
      · exact disjoint_symm ((hopen call' session' hq.symm).2 j call session hji hj)
    · rcases hcalls hk with ⟨hkj, hk⟩ | ⟨rfl, -⟩
      · exact (hopen call session hq.symm).2 k call' session' hkj hk
      · exact absurd rfl hjk
  safe := by
    intro j call session hj
    rcases hcalls hj with ⟨-, hj⟩ | ⟨-, hq⟩
    · exact h.safe j call session hj
    · exact (hopen call session hq.symm).1
  answered := by
    intro j call a hj
    rcases hcalls hj with ⟨-, hj⟩ | ⟨-, hq⟩
    · exact h.answered j call a hj
    · exact hanswer call a hq.symm

theorem Sound.ended (h : Sound D R C I A s) (hp : ∀ call session, p ≠ .running call session)
    (hanswer : ∀ call a, p = .answered call a → A call s.committed a) :
    Sound D R C I A { s with calls := s.calls.set i p } :=
  h.set getElem?_set_cases (fun call session hq => absurd hq (hp call session)) hanswer

/-- The committed state has made a step that every open session reckons with. -/
theorem Sound.moved (h : Sound D R C I A s) (hrely : Rely R I A) (hnone : R [] s.committed committed)
    (hmoved : ∀ (i : Nat) call session, s.calls[i]? = some (.running call session) →
      R session.held s.committed committed) :
    Sound D R C I A { s with committed := committed } where
  committed := hrely.inv _ _ hnone h.committed
  disjoint := h.disjoint
  safe := fun i call session hi =>
    (h.safe i call session hi).stable hrely.trans (hmoved i call session hi)
  answered := fun i call a hi => hrely.answers call _ _ a hnone (h.answered i call a hi)

theorem Sound.commits (h : Sound D R C I A s) (hrely : Rely R I A) {a : α}
    (hi : s.calls[i]? = some (.running call session)) (hrest : session.rest = .done (.commit a))
    (hwrites : session.writes s.committed = some committed) :
    Sound D R C I A { committed := committed, calls := s.calls.set i (.answered call a) } := by
  have hsafe := h.safe i call session hi
  rw [hrest] at hsafe
  obtain ⟨hothers, hanswer⟩ := hsafe s.committed (hrely.refl _ _) committed hwrites
  -- The call ends first: what is left are the others, and they share no key with it.
  have hended : Sound D R C I A { s with calls := s.calls.set i (.lost call) } :=
    h.ended (by simp) (by simp)
  have hmoved : Sound D R C I A { committed := committed, calls := s.calls.set i (.lost call) } := by
    refine hended.moved hrely (hothers [] (disjoint_nil_left _)) ?_
    intro j call' session' hj
    rcases getElem?_set_cases hj with ⟨hji, hj⟩ | ⟨-, hq⟩
    · exact hothers _ (h.disjoint j i call' call session' session hji hj hi)
    · simp at hq
  have hset := hmoved.ended (i := i) (p := .answered call a) (by simp) (by
    rintro call' a' ⟨⟩
    exact hanswer)
  simpa using hset

section Turns

variable [DecidableEq κ]

/-- The statement that a step of this call executes, with what it sees. -/
def State.executing (D : Database σ κ ι ρ) (s : State σ κ ι ρ α γ) (i : Nat) : Option (σ × ι) :=
  match s.calls[i]? with
  | some (.running _ session) =>
    match session.rest with
    | .call stmt _ =>
      if s.blocked i (D.waits stmt) then none
      else (session.writes s.committed).map fun view => (view, stmt)
    | .done _ => none
  | _ => none

/-- The statement that this turn executes, if any, meets the condition. -/
def Meets (D : Database σ κ ι ρ) (C : σ → ι → Prop) (s : State σ κ ι ρ α γ)
    (turn : Turn γ ε) : Prop :=
  ∀ i, turn = .advance i → ∀ view stmt, s.executing D i = some (view, stmt) → C view stmt

/-- A session that is not blocked shares none of these keys with another open one. -/
theorem State.disjoint_of_not_blocked {j : Nat} {keys : List κ} (h : s.blocked i keys = false)
    (hj : j ≠ i) (hget : s.calls[j]? = some (.running call session)) :
    List.Disjoint keys session.held := by
  intro k hk hheld
  rw [blocked, any_eq_false] at h
  have hmem : (Progress.running call session, j) ∈ s.calls.zipIdx := mem_zipIdx_iff_getElem?.2 hget
  have := h _ hmem
  simp only [hj, ne_eq, not_false_eq_true, decide_true, Bool.true_and, Progress.holds,
    Bool.not_eq_true, any_eq_false, decide_eq_false_iff_not] at this
  exact this k hheld hk

/-- A call has executed its next statement. -/
theorem Sound.executed (h : Sound D R C I A s) (hrely : Rely R I A) {stmt : ι}
    {next : ρ stmt → Program ι ρ (Verdict α)} {view : σ}
    (hi : s.calls[i]? = some (.running call session)) (hrest : session.rest = .call stmt next)
    (hfree : s.blocked i (D.waits stmt) = false) (hview : session.writes s.committed = some view)
    (hC : C view stmt) :
    Sound D R C I A
      { s with calls := s.calls.set i (.running call (session.executed D stmt next view)) } := by
  refine h.set getElem?_set_cases ?_ (by simp)
  rintro _ _ ⟨⟩
  constructor
  · have hsafe := h.safe i call session hi
    rw [hrest] at hsafe
    exact hsafe s.committed (hrely.refl _ _) view hview hC
  -- What the statement has locked was free, the rest is as before.
  intro j call' session' hj hget
  rw [Session.executed, disjoint_append_left]
  refine ⟨h.disjoint i j call call' session session' (Ne.symm hj) hi hget, ?_⟩
  exact disjoint_of_subset_left (D.kept_subset view stmt) (disjoint_of_not_blocked hfree hj hget)

/-- Every turn keeps the state sound. -/
theorem Sound.step (h : Sound D R C I A s) (hrely : Rely R I A)
    (hstart : ∀ call s, I s → Safe D R C (A call) (program call) some [] s)
    (houtside : ∀ s e held, I s → R held s (outside s e)) (turn : Turn γ ε)
    (hC : Meets D C s turn) :
    Sound D R C I A ((sessions D program outside).next s turn) := by
  have heffect := effect_next D program outside s turn
  generalize (sessions D program outside).next s turn = s' at heffect ⊢
  cases heffect with
  | none => exact h
  | started call =>
    refine h.set getElem?_append_cases ?_ (by simp)
    rintro _ _ ⟨⟩
    exact ⟨hstart call s.committed h.committed, fun _ _ _ _ _ => disjoint_nil_left _⟩
  | ended _ i p idle rolledBack =>
    refine h.ended idle fun call a hp => ?_
    obtain ⟨session, hi, hrest⟩ := rolledBack call a hp
    have hsafe := h.safe i call session hi
    rw [hrest] at hsafe
    exact hsafe s.committed (hrely.refl _ _)
  | committed _ _ _ _ _ hi hrest hwrites => exact h.commits hrely hi hrest hwrites
  | executed i _ _ stmt _ view hi hrest hfree hview =>
    refine h.executed hrely hi hrest hfree hview (hC i rfl view stmt ?_)
    simp [executing, hi, hrest, hfree, hview]
  | outside e =>
    exact h.moved hrely (houtside s.committed e [] h.committed)
      fun i call session _ => houtside s.committed e session.held h.committed

/-- **Rule for sessions.** Calls that are each safe among others can be put together: in every
    interleaving, with crashes anywhere, the invariant and every answer given so far hold. -/
theorem sessions_run (hrely : Rely R I A)
    (hstart : ∀ call s, I s → Safe D R C (A call) (program call) some [] s)
    (houtside : ∀ s e held, I s → R held s (outside s e)) {s : σ} (hs : I s)
    {turns : List (Turn γ ε)}
    (hC : ∀ entry ∈ (sessions D program outside).trace ⟨s, []⟩ turns,
      Meets D C entry.pre entry.call) :
    Sound D R C I A ((sessions D program outside).run ⟨s, []⟩ turns) := by
  refine (sessions D program outside).run_induction_of_trace (C := Meets D C)
    (fun s turn hC h => h.step hrely hstart houtside turn hC) ?_ hC
  exact ⟨hs, by simp, by simp, by simp⟩

end Turns

end Run

/-! ## What changes the committed state -/

section Commits

variable [DecidableEq κ] (D : Database σ κ ι ρ) (program : γ → Program ι ρ (Verdict α))
  (outside : σ → ε → σ) {s : State σ κ ι ρ α γ} (turn : Turn γ ε)

/-- Every open transaction has this relation to its call. -/
def Along (Q : γ → Program ι ρ (Verdict α) → (σ → Option σ) → Prop) (s : State σ κ ι ρ α γ) : Prop :=
  ∀ (i : Nat) call session, s.calls[i]? = some (.running call session) →
    Q call session.rest session.writes

/-- A relation that holds at the start of a call and is kept by each of its statements holds of every
    open transaction. -/
theorem along_next {Q : γ → Program ι ρ (Verdict α) → (σ → Option σ) → Prop}
    (hstart : ∀ call, Q call (program call) some)
    (hexec : ∀ call stmt next writes view, Q call (.call stmt next) writes →
      Q call (next (D.exec view stmt).answer) (fun s => (writes s).bind (D.exec view stmt).writes))
    (h : Along Q s) : Along Q ((sessions D program outside).next s turn) := by
  have heffect := effect_next D program outside s turn
  generalize (sessions D program outside).next s turn = s' at heffect ⊢
  intro j call session hj
  cases heffect with
  | none | outside => exact h j call session hj
  | started call =>
    rcases getElem?_append_cases hj with ⟨-, hj⟩ | ⟨-, hq⟩
    · exact h j _ session hj
    · cases hq
      exact hstart call
  | ended _ i p idle =>
    rcases getElem?_set_cases hj with ⟨-, hj⟩ | ⟨-, hq⟩
    · exact h j call session hj
    · exact absurd hq.symm (idle call session)
  | committed =>
    rcases getElem?_set_cases hj with ⟨-, hj⟩ | ⟨-, hq⟩
    · exact h j _ session hj
    · cases hq
  | executed i call session stmt next view hi hrest =>
    rcases getElem?_set_cases hj with ⟨-, hj⟩ | ⟨-, hq⟩
    · exact h j _ _ hj
    · cases hq
      exact hexec call stmt next session.writes view (hrest ▸ h i call session hi)

/-- A turn that changes the committed state comes from outside or is the commit of a call. -/
theorem commits_next (s : State σ κ ι ρ α γ) :
    ((sessions D program outside).next s turn).committed = s.committed
    ∨ (∃ e, turn = .outside e)
    ∨ ∃ (i : Nat) (call : γ) (session : Session σ κ ι ρ α) (a : α), turn = .advance i
      ∧ s.calls[i]? = some (.running call session) ∧ session.rest = .done (.commit a)
      ∧ session.writes s.committed = some ((sessions D program outside).next s turn).committed
      ∧ ((sessions D program outside).next s turn).calls[i]? = some (.answered call a) := by
  have heffect := effect_next D program outside s turn
  generalize (sessions D program outside).next s turn = s' at heffect ⊢
  cases heffect with
  | committed i call session a _ hi hrest hwrites =>
    exact .inr (.inr ⟨i, call, session, a, rfl, hi, hrest, hwrites,
      getElem?_set_self (List.getElem?_eq_some_iff.1 hi).1⟩)
  | outside e => exact .inr (.inl ⟨e, rfl⟩)
  | _ => exact .inl rfl

/-- Every open transaction is on its way through the program of its call. -/
def OnTheWay (s : State σ κ ι ρ α γ) : Prop :=
  ∀ (i : Nat) call session, s.calls[i]? = some (.running call session) →
    ∀ v, session.rest.Ends v → (program call).Ends v

theorem onTheWay_next (h : OnTheWay program s) :
    OnTheWay program ((sessions D program outside).next s turn) := by
  refine along_next (Q := fun call rest _ => ∀ v, rest.Ends v → (program call).Ends v) D program
    outside turn (fun call v hv => hv) ?_ h
  intro call stmt next writes view hrest v hv
  exact hrest v (.later _ hv)

/-- A turn that changes the committed state comes from outside or answers a call with a commit. -/
theorem committed_next (h : OnTheWay program s) :
    ((sessions D program outside).next s turn).committed = s.committed
    ∨ (∃ e, turn = .outside e)
    ∨ ∃ (i : Nat) (call : γ) (a : α), turn = .advance i ∧ (program call).Ends (.commit a)
      ∧ ((sessions D program outside).next s turn).calls[i]? = some (.answered call a) := by
  rcases commits_next D program outside turn s with hsame | houtside |
    ⟨i, call, session, a, hturn, hi, hrest, -, hanswered⟩
  · exact .inl hsame
  · exact .inr (.inl houtside)
  · refine .inr (.inr ⟨i, call, a, hturn, h i call session hi _ ?_, hanswered⟩)
    rw [hrest, Program.ends_done]

end Commits

end ReadCommitted

end HnbCloud
