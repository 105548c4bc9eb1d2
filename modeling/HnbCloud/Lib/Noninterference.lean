import Mathlib.Data.List.Find
import HnbCloud.Lib.Program

set_option autoImplicit false

/-! # Two runs of a shared service

The programs that share a service belong to two sides. The side `true` is observed: what its programs
are answered must not depend on what the other side does. A `Separation` is what the operations of a
service have to meet for that: those of the observed side depend only on what is observed, and those
of the hidden side do not change it. Both may rely on it that every program keeps to its side, which
is a property of the program alone (`Within`).

Two runs are then compared step by step. They begin in states that agree on what is observed, and the
hidden programs of the one are any others in the other run. The states still agree after a step of a
program (`Separation.advance`), and the programs that are observed are the same in both runs. -/

namespace HnbCloud

open List

namespace Program

variable {σ ι ν α : Type} {ρ : ι → Type}

/-- A program that is at work takes its next step; one that has ended stays as it is. -/
def advance (S : Service σ ι ρ ν) (n : ν) (s : σ) : Program ι ρ α → σ × Program ι ρ α
  | .done a => (s, .done a)
  | .call op next => ((S.perform s op n).1, next (S.perform s op n).2)

end Program

/-- How a service keeps the two sides apart. -/
structure Separation {σ ι ν : Type} {ρ : ι → Type} (S : Service σ ι ρ ν) where
  /-- What is stored belongs to one of the sides. -/
  inv : σ → Prop
  /-- Two states agree on what is observed. -/
  same : σ → σ → Prop
  /-- The operations of a side. -/
  permits : Bool → ι → Prop
  /-- The answers a side gets. -/
  answers : Bool → (op : ι) → ρ op → Prop
  /-- What chance decides for a side. -/
  chance : Bool → ν → Prop
  symm : ∀ {s t}, same s t → same t s
  keeps : ∀ {side s op n}, inv s → permits side op → chance side n →
    inv (S.perform s op n).1 ∧ answers side op (S.perform s op n).2
  observed : ∀ {s t op n}, inv s → inv t → same s t → permits true op → chance true n →
    (S.perform s op n).2 = (S.perform t op n).2 ∧ same (S.perform s op n).1 (S.perform t op n).1
  hidden : ∀ {s t op n}, inv s → same s t → permits false op → chance false n →
    same (S.perform s op n).1 t

namespace Separation

variable {σ ι ν α : Type} {ρ : ι → Type} {S : Service σ ι ρ ν} (T : Separation S)

/-- The states of the two runs. -/
structure Agree (s t : σ) : Prop where
  left : T.inv s
  right : T.inv t
  same : T.same s t

/-- A program and what it is in the other run. -/
structure Alike (side : Bool) (p q : Program ι ρ α) : Prop where
  left : p.Within (T.permits side) (T.answers side)
  right : q.Within (T.permits side) (T.answers side)
  observed : side = true → p = q

variable {T} {side : Bool} {p q : Program ι ρ α} {n n' : ν} {s t : σ}

/-- A program keeps to its side. -/
theorem within_advance (hs : T.inv s) (hp : p.Within (T.permits side) (T.answers side))
    (hn : T.chance side n) :
    T.inv (p.advance S n s).1 ∧ (p.advance S n s).2.Within (T.permits side) (T.answers side) := by
  cases p with
  | done => exact ⟨hs, hp⟩
  | call =>
    obtain ⟨hinv, hanswer⟩ := T.keeps hs hp.1 hn
    exact ⟨hinv, hp.2 _ hanswer⟩

/-- A step of a hidden program does not change what is observed. -/
theorem hidden_advance (hs : T.inv s) (hsame : T.same s t)
    (hp : p.Within (T.permits false) (T.answers false)) (hn : T.chance false n) :
    T.same (p.advance S n s).1 t := by
  cases p with
  | done => exact hsame
  | call => exact T.hidden hs hsame hp.1 hn

/-- The two runs take a step of the program and of what it is in the other run. -/
theorem Agree.advance (h : T.Agree s t) (halike : T.Alike side p q) (hn : T.chance side n)
    (hn' : T.chance side n') (hobserved : side = true → n = n') :
    T.Agree (p.advance S n s).1 (q.advance S n' t).1
      ∧ T.Alike side (p.advance S n s).2 (q.advance S n' t).2 := by
  obtain ⟨hleft, hpwithin⟩ := within_advance h.left halike.left hn
  obtain ⟨hright, hqwithin⟩ := within_advance h.right halike.right hn'
  cases side with
  | true =>
    obtain rfl := halike.observed rfl
    obtain rfl := hobserved rfl
    cases p with
    | done => exact ⟨h, halike⟩
    | call _ next =>
      obtain ⟨hanswer, hsame⟩ := T.observed h.left h.right h.same halike.left.1 hn
      refine ⟨⟨hleft, hright, hsame⟩, hpwithin, hqwithin, fun _ => ?_⟩
      exact congrArg next hanswer
  | false =>
    have hsame := hidden_advance h.left h.same halike.left hn
    have hboth := hidden_advance h.right (T.symm hsame) halike.right hn'
    exact ⟨⟨hleft, hright, T.symm hboth⟩, hpwithin, hqwithin, fun hside => by simp at hside⟩

end Separation

/-! ## Pools in two runs -/

/-- The pools of two runs, with the sides of their members. -/
structure PoolsAlike {β : Type} (R : Bool → β → β → Prop) (sides : List Bool) (xs ys : List β) :
    Prop where
  left : xs.length = sides.length
  right : ys.length = sides.length
  alike : ∀ (i : Nat) (side : Bool) (x y : β), sides[i]? = some side → xs[i]? = some x →
    ys[i]? = some y → R side x y

namespace PoolsAlike

variable {β : Type} {R : Bool → β → β → Prop} {sides : List Bool} {xs ys : List β}

theorem nil : PoolsAlike R [] [] [] :=
  ⟨rfl, rfl, fun i side x y h => by simp at h⟩

/-- A member is added to both. -/
theorem append (h : PoolsAlike R sides xs ys) {side : Bool} {x y : β} (hxy : R side x y) :
    PoolsAlike R (sides ++ [side]) (xs ++ [x]) (ys ++ [y]) := by
  refine ⟨by simp [h.left], by simp [h.right], fun i side' x' y' hside hx hy => ?_⟩
  rcases getElem?_append_cases hside with ⟨hi, hside⟩ | ⟨hi, rfl⟩
  · rcases getElem?_append_cases hx with ⟨-, hx⟩ | ⟨hi', -⟩
    · rcases getElem?_append_cases hy with ⟨-, hy⟩ | ⟨hi', -⟩
      · exact h.alike i side' x' y' hside hx hy
      · exact absurd (hi'.trans h.right) hi
    · exact absurd (hi'.trans h.left) hi
  · rcases getElem?_append_cases hx with ⟨hi', -⟩ | ⟨-, rfl⟩
    · exact absurd (hi.trans h.left.symm) hi'
    · rcases getElem?_append_cases hy with ⟨hi', -⟩ | ⟨-, rfl⟩
      · exact absurd (hi.trans h.right.symm) hi'
      · exact hxy

/-- A member changes in both. -/
theorem set (h : PoolsAlike R sides xs ys) {i : Nat} {side : Bool} {x y : β}
    (hside : sides[i]? = some side) (hxy : R side x y) :
    PoolsAlike R sides (xs.set i x) (ys.set i y) := by
  refine ⟨by simp [h.left], by simp [h.right], fun j side' x' y' hside' hx hy => ?_⟩
  rcases getElem?_set_cases hx with ⟨hj, hx⟩ | ⟨rfl, rfl⟩
  · rcases getElem?_set_cases hy with ⟨-, hy⟩ | ⟨hj', -⟩
    · exact h.alike j side' x' y' hside' hx hy
    · exact absurd hj' hj
  rcases getElem?_set_cases hy with ⟨hj, -⟩ | ⟨-, rfl⟩
  · exact absurd rfl hj
  · rw [hside] at hside'
    obtain rfl := Option.some.inj hside'
    exact hxy

/-- A place is taken in both pools or in none. -/
theorem getElem?_cases (h : PoolsAlike R sides xs ys) (i : Nat) : (xs[i]? = none ∧ ys[i]? = none)
      ∨ ∃ side x y, sides[i]? = some side ∧ xs[i]? = some x ∧ ys[i]? = some y ∧ R side x y := by
  by_cases hi : i < sides.length
  · have hx := getElem?_eq_getElem (h.left ▸ hi)
    have hy := getElem?_eq_getElem (h.right ▸ hi)
    have hside := getElem?_eq_getElem hi
    exact .inr ⟨_, _, _, hside, hx, hy, h.alike i _ _ _ hside hx hy⟩
  · refine .inl ⟨getElem?_eq_none ?_, getElem?_eq_none ?_⟩
    · rw [h.left]
      omega
    · rw [h.right]
      omega

end PoolsAlike

/-! ## What is observed of a list -/

/-- A query sees of a part of the list what it sees of all, if it finds nothing outside. -/
theorem find?_filter_of_imp {α : Type} {p own : α → Bool} {xs : List α}
    (h : ∀ x ∈ xs, p x = true → own x = true) : (xs.filter own).find? p = xs.find? p := by
  rw [find?_filter]
  refine find?_congr fun x hx => ?_
  cases hp : p x with
  | false => simp
  | true => simp [h x hx hp]

end HnbCloud
