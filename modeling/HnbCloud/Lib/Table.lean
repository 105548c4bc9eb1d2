import Mathlib.Data.List.Nodup
import Mathlib.Data.List.Count

set_option autoImplicit false

/-! # Tables with a unique key

A `Table` is a list of rows in insertion order, together with the proof that no two of them share
a key: the database's primary key or unique index. The operations are the statements the stores
issue against such a table, each keeping the key unique: a guarded `INSERT` (`insert?`), an
`INSERT … ON CONFLICT (key) DO UPDATE` (`upsert`), an `UPDATE … WHERE key = k` (`update`), an
`UPDATE` by any other condition (`updateWhere`) and a `DELETE … WHERE` (`deleteWhere`).

Every statement comes with what it does to a lookup by key, to membership and, for `update`, to the
number of rows that satisfy a condition (`countP_update`). -/

namespace HnbCloud

open List Option

/-- A computation that succeeds has succeeded in its first part. -/
theorem except_bind_eq_ok {ε α β : Type} {x : Except ε α} {f : α → Except ε β} {b : β}
    (h : x >>= f = .ok b) : ∃ a, x = .ok a ∧ f a = .ok b := by
  cases x with
  | error => simp [bind, Except.bind] at h
  | ok a => exact ⟨a, rfl, h⟩

theorem except_eq_ok_of_map {ε α β : Type} {x : Except ε α} {f : α → β} {b : β}
    (h : x.toOption.map f = some b) : ∃ a, x = .ok a ∧ f a = b := by
  cases x with
  | error => simp [Except.toOption] at h
  | ok a => exact ⟨a, rfl, Option.some.inj h⟩

/-- Rows with pairwise different keys, in insertion order. -/
@[ext] structure Table (ρ κ : Type) (key : ρ → κ) where
  rows : List ρ
  /-- The unique index. -/
  nodup : (rows.map key).Nodup

namespace Table

variable {ρ κ : Type} {key : ρ → κ}

/-- The table without rows. -/
def empty : Table ρ κ key := ⟨[], nodup_nil⟩

@[simp] theorem rows_empty : (empty : Table ρ κ key).rows = [] := rfl

/-- Two rows of a table with the same key are the same row. -/
theorem eq_of_key_eq (t : Table ρ κ key) {r r' : ρ} (h : r ∈ t.rows) (h' : r' ∈ t.rows)
    (hk : key r = key r') : r = r' :=
  inj_on_of_nodup_map t.nodup h h' hk

theorem key_ite {f : ρ → ρ} (hf : ∀ r, key (f r) = key r) (p : Prop) [Decidable p] (r : ρ) :
    key (if p then f r else r) = key r := by
  split
  · exact hf r
  · rfl

/-- Rows that keep their keys are changed. -/
theorem map_key_map {rows : List ρ} {p : ρ → Prop} [DecidablePred p] {f : ρ → ρ}
    (hf : ∀ r, key (f r) = key r) :
    (rows.map fun r => if p r then f r else r).map key = rows.map key := by
  rw [List.map_map]
  exact map_congr_left fun r _ => key_ite hf (p r) r

variable [DecidableEq κ]

/-! ## Lookup -/

variable {t t' : Table ρ κ key} {k : κ} {r r' : ρ}

/-- `SELECT … WHERE key = k`. -/
def get? (t : Table ρ κ key) (k : κ) : Option ρ :=
  t.rows.find? (fun r => decide (key r = k))

theorem get?_eq_some_iff : t.get? k = some r ↔ r ∈ t.rows ∧ key r = k := by
  constructor
  · intro h
    exact ⟨mem_of_find?_eq_some h, by simpa using find?_some h⟩
  rintro ⟨hr, rfl⟩
  rcases hfind : t.get? (key r) with _ | r'
  · have := find?_eq_none.1 hfind r hr
    simp at this
  · have hr' : r' ∈ t.rows := mem_of_find?_eq_some hfind
    have hk : key r' = key r := by simpa using find?_some hfind
    rw [t.eq_of_key_eq hr' hr hk]

theorem get?_eq_none_iff : t.get? k = none ↔ ∀ r ∈ t.rows, key r ≠ k := by
  simp [get?, find?_eq_none]

theorem mem_of_get? (h : t.get? k = some r) : r ∈ t.rows :=
  (get?_eq_some_iff.1 h).1

theorem key_of_get? (h : t.get? k = some r) : key r = k :=
  (get?_eq_some_iff.1 h).2

theorem get?_of_mem (h : r ∈ t.rows) : t.get? (key r) = some r :=
  get?_eq_some_iff.2 ⟨h, rfl⟩

theorem mem_iff_get? : r ∈ t.rows ↔ t.get? (key r) = some r :=
  ⟨get?_of_mem, mem_of_get?⟩

/-- At most one row under a given key satisfies a condition. -/
theorem rows_length_le_one_of_key (t : Table ρ κ key) (k : κ) (p : ρ → Bool) :
    (t.rows.filter (fun r => decide (key r = k) && p r)).length ≤ 1 := by
  have hsub : ((t.rows.filter (fun r => decide (key r = k) && p r)).map key).Nodup :=
    (filter_sublist.map key).nodup t.nodup
  have hall : ∀ x ∈ (t.rows.filter (fun r => decide (key r = k) && p r)).map key, x = k := by
    intro x hx
    obtain ⟨r, hr, rfl⟩ := mem_map.1 hx
    have := (mem_filter.1 hr).2
    simp only [Bool.and_eq_true, decide_eq_true_eq] at this
    exact this.1
  rw [eq_replicate_of_mem hall, nodup_replicate, length_map] at hsub
  exact hsub

/-- What is stored stays stored when rows are added at the end. -/
theorem get?_of_rows_eq_append {more : List ρ} (h : t'.rows = t.rows ++ more)
    (hget : t.get? k = some r) : t'.get? k = some r := by
  rw [get?_eq_some_iff] at hget ⊢
  rw [h]
  exact ⟨mem_append_left more hget.1, hget.2⟩

/-- A lookup among rows changed under their keys. -/
theorem get?_of_rows_eq_map {g : ρ → ρ} (hg : ∀ r, key (g r) = key r)
    (h : t'.rows = t.rows.map g) (k : κ) : t'.get? k = (t.get? k).map g := by
  unfold get?
  rw [h, find?_map]
  congr 2
  funext r
  simp only [Function.comp, hg]

/-! ## Insert -/

/-- `INSERT`, refused when the key is taken. -/
def insert? (t : Table ρ κ key) (r : ρ) : Option (Table ρ κ key) :=
  if h : key r ∈ t.rows.map key then none
  else some ⟨t.rows ++ [r], by
    rw [map_append, map_singleton]
    exact t.nodup.append (nodup_singleton _) (disjoint_singleton.2 h)⟩

theorem insert?_eq_some_iff :
    t.insert? r = some t' ↔ key r ∉ t.rows.map key ∧ t'.rows = t.rows ++ [r] := by
  unfold insert?
  constructor
  · intro h
    split_ifs at h with hk
    simp only [Option.some.injEq] at h
    exact ⟨hk, by rw [← h]⟩
  · rintro ⟨hk, hrows⟩
    rw [dif_neg hk]
    congr 1
    ext1
    exact hrows.symm

theorem rows_insert? (h : t.insert? r = some t') : t'.rows = t.rows ++ [r] :=
  (insert?_eq_some_iff.1 h).2

theorem mem_insert? (h : t.insert? r = some t') : r' ∈ t'.rows ↔ r' ∈ t.rows ∨ r' = r := by
  rw [rows_insert? h, mem_append, mem_singleton]

theorem get?_of_insert? (h : t.insert? r = some t')
    (hget : t.get? k = some r') : t'.get? k = some r' :=
  get?_of_rows_eq_append (rows_insert? h) hget

/-- A row whose key is not stored is inserted. -/
theorem exists_insert? (t : Table ρ κ key) (r : ρ) (h : t.get? (key r) = none) :
    ∃ t', t.insert? r = some t' := by
  have hk : key r ∉ t.rows.map key := by
    intro hmem
    obtain ⟨r', hr', hkey⟩ := mem_map.1 hmem
    exact get?_eq_none_iff.1 h r' hr' hkey
  rw [insert?, dif_neg hk]
  exact ⟨_, rfl⟩

/-- An insert that goes through finds the key free. -/
theorem get?_eq_none_of_insert? (h : t.insert? r = some t') : t.get? (key r) = none := by
  rw [get?_eq_none_iff]
  intro r' hr' hkey
  exact (insert?_eq_some_iff.1 h).1 (hkey ▸ mem_map_of_mem hr')

/-- A lookup after an insert. -/
theorem get?_insert? (h : t.insert? r = some t') (k : κ) :
    t'.get? k = if k = key r then some r else t.get? k := by
  obtain ⟨hk, hrows⟩ := insert?_eq_some_iff.1 h
  by_cases hkr : k = key r
  · subst hkr
    rw [if_pos rfl, get?_eq_some_iff, hrows]
    simp
  rw [if_neg hkr]
  unfold get?
  rw [hrows, find?_append]
  have : find? (fun r => decide (key r = k)) [r] = none := by
    simp [Ne.symm hkr]
  rw [this, or_none]

/-! ## Update by key -/

/-- `UPDATE … SET f WHERE key = k`. -/
def update (t : Table ρ κ key) (k : κ) (f : ρ → ρ) (hf : ∀ r, key (f r) = key r) : Table ρ κ key :=
  ⟨t.rows.map (fun r => if key r = k then f r else r), by
    rw [map_key_map hf]
    exact t.nodup⟩

section Update

variable (t : Table ρ κ key) (k : κ) (f : ρ → ρ) (hf : ∀ r, key (f r) = key r)

theorem rows_update :
    (t.update k f hf).rows = t.rows.map (fun r => if key r = k then f r else r) := rfl

/-- An update keeps the keys, in their order. -/
theorem map_key_update : (t.update k f hf).rows.map key = t.rows.map key :=
  map_key_map hf

theorem mem_update (r : ρ) :
    r ∈ (t.update k f hf).rows ↔ ∃ r₀ ∈ t.rows, (if key r₀ = k then f r₀ else r₀) = r := by
  rw [rows_update, List.mem_map]

variable {t k f hf} in
/-- A row after an update is the updated one, or another one as it was. -/
theorem mem_update_cases (h : r' ∈ (t.update k f hf).rows) (hget : t.get? k = some r) :
    r' = f r ∨ (r' ∈ t.rows ∧ key r' ≠ k) := by
  obtain ⟨r₀, hr₀, rfl⟩ := (t.mem_update k f hf r').1 h
  obtain ⟨hr, hk⟩ := get?_eq_some_iff.1 hget
  by_cases h₀ : key r₀ = k
  · rw [if_pos h₀, t.eq_of_key_eq hr₀ hr (h₀.trans hk.symm)]
    exact .inl rfl
  · rw [if_neg h₀]
    exact .inr ⟨hr₀, h₀⟩

variable {t k} in
/-- What an update keeps of one row holds of all rows afterwards. -/
theorem forall_mem_update {P : ρ → Prop} (hP : ∀ r ∈ t.rows, key r = k → P r → P (f r))
    (h : ∀ r ∈ t.rows, P r) : ∀ r ∈ (t.update k f hf).rows, P r := by
  intro r hr
  obtain ⟨r₀, hr₀, rfl⟩ := (t.mem_update k f hf r).1 hr
  split
  · next hk => exact hP r₀ hr₀ hk (h r₀ hr₀)
  · exact h r₀ hr₀

/-- A lookup after an update. -/
theorem get?_update (j : κ) :
    (t.update k f hf).get? j = if j = k then (t.get? k).map f else t.get? j := by
  rw [get?_of_rows_eq_map (fun r => key_ite hf (key r = k) r) (t.rows_update k f hf)]
  by_cases hj : j = k
  · subst hj
    rw [if_pos rfl]
    refine map_congr fun r hr => ?_
    rw [if_pos (key_of_get? hr)]
  · rw [if_neg hj]
    refine (map_congr fun r hr => ?_).trans map_id'
    rw [if_neg fun hk => hj ((key_of_get? hr).symm.trans hk)]

/-- Rows under another key are left alone. -/
theorem mem_update_of_ne (hr : key r ≠ k) : r ∈ (t.update k f hf).rows ↔ r ∈ t.rows := by
  rw [mem_iff_get?, get?_update, if_neg hr, mem_iff_get?]

theorem get?_update_self (h : t.get? k = some r) : (t.update k f hf).get? k = some (f r) := by
  rw [get?_update, if_pos rfl, h, map_some]

theorem get?_update_of_ne {j : κ} (hj : j ≠ k) : (t.update k f hf).get? j = t.get? j := by
  rw [get?_update, if_neg hj]

/-- `t'` has the rows of `t`, each as what `R` lets become of it, and then more. -/
def Becomes (R : ρ → ρ → Prop) (t t' : Table ρ κ key) (more : List ρ) : Prop :=
  ∃ f : ρ → ρ, t'.rows = t.rows.map f ++ more ∧ ∀ r ∈ t.rows, key (f r) = key r ∧ R r (f r)

section Becomes

variable {R : ρ → ρ → Prop} {t' : Table ρ κ key} {more : List ρ}

omit [DecidableEq κ] in
theorem becomes_append (hrefl : ∀ r, R r r) (h : t'.rows = t.rows ++ more) : t.Becomes R t' more :=
  ⟨id, by simpa using h, fun r _ => ⟨rfl, hrefl r⟩⟩

omit [DecidableEq κ] in
theorem becomes_self (hrefl : ∀ r, R r r) : t.Becomes R t [] :=
  t.becomes_append hrefl (append_nil _).symm

theorem becomes_update (hrefl : ∀ r, R r r) {target : ρ} (htarget : t.get? k = some target)
    (hR : R target (f target)) : t.Becomes R (t.update k f hf) [] := by
  refine ⟨fun r => if key r = k then f r else r, (append_nil _).symm, fun r hr => ?_⟩
  dsimp only
  split
  · next hk =>
    obtain rfl := t.eq_of_key_eq hr (mem_of_get? htarget) (hk.trans (key_of_get? htarget).symm)
    exact ⟨hf r, hR⟩
  · exact ⟨rfl, hrefl r⟩

variable {t k}

theorem Becomes.get? (h : t.Becomes R t' more) (hr : t.get? k = some r) :
    ∃ r', t'.get? k = some r' ∧ R r r' := by
  obtain ⟨f, hrows, hf⟩ := h
  obtain ⟨hmem, rfl⟩ := get?_eq_some_iff.1 hr
  refine ⟨f r, get?_eq_some_iff.2 ⟨?_, (hf r hmem).1⟩, (hf r hmem).2⟩
  rw [hrows]
  exact mem_append_left _ (mem_map_of_mem hmem)

omit [DecidableEq κ] in
theorem Becomes.mem (h : t.Becomes R t' more) (hr' : r' ∈ t'.rows) :
    (∃ r ∈ t.rows, key r = key r' ∧ R r r') ∨ r' ∈ more := by
  obtain ⟨f, hrows, hf⟩ := h
  rw [hrows, mem_append] at hr'
  refine hr'.imp_left fun hr' => ?_
  obtain ⟨r, hr, rfl⟩ := mem_map.1 hr'
  exact ⟨r, hr, (hf r hr).1.symm, (hf r hr).2⟩

end Becomes

/-- Updating one row moves a count by what that row contributes before and after. -/
theorem countP_update (p : ρ → Bool) (h : t.get? k = some r) :
    (t.update k f hf).rows.countP p + (if p r then 1 else 0)
      = t.rows.countP p + (if p (f r) then 1 else 0) := by
  obtain ⟨hr, rfl⟩ := get?_eq_some_iff.1 h
  obtain ⟨xs, ys, hsplit⟩ := append_of_mem hr
  have hnodup := t.nodup
  rw [hsplit, map_append, map_cons] at hnodup
  -- Around the updated row no key is `key r`, so both sides keep those rows as they are.
  have hsame : ∀ zs : List ρ, (∀ z ∈ zs, key z ≠ key r) →
      zs.map (fun z => if key z = key r then f z else z) = zs := by
    intro zs hzs
    refine (map_congr_left fun z hz => ?_).trans (map_id zs)
    rw [if_neg (hzs z hz), id]
  have hxs : ∀ z ∈ xs, key z ≠ key r := by
    intro z hz hzr
    exact (nodup_append.1 hnodup).2.2 (key z) (mem_map_of_mem hz) (key r) (by simp) hzr
  have hys : ∀ z ∈ ys, key z ≠ key r := by
    intro z hz hzr
    have := (nodup_cons.1 (nodup_append.1 hnodup).2.1).1
    exact this (hzr ▸ mem_map_of_mem hz)
  rw [rows_update, hsplit, map_append, map_cons, if_pos rfl, hsame xs hxs, hsame ys hys]
  simp only [countP_append, countP_cons]
  omega

/-- An update that does not change whether its row is counted does not change the count. -/
theorem countP_update_of_eq (p : ρ → Bool) (h : t.get? k = some r) (hp : p (f r) = p r) :
    (t.update k f hf).rows.countP p = t.rows.countP p := by
  have := t.countP_update k f hf p h
  rw [hp] at this
  omega

end Update

/-! ## Update by condition -/

/-- `UPDATE … SET f WHERE p`. -/
def updateWhere (t : Table ρ κ key) (p : ρ → Bool) (f : ρ → ρ) (hf : ∀ r, key (f r) = key r) :
    Table ρ κ key :=
  ⟨t.rows.map (fun r => if p r then f r else r), by
    rw [map_key_map hf]
    exact t.nodup⟩

section UpdateWhere

variable (t : Table ρ κ key) (p : ρ → Bool) (f : ρ → ρ) (hf : ∀ r, key (f r) = key r)

omit [DecidableEq κ] in
theorem mem_updateWhere (r : ρ) :
    r ∈ (t.updateWhere p f hf).rows ↔ ∃ r₀ ∈ t.rows, (if p r₀ then f r₀ else r₀) = r :=
  mem_map

/-- A lookup after an update by condition. -/
theorem get?_updateWhere (k : κ) :
    (t.updateWhere p f hf).get? k = (t.get? k).map fun r => if p r then f r else r :=
  get?_of_rows_eq_map (fun r => key_ite hf (p r) r) rfl k

/-- The same update, of the rows that satisfied the condition in what the statement saw. -/
def updateFound (t seen : Table ρ κ key) (p : ρ → Bool) (f : ρ → ρ)
    (hf : ∀ r, key (f r) = key r) : Table ρ κ key :=
  t.updateWhere (fun r => ((seen.rows.filter p).map key).contains (key r)) f hf

/-- A statement that sees the table as it is updates the rows that satisfy its condition. -/
theorem updateFound_self : t.updateFound t p f hf = t.updateWhere p f hf := by
  ext1
  refine map_congr_left fun r hr => ?_
  have hfound : ((t.rows.filter p).map key).contains (key r) = p r := by
    rw [Bool.eq_iff_iff, contains_iff_mem, List.mem_map]
    constructor
    · rintro ⟨r₀, hr₀, hkey⟩
      obtain ⟨hr₀, hp⟩ := mem_filter.1 hr₀
      rwa [← t.eq_of_key_eq hr₀ hr hkey]
    · intro hp
      exact ⟨r, mem_filter.2 ⟨hr, hp⟩, rfl⟩
  simp only [hfound]

end UpdateWhere

/-! ## Insert or update -/

/-- `INSERT r ON CONFLICT (key) DO UPDATE SET f`. -/
def upsert (t : Table ρ κ key) (r : ρ) (f : ρ → ρ) (hf : ∀ r, key (f r) = key r) : Table ρ κ key :=
  (t.insert? r).getD (t.update (key r) f hf)

section Upsert

variable (t : Table ρ κ key) (r : ρ) (f : ρ → ρ) (hf : ∀ r, key (f r) = key r)

/-- After an upsert the key holds the updated row, or the new one when it was free. -/
theorem get?_upsert_self : (t.upsert r f hf).get? (key r) = some ((t.get? (key r)).elim r f) := by
  unfold upsert
  rcases hins : t.insert? r with _ | t'
  · have hmem : key r ∈ t.rows.map key := by
      by_contra hmem
      simp [insert?, hmem] at hins
    obtain ⟨r₀, hr₀, hkey⟩ := mem_map.1 hmem
    rw [getD_none, get?_update, if_pos rfl, ← hkey, get?_of_mem hr₀]
    rfl
  · rw [getD_some, get?_insert? hins, if_pos rfl, get?_eq_none_of_insert? hins]
    rfl

/-- An upsert leaves the other keys alone. -/
theorem get?_upsert_of_ne {k : κ} (hk : k ≠ key r) : (t.upsert r f hf).get? k = t.get? k := by
  unfold upsert
  rcases hins : t.insert? r with _ | t'
  · rw [getD_none, get?_update, if_neg hk]
  · rw [getD_some, get?_insert? hins, if_neg hk]

end Upsert

/-- `INSERT r ON CONFLICT (key) DO UPDATE` of every other column. -/
def put (t : Table ρ κ key) (r : ρ) : Table ρ κ key :=
  t.upsert r (fun old => if key old = key r then r else old) fun old => by
    split
    · next hkey => exact hkey.symm
    · rfl

/-- A lookup after such an upsert. -/
theorem get?_put (t : Table ρ κ key) (r : ρ) (k : κ) :
    (t.put r).get? k = if k = key r then some r else t.get? k := by
  by_cases hk : k = key r
  · subst hk
    rw [if_pos rfl, put, get?_upsert_self]
    rcases hget : t.get? (key r) with _ | old
    · rfl
    · simp only [elim_some, if_pos (key_of_get? hget)]
  · rw [if_neg hk, put, get?_upsert_of_ne _ _ _ _ hk]

theorem mem_put (t : Table ρ κ key) (r r' : ρ) :
    r' ∈ (t.put r).rows ↔ r' = r ∨ (key r' ≠ key r ∧ r' ∈ t.rows) := by
  rw [mem_iff_get?, get?_put]
  by_cases hk : key r' = key r
  · rw [if_pos hk, Option.some.injEq]
    simp [hk, eq_comm]
  rw [if_neg hk, ← mem_iff_get?]
  simp only [hk, ne_eq, not_false_eq_true, true_and, iff_or_self]
  intro heq
  exact absurd (heq ▸ rfl) hk

/-! ## Delete -/

/-- `DELETE … WHERE p`. -/
def deleteWhere (t : Table ρ κ key) (p : ρ → Bool) : Table ρ κ key :=
  ⟨t.rows.filter (fun r => !p r), (filter_sublist.map key).nodup t.nodup⟩

omit [DecidableEq κ] in
theorem mem_deleteWhere {p : ρ → Bool} :
    r ∈ (t.deleteWhere p).rows ↔ r ∈ t.rows ∧ p r = false := by
  simp [deleteWhere, mem_filter]

theorem get?_deleteWhere_key (t : Table ρ κ key) (k j : κ) :
    (t.deleteWhere fun r => key r == k).get? j = if j = k then none else t.get? j := by
  apply Option.ext
  intro r
  rw [get?_eq_some_iff, mem_deleteWhere]
  by_cases hj : j = k
  · rw [if_pos hj]
    simp only [reduceCtorEq, iff_false]
    rintro ⟨⟨-, hne⟩, hkey⟩
    simp [hkey, hj] at hne
  rw [if_neg hj, get?_eq_some_iff]
  constructor
  · rintro ⟨⟨hr, -⟩, hkey⟩
    exact ⟨hr, hkey⟩
  · rintro ⟨hr, hkey⟩
    exact ⟨⟨hr, by simpa [hkey] using hj⟩, hkey⟩

end Table

end HnbCloud
