import HnbCloud.Lib.Program
import HnbCloud.Lib.Table

set_option autoImplicit false

/-! # A store of versioned objects

An API server that keeps objects under unique keys and gives every write a version of its own. It
refuses to create what exists, and it refuses an update that is not based on the version it holds;
a deletion has no such condition. A request may also fail without being served, or be served with its
answer lost: both are left to chance.

Versions only grow, so an object that still has a version read earlier is the object that was read
(`ObjectStore.Later.same`): what a client checked before an update holds when the update is
taken. -/

namespace HnbCloud

/-- An object with what the server keeps about it. -/
structure Stored (κ α : Type) where
  key : κ
  uid : String
  version : Nat
  value : α
deriving DecidableEq

/-- The objects, and the version of the last write. -/
structure ObjectStore (κ α : Type) where
  objects : Table (Stored κ α) κ Stored.key
  revision : Nat

/-- How a request fails. -/
inductive ObjectError where
  | notFound
  | alreadyExists
  | conflict
  | cancelled
  | unavailable (text : String)
deriving DecidableEq, Repr

/-- The requests of a client. -/
inductive ObjectRequest (κ α : Type) where
  | get (key : κ)
  | create (key : κ) (value : α)
  | update (object : Stored κ α)
  | delete (key : κ)
deriving DecidableEq

variable {κ α : Type}

/-- What a request is answered with. -/
abbrev ObjectRequest.Reply : ObjectRequest κ α → Type
  | .delete _ => Except ObjectError Unit
  | _ => Except ObjectError (Stored κ α)

def ObjectRequest.failed : (request : ObjectRequest κ α) → ObjectError → request.Reply
  | .get _, err => .error err
  | .create _ _, err => .error err
  | .update _, err => .error err
  | .delete _, err => .error err

/-- What happens to a request on its way. -/
inductive ObjectOutcome where
  | served
  | refused (err : ObjectError)
  | lost (err : ObjectError)
deriving DecidableEq, Repr

/-- What is left to chance: the fate of the request, and the id a new object gets. -/
structure ObjectChance where
  outcome : ObjectOutcome := .served
  uid : String := ""
deriving DecidableEq, Repr

namespace ObjectStore

variable [DecidableEq κ]

def empty : ObjectStore κ α := ⟨.empty, 0⟩

/-- The object under a key. -/
def get? (s : ObjectStore κ α) (k : κ) : Option (Stored κ α) := s.objects.get? k

def write (s : ObjectStore κ α) (o : Stored κ α) : ObjectStore κ α :=
  { objects := s.objects.put { o with version := s.revision + 1 }, revision := s.revision + 1 }

/-- A deletion. -/
def remove (s : ObjectStore κ α) (k : κ) : ObjectStore κ α :=
  { s with objects := s.objects.deleteWhere fun o => decide (o.key = k) }

/-- What the server does with a request that reaches it. -/
def serve (s : ObjectStore κ α) (uid : String) :
    (request : ObjectRequest κ α) → ObjectStore κ α × request.Reply
  | .get k =>
    match s.get? k with
    | none => (s, .error .notFound)
    | some o => (s, .ok o)
  | .create k value =>
    match s.get? k with
    | some _ => (s, .error .alreadyExists)
    | none => (s.write ⟨k, uid, 0, value⟩, .ok ⟨k, uid, s.revision + 1, value⟩)
  | .update o =>
    match s.get? o.key with
    | none => (s, .error .notFound)
    | some current =>
      if current.version = o.version then
        (s.write { current with value := o.value },
          .ok { current with value := o.value, version := s.revision + 1 })
      else (s, .error .conflict)
  | .delete k =>
    match s.get? k with
    | none => (s, .error .notFound)
    | some _ => (s.remove k, .ok ())

/-- The server behind its network. -/
def server : Service (ObjectStore κ α) (ObjectRequest κ α) ObjectRequest.Reply ObjectChance where
  perform s request n :=
    match n.outcome with
    | .served => s.serve n.uid request
    | .refused err => (s, request.failed err)
    | .lost err => ((s.serve n.uid request).1, request.failed err)

/-! ## Lookups -/

theorem key_of_get? {s : ObjectStore κ α} {k : κ} {o : Stored κ α} (h : s.get? k = some o) :
    o.key = k :=
  Table.key_of_get? h

variable (s : ObjectStore κ α)

@[simp] theorem get?_empty (k : κ) : (empty : ObjectStore κ α).get? k = none := rfl

theorem get?_write (o : Stored κ α) (k : κ) : (s.write o).get? k
      = if k = o.key then some { o with version := s.revision + 1 } else s.get? k :=
  s.objects.get?_put _ k

theorem get?_remove (k j : κ) : (s.remove k).get? j = if j = k then none else s.get? j :=
  s.objects.get?_deleteWhere_key k j

/-! ## What a request can do -/

/-- The changes a request makes: none, or the one it asks for, under the condition the server puts
    on it. -/
inductive Does (s : ObjectStore κ α) : ObjectRequest κ α → ObjectStore κ α → Prop where
  | nothing (request : ObjectRequest κ α) : Does s request s
  | creates (k : κ) (value : α) (uid : String) (h : s.get? k = none) :
      Does s (.create k value) (s.write ⟨k, uid, 0, value⟩)
  | updates (o current : Stored κ α) (h : s.get? o.key = some current)
      (hversion : current.version = o.version) :
      Does s (.update o) (s.write { current with value := o.value })
  | deletes (k : κ) (o : Stored κ α) (h : s.get? k = some o) : Does s (.delete k) (s.remove k)

theorem does_serve (uid : String) (request : ObjectRequest κ α) :
    s.Does request (s.serve uid request).1 := by
  cases request with
  | get =>
    simp only [serve]
    split <;> exact .nothing _
  | create k value =>
    simp only [serve]
    split
    · exact .nothing _
    · next h => exact .creates k value uid h
  | update o =>
    simp only [serve]
    split
    · exact .nothing _
    next current h =>
    split
    · next hversion => exact .updates o current h hversion
    · exact .nothing _
  | delete k =>
    simp only [serve]
    split
    · exact .nothing _
    · next o h => exact .deletes k o h

theorem does_perform (request : ObjectRequest κ α) (n : ObjectChance) :
    s.Does request (server.perform s request n).1 := by
  simp only [server]
  split
  · exact s.does_serve n.uid request
  · exact .nothing _
  · exact s.does_serve n.uid request

/-- What a client gets is what the store holds. -/
theorem get?_of_reply {s : ObjectStore κ α} {k : κ} {n : ObjectChance} {o : Stored κ α}
    (h : (server.perform s (.get k) n).2 = .ok o) :
    s.get? k = some o ∧ (server.perform s (.get k) n).1 = s := by
  simp only [server] at h ⊢
  split at h
  · simp only [serve] at h ⊢
    split at h
    · simp at h
    · next o' ho' =>
      cases h
      exact ⟨ho', rfl⟩
  · simp [ObjectRequest.failed] at h
  · simp [ObjectRequest.failed] at h

/-! ## Versions -/

/-- No object is newer than the last write. -/
def Bounded : Prop := ∀ k o, s.get? k = some o → o.version ≤ s.revision

/-- A later state of the store: what was not written since then is as it was. -/
structure Later (s s' : ObjectStore κ α) : Prop where
  bounded : s.Bounded → s'.Bounded
  revision : s.revision ≤ s'.revision
  unwritten : ∀ k o, s'.get? k = some o → o.version ≤ s.revision → s.get? k = some o

theorem bounded_empty : (empty : ObjectStore κ α).Bounded := by
  intro k o h
  simp at h

theorem Later.refl : s.Later s := ⟨id, Nat.le_refl _, fun _ _ h _ => h⟩

theorem Later.trans {s t u : ObjectStore κ α} (h : s.Later t) (h' : t.Later u) : s.Later u where
  bounded hs := h'.bounded (h.bounded hs)
  revision := Nat.le_trans h.revision h'.revision
  unwritten k o ho hle := h.unwritten k o (h'.unwritten k o ho (Nat.le_trans hle h.revision)) hle

theorem later_write (o : Stored κ α) : s.Later (s.write o) where
  bounded := by
    intro hs k o' ho'
    rw [get?_write] at ho'
    split at ho'
    · rw [← Option.some.inj ho']
      exact Nat.le_refl _
    · exact Nat.le_succ_of_le (hs k o' ho')
  revision := Nat.le_succ _
  unwritten := by
    intro k o' ho' hle
    rw [get?_write] at ho'
    split at ho'
    · rw [← Option.some.inj ho'] at hle
      exact absurd hle (Nat.not_succ_le_self _)
    · exact ho'

theorem later_remove (k : κ) : s.Later (s.remove k) := by
  have hsub : ∀ j o, (s.remove k).get? j = some o → s.get? j = some o := by
    intro j o h
    rw [get?_remove] at h
    split_ifs at h
    exact h
  exact ⟨fun hs j o h => hs j o (hsub j o h), Nat.le_refl _, fun j o h _ => hsub j o h⟩

theorem Does.later {s s' : ObjectStore κ α} {request : ObjectRequest κ α} (h : s.Does request s') :
    s.Later s' := by
  cases h with
  | nothing => exact .refl s
  | creates | updates => exact s.later_write _
  | deletes k => exact s.later_remove k

/-- An object that has the version that was read earlier is the object that was read. -/
theorem Later.same {s s' : ObjectStore κ α} (h : s.Later s') (hs : s.Bounded) {k : κ}
    {o o' : Stored κ α} (ho : s.get? k = some o) (ho' : s'.get? k = some o')
    (hversion : o'.version = o.version) : o' = o := by
  have hread := h.unwritten k o' ho' (hversion ▸ hs k o ho)
  exact Option.some.inj (hread.symm.trans ho)

end ObjectStore

end HnbCloud
