import HnbCloud.Market.Collector

set_option autoImplicit false

/-! # The recycle bin

`DELETE` of a product makes an entry in the recycle bin and archives the product. What happens to the
entry later, by `Cancel`, by `PurgeNow` or by the sweeper, does not reach the product.

Every statement names its row by the primary key, so one product is followed with its entry. The
retention of the tenant's settings is given as a duration; the status that is stored with the entry is
left out, for nothing reads it. -/

namespace HnbCloud.Market

inductive ProductStatus where
  | draft
  | published
  | archived
deriving DecidableEq, Repr

/-- A row of `recycle_bin_entries`. Its states are those of a tombstone. -/
structure BinEntry where
  (id tenantId : String)
  state : TombstoneState
  deleteAfter : Int

/-- A product, as long as there is one, and its entry. -/
structure RecycleBin where
  product : Option ProductStatus
  entry : BinEntry
  now : Int

namespace RecycleBin

/-- `DELETE /api/v1/products/{id}`. The error of `UpdateStatus` is dropped: `archives` says whether it
    works. -/
def recycle (status : ProductStatus) (entryId tenantId : String) (now retention : Int)
    (archives : Bool) : RecycleBin where
  product := some (if archives then .archived else status)
  entry := ⟨entryId, tenantId, .retained, now + retention⟩
  now := now

/-- `UPDATE recycle_bin_entries SET state WHERE id AND tenant_id AND state`. -/
def mark (old new : TombstoneState) (s : RecycleBin) (id tenantId : String) :
    RecycleBin × Except RepoError Unit :=
  if s.entry.id = id ∧ s.entry.tenantId = tenantId ∧ s.entry.state = old then
    ({ s with entry := { s.entry with state := new } }, .ok ())
  else (s, .error .noRows)

def cancel := mark .retained .cancelled

def purgeNow := mark .retained .deleting

def markDeleting := mark .retained .deleting

def markDeleted := mark .deleting .deleted

/-- A run of the sweeper: `SweepPending` finds the entry if it is due; `completes` says whether the
    second statement works. -/
def sweep (s : RecycleBin) (completes : Bool) : RecycleBin :=
  if s.entry.state = .retained ∧ s.entry.deleteAfter ≤ s.now then
    match s.markDeleting s.entry.id s.entry.tenantId with
    | (s', .ok ()) => if completes then (s'.markDeleted s.entry.id s.entry.tenantId).1 else s'
    | (s', .error _) => s'
  else s

end RecycleBin

inductive BinCall where
  | cancel (id tenantId : String)
  | purge (id tenantId : String)
  | sweep (completes : Bool)
  | wait (time : Nat)

def recycleBin : Machine RecycleBin BinCall Unit where
  step s
    | .cancel id tenantId => ((s.cancel id tenantId).1, ())
    | .purge id tenantId => ((s.purgeNow id tenantId).1, ())
    | .sweep completes => (s.sweep completes, ())
    | .wait time => ({ s with now := s.now + time }, ())

namespace RecycleBin

/-- A cancelled entry leaves the product as it was before, and one that was purged or swept is deleted
    and its product gone. -/
def Settled (before : ProductStatus) (s : RecycleBin) : Prop :=
  match s.entry.state with
  | .retained => True
  | .cancelled => s.product = some before
  | .deleting => False
  | .deleted => s.product = none

/-- The entry is not purged, the sweeper does not find it due, and it is cancelled only if the product
    was left in its status. -/
def Spared (e : BinEntry) (unchanged : Prop) : Int → List BinCall → Prop
  | _, [] => True
  | now, .cancel id tenantId :: calls =>
    if e.id = id ∧ e.tenantId = tenantId then unchanged else Spared e unchanged now calls
  | now, .purge id tenantId :: calls =>
    if e.id = id ∧ e.tenantId = tenantId then False else Spared e unchanged now calls
  | now, .sweep _ :: calls => if e.deleteAfter ≤ now then False else Spared e unchanged now calls
  | now, .wait time :: calls => Spared e unchanged (now + time) calls

variable {s : RecycleBin} {before status : ProductStatus}

/-- What is not retained any more stays as it is. -/
theorem settled_next_of_not_retained (h : s.entry.state ≠ .retained) (call : BinCall) :
    (recycleBin.next s call).entry = s.entry ∧ (recycleBin.next s call).product = s.product := by
  cases call <;> simp [Machine.next, recycleBin, cancel, purgeNow, mark, sweep, h]

theorem run_of_not_retained (h : s.entry.state ≠ .retained) (calls : List BinCall) :
    (recycleBin.run s calls).Settled before ↔ s.Settled before := by
  have hrun := recycleBin.run_induction (P := fun t => t.entry = s.entry ∧ t.product = s.product)
    (fun t call ht => by
      have hnext := settled_next_of_not_retained (s := t) (by rwa [ht.1]) call
      exact ⟨hnext.1.trans ht.1, hnext.2.trans ht.2⟩) ⟨rfl, rfl⟩ calls
  rw [Settled, Settled, hrun.1, hrun.2]

/-- A call leaves everything as it was, or decides about the entry. -/
theorem next_cases (h : s.entry.state = .retained) (hproduct : s.product = some status)
    (call : BinCall) (calls : List BinCall) :
    (((recycleBin.next s call).entry = s.entry ∧ (recycleBin.next s call).product = s.product)
        ∧ (Spared s.entry (status = before) s.now (call :: calls)
          ↔ Spared s.entry (status = before) (recycleBin.next s call).now calls))
      ∨ (recycleBin.next s call).entry.state ≠ .retained ∧ ((recycleBin.next s call).Settled before
        ↔ Spared s.entry (status = before) s.now (call :: calls)) := by
  cases call with
  | cancel id tenantId =>
    by_cases hid : s.entry.id = id ∧ s.entry.tenantId = tenantId
    · right
      simp [Machine.next, recycleBin, cancel, mark, Spared, Settled, h, hid, hproduct]
    left
    have hnot : ¬ (s.entry.id = id ∧ s.entry.tenantId = tenantId ∧ s.entry.state = .retained) :=
      fun hm => hid ⟨hm.1, hm.2.1⟩
    simp only [Machine.next, recycleBin, cancel, mark, Spared, if_neg hid, if_neg hnot, and_self]
  | purge id tenantId =>
    by_cases hid : s.entry.id = id ∧ s.entry.tenantId = tenantId
    · right
      simp [Machine.next, recycleBin, purgeNow, mark, Spared, Settled, h, hid]
    left
    have hnot : ¬ (s.entry.id = id ∧ s.entry.tenantId = tenantId ∧ s.entry.state = .retained) :=
      fun hm => hid ⟨hm.1, hm.2.1⟩
    simp only [Machine.next, recycleBin, purgeNow, mark, Spared, if_neg hid, if_neg hnot, and_self]
  | sweep completes =>
    by_cases hdue : s.entry.deleteAfter ≤ s.now
    · right
      cases completes <;>
        simp [Machine.next, recycleBin, sweep, markDeleting, markDeleted, mark, Spared, Settled, h,
          hdue, hproduct]
    · left
      simp [Machine.next, recycleBin, sweep, Spared, hdue]
  | wait => exact .inl ⟨⟨rfl, rfl⟩, Iff.rfl⟩

theorem settled_iff (calls : List BinCall) (h : s.entry.state = .retained)
    (hproduct : s.product = some status) :
    (recycleBin.run s calls).Settled before ↔ Spared s.entry (status = before) s.now calls := by
  induction calls generalizing s with
  | nil => simp [Settled, Spared, h]
  | cons call calls ih =>
    rw [Machine.run_cons]
    rcases next_cases h hproduct call calls with ⟨⟨hentry, hsame⟩, hspared⟩ | ⟨hstate, hsettled⟩
    · rw [ih (by rw [hentry, h]) (by rw [hsame, hproduct]), hspared, hentry]
    · rw [run_of_not_retained hstate, hsettled]

/-- A history settles the entry of a product if and only if it spares it: nothing brings the status of
    a product back, and nothing deletes a product. -/
theorem recycled_settles_iff (status : ProductStatus) (entryId tenantId : String)
    (now retention : Int) (archives : Bool) (calls : List BinCall) :
    (recycleBin.run (recycle status entryId tenantId now retention archives) calls).Settled status
      ↔ Spared ⟨entryId, tenantId, .retained, now + retention⟩
        (archives = false ∨ status = .archived) now calls := by
  have hrecycled : _ ↔ Spared _ (_ = status) now calls :=
    settled_iff calls (s := recycle status entryId tenantId now retention archives) rfl rfl
  refine hrecycled.trans (iff_of_eq (congrArg (Spared _ · now calls) (propext ?_)))
  cases archives <;> simp [eq_comm]

/-- A published product is recycled. If the entry is cancelled, the product stays archived; if it is
    purged, the entry stays in `deleting`, whatever the sweeper does later. -/
theorem recycled_product_lost :
    ¬ (recycleBin.run (recycle .published "e1" "t1" 0 10 true) [.cancel "e1" "t1"]).Settled .published
    ∧ ¬ (recycleBin.run (recycle .published "e1" "t1" 0 10 true)
        [.purge "e1" "t1", .wait 20, .sweep true]).Settled .published :=
  ⟨fun h => absurd (Option.some.inj h) (by decide), fun h => h⟩

end RecycleBin

end HnbCloud.Market
