import HnbCloud.Iam.KeyManifest

set_option autoImplicit false

/-! # The key store

`RecordKeyManifest` of the iam package: the lifecycle of every key a manifest has listed is kept in
`signing_key_metadata`, also after the key has left the manifest. A manifest is recorded in one
transaction, under a lock on its issuer.

A column of instants keeps them to the microsecond; what it keeps is given by a function. -/

namespace HnbCloud.Iam

open List

/-- A row of `signing_key_metadata`. -/
structure KeyRow where
  (issuer keyId signingKeyHandle verificationKeyRef : String)
  status : KeyStatus
  version : Nat
  (notBefore notAfter : Int)

open KeyRow

/-- The unique key of the table. -/
def KeyRow.key (row : KeyRow) : String × String := (row.issuer, row.keyId)

/-- The tables. -/
structure KeyStore where
  rows : Table KeyRow (String × String) key
  /-- `signing_key_lifecycle_events`, with the key they are about. -/
  events : List ((String × String) × String)

/-- `SELECT COALESCE(MAX(version), 0)`. -/
def KeyStore.generation (store : KeyStore) (issuer : String) : Nat :=
  ((store.rows.rows.filter fun row => row.issuer == issuer).map version).foldl max 0

/-- The checks of the table. -/
def KeyRow.meetsChecks (row : KeyRow) : Bool :=
  row.status.isKnown && 0 < row.version && row.notBefore < row.notAfter

def lifecycleEvent : KeyStatus → String
  | .active => "activated"
  | .retiring => "rotation_started"
  | .revoked => "revoked"
  | .expired => "expired"
  | _ => "created"

section Record

variable (keeps : Int → Int) (manifest : KeyManifest) (storedGeneration : Nat) (store : KeyStore)
  (entry : KeyManifestEntry)

def newKeyRow : KeyRow where
  issuer := manifest.issuer
  keyId := entry.kid
  signingKeyHandle := "manifest:" ++ toString manifest.generation ++ ":" ++ entry.kid
  verificationKeyRef := entry.publicKeyPath
  status := entry.status
  version := manifest.generation
  notBefore := keeps entry.notBefore
  notAfter := keeps entry.notAfter

/-- What an update sets. -/
def KeyRow.advance (row : KeyRow) : KeyRow :=
  { row with status := entry.status, version := manifest.generation
             verificationKeyRef := entry.publicKeyPath }

theorem KeyRow.key_advance (row : KeyRow) : (row.advance manifest entry).key = row.key := rfl

/-- `recordManifestKey` for a key without a row. -/
def insertManifestKey : Except String KeyStore :=
  let row := newKeyRow keeps manifest entry
  if storedGeneration ≠ 0 ∧ manifest.generation ≤ storedGeneration then
    .error "key cannot be added by reusing a stored manifest generation"
  else if row.meetsChecks = false then
    .error "new row for relation \"signing_key_metadata\" violates check constraint"
  else
  match store.rows.insert? row with
  | none => .error "duplicate key value violates unique constraint"
  | some rows => .ok
      { rows := rows
        events := store.events ++ (row.key, "created")
          :: if entry.status = .pending then [] else [(row.key, lifecycleEvent entry.status)] }

/-- `recordManifestKey` for a key with a row. -/
def updateManifestKey (row : KeyRow) : Except String KeyStore :=
  if manifest.generation < row.version then
    .error "stored signing-key generation is newer than manifest"
  else if row.verificationKeyRef ≠ entry.publicKeyPath ∨ row.notBefore ≠ entry.notBefore
      ∨ row.notAfter ≠ entry.notAfter then
    .error "stored signing-key immutable metadata differs from manifest"
  else if validKeyStatusTransition row.status entry.status = false then
    .error ("stored signing key has forbidden status transition " ++ row.status.text ++ " -> "
      ++ entry.status.text)
  else if row.version = manifest.generation then
    if row.status ≠ entry.status then
      .error "stored signing-key generation has different metadata"
    else .ok store
  else if (row.advance manifest entry).meetsChecks = false then
    .error "new row for relation \"signing_key_metadata\" violates check constraint"
  else .ok
    { rows := store.rows.update (manifest.issuer, entry.kid) (advance manifest entry)
        (key_advance manifest entry)
      events := store.events ++ if row.status = entry.status then []
        else [((manifest.issuer, entry.kid), lifecycleEvent entry.status)] }

def recordManifestKey : Except String KeyStore :=
  match store.rows.get? (manifest.issuer, entry.kid) with
  | none => insertManifestKey keeps manifest storedGeneration store entry
  | some row => updateManifestKey manifest store entry row

/-- `RecordKeyManifest`, as a transaction. -/
def KeyStore.recordKeyManifest (manifest : KeyManifest) : Except String KeyStore :=
  let storedGeneration := store.generation manifest.issuer
  if manifest.generation < storedGeneration then
    .error "stored signing-key generation is newer than manifest"
  else manifest.keys.rows.foldlM (recordManifestKey keeps manifest storedGeneration) store

/-- What becomes of the transaction: it is carried out, it fails, or it is carried out and the answer
    is lost. -/
inductive RecordFate where
  | served
  | failed (text : String)
  | lost (text : String)

/-- `RecordKeyManifest`, as its caller sees it. -/
def KeyStore.record (manifest : KeyManifest) (fate : RecordFate) : KeyStore × Except String Unit :=
  match fate, store.recordKeyManifest keeps manifest with
  | .failed text, _ => (store, .error text)
  | _, .error text => (store, .error text)
  | .served, .ok store' => (store', .ok ())
  | .lost text, .ok store' => (store', .error text)

end Record

/-! ## What recording does -/

/-- The rows are still there, and their statuses have moved as they may. -/
def KeyStore.Advances (store store' : KeyStore) : Prop :=
  ∀ key row, store.rows.get? key = some row → ∃ row', store'.rows.get? key = some row'
    ∧ (row.status.isFinal = true → row'.status = row.status)

theorem KeyStore.Advances.refl (store : KeyStore) : store.Advances store :=
  fun _ row h => ⟨row, h, fun _ => rfl⟩

theorem KeyStore.Advances.trans {a b c : KeyStore} (h : a.Advances b) (h' : b.Advances c) :
    a.Advances c := by
  intro key row hrow
  obtain ⟨row', hrow', hstatus⟩ := h key row hrow
  obtain ⟨row'', hrow'', hstatus'⟩ := h' key row' hrow'
  refine ⟨row'', hrow'', ?_⟩
  intro hfinal
  have hsame := hstatus hfinal
  exact (hstatus' (hsame ▸ hfinal)).trans hsame

def KeyStore.Records (store : KeyStore) (issuer : String) (entry : KeyManifestEntry) : Prop :=
  ∃ row, store.rows.get? (issuer, entry.kid) = some row ∧ row.status = entry.status

section Effects

variable {keeps : Int → Int} {manifest : KeyManifest} {storedGeneration : Nat}
  {store store' : KeyStore} {entry : KeyManifestEntry}

/-- What recording one key does: the key is recorded, if it had a final status before it still has it,
    and other rows are left alone. -/
structure RecordsKey (manifest : KeyManifest) (entry : KeyManifestEntry) (store store' : KeyStore) :
    Prop where
  records : store'.Records manifest.issuer entry
  final : ∀ row, store.rows.get? (manifest.issuer, entry.kid) = some row →
    row.status.isFinal = true → entry.status = row.status
  others : ∀ key, key ≠ (manifest.issuer, entry.kid) → store'.rows.get? key = store.rows.get? key

theorem recordsKey_insert (hnone : store.rows.get? (manifest.issuer, entry.kid) = none)
    (h : insertManifestKey keeps manifest storedGeneration store entry = .ok store') :
    RecordsKey manifest entry store store' := by
  unfold insertManifestKey at h
  dsimp only at h
  split at h
  · simp at h
  split at h
  · simp at h
  split at h
  · simp at h
  next rows hinsert =>
  cases h
  have hlookup := fun key => Table.get?_insert? hinsert key
  refine ⟨⟨newKeyRow keeps manifest entry, ?_, rfl⟩, ?_, ?_⟩
  · exact (hlookup (manifest.issuer, entry.kid)).trans (if_pos rfl)
  · intro row hrow
    exact absurd (hrow.symm.trans hnone) (by simp)
  · intro key hkey
    exact (hlookup key).trans (if_neg hkey)

theorem recordsKey_update {row : KeyRow}
    (hrow : store.rows.get? (manifest.issuer, entry.kid) = some row)
    (h : updateManifestKey manifest store entry row = .ok store') :
    RecordsKey manifest entry store store' := by
  unfold updateManifestKey at h
  split at h
  · simp at h
  split at h
  · simp at h
  split at h
  · simp at h
  next htransition =>
  have hfinal : ∀ row', store.rows.get? (manifest.issuer, entry.kid) = some row' →
      row'.status.isFinal = true → entry.status = row'.status := by
    intro row' hrow' hstatus
    obtain rfl : row = row' := Option.some.inj (hrow.symm.trans hrow')
    exact eq_of_validKeyStatusTransition (by simpa using htransition) hstatus
  split at h
  · -- The generation is recorded already.
    split_ifs at h with hstatus
    cases h
    exact ⟨⟨row, hrow, not_not.1 hstatus⟩, hfinal, fun _ _ => rfl⟩
  split at h
  · simp at h
  cases h
  refine ⟨⟨row.advance manifest entry, ?_, rfl⟩, hfinal, ?_⟩
  · exact store.rows.get?_update_self _ _ (key_advance manifest entry) hrow
  · intro key hkey
    exact store.rows.get?_update_of_ne _ _ (key_advance manifest entry) hkey

theorem recordsKey (h : recordManifestKey keeps manifest storedGeneration store entry = .ok store') :
    RecordsKey manifest entry store store' := by
  unfold recordManifestKey at h
  split at h
  · next hnone => exact recordsKey_insert hnone h
  · next row hrow => exact recordsKey_update hrow h

theorem RecordsKey.advances (h : RecordsKey manifest entry store store') :
    store.Advances store' := by
  intro key row hrow
  by_cases hkey : key = (manifest.issuer, entry.kid)
  · subst hkey
    obtain ⟨row', hrow', hstatus⟩ := h.records
    exact ⟨row', hrow', fun hfinal => hstatus.trans (h.final row hrow hfinal)⟩
  · exact ⟨row, (h.others key hkey).trans hrow, fun _ => rfl⟩

theorem records_foldlM {entries : List KeyManifestEntry}
    (hnodup : (entries.map KeyManifestEntry.kid).Nodup)
    (h : entries.foldlM (recordManifestKey keeps manifest storedGeneration) store = .ok store') :
    store.Advances store' ∧ (∀ entry ∈ entries, store'.Records manifest.issuer entry
        ∧ ∀ row, store.rows.get? (manifest.issuer, entry.kid) = some row →
          row.status.isFinal = true → entry.status = row.status)
      ∧ ∀ key, (∀ entry ∈ entries, key ≠ (manifest.issuer, entry.kid)) →
          store'.rows.get? key = store.rows.get? key := by
  induction entries generalizing store with
  | nil =>
    obtain rfl := Except.ok.inj h
    exact ⟨.refl store, fun entry hentry => absurd hentry (by simp), fun _ _ => rfl⟩
  | cons first rest ih =>
    obtain ⟨store₁, hfirst, h⟩ := except_bind_eq_ok h
    rw [map_cons, nodup_cons] at hnodup
    obtain ⟨hadvances, hrecords, hothers⟩ := ih hnodup.2 h
    have hkey := recordsKey hfirst
    have hfresh : ∀ entry ∈ rest, (manifest.issuer, first.kid) ≠ (manifest.issuer, entry.kid) := by
      intro entry hentry heq
      exact hnodup.1 (mem_map.2 ⟨entry, hentry, (Prod.mk.inj heq).2.symm⟩)
    refine ⟨hkey.advances.trans hadvances, ?_, ?_⟩
    · intro entry hentry
      rcases mem_cons.1 hentry with rfl | hentry
      · -- The rest leaves the row of the first key.
        obtain ⟨row, hrow, hstatus⟩ := hkey.records
        exact ⟨⟨row, (hothers _ hfresh).trans hrow, hstatus⟩, hkey.final⟩
      refine ⟨(hrecords entry hentry).1, ?_⟩
      intro row hrow
      refine (hrecords entry hentry).2 row ?_
      rw [hkey.others _ (Ne.symm (hfresh entry hentry))]
      exact hrow
    · intro key hkeys
      rw [hothers key fun entry hentry => hkeys entry (mem_cons_of_mem _ hentry)]
      exact hkey.others key (hkeys first mem_cons_self)

/-- What recording a manifest does: every key of it is recorded with its status, and no row leaves
    a final status. -/
theorem recordKeyManifest_ok (h : store.recordKeyManifest keeps manifest = .ok store') :
    store.Advances store' ∧ ∀ entry ∈ manifest.keys.rows, store'.Records manifest.issuer entry
        ∧ ∀ row, store.rows.get? (manifest.issuer, entry.kid) = some row →
          row.status.isFinal = true → entry.status = row.status := by
  unfold KeyStore.recordKeyManifest at h
  dsimp only at h
  split_ifs at h
  obtain ⟨hadvances, hrecords, -⟩ := records_foldlM manifest.keys.nodup h
  exact ⟨hadvances, hrecords⟩

end Effects

/-- A call that is answered with an error may have been carried out, or may have done nothing. -/
theorem record_cases (keeps : Int → Int) (store : KeyStore) (manifest : KeyManifest)
    (fate : RecordFate) :
    store.recordKeyManifest keeps manifest = .ok (store.record keeps manifest fate).1
      ∨ (store.record keeps manifest fate).1 = store
        ∧ (store.record keeps manifest fate).2 ≠ .ok () := by
  unfold KeyStore.record
  split
  · exact .inr ⟨rfl, by simp⟩
  · exact .inr ⟨rfl, by simp⟩
  · next h => exact .inl h
  · next h => exact .inl h

theorem record_advances (keeps : Int → Int) (store : KeyStore) (manifest : KeyManifest)
    (fate : RecordFate) : store.Advances (store.record keeps manifest fate).1 := by
  rcases record_cases keeps store manifest fate with h | ⟨h, -⟩
  · exact (recordKeyManifest_ok h).1
  · rw [h]
    exact .refl store

end HnbCloud.Iam
