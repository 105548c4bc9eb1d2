import HnbCloud.Iam.KeyStore
import HnbCloud.Lib.Machine

set_option autoImplicit false

/-! # The reloading key set

`ReloadingKeySet` of the iam package. `Reload` reads the manifest and the key files, checks the
manifest against the one in use and records it before it takes it into use. What the files hold, what
the clock shows and what becomes of the transaction are given with every call. Other processes record
manifests in the same store.

A manifest forgets a key that has been removed, so a key that is listed again would pass the check
against the manifest in use; it is the record that knows it. Only the apiserver is given a recorder.

A key is its curve and its point; a private key is a secret with the public half that goes with it. -/

namespace HnbCloud.Iam

open Table

structure PublicKey where
  curve : String
  (x y : Nat)
deriving DecidableEq

structure PrivateKey where
  publicKey : PublicKey
  secret : Nat
deriving DecidableEq

structure ReloadingKeySetConfig where
  issuer : String
  /-- An active private key path is configured. -/
  signs : Bool
  /-- There is a recorder. -/
  recorder : Bool

structure KeySnapshot where
  manifest : KeyManifest
  canonical : String
  publicKeys : List (String × PublicKey)
  privateKey : Option PrivateKey

/-- What a reload meets: the clock, the files and the fate of its transaction. -/
structure ReloadChance where
  now : Int
  file : ManifestFile
  publicKeyFile : String → Except String PublicKey
  privateKeyFile : Except String PrivateKey
  fate : RecordFate := .served

structure KeySetState where
  snapshot : Option KeySnapshot
  (successes failures : Nat)
  store : KeyStore

open KeySetState

/-! ## Reload -/

def readVerificationKey (publicKeyFile : String → Except String PublicKey)
    (entry : KeyManifestEntry) : Except String (String × PublicKey) :=
  match publicKeyFile entry.publicKeyPath with
  | .error err => .error ("verification key " ++ quoted entry.kid ++ ": " ++ err)
  | .ok key =>
  if key.curve ≠ "P-256" then
    .error ("verification key " ++ quoted entry.kid ++ " is not a P-256 ES256 key")
  else .ok (entry.kid, key)

/-- The private key is the other half of the active key. A manifest that has been loaded lists its
    active key. -/
def matchesActive (manifest : KeyManifest) (publicKeys : List (String × PublicKey))
    (key : PrivateKey) : Bool :=
  match publicKeys.lookup manifest.activeKeyId with
  | none => false
  | some activePublic =>
    key.publicKey.curve = "P-256" && key.publicKey.x = activePublic.x
      && key.publicKey.y = activePublic.y

/-- The private key, if one is configured. -/
def readSigningKey (config : ReloadingKeySetConfig) (privateKeyFile : Except String PrivateKey)
    (manifest : KeyManifest) (publicKeys : List (String × PublicKey)) :
    Except String (Option PrivateKey) :=
  if config.signs = false then .ok none
  else
  match privateKeyFile with
  | .error err => .error err
  | .ok key =>
  if matchesActive manifest publicKeys key then .ok (some key)
  else .error "active ES256 private and public keys do not match"

/-- The manifest against the one in use; `false` if it is the one in use. -/
def compareWithCurrent (current : Option KeySnapshot) (manifest : KeyManifest) (canonical : String) :
    Except String Bool :=
  match current with
  | none => .ok true
  | some current =>
  if manifest.generation < current.manifest.generation then
    .error "key manifest generation rollback is forbidden"
  else if manifest.generation = current.manifest.generation then
    if canonical ≠ current.canonical then
      .error "key manifest generation cannot be reused with different content"
    else .ok false
  else
  match validateManifestTransition current.manifest manifest with
  | .error err => .error err
  | .ok () => .ok true

/-- `Reload` up to the recorder; `none` if the manifest is the one in use. -/
def prepare (config : ReloadingKeySetConfig) (current : Option KeySnapshot) (chance : ReloadChance) :
    Except String (Option KeySnapshot) := do
  let (manifest, canonical) ← loadKeyManifest chance.file config.issuer chance.now
  if (← compareWithCurrent current manifest canonical) then
    let publicKeys ← manifest.keys.rows.mapM (readVerificationKey chance.publicKeyFile)
    let privateKey ← readSigningKey config chance.privateKeyFile manifest publicKeys
    return some { manifest, canonical, publicKeys, privateKey }
  else return none

section Reload

variable (config : ReloadingKeySetConfig) (keeps : Int → Int)

/-- The recorder, if there is one. -/
def recordSnapshot (store : KeyStore) (snapshot : KeySnapshot) (fate : RecordFate) :
    KeyStore × Except String Unit :=
  if config.recorder then store.record keeps snapshot.manifest fate else (store, .ok ())

def KeySetState.reload (s : KeySetState) (chance : ReloadChance) :
    KeySetState × Except String Unit :=
  match prepare config s.snapshot chance with
  | .error err => ({ s with failures := s.failures + 1 }, .error err)
  | .ok none => (s, .ok ())
  | .ok (some snapshot) =>
  match recordSnapshot config keeps s.store snapshot chance.fate with
  | (store, .error err) =>
    ({ s with failures := s.failures + 1, store := store }, .error ("record key manifest: " ++ err))
  | (store, .ok ()) =>
    ({ s with snapshot := some snapshot, successes := s.successes + 1, store := store }, .ok ())

/-- What happens: a reload of this set, or another process has the store record a manifest. -/
inductive KeyEvent where
  | reload (chance : ReloadChance)
  | recordedElsewhere (manifest : KeyManifest) (fate : RecordFate)

def keySetMachine : Machine KeySetState KeyEvent (Except String Unit) where
  step s
    | .reload chance => s.reload config keeps chance
    | .recordedElsewhere manifest fate =>
      let recorded := s.store.record keeps manifest fate
      ({ s with store := recorded.1 }, recorded.2)

end Reload

/-- The set before its first reload. -/
def KeySetState.start (store : KeyStore) : KeySetState :=
  { snapshot := none, successes := 0, failures := 0, store := store }

/-! ## The keys in use -/

/-- `Stats().Generation`. -/
def KeySetState.generation (s : KeySetState) : Nat :=
  match s.snapshot with
  | none => 0
  | some snapshot => snapshot.manifest.generation

def KeySetState.currentSigningKey (s : KeySetState) (now : Int) :
    Except String (String × PrivateKey) :=
  match s.snapshot with
  | none => .error "active private signing key is unavailable"
  | some snapshot =>
  match snapshot.privateKey, snapshot.manifest.keys.get? snapshot.manifest.activeKeyId with
  | none, _ => .error "active private signing key is unavailable"
  | some _, none => .error "active signing key is outside its valid window"
  | some key, some entry =>
  if entry.status ≠ .active ∨ entry.inWindow now = false then
    .error "active signing key is outside its valid window"
  else .ok (snapshot.manifest.activeKeyId, key)

/-- `VerificationKey`; a key the snapshot does not have is nil. -/
def KeySetState.verificationKey (s : KeySetState) (now : Int) (kid : String) :
    Except String (Option PublicKey) :=
  match s.snapshot with
  | none => .error "key manifest is unavailable"
  | some snapshot =>
  match snapshot.manifest.keys.get? kid with
  | none => .error "signing key is not accepted"
  | some entry =>
  if (entry.status ≠ .active ∧ entry.status ≠ .retiring) ∨ entry.inWindow now = false then
    .error "signing key is not accepted"
  else .ok (snapshot.publicKeys.lookup kid)

/-- The manifest in use lists the key in this way. -/
def KeySetState.Lists (s : KeySetState) (kid : String) (entry : KeyManifestEntry) : Prop :=
  ∃ snapshot, s.snapshot = some snapshot ∧ snapshot.manifest.keys.get? kid = some entry

/-! ## What a reload does -/

/-- The private key of a snapshot is the other half of its active key. -/
def KeySnapshot.Matched (snapshot : KeySnapshot) : Prop :=
  ∀ key, snapshot.privateKey = some key →
    snapshot.publicKeys.lookup snapshot.manifest.activeKeyId = some key.publicKey

variable {current : Option KeySnapshot} {manifest : KeyManifest}

variable {publicKeys : List (String × PublicKey)}

/-- The keys that are read are those in the files of the entries. -/
theorem of_mem_readVerificationKeys {file : String → Except String PublicKey}
    {entries : List KeyManifestEntry}
    (h : entries.mapM (readVerificationKey file) = .ok publicKeys) :
    ∀ pair ∈ publicKeys, pair.2.curve = "P-256"
      ∧ ∃ entry ∈ entries, entry.kid = pair.1 ∧ file entry.publicKeyPath = .ok pair.2 := by
  induction entries generalizing publicKeys with
  | nil =>
    cases h
    simp
  | cons entry _ ih =>
    rw [List.mapM_cons] at h
    obtain ⟨pair, hfirst, h⟩ := except_bind_eq_ok h
    obtain ⟨pairs, hrest, h⟩ := except_bind_eq_ok h
    cases h
    rw [List.forall_mem_cons]
    refine ⟨?_, fun pair hpair => ?_⟩
    · unfold readVerificationKey at hfirst
      split at hfirst
      · simp at hfirst
      next key hkey =>
      split_ifs at hfirst with hcurve
      cases hfirst
      exact ⟨not_not.1 hcurve, entry, List.mem_cons_self, rfl, hkey⟩
    · obtain ⟨hcurve, entry', hentry, hread⟩ := ih hrest pair hpair
      exact ⟨hcurve, entry', List.mem_cons_of_mem _ hentry, hread⟩

theorem readSigningKey_ok {config : ReloadingKeySetConfig}
    {privateKeyFile : Except String PrivateKey}
    {privateKey : Option PrivateKey} (hcurve : ∀ pair ∈ publicKeys, pair.2.curve = "P-256")
    (h : readSigningKey config privateKeyFile manifest publicKeys = .ok privateKey) :
    ∀ key, privateKey = some key → publicKeys.lookup manifest.activeKeyId = some key.publicKey := by
  rintro key rfl
  unfold readSigningKey at h
  split at h
  · simp at h
  split at h
  · simp at h
  split_ifs at h with hmatches
  have hread := Option.some.inj (Except.ok.inj h)
  rw [hread] at hmatches
  unfold matchesActive at hmatches
  split at hmatches
  · simp at hmatches
  next activePublic hlookup =>
  obtain ⟨earlier, later, hsplit, -⟩ := List.lookup_eq_some_iff.1 hlookup
  have hactive := hcurve (manifest.activeKeyId, activePublic) (by simp [hsplit])
  rw [hlookup, Option.some.injEq]
  simp only [Bool.and_eq_true, decide_eq_true_eq] at hmatches
  obtain ⟨⟨hkey, hx⟩, hy⟩ := hmatches
  rcases activePublic with ⟨curve, x, y⟩
  rcases key with ⟨⟨curve', x', y'⟩, secret⟩
  simp_all

theorem prepare_ok {config : ReloadingKeySetConfig} {chance : ReloadChance} {snapshot : KeySnapshot}
    (h : prepare config current chance = .ok (some snapshot)) :
    loadKeyManifest chance.file config.issuer chance.now
        = .ok (snapshot.manifest, snapshot.canonical)
      ∧ compareWithCurrent current snapshot.manifest snapshot.canonical = .ok true
      ∧ snapshot.manifest.keys.rows.mapM (readVerificationKey chance.publicKeyFile)
        = .ok snapshot.publicKeys
      ∧ readSigningKey config chance.privateKeyFile snapshot.manifest snapshot.publicKeys
        = .ok snapshot.privateKey := by
  obtain ⟨⟨manifest, canonical⟩, hload, h⟩ := except_bind_eq_ok h
  obtain ⟨new, hcompare, h⟩ := except_bind_eq_ok h
  cases new with
  | false => simp [pure, Except.pure] at h
  | true =>
  obtain ⟨publicKeys, hkeys, h⟩ := except_bind_eq_ok h
  obtain ⟨privateKey, hsigning, h⟩ := except_bind_eq_ok h
  cases h
  exact ⟨hload, hcompare, hkeys, hsigning⟩

/-- A snapshot is taken into use by a reload. -/
structure TakesUp (config : ReloadingKeySetConfig) (keeps : Int → Int) (s s' : KeySetState)
    (snapshot : KeySnapshot) : Prop where
  inUse : s'.snapshot = some snapshot
  issuer : snapshot.manifest.issuer = config.issuer
  matched : snapshot.Matched
  newer : ∀ old, s.snapshot = some old → old.manifest.generation < snapshot.manifest.generation
  recorded : config.recorder = true →
    s.store.recordKeyManifest keeps snapshot.manifest = .ok s'.store

theorem reload_cases (config : ReloadingKeySetConfig) (keeps : Int → Int) (s : KeySetState)
    (chance : ReloadChance) :
    (s.reload config keeps chance).1.snapshot = s.snapshot
        ∧ s.store.Advances (s.reload config keeps chance).1.store
      ∨ (s.reload config keeps chance).2 = .ok ()
        ∧ ∃ snapshot, prepare config s.snapshot chance = .ok (some snapshot)
          ∧ TakesUp config keeps s (s.reload config keeps chance).1 snapshot := by
  unfold reload
  split
  · exact .inl ⟨rfl, .refl _⟩
  · exact .inl ⟨rfl, .refl _⟩
  next snapshot hprepare =>
  have hadvances : s.store.Advances (recordSnapshot config keeps s.store snapshot chance.fate).1 := by
    unfold recordSnapshot
    split
    · exact record_advances keeps s.store snapshot.manifest chance.fate
    · exact .refl _
  split
  · next store err hrecord =>
    rw [hrecord] at hadvances
    exact .inl ⟨rfl, hadvances⟩
  next store hrecord =>
  obtain ⟨hload, hcompare, hkeys, hsigning⟩ := prepare_ok hprepare
  have hcurve := fun pair hpair => (of_mem_readVerificationKeys hkeys pair hpair).1
  refine .inr ⟨rfl, snapshot, hprepare, rfl, (loadKeyManifest_ok hload).2,
    readSigningKey_ok hcurve hsigning, ?_, ?_⟩
  · intro old hold
    rw [hold, compareWithCurrent] at hcompare
    split_ifs at hcompare with hless heq hsame
    · simp at hcompare
    · omega
  intro hrecorder
  unfold recordSnapshot at hrecord
  rw [if_pos hrecorder] at hrecord
  rcases record_cases keeps s.store snapshot.manifest chance.fate with hok | ⟨-, herror⟩
  · rw [hok, hrecord]
  · exact absurd (congrArg Prod.snd hrecord) herror

/-- What an event does: the keys in use stay, and the rows of the store go on; or a snapshot is taken
    into use. -/
theorem keySet_next_cases (config : ReloadingKeySetConfig) (keeps : Int → Int) (s : KeySetState)
    (e : KeyEvent) :
    ((keySetMachine config keeps).next s e).snapshot = s.snapshot
        ∧ s.store.Advances ((keySetMachine config keeps).next s e).store
      ∨ ∃ snapshot, TakesUp config keeps s ((keySetMachine config keeps).next s e) snapshot := by
  cases e with
  | reload chance =>
    exact (reload_cases config keeps s chance).imp_right fun ⟨_, snapshot, _, h⟩ => ⟨snapshot, h⟩
  | recordedElsewhere manifest fate =>
    exact .inl ⟨rfl, record_advances keeps s.store manifest fate⟩

section Steps

variable {config : ReloadingKeySetConfig} {keeps : Int → Int}

theorem generation_le_next (s : KeySetState) (e : KeyEvent) :
    s.generation ≤ ((keySetMachine config keeps).next s e).generation := by
  unfold generation
  rcases keySet_next_cases config keeps s e with ⟨hsame, -⟩ | ⟨snapshot, h⟩
  · exact Nat.le_of_eq (by rw [hsame])
  rw [h.inUse]
  cases hold : s.snapshot with
  | none => exact Nat.zero_le _
  | some old => exact Nat.le_of_lt (h.newer old hold)

/-- What is kept: the private key in use is the other half of the active key, and with a recorder
    every key in use is in the store, with its status if that is a final one. -/
structure KeySetInv (config : ReloadingKeySetConfig) (s : KeySetState) : Prop where
  matched : ∀ snapshot, s.snapshot = some snapshot → snapshot.Matched
  recorded : config.recorder = true → ∀ kid entry, s.Lists kid entry →
    ∃ row, s.store.rows.get? (config.issuer, kid) = some row
      ∧ (entry.status.isFinal = true → row.status = entry.status)

variable {s : KeySetState}

theorem KeySetInv.next (inv : KeySetInv config s) (e : KeyEvent) :
    KeySetInv config ((keySetMachine config keeps).next s e) := by
  rcases keySet_next_cases config keeps s e with ⟨hsame, hadvances⟩ | ⟨snapshot, h⟩
  · refine ⟨?_, ?_⟩
    · rw [hsame]
      exact inv.matched
    rintro hrecorder kid entry ⟨snapshot, hsnapshot, hentry⟩
    rw [hsame] at hsnapshot
    obtain ⟨row, hrow, hstatus⟩ := inv.recorded hrecorder kid entry ⟨snapshot, hsnapshot, hentry⟩
    obtain ⟨row', hrow', hkept⟩ := hadvances _ row hrow
    refine ⟨row', hrow', ?_⟩
    intro hfinal
    have hrowStatus := hstatus hfinal
    exact (hkept (hrowStatus ▸ hfinal)).trans hrowStatus
  · refine ⟨?_, ?_⟩
    · intro snapshot' hsnapshot'
      obtain rfl := Option.some.inj (h.inUse.symm.trans hsnapshot')
      exact h.matched
    rintro hrecorder kid entry ⟨snapshot', hsnapshot', hentry⟩
    obtain rfl := Option.some.inj (h.inUse.symm.trans hsnapshot')
    obtain ⟨-, hrecords⟩ := recordKeyManifest_ok (h.recorded hrecorder)
    obtain ⟨row, hrow, hstatus⟩ := (hrecords entry (mem_of_get? hentry)).1
    rw [h.issuer, key_of_get? hentry] at hrow
    exact ⟨row, hrow, fun _ => hstatus⟩

/-! ## A key that was given up -/

/-- The store has given the key up, and the manifest in use agrees if it lists the key. -/
def Barred (config : ReloadingKeySetConfig) (kid : String) (s : KeySetState) : Prop :=
  ∃ row, s.store.rows.get? (config.issuer, kid) = some row ∧ row.status.isFinal = true
    ∧ ∀ entry, s.Lists kid entry → entry.status = row.status

variable {kid : String}

theorem Barred.next (hrecorder : config.recorder = true)
    (hbarred : Barred config kid s) (e : KeyEvent) :
    Barred config kid ((keySetMachine config keeps).next s e) := by
  obtain ⟨row, hrow, hfinal, hlisted⟩ := hbarred
  rcases keySet_next_cases config keeps s e with ⟨hsame, hadvances⟩ | ⟨snapshot, h⟩
  · obtain ⟨row', hrow', hkept⟩ := hadvances _ row hrow
    have hstatus := hkept hfinal
    refine ⟨row', hrow', hstatus ▸ hfinal, ?_⟩
    rintro entry ⟨snapshot, hsnapshot, hentry⟩
    rw [hsame] at hsnapshot
    exact (hlisted entry ⟨snapshot, hsnapshot, hentry⟩).trans hstatus.symm
  -- The key may have been removed and listed again: the record knows it.
  obtain ⟨hadvances, hrecords⟩ := recordKeyManifest_ok (h.recorded hrecorder)
  obtain ⟨row', hrow', hkept⟩ := hadvances _ row hrow
  have hstatus := hkept hfinal
  refine ⟨row', hrow', hstatus ▸ hfinal, ?_⟩
  rintro entry ⟨snapshot', hsnapshot', hentry⟩
  obtain rfl := Option.some.inj (h.inUse.symm.trans hsnapshot')
  rw [hstatus]
  refine (hrecords entry (mem_of_get? hentry)).2 row ?_ hfinal
  rw [h.issuer, key_of_get? hentry]
  exact hrow

theorem Barred.refused (hbarred : Barred config kid s) (now : Int) :
    ∃ text, s.verificationKey now kid = .error text := by
  obtain ⟨row, -, hfinal, hlisted⟩ := hbarred
  unfold verificationKey
  split
  · exact ⟨_, rfl⟩
  next snapshot hsnapshot =>
  split
  · exact ⟨_, rfl⟩
  next entry hentry =>
  have hstatus : entry.status.isFinal = true := by
    rw [hlisted entry ⟨snapshot, hsnapshot, hentry⟩]
    exact hfinal
  rw [if_pos]
  · exact ⟨_, rfl⟩
  · refine .inl ⟨?_, ?_⟩ <;> rintro heq <;> simp [heq, KeyStatus.isFinal] at hstatus

theorem KeySetInv.verifies (inv : KeySetInv config s) {now : Int}
    {key : PrivateKey} (h : s.currentSigningKey now = .ok (kid, key)) :
    s.verificationKey now kid = .ok (some key.publicKey) := by
  unfold currentSigningKey at h
  split at h
  · simp at h
  next snapshot hsnapshot =>
  split at h
  · simp at h
  · simp at h
  next key' entry hkey hentry =>
  split_ifs at h with hwindow
  obtain ⟨rfl, rfl⟩ := Prod.mk.inj (Except.ok.inj h)
  unfold verificationKey
  rw [hsnapshot]
  dsimp only
  rw [hentry]
  dsimp only
  rw [if_neg, inv.matched snapshot hsnapshot key' hkey]
  rintro (⟨hstatus, -⟩ | hnow)
  · exact hwindow (.inl hstatus)
  · exact hwindow (.inr hnow)

/-! ## The key of an id -/

variable {keyOf : String → PublicKey}

/-- The files behind the paths of a manifest hold the keys that belong to their ids. -/
def KeyEvent.Keeps (keyOf : String → PublicKey) : KeyEvent → Prop
  | reload chance => ∀ manifest canonical, chance.file = .manifest manifest canonical →
      ∀ entry ∈ manifest.keys.rows, ∀ key, chance.publicKeyFile entry.publicKeyPath = .ok key →
        key = keyOf entry.kid
  | recordedElsewhere .. => True

/-- The keys in use belong to their ids. -/
def Serves (keyOf : String → PublicKey) (s : KeySetState) : Prop :=
  ∀ snapshot, s.snapshot = some snapshot → ∀ pair ∈ snapshot.publicKeys, pair.2 = keyOf pair.1

theorem Serves.next (h : Serves keyOf s) {e : KeyEvent} (hkeeps : e.Keeps keyOf) :
    Serves keyOf ((keySetMachine config keeps).next s e) := by
  cases e with
  | recordedElsewhere => exact h
  | reload chance =>
    intro snapshot' hsnapshot' pair hpair
    rcases reload_cases config keeps s chance with ⟨hsame, -⟩ | ⟨-, snapshot, hprepare, htakes⟩
    · exact h snapshot' (hsame.symm.trans hsnapshot') pair hpair
    obtain rfl := Option.some.inj (htakes.inUse.symm.trans hsnapshot')
    obtain ⟨hload, -, hkeys, -⟩ := prepare_ok hprepare
    obtain ⟨-, entry, hentry, hkid, hfile⟩ := of_mem_readVerificationKeys hkeys pair hpair
    rw [← hkid]
    exact hkeeps _ _ (loadKeyManifest_ok hload).1 entry hentry pair.2 hfile

theorem Serves.key_eq (h : Serves keyOf s) {now : Int} {kid : String} {key : PublicKey}
    (hkey : s.verificationKey now kid = .ok (some key)) : key = keyOf kid := by
  unfold verificationKey at hkey
  split at hkey
  · simp at hkey
  next snapshot hsnapshot =>
  split at hkey
  · simp at hkey
  split_ifs at hkey
  obtain ⟨earlier, later, hsplit, -⟩ := List.lookup_eq_some_iff.1 (Except.ok.inj hkey)
  exact h snapshot hsnapshot (kid, key) (by simp [hsplit])

end Steps

/-- Over every history of reloads, from any store, with other processes recording in it as well: the
    generation in use does not decrease; a reload that fails leaves the keys in use; a signing key is
    verified by its public half; and with a recorder a key that a manifest in use has listed as revoked
    or expired is never accepted again. -/
theorem reloads_sound (config : ReloadingKeySetConfig) (keeps : Int → Int) (store : KeyStore)
    (before after : List KeyEvent) :
    let machine := keySetMachine config keeps
    let s := machine.run (.start store) before
    let s' := machine.run s after
    s.generation ≤ s'.generation ∧ (∀ chance text, machine.answer s (.reload chance) = .error text →
          (machine.next s (.reload chance)).snapshot = s.snapshot)
      ∧ (∀ now kid key, s.currentSigningKey now = .ok (kid, key) →
          s.verificationKey now kid = .ok (some key.publicKey))
      ∧ (config.recorder = true → ∀ kid entry, s.Lists kid entry → entry.status.isFinal = true →
          ∀ now, ∃ text, s'.verificationKey now kid = .error text) := by
  intro machine s s'
  have inv : KeySetInv config s := by
    refine machine.run_induction (P := KeySetInv config) (fun _ e hinv => hinv.next e) ⟨?_, ?_⟩ before
    · intro snapshot hsnapshot
      simp [start] at hsnapshot
    · rintro - kid entry ⟨snapshot, hsnapshot, -⟩
      simp [start] at hsnapshot
  refine ⟨?_, ?_, fun now kid key => inv.verifies, ?_⟩
  · exact machine.run_induction (P := fun t => s.generation ≤ t.generation)
      (fun t e ht => Nat.le_trans ht (generation_le_next t e)) (Nat.le_refl _) after
  · intro chance text htext
    rcases reload_cases config keeps s chance with ⟨hsame, -⟩ | ⟨hok, -⟩
    · exact hsame
    · exact absurd (htext.symm.trans hok) (by simp)
  intro hrecorder kid entry hlists hfinal now
  obtain ⟨row, hrow, hstatus⟩ := inv.recorded hrecorder kid entry hlists
  have hbarred : Barred config kid s := by
    refine ⟨row, hrow, hstatus hfinal ▸ hfinal, ?_⟩
    rintro entry' ⟨snapshot', hsnapshot', hentry'⟩
    obtain ⟨snapshot, hsnapshot, hentry⟩ := hlists
    obtain rfl := Option.some.inj (hsnapshot.symm.trans hsnapshot')
    rw [← Option.some.inj (hentry.symm.trans hentry')]
    exact (hstatus hfinal).symm
  have hbarred' : Barred config kid s' :=
    machine.run_induction (P := Barred config kid) (fun _ e h => h.next hrecorder e) hbarred after
  exact hbarred'.refused now

/-- Over every history of reloads in which the files hold the keys of their ids, an id that is accepted
    twice has the same key. -/
theorem verification_key_kept (config : ReloadingKeySetConfig) (keeps : Int → Int) (store : KeyStore)
    (keyOf : String → PublicKey) (before after : List KeyEvent)
    (hkeeps : ∀ e ∈ before ++ after, e.Keeps keyOf) (now now' : Int) (kid : String)
    (key key' : PublicKey) :
    let machine := keySetMachine config keeps
    let s := machine.run (.start store) before
    s.verificationKey now kid = .ok (some key) →
      (machine.run s after).verificationKey now' kid = .ok (some key') → key' = key := by
  intro machine s hkey hkey'
  have hserves : ∀ events, (∀ e ∈ events, e.Keeps keyOf) →
      Serves keyOf (machine.run (.start store) events) := by
    intro events hevents
    refine machine.run_induction_of_trace (C := fun _ e => e.Keeps keyOf)
      (fun _ _ hkeeps h => h.next hkeeps) ?_
      fun x hx => hevents x.call (Machine.call_mem_of_mem_trace hx)
    intro snapshot hsnapshot
    simp [start] at hsnapshot
  rw [← machine.run_append] at hkey'
  rw [(hserves before fun e he => hkeeps e (List.mem_append_left _ he)).key_eq hkey,
    (hserves _ hkeeps).key_eq hkey']

section Sample

def sampleReload (generation : Nat) (activeKeyId : String) (keys : List KeyManifestEntry)
    (nodup : (keys.map KeyManifestEntry.kid).Nodup) : ReloadChance where
  now := 50
  file := .manifest { issuer := "hnb", generation, activeKeyId, keys := ⟨keys, nodup⟩ }
    (toString generation)
  publicKeyFile path := .ok { curve := "P-256", x := path.length, y := 1 }
  privateKeyFile := .error "there is none"

def sampleKey (kid : String) (status : KeyStatus) : KeyManifestEntry :=
  { kid, publicKeyPath := "/keys/" ++ kid, status, notBefore := 1, notAfter := 100 }

/-- k1 is active, then it is revoked and k2 takes its place. -/
def sampleRotation : List KeyEvent :=
  [.reload (sampleReload 1 "k1" [sampleKey "k1" .active] (by decide)),
    .reload (sampleReload 2 "k2" [sampleKey "k1" .revoked, sampleKey "k2" .active] (by decide))]

/-- k1 is removed, and listed again. -/
def sampleRelisting : List KeyEvent :=
  [.reload (sampleReload 3 "k2" [sampleKey "k2" .active] (by decide)),
    .reload (sampleReload 4 "k2" [sampleKey "k1" .retiring, sampleKey "k2" .active] (by decide))]

def sampleConfig : ReloadingKeySetConfig := { issuer := "hnb", signs := false, recorder := true }

/-- A revoked key that is removed and listed again is refused, and so is the manifest. -/
theorem reloads_sound_of_relisted :
    let machine := keySetMachine sampleConfig id
    let s := machine.run (.start ⟨.empty, []⟩) sampleRotation
    let s' := machine.run s sampleRelisting
    s.Lists "k1" (sampleKey "k1" .revoked) ∧ s'.generation = 3 ∧ s'.failures = 1
      ∧ ∃ text, s'.verificationKey 50 "k1" = .error text := by
  have hlists : ((keySetMachine sampleConfig id).run (.start ⟨.empty, []⟩) sampleRotation).Lists
      "k1" (sampleKey "k1" .revoked) := ⟨_, rfl, rfl⟩
  refine ⟨hlists, by decide +kernel, by decide +kernel, ?_⟩
  exact (reloads_sound sampleConfig id ⟨.empty, []⟩ sampleRotation sampleRelisting).2.2.2 rfl "k1"
    _ hlists rfl 50

/-- k1 is active, with this key in its file. -/
def sampleKeyFile (generation : Nat) (key : PublicKey) : KeyEvent :=
  .reload { sampleReload generation "k1" [sampleKey "k1" .active] (by decide) with
    publicKeyFile := fun _ => .ok key }

theorem verification_key_kept_of_reload :
    let machine := keySetMachine sampleConfig id
    let s := machine.run (.start ⟨.empty, []⟩) [sampleKeyFile 1 ⟨"P-256", 1, 1⟩]
    ∃ key key', s.verificationKey 50 "k1" = .ok (some key)
      ∧ (machine.run s [sampleKeyFile 2 ⟨"P-256", 1, 1⟩]).verificationKey 50 "k1" = .ok (some key')
      ∧ key' = key := by
  refine ⟨_, _, rfl, rfl, verification_key_kept sampleConfig id ⟨.empty, []⟩
    (fun _ => ⟨"P-256", 1, 1⟩) [sampleKeyFile 1 ⟨"P-256", 1, 1⟩] [sampleKeyFile 2 ⟨"P-256", 1, 1⟩]
    ?_ 50 50 "k1" _ _ rfl rfl⟩
  simp only [List.cons_append, List.nil_append, List.forall_mem_cons]
  refine ⟨?_, ?_, by simp⟩ <;> rintro _ _ - _ - _ ⟨⟩ <;> rfl

/-- The file behind an unchanged path is replaced, and the id has another key. -/
theorem replaced_file_changes_key :
    let machine := keySetMachine sampleConfig id
    let s := machine.run (.start ⟨.empty, []⟩) [sampleKeyFile 1 ⟨"P-256", 1, 1⟩]
    s.verificationKey 50 "k1" = .ok (some ⟨"P-256", 1, 1⟩)
      ∧ (machine.run s [sampleKeyFile 2 ⟨"P-256", 2, 2⟩]).verificationKey 50 "k1"
        = .ok (some ⟨"P-256", 2, 2⟩) :=
  ⟨rfl, rfl⟩

end Sample

end HnbCloud.Iam
