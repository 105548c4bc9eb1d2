import HnbCloud.Iam.Authorization
import HnbCloud.Lib.Table
import HnbCloud.Lib.Text

set_option autoImplicit false

/-! # Manifests of signing keys

`KeyManifest` of the iam package: the public lifecycle of the signing keys of one issuer, read from a
file. `loadKeyManifest` is modelled from the decoded document on; a file that cannot be read or decoded
is an error with some text. Instants are counted from the zero time. -/

namespace HnbCloud.Iam

/-- `KeyStatus`, a text. -/
inductive KeyStatus where
  | pending
  | active
  | retiring
  | revoked
  | expired
  | other (text : String)
deriving DecidableEq, Repr

namespace KeyStatus

def text : KeyStatus → String
  | pending => "pending"
  | active => "active"
  | retiring => "retiring"
  | revoked => "revoked"
  | expired => "expired"
  | other text => text

/-- The key is not to come back. -/
def isFinal : KeyStatus → Bool
  | revoked | expired => true
  | _ => false

/-- The status is one of those the programs know. -/
def isKnown : KeyStatus → Bool
  | other _ => false
  | _ => true

end KeyStatus

/-- `KeyManifestEntry`, with the id it is listed under. -/
structure KeyManifestEntry where
  (kid publicKeyPath : String)
  status : KeyStatus
  (notBefore notAfter : Int)

structure KeyManifest where
  issuer : String
  generation : Nat
  activeKeyId : String
  keys : Table KeyManifestEntry String KeyManifestEntry.kid

def KeyManifestEntry.inWindow (entry : KeyManifestEntry) (now : Int) : Bool :=
  entry.notBefore ≤ now && now < entry.notAfter

/-! ## Transitions -/

def validKeyStatusTransition (oldStatus newStatus : KeyStatus) : Bool :=
  if oldStatus = newStatus then true
  else
  match oldStatus with
  | .pending => newStatus = .active || newStatus = .revoked || newStatus = .expired
  | .active => newStatus = .retiring || newStatus = .revoked
  | .retiring => newStatus = .revoked || newStatus = .expired
  | _ => false

theorem eq_of_validKeyStatusTransition {oldStatus newStatus : KeyStatus}
    (h : validKeyStatusTransition oldStatus newStatus = true) (hfinal : oldStatus.isFinal = true) :
    newStatus = oldStatus := by
  by_cases heq : oldStatus = newStatus
  · exact heq.symm
  · cases oldStatus <;> simp_all [validKeyStatusTransition, KeyStatus.isFinal]

def entryTransitionError (oldEntry : KeyManifestEntry) (next : KeyManifest) : Option String :=
  match next.keys.get? oldEntry.kid with
  | none =>
    if oldEntry.status.isFinal then none
    else some ("key " ++ quoted oldEntry.kid ++ " cannot be removed before revocation or expiry")
  | some newEntry =>
  if validKeyStatusTransition oldEntry.status newEntry.status = false then
    some ("key " ++ quoted oldEntry.kid ++ " has forbidden status transition "
      ++ oldEntry.status.text ++ " -> " ++ newEntry.status.text)
  else if oldEntry.notBefore ≠ newEntry.notBefore ∨ oldEntry.notAfter ≠ newEntry.notAfter
      ∨ oldEntry.publicKeyPath ≠ newEntry.publicKeyPath then
    some ("key " ++ quoted oldEntry.kid ++ " immutable metadata changed")
  else none

def validateManifestTransition (previous next : KeyManifest) : Except String Unit :=
  match previous.keys.rows.findSome? fun oldEntry => entryTransitionError oldEntry next with
  | some err => .error err
  | none => .ok ()

/-! ## Loading -/

def validManifestKeyId (kid : String) : Bool :=
  boundedClaim kid 128 && kid.toList.all fun c =>
    ('a' ≤ c && c ≤ 'z') || ('A' ≤ c && c ≤ 'Z') || ('0' ≤ c && c ≤ '9') || c = '.' || c = '_'
      || c = '-'

/-- `validateAbsolutePath`: the path is absolute, and cleaning it changes nothing. -/
def isCleanAbsolutePath (path : String) : Bool :=
  match path.toList with
  | '/' :: rest =>
    rest.isEmpty || (rest.splitOn '/').all fun part =>
      !part.isEmpty && part != ['.'] && part != ['.', '.']
  | _ => false

/-- What is wrong with an entry at this instant. -/
def entryError (manifest : KeyManifest) (now : Int) (entry : KeyManifestEntry) : Option String :=
  let kid := quoted entry.kid
  if validManifestKeyId entry.kid = false ∨ entry.notBefore = 0 ∨ entry.notAfter = 0
      ∨ entry.notAfter ≤ entry.notBefore then
    some ("key manifest entry " ++ kid ++ " has an invalid identity or time window")
  else if isCleanAbsolutePath entry.publicKeyPath = false then
    some ("key manifest entry " ++ kid ++ ": public key path must be a clean absolute path")
  else
  match entry.status with
  | .pending =>
    if entry.notAfter ≤ now then some ("pending key " ++ kid ++ " has already expired") else none
  | .revoked => none
  | .active =>
    if entry.kid ≠ manifest.activeKeyId ∨ entry.inWindow now = false then
      some "active key is outside its valid window or does not match activeKeyId"
    else none
  | .retiring =>
    if entry.inWindow now = false then
      some ("retiring key " ++ kid ++ " is outside its valid window")
    else none
  | .expired =>
    if now < entry.notAfter then some ("expired key " ++ kid ++ " has not reached notAfter")
    else none
  | .other _ => some ("key manifest entry " ++ kid ++ " has an invalid status")

/-- What is in the manifest file: nothing that can be read and decoded, or a manifest, with the bytes
    it is encoded to. -/
inductive ManifestFile where
  | unreadable (text : String)
  | manifest (manifest : KeyManifest) (canonical : String)

def loadKeyManifest (file : ManifestFile) (issuer : String) (now : Int) :
    Except String (KeyManifest × String) :=
  match file with
  | .unreadable text => .error text
  | .manifest manifest canonical =>
  if manifest.issuer ≠ issuer ∨ boundedClaim manifest.issuer 2048 = false
      ∨ manifest.generation = 0 ∨ 2 ^ 63 - 1 < manifest.generation
      ∨ validManifestKeyId manifest.activeKeyId = false ∨ manifest.keys.rows = []
      ∨ 64 < manifest.keys.rows.length then
    .error "key manifest header is invalid"
  else
  match manifest.keys.rows.findSome? (entryError manifest now) with
  | some err => .error err
  | none =>
  if manifest.keys.rows.countP (fun entry => entry.status = .active) ≠ 1 then
    .error "key manifest must contain exactly one active key"
  else .ok (manifest, canonical)

theorem loadKeyManifest_ok {file : ManifestFile} {issuer canonical : String} {now : Int}
    {manifest : KeyManifest} (h : loadKeyManifest file issuer now = .ok (manifest, canonical)) :
    file = .manifest manifest canonical ∧ manifest.issuer = issuer := by
  unfold loadKeyManifest at h
  split at h
  · simp at h
  split at h
  · simp at h
  next hheader =>
  split at h
  · simp at h
  split at h
  · simp at h
  cases h
  refine ⟨rfl, ?_⟩
  by_contra hne
  exact hheader (.inl hne)

end HnbCloud.Iam
