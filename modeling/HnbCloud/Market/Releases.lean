import HnbCloud.Lib.Pool
import HnbCloud.Lib.Table
import HnbCloud.Lib.Text
import HnbCloud.Lib.Uuid

set_option autoImplicit false

/-! # Releases of the app market

`ReleaseRepo` and the handlers of app-market that create, change, delete and publish releases. A
handler reads a release in one statement and writes it in another; the pool of handlers serves its
requests in any interleaving of these.

A transaction of the repository is one operation here: it locks the row of the release with its first
statement. The join of `products` and `publishers` is a list of the products with their tenants. The
digest of a manifest is given by a function. Ids are taken as the database writes them. -/

namespace HnbCloud.Market

/-! ## The tables -/

inductive ReleaseStatus where
  | draft
  | published
  | superseded
  | withdrawn
deriving DecidableEq, Repr

/-- `Release`, and a row of `releases`. -/
structure Release where
  (id productId version releaseNotes : String)
  /-- `nil` is `null`. -/
  manifest : Json
  manifestDigest : String
  status : ReleaseStatus
  createdBy : String
  createdAt : Int
  publishedAt : Option Int

/-- `ArtifactVerificationStatus`. -/
inductive VerificationStatus where
  | pending
  | verified
  | failed
deriving DecidableEq, Repr

/-- `ArtifactLifecycleState`. -/
inductive LifecycleState where
  | active
  | tombstoned
  | deleting
  | deleted
deriving DecidableEq, Repr

/-- A row of `artifacts`. -/
structure Artifact where
  (id tenantId digest : String)
  verificationStatus : VerificationStatus
  lifecycleState : LifecycleState

/-- The artifact may be part of a release. -/
def Artifact.isUsable (a : Artifact) : Bool :=
  a.verificationStatus = .verified && a.lifecycleState = .active

/-- A row of `release_artifacts`. -/
structure ReleaseArtifact where
  (releaseId artifactId purpose : String)
  position : Nat
  digest : String
deriving DecidableEq, Repr

/-- The primary key of `release_artifacts`. -/
def ReleaseArtifact.key (ra : ReleaseArtifact) : String × String × String :=
  (ra.releaseId, ra.artifactId, ra.purpose)

/-- The tables. -/
structure MarketState where
  /-- Every product, with the tenant of its publisher. -/
  products : List (String × String)
  artifacts : List Artifact
  releases : Table Release String Release.id
  releaseArtifacts : List ReleaseArtifact

/-- An error of the repository. -/
inductive RepoError where
  /-- `sql.ErrNoRows`. -/
  | noRows
  /-- Any other error, with its text. -/
  | other (text : String)
deriving DecidableEq, Repr

def MarketState.owns (s : MarketState) (tenantId productId : String) : Bool :=
  s.products.contains (productId, tenantId)

def MarketState.artifactsOf (s : MarketState) (releaseId : String) : List ReleaseArtifact :=
  s.releaseArtifacts.filter fun ra => ra.releaseId == releaseId

/-! ## Manifests -/

/-- `releaseArtifactRef`. -/
structure ArtifactRef where
  (name digest purpose : String)

def ArtifactRef.decode (value : Json) : Option ArtifactRef := do
  let fields ← value.fields?
  let name ← Json.decodeText "name" fields
  let digest ← Json.decodeText "digest" fields
  let purpose ← Json.decodeText "purpose" fields
  return { name := name, digest := digest, purpose := purpose }

/-- A slice of references. -/
def assignRefs (_ : List ArtifactRef) : Json → Option (List ArtifactRef)
  | .arr items => items.mapM ArtifactRef.decode
  | .null => some []
  | _ => none

/-- `releaseDigestPattern`. -/
def isReleaseDigest (digest : String) : Bool :=
  digest.toList.take 7 == "sha256:".toList && (digest.toList.drop 7).length == 64
    && (digest.toList.drop 7).all fun c => ('0' ≤ c ∧ c ≤ '9') ∨ ('a' ≤ c ∧ c ≤ 'f')

def extractReleaseArtifactRefs (manifest : Json) : Except RepoError (List ArtifactRef) :=
  match manifest.fields?.bind (Json.decodeField assignRefs [] "artifacts") with
  | none => .error (.other "json: cannot unmarshal the manifest")
  | some refs =>
  match refs.find? fun ref => isReleaseDigest ref.digest == false with
  | some ref => .error (.other ("invalid artifact reference: artifact " ++ quoted ref.name
      ++ " must use lowercase sha256 digest"))
  | none => .ok refs

/-- `EncodeReleaseManifest`, the manifest that is stored. -/
def encodeReleaseManifest : Json → Json
  | .null => .obj []
  | manifest => manifest

/-- `jsonb_array_length(manifest->'artifacts')`, 0 if there is no such field; what is no array is an
    error of the statement. -/
def artifactCount : Json → Option Nat
  | .obj fields =>
    match fields.find? fun field => field.1 == "artifacts" with
    | none => some 0
    | some (_, .arr items) => some items.length
    | some _ => none
  | _ => some 0

/-! ## The repository -/

section Repo

variable (digest : Json → String) (s : MarketState)

/-- `insertReleaseArtifact`: a row for every artifact of the tenant with this digest. -/
def insertReleaseArtifact (artifacts : List Artifact) (releaseId tenantId : String)
    (rows : List ReleaseArtifact) (ref : ArtifactRef × Nat) :
    Except RepoError (List ReleaseArtifact) :=
  let purpose := if ref.1.purpose = "" then "runtime" else ref.1.purpose
  let found := artifacts.filter fun a =>
    a.tenantId == tenantId && a.digest == ref.1.digest && a.isUsable
  let new := found.map fun a => ReleaseArtifact.mk releaseId a.id purpose ref.2 a.digest
  if new = [] ∨ new.any (fun ra => (rows.map ReleaseArtifact.key).contains ra.key) then
    .error (.other ("invalid artifact reference: artifact " ++ quoted ref.1.name))
  else .ok (rows ++ new)

/-- The artifacts of a release are put in, in the order of the manifest. -/
def insertReleaseArtifacts (artifacts : List Artifact) (releaseId tenantId : String)
    (refs : List ArtifactRef) (rows : List ReleaseArtifact) :
    Except RepoError (List ReleaseArtifact) :=
  refs.zipIdx.foldlM (insertReleaseArtifact artifacts releaseId tenantId) rows

/-- The unique index on product and version has another row under these. -/
def MarketState.versionTaken (id productId version : String) : Bool :=
  s.releases.rows.any fun r => r.id != id && r.productId == productId && r.version == version

/-- `Create`: the tables afterwards, and the release as it is answered. -/
def MarketState.create (now : Int) (rel : Release) (tenantId : String) :
    Except RepoError (MarketState × Release) := do
  let refs ← extractReleaseArtifactRefs rel.manifest
  let manifest := encodeReleaseManifest rel.manifest
  let rel := { rel with manifest := manifest, manifestDigest := digest manifest }
  if s.owns tenantId rel.productId = false then throw .noRows
  if s.versionTaken rel.id rel.productId rel.version then
    throw (.other "duplicate key value violates unique constraint \"idx_releases_product_version\"")
  match s.releases.insert? { rel with createdAt := now, publishedAt := none } with
  | none => throw (.other "duplicate key value violates unique constraint \"releases_pkey\"")
  | some releases =>
    let rows ← insertReleaseArtifacts s.artifacts rel.id tenantId refs s.releaseArtifacts
    return ({ s with releases := releases, releaseArtifacts := rows }, rel)

def MarketState.get (id tenantId : String) : Except RepoError Release :=
  match s.releases.get? id with
  | none => .error .noRows
  | some r => if s.owns tenantId r.productId then .ok r else .error .noRows

/-- What `Update` sets. -/
def Release.overwrite (r rel : Release) : Release :=
  { r with version := rel.version, releaseNotes := rel.releaseNotes, manifest := rel.manifest
           manifestDigest := rel.manifestDigest, status := rel.status }

theorem Release.id_overwrite (rel r : Release) : (r.overwrite rel).id = r.id := rfl

def MarketState.update (rel : Release) (tenantId : String) :
    Except RepoError (MarketState × Release) := do
  let refs ← extractReleaseArtifactRefs rel.manifest
  let manifest := encodeReleaseManifest rel.manifest
  let rel := { rel with manifest := manifest, manifestDigest := digest manifest }
  let stored ← s.get rel.id tenantId
  if s.versionTaken rel.id stored.productId rel.version then
    throw (.other "duplicate key value violates unique constraint \"idx_releases_product_version\"")
  let rows ← insertReleaseArtifacts s.artifacts rel.id tenantId refs
    (s.releaseArtifacts.filter fun ra => ra.releaseId != rel.id)
  return ({ s with
    releases := s.releases.update rel.id (fun r => r.overwrite rel) rel.id_overwrite
    releaseArtifacts := rows }, rel)

/-- `Delete`. The artifacts of the release go with it. -/
def MarketState.delete (id tenantId : String) :
    Except RepoError (MarketState × Unit) := do
  let _ ← s.get id tenantId
  return ({ s with
    releases := s.releases.deleteWhere fun r => r.id == id
    releaseArtifacts := s.releaseArtifacts.filter fun ra => ra.releaseId != id }, ())

/-- The conditions of `Publish` on the release and its artifacts. -/
def MarketState.isPublishable (r : Release) (tenantId : String) : Bool :=
  r.status = .draft && s.owns tenantId r.productId && !(s.artifactsOf r.id).isEmpty
    && artifactCount r.manifest == some (s.artifactsOf r.id).length
    && (s.artifactsOf r.id).all fun ra =>
      s.artifacts.all fun a => a.id != ra.artifactId || a.isUsable

/-- What `Publish` sets. -/
def Release.publish (now : Int) (r : Release) : Release :=
  { r with status := .published, publishedAt := some now }

theorem Release.id_publish (now : Int) (r : Release) : (r.publish now).id = r.id := rfl

def MarketState.publish (now : Int) (id tenantId : String) :
    Except RepoError (MarketState × Unit) :=
  match s.releases.get? id with
  | none => .error .noRows
  | some r =>
  if s.isPublishable r tenantId then
    .ok ({ s with
      releases := s.releases.update id (Release.publish now) (Release.id_publish now) }, ())
  else .error .noRows

/-! ## The operations of the handlers -/

/-- What a handler calls. -/
inductive MarketOp where
  | get (id tenantId : String)
  | create (rel : Release) (tenantId : String)
  | update (rel : Release) (tenantId : String)
  | delete (id tenantId : String)
  | publish (id tenantId : String)
  /-- `uuid.NewString()`. -/
  | newUuid

/-- What a call answers. -/
abbrev MarketOp.Reply : MarketOp → Type
  | get .. => Except RepoError Release
  | create .. => Except RepoError Release
  | update .. => Except RepoError Release
  | delete .. => Except RepoError Unit
  | publish .. => Except RepoError Unit
  | newUuid => String

/-- What becomes of a statement or a transaction: it is served, it fails, or it commits and the answer
    is lost. -/
inductive Fate where
  | served
  | failed (text : String)
  | lost (text : String)

/-- What chance decides for a call. -/
structure MarketChance where
  fate : Fate := .served
  now : Int := 0
  uuid : String := ""

/-- The answer of a read. -/
def answer {α : Type} (result : Except RepoError α) : Fate → Except RepoError α
  | .served => result
  | .failed text | .lost text => .error (.other text)

/-- The tables and the answer after a transaction. -/
def settle {α : Type} (s : MarketState) (result : Except RepoError (MarketState × α)) :
    Fate → MarketState × Except RepoError α
  | .failed text => (s, .error (.other text))
  | .served =>
    match result with
    | .error err => (s, .error err)
    | .ok (s', a) => (s', .ok a)
  | .lost text =>
    match result with
    | .error err => (s, .error err)
    | .ok (s', _) => (s', .error (.other text))

/-- The repository as a service. -/
def repo : Service MarketState MarketOp MarketOp.Reply MarketChance where
  perform s
    | .get id tenantId, n => (s, answer (s.get id tenantId) n.fate)
    | .create rel tenantId, n => settle s (s.create digest n.now rel tenantId) n.fate
    | .update rel tenantId, n => settle s (s.update digest rel tenantId) n.fate
    | .delete id tenantId, n => settle s (s.delete id tenantId) n.fate
    | .publish id tenantId, n => settle s (s.publish n.now id tenantId) n.fate
    | .newUuid, n => (s, n.uuid)

end Repo

/-! ## The handlers -/

/-- What a handler answers. -/
inductive Response where
  | error (code : Nat) (text : String)
  | release (rel : Release)
  | noContent
  | published

def writeMarketRepoError : RepoError → Response
  | .noRows => .error 404 "not found"
  | .other text => .error 500 text

/-- What is left of a request. -/
abbrev MarketProgram : Type := Program MarketOp MarketOp.Reply Response

/-- The caller of a request. -/
structure Caller where
  (tenantId subjectId : String)

/-- A request. The body of a `PATCH` is decoded over the release that was read, an invalid body to
    none. -/
inductive MarketRequest where
  | create (caller : Caller) (productId : String) (body : Option Release)
  | patch (caller : Caller) (id : String) (body : Release → Option Release)
  | delete (caller : Caller) (id : String)
  | publish (caller : Caller) (id : String)

/-- `POST /api/v1/products/{productId}/releases`. -/
def createRelease (caller : Caller) (productId : String) : Option Release → MarketProgram
  | none => .done (.error 400 "invalid body")
  | some rel =>
  .call .newUuid fun id =>
  .call (.create { rel with id := id, productId := productId, status := .draft
                            createdBy := caller.subjectId } caller.tenantId) fun
  | .error err => .done (writeMarketRepoError err)
  | .ok rel => .done (.release rel)

/-- Read the release; only a draft goes on. -/
def readDraft (caller : Caller) (id : String) (next : Release → MarketProgram) : MarketProgram :=
  .call (.get id caller.tenantId) fun
  | .error err => .done (writeMarketRepoError err)
  | .ok rel =>
    if rel.status ≠ .draft then .done (.error 409 "published release is immutable") else next rel

/-- `PATCH /api/v1/releases/{id}`. -/
def patchRelease (caller : Caller) (id : String) (body : Release → Option Release) :
    MarketProgram :=
  readDraft caller id fun rel =>
  match body rel with
  | none => .done (.error 400 "invalid body")
  | some rel =>
  .call (.update { rel with id := id, status := .draft } caller.tenantId) fun
  | .error err => .done (writeMarketRepoError err)
  | .ok rel => .done (.release rel)

/-- `DELETE /api/v1/releases/{id}`. -/
def deleteRelease (caller : Caller) (id : String) : MarketProgram :=
  readDraft caller id fun _ =>
  .call (.delete id caller.tenantId) fun
  | .error err => .done (writeMarketRepoError err)
  | .ok () => .done .noContent

/-- `POST /api/v1/releases/{id}/publish`. -/
def publishRelease (caller : Caller) (id : String) : MarketProgram :=
  .call (.publish id caller.tenantId) fun
  | .error err => .done (writeMarketRepoError err)
  | .ok () => .done .published

def MarketRequest.program : MarketRequest → MarketProgram
  | .create caller productId body => createRelease caller productId body
  | .patch caller id body => patchRelease caller id body
  | .delete caller id => deleteRelease caller id
  | .publish caller id => publishRelease caller id

/-- The tables, and the requests that are being served. -/
abbrev MarketPool : Type := Pool MarketState MarketRequest MarketOp MarketOp.Reply Response

/-- Outside these handlers the artifacts change. -/
def changeArtifacts (s : MarketState) (artifacts : List Artifact) : MarketState :=
  { s with artifacts := artifacts }

abbrev MarketEvent : Type := Pool.Event MarketRequest MarketChance (List Artifact)

/-- The app market. -/
def market (digest : Json → String) : Machine MarketPool MarketEvent Unit :=
  Pool.machine (repo digest) MarketRequest.program changeArtifacts

end HnbCloud.Market
