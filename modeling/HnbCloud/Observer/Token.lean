import HnbCloud.Iam.Authorization
import HnbCloud.Observer.Concurrency

set_option autoImplicit false

/-! # Observer tokens and the endpoint

A request to the observation endpoint comes with a token that names an observer, its lease and its
generation. `Verify` checks the token, the endpoint takes the observer's identity from its claims, and
the projector compares that identity with the message. The lease and the generation of the claims are
checked for their form; they stop at `VerifyObserverIdentity`, which returns the identity only.

A token is taken as decoded, and a signature as what `ecdsa.Verify` says of it. -/

namespace HnbCloud.Observer

open List Table Iam
open CursorRow (belongsTo belongsTo_iff)

/-! ## Tokens -/

/-- `ObserverTokenClaims`. -/
structure TokenClaims where
  (profileVersion issuer audience subjectId subjectType : String)
  identity : Identity
  observerLeaseId : String
  (observerGeneration issuedAt notBefore expiresAt : Int)
  (tokenId keyId algorithm : String)
deriving DecidableEq

structure TokenHeader where
  (type algorithm keyId : String)
deriving DecidableEq

/-- A token, as far as it can be decoded. -/
structure Token where
  size : Nat
  /-- It has three parts, none of them empty. -/
  threeParts : Bool
  header : Option TokenHeader
  /-- The length of the signature. -/
  signatureSize : Option Nat
  /-- What `ecdsa.Verify` says with the key of the header. -/
  signed : Bool
  claims : Option TokenClaims
deriving DecidableEq

/-- `ObserverTokenConfig`, with the lifetime in nanoseconds and the clock in seconds. -/
structure TokenConfig where
  (issuer audience : String)
  ttl : Int
deriving DecidableEq

/-- The target of an observer, as the database reads its id. -/
def Identity.target (id : Identity) : TargetKey := ⟨id.tenantId, uuidText id.targetId⟩

def validObserverIdentity (id : Identity) : Bool :=
  boundedClaim id.tenantId 128 && id.tenantId != "*"
    && boundedClaim id.targetId 64 && id.targetId != "*"
    && (id.targetKind == "KubernetesTarget" || id.targetKind == "EdgeRuntimeTarget")
    && boundedClaim id.observerId 256
    && (id.observerKind == "Agent" || id.observerKind == "CloudCore")
    && (id.targetKind == "KubernetesTarget") == (id.observerKind == "Agent")

/-- `time.Duration(n) * time.Second`, in 64 bits. -/
def durationOfSeconds (n : Int) : Int := (n * 1000000000).bmod (2 ^ 64)

/-- `header.Type`, `header.Algorithm` and `header.KeyID` are as they have to be. -/
def TokenHeader.supported (header : TokenHeader) : Bool :=
  header.type == "observer+jwt" && header.algorithm == "ES256" && boundedClaim header.keyId 128

/-- The check of the registered claims. -/
def TokenClaims.current (config : TokenConfig) (now : Int) (header : TokenHeader)
    (claims : TokenClaims) : Bool :=
  claims.profileVersion == "hnb.observer/v1" && claims.issuer == config.issuer
    && claims.audience == config.audience && claims.subjectType == "workload"
    && claims.keyId == header.keyId && claims.algorithm == header.algorithm
    && boundedClaim claims.tokenId 128
    && decide (0 < claims.issuedAt) && decide (0 < claims.notBefore) && decide (0 < claims.expiresAt)
    && decide (claims.issuedAt ≤ now) && decide (claims.notBefore ≤ now)
    && decide (now < claims.expiresAt) && decide (claims.issuedAt < claims.expiresAt)
    && decide (durationOfSeconds (claims.expiresAt - claims.issuedAt) ≤ config.ttl)

def TokenClaims.bound (claims : TokenClaims) : Bool :=
  validObserverIdentity claims.identity && boundedClaim claims.observerLeaseId 128
    && decide (1 ≤ claims.observerGeneration)

/-- `Verify`. The key ring gives the curve of a key that it has. -/
def verify (config : TokenConfig) (keyRing : String → Option String) (now : Int) (token : Token) :
    Except String TokenClaims :=
  if token.size = 0 ∨ 8192 < token.size then .error "invalid observer token size"
  else if token.threeParts = false then .error "invalid observer JWT"
  else match token.header with
  | none => .error "unsupported observer JWT header"
  | some header =>
  if header.supported = false then .error "unsupported observer JWT header"
  else if keyRing header.keyId ≠ some "P-256" then .error "unknown observer signing key"
  else if token.signatureSize ≠ some 64 then .error "invalid observer signature"
  else if token.signed = false then .error "invalid observer signature"
  else match token.claims with
  | none => .error "invalid observer claims"
  | some claims =>
  if claims.current config now header = false then .error "observer claims failed validation"
  else if claims.bound = false then .error "observer identity failed validation"
  else .ok claims

def verifyObserverIdentity (config : TokenConfig) (keyRing : String → Option String) (now : Int)
    (token : Token) : Except String Identity :=
  match verify config keyRing now token with
  | .error error => .error error
  | .ok claims => .ok claims.identity

/-! ## The endpoint -/

/-- The body of a request, on one of the two routes. -/
inductive Body where
  | observation (payload : Payload ObservationWire)
  | reset (payload : Payload SourceResetWire)

def Body.size : Body → Nat
  | observation payload => payload.size
  | reset payload => payload.size

/-- The message of a body for the observer of the token. `now` is in microseconds. -/
def Body.message (now : Int) (id : Identity) : Body → Message
  | observation payload => .observation now id payload
  | reset payload => .reset id payload

/-- The status of an answer: on the observation route a replay is a success. -/
def Body.status : Body → Answer → Nat
  | _, .accepted => 202
  | observation _, .replay => 200
  | observation _, .gap => 409
  | observation _, .fenced => 409
  | _, _ => 422

/-- The header `Authorization: Bearer …`, if there is one. -/
structure Request where
  bearer : Option Token
  body : Body

/-- What the endpoint is set up with. -/
structure Endpoint where
  config : TokenConfig
  keyRing : String → Option String
  hash : Content → String

/-- `handleObservation` and `handleReset`. The clock is in microseconds. -/
def Endpoint.handle (endpoint : Endpoint) (now : Int) (request : Request) (db : DB) : DB × Nat :=
  match request.bearer with
  | none => (db, 401)
  | some token =>
  match verifyObserverIdentity endpoint.config endpoint.keyRing (now / 1000000) token with
  | .error _ => (db, 401)
  | .ok id =>
  if maxObservationPayload < request.body.size then (db, 400)
  else
    let (db, answer) := (projector endpoint.hash).step db (request.body.message now id)
    (db, request.body.status answer)

def Endpoint.Applies (endpoint : Endpoint) (now : Int) (request : Request) (db : DB) : Prop :=
  (endpoint.handle now request db).2 = 202

/-- The message names the generation of the token, and a reset its lease. -/
def TokenClaims.Names (claims : TokenClaims) (message : Message) : Prop :=
  (∀ o, message.observed = some o → o.observerGeneration = claims.observerGeneration)
    ∧ ∀ reset, message.resets = some reset → reset.newObserverGeneration = claims.observerGeneration
        ∧ reset.observerLeaseId = claims.observerLeaseId

/-- If the endpoint applies the message, it names the generation and the lease of the token. -/
def Endpoint.Fences (endpoint : Endpoint) (now : Int) (request : Request) (db : DB) : Prop :=
  ∀ token claims, request.bearer = some token →
    verify endpoint.config endpoint.keyRing (now / 1000000) token = .ok claims →
    endpoint.Applies now request db → claims.Names (request.body.message now claims.identity)

/-! ## What a message says of its observer -/

theorem except_throw_bind_ne {ε α β : Type} {e : ε} {f : α → Except ε β} {b : β} :
    (throw e >>= f) ≠ .ok b := by
  simp [throw, throwThe, MonadExceptOf.throw, bind, Except.bind]

theorem except_check_eq_ok {ε β : Type} {c : Prop} [Decidable c] {e : ε}
    {f : PUnit → Except ε β} {b : β} (h : (if c then throw e >>= f else f ⟨⟩) = .ok b) :
    ¬ c ∧ f ⟨⟩ = .ok b := by
  split at h
  · exact absurd h except_throw_bind_ne
  · next hc => exact ⟨hc, h⟩

theorem except_mapError_eq_ok {ε ε' α : Type} {x : Except ε α} {f : ε → ε'} {a : α}
    (h : x.mapError f = .ok a) : x = .ok a := by
  cases x with
  | error => simp [Except.mapError] at h
  | ok => exact congrArg _ (Except.ok.inj h)

theorem except_toOption_eq_some {ε α : Type} {x : Except ε α} {a : α}
    (h : x.toOption = some a) : x = .ok a := by
  cases x with
  | error => simp [Except.toOption] at h
  | ok => exact congrArg _ (Option.some.inj h)

variable {now : Int} {id : Identity} {o : Observation}
  {payload : Payload ObservationWire} {resetPayload : Payload SourceResetWire}

theorem bound_ok {column observed expected identity : String} {u : Unit}
    (h : bound column observed expected identity = .ok u) : observed = expected := by
  unfold bound at h
  split_ifs at h with hne
  exact not_not.1 hne

theorem validateIdentityBinding_ok {raw : ObservationWire} {u : Unit}
    (h : validateIdentityBinding id raw = .ok u) :
    raw.tenantId = id.tenantId ∧ raw.targetId = id.targetId ∧ raw.observerId = id.observerId := by
  obtain ⟨_, htenant, h⟩ := except_bind_eq_ok h
  obtain ⟨_, htarget, h⟩ := except_bind_eq_ok h
  obtain ⟨_, -, h⟩ := except_bind_eq_ok h
  obtain ⟨_, hobserver, -⟩ := except_bind_eq_ok h
  exact ⟨bound_ok htenant, bound_ok htarget, bound_ok hobserver⟩

theorem validateObservation_ok (h : validateObservation now id payload = .ok o) :
    ∃ raw mode kind hnumbers, payload.decoded = some raw
      ∧ o = raw.observation mode kind hnumbers
      ∧ (raw.tenantId = id.tenantId ∧ raw.targetId = id.targetId ∧ raw.observerId = id.observerId)
      ∧ (mode = .full → ∀ node ∈ raw.nodes, node.deleted = false) := by
  unfold validateObservation at h
  obtain ⟨-, h⟩ := except_check_eq_ok h
  obtain ⟨-, h⟩ := except_check_eq_ok h
  obtain ⟨-, h⟩ := except_check_eq_ok h
  obtain ⟨_, -, h⟩ := except_bind_eq_ok h
  extract_lets decodes at h
  split at h
  · exact absurd h except_throw_bind_ne
  next raw hraw =>
  replace h : decodes raw = .ok o := h
  obtain ⟨-, h⟩ := except_check_eq_ok h
  obtain ⟨-, h⟩ := except_check_eq_ok h
  obtain ⟨-, h⟩ := except_check_eq_ok h
  split at h
  · simp [throw, throwThe, MonadExceptOf.throw] at h
  next hnumbers =>
  extract_lets moded at h
  split at h
  · exact absurd h except_throw_bind_ne
  next mode _ =>
  replace h : moded mode = .ok o := h
  obtain ⟨-, h⟩ := except_check_eq_ok h
  obtain ⟨-, h⟩ := except_check_eq_ok h
  obtain ⟨kind, -, h⟩ := except_bind_eq_ok h
  obtain ⟨_, hbinding, h⟩ := except_bind_eq_ok h
  -- What is left are the checks of the nodes and of the storage inventory.
  extract_lets stored checked at h
  obtain ⟨hnodes, h⟩ : (mode = .full → ∀ node ∈ raw.nodes, node.deleted = false)
      ∧ checked () = .ok o := by
    split at h
    · split at h
      · exact absurd h except_throw_bind_ne
      · next hfind => exact ⟨fun _ => by simpa using hfind, h⟩
    · next hmode => exact ⟨fun hfull => absurd hfull hmode, h⟩
  refine ⟨raw, mode, kind, hnumbers, hraw, ?_, validateIdentityBinding_ok hbinding, hnodes⟩
  simp only [checked] at h
  split at h
  · exact (Except.ok.inj h).symm
  · obtain ⟨-, h⟩ := except_check_eq_ok h
    obtain ⟨_, -, h⟩ := except_bind_eq_ok h
    exact (Except.ok.inj h).symm

theorem readObservation_ok (h : readObservation now id payload = .ok o) :
    ∃ valid targetId, validateObservation now id payload = .ok valid
      ∧ uuidValue? valid.targetId = some targetId ∧ o = { valid with targetId := targetId } := by
  obtain ⟨valid, hvalid, h⟩ := except_bind_eq_ok h
  split at h
  · simp [throw, throwThe, MonadExceptOf.throw] at h
  next targetId htarget =>
  exact ⟨valid, targetId, except_mapError_eq_ok hvalid, htarget, (Except.ok.inj h).symm⟩

theorem validateSourceReset_ok {reset : SourceReset}
    (h : validateSourceReset id resetPayload = .ok reset) :
    ∃ raw, resetPayload.decoded = some raw
      ∧ reset.newObserverGeneration = raw.newObserverGeneration
      ∧ reset.observerLeaseId = raw.observerLeaseId
      ∧ reset.tenantId = id.tenantId ∧ reset.targetId = id.targetId
      ∧ reset.observerId = id.observerId := by
  unfold validateSourceReset at h
  obtain ⟨-, h⟩ := except_check_eq_ok h
  obtain ⟨-, h⟩ := except_check_eq_ok h
  obtain ⟨_, -, h⟩ := except_bind_eq_ok h
  extract_lets decodes at h
  split at h
  · exact absurd h except_throw_bind_ne
  next raw hraw =>
  replace h : decodes raw = .ok reset := h
  obtain ⟨-, h⟩ := except_check_eq_ok h
  obtain ⟨-, h⟩ := except_check_eq_ok h
  obtain ⟨-, h⟩ := except_check_eq_ok h
  obtain ⟨-, h⟩ := except_check_eq_ok h
  split at h
  · simp [throw, throwThe, MonadExceptOf.throw] at h
  obtain ⟨kind, -, h⟩ := except_bind_eq_ok h
  obtain ⟨hidentity, h⟩ := except_check_eq_ok h
  obtain rfl := Except.ok.inj h
  simp only [not_or, not_not] at hidentity
  exact ⟨raw, hraw, rfl, rfl, hidentity.1, hidentity.2.1, hidentity.2.2.2.1⟩

/-- An observation is about the target and the observer of its identity, and has the generation that
    its body carries. -/
theorem readObservation_binds (h : readObservation now id payload = .ok o) :
    o.targetKey = id.target ∧ o.observerId = id.observerId
      ∧ ∃ raw, payload.decoded = some raw ∧ o.observerGeneration = raw.observerGeneration := by
  obtain ⟨valid, targetId, hvalid, htarget, rfl⟩ := readObservation_ok h
  obtain ⟨raw, mode, kind, hnumbers, hraw, rfl, ⟨htenant, hid, hobserver⟩, -⟩ :=
    validateObservation_ok hvalid
  refine ⟨?_, hobserver, raw, hraw, rfl⟩
  replace htarget : uuidValue? raw.targetId = some targetId := htarget
  simp [Observation.targetKey, Identity.target, ObservationWire.observation, htenant, ← hid, uuidText,
    htarget]

theorem readSourceReset_binds {reset : SourceReset}
    (h : readSourceReset id resetPayload = .ok reset) :
    reset.targetKey = id.target ∧ reset.observerId = id.observerId
      ∧ ∃ raw, resetPayload.decoded = some raw
        ∧ reset.newObserverGeneration = raw.newObserverGeneration
        ∧ reset.observerLeaseId = raw.observerLeaseId := by
  obtain ⟨valid, hvalid, h⟩ := except_bind_eq_ok h
  split at h
  · simp [throw, throwThe, MonadExceptOf.throw] at h
  next targetId htarget =>
  obtain rfl := Except.ok.inj h
  obtain ⟨raw, hraw, hgeneration, hlease, htenant, hid, hobserver⟩ :=
    validateSourceReset_ok (except_mapError_eq_ok hvalid)
  refine ⟨?_, hobserver, raw, hraw, hgeneration, hlease⟩
  simp [SourceReset.targetKey, Identity.target, htenant, ← hid, uuidText, htarget]

/-! ## Tokens of an old generation -/

/-- The body carries the generation of the token, and a reset its lease. -/
def Body.Carries (claims : TokenClaims) : Body → Prop
  | observation payload =>
    ∀ raw, payload.decoded = some raw → raw.observerGeneration = claims.observerGeneration
  | reset payload => ∀ raw, payload.decoded = some raw →
      raw.newObserverGeneration = claims.observerGeneration
        ∧ raw.observerLeaseId = claims.observerLeaseId

/-- What the request is presented with, its body carries. -/
def Endpoint.Carried (endpoint : Endpoint) (now : Int) (request : Request) : Prop :=
  ∀ token claims, request.bearer = some token →
    verify endpoint.config endpoint.keyRing (now / 1000000) token = .ok claims →
    request.body.Carries claims

/-- The token's observer has cursors, and all of them have left the generation of the token. -/
def TokenClaims.Outdated (claims : TokenClaims) (db : DB) : Prop :=
  (∃ row ∈ db.cursors.rows,
      row.belongsTo claims.identity.target claims.identity.observerId = true)
    ∧ ∀ row ∈ db.cursors.rows,
      row.belongsTo claims.identity.target claims.identity.observerId = true →
      claims.observerGeneration < row.observationGeneration

/-- The cursor is one of the token's observer, in the generation of the token. -/
def TokenClaims.Owns (claims : TokenClaims) (row : CursorRow) : Prop :=
  row.belongsTo claims.identity.target claims.identity.observerId = true
    ∧ row.observationGeneration = claims.observerGeneration

section Outdated

variable {claims : TokenClaims} {db db' : DB} {hash : Content → String} {sent : Message}
  {answer : Answer} {body : Body}

/-- What the message says, the body carries. -/
theorem Body.Carries.names (h : body.Carries claims) :
    claims.Names (body.message now claims.identity) := by
  cases body with
  | observation payload =>
    refine ⟨fun o hobserved => ?_, fun _ hresets => absurd hresets.symm (Option.some_ne_none _)⟩
    obtain ⟨-, -, raw, hraw, hgeneration⟩ := readObservation_binds (except_toOption_eq_some hobserved)
    exact hgeneration.trans (h raw hraw)
  | reset payload =>
    refine ⟨fun _ hobserved => absurd hobserved.symm (Option.some_ne_none _), fun reset hresets => ?_⟩
    obtain ⟨-, -, raw, hraw, hgeneration, hlease⟩ :=
      readSourceReset_binds (except_toOption_eq_some hresets)
    exact ⟨hgeneration.trans (h raw hraw).1, hlease.trans (h raw hraw).2⟩

/-- The message is about the observer of this identity. -/
theorem Body.message_binds :
    (∀ o, (body.message now id).observed = some o →
      o.targetKey = id.target ∧ o.observerId = id.observerId)
    ∧ ∀ reset, (body.message now id).resets = some reset →
      reset.targetKey = id.target ∧ reset.observerId = id.observerId := by
  cases body with
  | observation payload =>
    refine ⟨fun o hobserved => ?_, fun _ hresets => absurd hresets.symm (Option.some_ne_none _)⟩
    obtain ⟨htarget, hid, -⟩ := readObservation_binds (except_toOption_eq_some hobserved)
    exact ⟨htarget, hid⟩
  | reset payload =>
    refine ⟨fun _ hobserved => absurd hobserved.symm (Option.some_ne_none _), fun reset hresets => ?_⟩
    obtain ⟨htarget, hid, -⟩ := readSourceReset_binds (except_toOption_eq_some hresets)
    exact ⟨htarget, hid⟩

theorem TokenClaims.Outdated.loadCursor (h : claims.Outdated db) :
    ∃ current, db.loadCursor claims.identity.target claims.identity.observerId = some current
      ∧ claims.observerGeneration < current.observationGeneration := by
  obtain ⟨⟨row, hrow, hbelongs⟩, hnewer⟩ := h
  rcases hload : db.loadCursor claims.identity.target claims.identity.observerId with _ | current
  · obtain ⟨htarget, hid⟩ := belongsTo_iff.1 hbelongs
    exact absurd hid (DB.loadCursor_eq_none hload hrow htarget)
  · obtain ⟨hcurrent, hown⟩ := DB.loadCursor_eq_some hload
    exact ⟨current, rfl, hnewer current hcurrent (belongsTo_iff.2 hown)⟩

/-- A token that is outdated stays so, whatever is sent. -/
theorem Does.outdated (hdoes : Does hash db sent answer db') (h : claims.Outdated db) :
    claims.Outdated db' := by
  obtain ⟨⟨row, hrow, hbelongs⟩, hnewer⟩ := h
  cases hdoes with
  | saved o _ _ hadmitted hcursors =>
    unfold TokenClaims.Outdated
    rw [hcursors]
    simp only [mem_put]
    constructor
    · by_cases hkey : row.key = (o.cursorRow (hash o.content)).key
      · obtain ⟨htarget, hid⟩ := belongsTo_iff.1 hbelongs
        exact ⟨_, .inl rfl, belongsTo_iff.2 ⟨(congrArg CursorKey.target hkey).symm.trans htarget,
          (congrArg CursorKey.observationSourceId hkey).symm.trans hid⟩⟩
      · exact ⟨row, .inr ⟨hkey, hrow⟩, hbelongs⟩
    rintro other (rfl | ⟨-, hother⟩) hown
    · -- The observation is admitted in the generation of a cursor that is newer already.
      obtain ⟨htarget, hid⟩ := belongsTo_iff.1 hown
      rw [show o.targetKey = _ from htarget, show o.observerId = _ from hid] at hadmitted
      obtain ⟨current, hload, hgeneration⟩ :=
        TokenClaims.Outdated.loadCursor ⟨⟨row, hrow, hbelongs⟩, hnewer⟩
      rw [hload] at hadmitted
      exact hgeneration.trans_eq (admission_save hadmitted).1.symm
    · exact hnewer other hother hown
  | raised reset current _ _ hload hprevious hcursors =>
    unfold TokenClaims.Outdated
    rw [hcursors, resetCursorsOf]
    simp only [mem_updateWhere]
    constructor
    · refine ⟨_, ⟨row, hrow, rfl⟩, ?_⟩
      split <;> exact hbelongs
    rintro _ ⟨old, hold, rfl⟩ hown
    split at hown
    · next hreset =>
      rw [if_pos hreset]
      obtain ⟨htarget, hid⟩ := belongsTo_iff.1 hreset
      obtain ⟨hcurrent, htarget', hid'⟩ := DB.loadCursor_eq_some hload
      have hnew := hnewer current hcurrent (belongsTo_iff.2
        ⟨htarget'.trans (htarget.symm.trans (belongsTo_iff.1 hown).1),
          hid'.trans (hid.symm.trans (belongsTo_iff.1 hown).2)⟩)
      rw [hprevious] at hnew
      exact hnew.trans reset.increases
    · next hreset =>
      rw [if_neg hreset]
      exact hnewer old hold hown
  | refused _ _ _ hcursors =>
    unfold TokenClaims.Outdated
    rw [hcursors]
    exact ⟨⟨row, hrow, hbelongs⟩, hnewer⟩

/-- The cursors that a message writes are the ones of the token that it names. -/
theorem Does.owns (hdoes : Does hash db (body.message now claims.identity) answer db')
    (hnames : claims.Names (body.message now claims.identity)) :
    ∀ row ∈ db'.cursors.rows, row ∉ db.cursors.rows → claims.Owns row := by
  intro row hrow hnew
  cases hdoes with
  | saved o _ hvalid _ hcursors =>
    rw [hcursors, mem_put] at hrow
    rcases hrow with rfl | ⟨-, hrow⟩
    · exact ⟨belongsTo_iff.2 (Body.message_binds.1 o hvalid), hnames.1 o hvalid⟩
    · exact absurd hrow hnew
  | raised reset _ _ hvalid _ _ hcursors =>
    rw [hcursors, resetCursorsOf, mem_updateWhere] at hrow
    obtain ⟨old, hold, rfl⟩ := hrow
    split at hnew
    · next hreset =>
      rw [if_pos hreset]
      obtain ⟨htarget, hid⟩ := Body.message_binds.2 reset hvalid
      rw [htarget, hid] at hreset
      exact ⟨hreset, (hnames.2 reset hvalid).1⟩
    · exact absurd hold hnew
  | refused _ _ _ hcursors => exact absurd (hcursors ▸ hrow) hnew

/-- A message that names an outdated token is refused. -/
theorem Does.refused_of_outdated (hdoes : Does hash db (body.message now claims.identity) answer db')
    (hnames : claims.Names (body.message now claims.identity)) (h : claims.Outdated db) :
    answer ≠ .accepted ∧ db'.cursors = db.cursors ∧ db'.toProjection = db.toProjection := by
  obtain ⟨current, hload, hgeneration⟩ := h.loadCursor
  cases hdoes with
  | saved o _ hvalid hadmitted =>
    obtain ⟨htarget, hid⟩ := Body.message_binds.1 o hvalid
    rw [htarget, hid, hload] at hadmitted
    have := (admission_save hadmitted).1
    have := hnames.1 o hvalid
    omega
  | raised reset _ _ hvalid hload' hprevious =>
    obtain ⟨htarget, hid⟩ := Body.message_binds.2 reset hvalid
    rw [htarget, hid, hload] at hload'
    obtain rfl := Option.some.inj hload'
    have := (hnames.2 reset hvalid).1
    have := reset.increases
    omega
  | refused _ _ hrefused hcursors hprojection => exact ⟨hrefused, hcursors, hprojection⟩

end Outdated

/-! ## Requests one after the other -/

/-- The endpoint, one request after the other, each with the clock at which it is handled. -/
def Endpoint.requests (endpoint : Endpoint) : Machine DB (Int × Request) Nat where
  step db call := endpoint.handle call.1 call.2 db

/-- A request fails before it comes to the projector, or the projector answers it. -/
theorem Endpoint.handle_cases (endpoint : Endpoint) (now : Int) (request : Request) (db : DB) :
    (∃ status, 400 ≤ status ∧ endpoint.handle now request db = (db, status))
    ∨ ∃ token claims, request.bearer = some token
      ∧ verify endpoint.config endpoint.keyRing (now / 1000000) token = .ok claims
      ∧ endpoint.handle now request db =
        ((projector endpoint.hash).next db (request.body.message now claims.identity),
          request.body.status
            ((projector endpoint.hash).answer db (request.body.message now claims.identity))) := by
  unfold Endpoint.handle verifyObserverIdentity
  split
  · exact .inl ⟨401, by omega, rfl⟩
  next token htoken =>
  rcases hverify : verify endpoint.config endpoint.keyRing (now / 1000000) token with error | claims
  · exact .inl ⟨401, by omega, rfl⟩
  dsimp only
  split
  · exact .inl ⟨400, by omega, rfl⟩
  · exact .inr ⟨token, claims, htoken, hverify, rfl⟩

theorem Body.accepted_of_status {body : Body} {answer : Answer} (h : body.status answer = 202) :
    answer = .accepted := by
  cases body <;> cases answer <;> simp [Body.status] at h ⊢

/-- **Generation and lease of a token.** In every run of requests that carry the generation and the
    lease of their tokens, a request keeps to the generation and the lease of its token, and writes
    cursors of the token's observer and generation only. A token whose generation the cursors have
    left before the run writes nothing in it. -/
theorem tokens_fence (endpoint : Endpoint) (db : DB) (calls : List (Int × Request))
    (hcarried : ∀ call ∈ calls, endpoint.Carried call.1 call.2) :
    ∀ entry ∈ endpoint.requests.trace db calls,
      endpoint.Fences entry.call.1 entry.call.2 entry.pre
      ∧ ∀ token claims, entry.call.2.bearer = some token →
        verify endpoint.config endpoint.keyRing (entry.call.1 / 1000000) token = .ok claims →
        (∀ row ∈ entry.post.cursors.rows, row ∉ entry.pre.cursors.rows → claims.Owns row)
        ∧ (claims.Outdated db → entry.result ≠ 202 ∧ entry.post.cursors = entry.pre.cursors
          ∧ entry.post.toProjection = entry.pre.toProjection) := by
  refine endpoint.requests.trace_forall_of_trace
    (C := fun _ call => endpoint.Carried call.1 call.2)
    (P := fun s => ∀ claims : TokenClaims, claims.Outdated db → claims.Outdated s) ?_ ?_
    (fun _ h => h) (fun entry hentry => hcarried _ (Machine.call_mem_of_mem_trace hentry))
  · rintro s ⟨now, request⟩ - hs claims hold
    show claims.Outdated (endpoint.handle now request s).1
    rcases endpoint.handle_cases now request s with ⟨status, -, hhandle⟩ | ⟨_, _, -, -, hhandle⟩
    · rw [hhandle]
      exact hs claims hold
    · rw [hhandle]
      exact (projector_does endpoint.hash s _).outdated (hs claims hold)
  · rintro s ⟨now, request⟩ hcarries hs
    refine ⟨fun token claims htoken hverify _ => (hcarries token claims htoken hverify).names, ?_⟩
    intro token claims htoken hverify
    have hnames : claims.Names (request.body.message now claims.identity) :=
      (hcarries token claims htoken hverify).names
    show (∀ row ∈ (endpoint.handle now request s).1.cursors.rows, _)
      ∧ (_ → (endpoint.handle now request s).2 ≠ 202
        ∧ (endpoint.handle now request s).1.cursors = s.cursors
        ∧ (endpoint.handle now request s).1.toProjection = s.toProjection)
    rcases endpoint.handle_cases now request s with
      ⟨status, hstatus, hhandle⟩ | ⟨token', claims', htoken', hverify', hhandle⟩
    · rw [hhandle]
      exact ⟨fun row hrow hnew => absurd hrow hnew, fun _ => ⟨by dsimp only; omega, rfl, rfl⟩⟩
    · obtain rfl : token = token' := Option.some.inj (htoken.symm.trans htoken')
      obtain rfl : claims = claims' := Except.ok.inj (hverify.symm.trans hverify')
      rw [hhandle]
      have hdoes := projector_does endpoint.hash s (request.body.message now claims.identity)
      refine ⟨hdoes.owns hnames, fun hold => ?_⟩
      obtain ⟨hrefused, hsame⟩ := hdoes.refused_of_outdated hnames (hs claims hold)
      exact ⟨fun hstatus => hrefused (Body.accepted_of_status hstatus), hsame⟩

/-! ## A token of generation 1 -/

/-- The endpoint of the samples. -/
def sampleEndpoint : Endpoint where
  config := { issuer := "hnb", audience := "observer", ttl := 600000000000 }
  keyRing := fun keyId => if keyId = "k1" then some "P-256" else none
  hash := fun _ => ""

/-- The claims of a token of `observer-1`. -/
def agentClaims (generation : Int) (lease : String) : TokenClaims where
  profileVersion := "hnb.observer/v1"
  issuer := "hnb"
  audience := "observer"
  subjectId := "agent"
  subjectType := "workload"
  identity := sampleIdentity
  observerLeaseId := lease
  observerGeneration := generation
  issuedAt := 100
  notBefore := 100
  expiresAt := 400
  tokenId := "t1"
  keyId := "k1"
  algorithm := "ES256"

def agentToken (claims : TokenClaims) : Token where
  size := 900
  threeParts := true
  header := some ⟨"observer+jwt", "ES256", "k1"⟩
  signatureSize := some 64
  signed := true
  claims := some claims

def firstClaims : TokenClaims := agentClaims 1 "5d0f7c1a-3b7e-4c55-8f0e-7a9e6a1c2b06"

def firstToken : Token := agentToken firstClaims

/-- The claims for generation 2, under the lease that the reset names. -/
def secondClaims : TokenClaims := agentClaims 2 "5d0f7c1a-3b7e-4c55-8f0e-7a9e6a1c2b05"

def secondToken : Token := agentToken secondClaims

def Message.body : Message → Body
  | observation _ _ payload => .observation payload
  | reset _ payload => .reset payload

/-- Generation 1 begins, the token of generation 2 resets to it and writes under it, and the first
    token comes back with its own observation. -/
def tokenCalls : List (Int × Request) :=
  [(200000000, ⟨some firstToken, agentFirst.body⟩), (200000000, ⟨some secondToken, agentReset.body⟩),
    (200000000, ⟨some secondToken, agentThird.body⟩), (200000000, ⟨some firstToken, agentSecond.body⟩)]

theorem carried_of_verified {endpoint : Endpoint} {token : Token} (claims : TokenClaims) {body : Body}
    (hverify : verify endpoint.config endpoint.keyRing (now / 1000000) token = .ok claims)
    (hcarries : body.Carries claims) : endpoint.Carried now ⟨some token, body⟩ := by
  intro token' claims' htoken hverify'
  obtain rfl := Option.some.inj htoken
  obtain rfl := Except.ok.inj (hverify.symm.trans hverify')
  exact hcarries

theorem tokens_fence_of_reset :
    (sampleEndpoint.requests.trace registered tokenCalls).map Machine.Entry.result
        = [202, 202, 202, 409]
    ∧ ∀ entry ∈ sampleEndpoint.requests.trace registered tokenCalls,
      sampleEndpoint.Fences entry.call.1 entry.call.2 entry.pre := by
  refine ⟨by decide +kernel, fun entry hentry => ?_⟩
  refine (tokens_fence sampleEndpoint registered tokenCalls ?_ entry hentry).1
  simp only [tokenCalls, forall_mem_cons]
  refine ⟨carried_of_verified firstClaims rfl ?_, carried_of_verified secondClaims rfl ?_,
    carried_of_verified secondClaims rfl ?_, carried_of_verified firstClaims rfl ?_, by simp⟩
  all_goals
    rintro raw hraw
    obtain rfl := Option.some.inj hraw
  · rfl
  · exact ⟨rfl, rfl⟩
  · rfl
  · rfl

/-- The holder of the first token resets to generation 2 under a lease of another token, and then
    writes under generation 2. -/
theorem first_token_writes_second_generation :
    ¬ sampleEndpoint.Fences 200000000 ⟨some firstToken, agentReset.body⟩
        ((projector fun _ => "").next registered agentFirst)
    ∧ ¬ sampleEndpoint.Fences 200000000 ⟨some firstToken, agentThird.body⟩
        ((projector fun _ => "").run registered [agentFirst, agentReset]) := by
  have hverify : verify sampleEndpoint.config sampleEndpoint.keyRing (200000000 / 1000000) firstToken
      = .ok firstClaims := rfl
  constructor
  · intro hfences
    have happlies : sampleEndpoint.Applies 200000000 ⟨some firstToken, agentReset.body⟩
        ((projector fun _ => "").next registered agentFirst) := by
      show (sampleEndpoint.handle _ _ _).2 = 202
      decide +kernel
    have hreset : ((agentReset.body.message 200000000 sampleIdentity).resets).map
        SourceReset.newObserverGeneration = some 2 := by
      decide +kernel
    obtain ⟨reset, hresets, htwo⟩ := Option.map_eq_some_iff.1 hreset
    have hone : reset.newObserverGeneration = 1 :=
      ((hfences firstToken firstClaims rfl hverify happlies).2 reset hresets).1
    omega
  · intro hfences
    have happlies : sampleEndpoint.Applies 200000000 ⟨some firstToken, agentThird.body⟩
        ((projector fun _ => "").run registered [agentFirst, agentReset]) := by
      show (sampleEndpoint.handle _ _ _).2 = 202
      decide +kernel
    have hobservation : ((agentThird.body.message 200000000 sampleIdentity).observed).map
        Observation.observerGeneration = some 2 := by
      decide +kernel
    obtain ⟨o, hobserved, htwo⟩ := Option.map_eq_some_iff.1 hobservation
    have hone : o.observerGeneration = 1 :=
      (hfences firstToken firstClaims rfl hverify happlies).1 o hobserved
    omega

end HnbCloud.Observer
