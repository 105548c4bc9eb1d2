import HnbCloud.Lib.Uuid

set_option autoImplicit false

/-! # Traffic intents

`pkg/gslb/intent.go`: the request for a change of traffic, as an operator or a disaster recovery run
submits it. An intent has references and bounded parameters only; a body that carries an execution
detail is refused before it is decoded. -/

namespace HnbCloud.Gslb

open List Json

/-! ## The intent -/

/-- `IntentKind`: the four kinds, and what else a body may say. -/
inductive IntentKind where
  | failover
  | switchback
  | weightUpdate
  | drill
  | other (text : String)
deriving DecidableEq, Repr

open IntentKind

namespace IntentKind

def text : IntentKind → String
  | failover => "gslb.failover"
  | switchback => "gslb.switchback"
  | weightUpdate => "gslb.weight-update"
  | drill => "gslb.drill"
  | other text => text

def ofText (text : String) : IntentKind :=
  if text = "gslb.failover" then failover
  else if text = "gslb.switchback" then switchback
  else if text = "gslb.weight-update" then weightUpdate
  else if text = "gslb.drill" then drill
  else other text

end IntentKind

/-- `Intent`, with its metadata. The weights are a map: no member occurs twice. -/
structure Intent where
  apiVersion : String
  kind : IntentKind
  (serviceId tenantId targetPoolId : String)
  weights : List (String × Int)
  (reason drGroupRef idempotencyKey correlationId : String)

def apiVersion : String := "gslb.hnb.io/v1"

/-! ## Parsing -/

/-- `forbiddenFields`, as far as a lower-case key can meet it. -/
def forbiddenFields : List String :=
  ["step", "steps", "steptype", "command", "commands", "providerid", "credential", "credentials",
    "url", "endpoint", "fencing", "fencingtoken", "policyresult", "approvalresult"]

/-- `unicode.ToLower`, as far as it can lead to an ASCII letter. -/
def toLowerChar (c : Char) : Char :=
  if 'A' ≤ c ∧ c ≤ 'Z' then Char.ofNat (c.toNat + 32)
  else if c.toNat = 0x212A then 'k'
  else if c.toNat = 0x130 then 'i'
  else c

def isForbiddenField (key : String) : Bool :=
  forbiddenFields.any fun field => key.toList.map toLowerChar == field.toList

mutual

/-- The walk over a decoded map: the first forbidden key, if there is one. It goes into the values
    that are objects and into no others. -/
def scanFields : List (String × Json) → Option String
  | [] => none
  | (key, value) :: rest =>
    -- A key that occurs again below is overwritten in the decoded map.
    if rest.any (fun field => field.1 == key) then scanFields rest
    else if isForbiddenField key then some key
    else (scanValue value).orElse fun _ => scanFields rest

def scanValue : Json → Option String
  | .obj fields => scanFields fields
  | _ => none

end

/-- Decoding into the `weights` map: entries are merged, `null` empties it. -/
def assignWeights (old : List (String × Int)) : Json → Option (List (String × Int))
  | .obj fields => fields.foldlM
      (fun map field => (assignInt 0 field.2).map (setEntry map field.1)) old
  | .null => some []
  | _ => none

/-- `json.Unmarshal(body, intent)`. The metadata are decoded in place. -/
def Intent.unmarshal (body : Json) : Option Intent := do
  let fields ← body.fields?
  let apiVersion ← decodeText "apiVersion" fields
  let kind ← decodeText "kind" fields
  let serviceId ← decodeText "serviceId" fields
  let tenantId ← decodeText "tenantId" fields
  let targetPoolId ← decodeText "targetPoolId" fields
  let weights ← decodeField assignWeights [] "weights" fields
  let reason ← decodeText "reason" fields
  let drGroupRef ← decodeText "drGroupRef" fields
  let metadata ← decodeField (fun old value => value.fields?.map (old ++ ·)) [] "metadata" fields
  let idempotencyKey ← decodeText "idempotencyKey" metadata
  let correlationId ← decodeText "correlationId" metadata
  return ⟨apiVersion, .ofText kind, serviceId, tenantId, targetPoolId, weights, reason, drGroupRef,
    idempotencyKey, correlationId⟩

/-- A text that is left out when it is empty. -/
def optionalText (value : String) : Option Json := if value = "" then none else some (.str value)

/-- `IntentMetadata`, as it is written. -/
def Intent.metadata (intent : Intent) : List (String × Option Json) :=
  [("idempotencyKey", some (.str intent.idempotencyKey)),
   ("correlationId", some (.str intent.correlationId))]

/-- What `json.Marshal(intent)` writes under each name. -/
def Intent.encoding (intent : Intent) : List (String × Option Json) :=
  [("apiVersion", some (.str intent.apiVersion)), ("kind", some (.str intent.kind.text)),
   ("serviceId", some (.str intent.serviceId)), ("tenantId", some (.str intent.tenantId)),
   ("targetPoolId", optionalText intent.targetPoolId),
   ("weights", if intent.weights = [] then none
      else some (.obj (intent.weights.map fun entry => (entry.1, .num entry.2)))),
   ("reason", optionalText intent.reason), ("drGroupRef", optionalText intent.drGroupRef),
   ("metadata", some (.obj (present intent.metadata)))]

/-- `json.Marshal(intent)`. -/
def Intent.marshal (intent : Intent) : Json := .obj (present intent.encoding)

/-! ## Validation -/

/-- `idemPattern`: `^[!-~]{1,128}$`. -/
def matchesIdemPattern (text : String) : Bool :=
  let chars := text.toList
  1 ≤ chars.length && chars.length ≤ 128 && chars.all fun c => '!' ≤ c && c ≤ '~'

/-- `drGroupRefPattern`: `^[A-Za-z0-9][A-Za-z0-9_.:-]{0,127}$`. -/
def matchesDRGroupRefPattern (text : String) : Bool :=
  match text.toList with
  | [] => false
  | first :: rest =>
    first.isAlphanum && rest.length ≤ 127
      && rest.all fun c => c.isAlphanum || c == '_' || c == '.' || c == ':' || c == '-'

namespace Intent

variable (intent : Intent)

/-- The weights of a weight update: the error, if there is one. The source ranges over the map, so
    which of several bad members it names is open; the model names the first. -/
def validateWeights : Option String :=
  if intent.weights = [] then
    some "invalid gslb intent: weight-update requires non-empty weights"
  else
  match intent.weights.find? (fun entry => entry.1 == "" || entry.2 < 0 || 100 < entry.2) with
  | some entry => some ("invalid gslb intent: invalid weight for member \"" ++ entry.1 ++ "\"")
  | none =>
  if (intent.weights.map Prod.snd).sum ≤ 0 then
    some "invalid gslb intent: total weight must be > 0"
  else none

/-- `Validate`: the error, if there is one. -/
def validate : Option String :=
  if intent.apiVersion ≠ Gslb.apiVersion then
    some ("invalid gslb intent: unsupported apiVersion \"" ++ intent.apiVersion ++ "\"")
  else
  match intent.kind with
  | .other text => some ("invalid gslb intent: unknown kind \"" ++ text ++ "\"")
  | kind =>
  if isHyphenatedUuid intent.serviceId = false then
    some "invalid gslb intent: serviceId must be a uuid"
  else if intent.tenantId = "" ∨ 128 < intent.tenantId.utf8ByteSize then
    some "invalid gslb intent: tenantId required (<=128)"
  else if matchesIdemPattern intent.idempotencyKey = false then
    some "invalid gslb intent: idempotencyKey required ([!-~]\x7b1,128\x7d)"
  else if isHyphenatedUuid intent.correlationId = false then
    some "invalid gslb intent: correlationId must be a uuid"
  else if 512 < intent.reason.utf8ByteSize then
    some "invalid gslb intent: reason too long"
  else if intent.drGroupRef ≠ "" ∧ matchesDRGroupRefPattern intent.drGroupRef = false then
    some "invalid gslb intent: invalid drGroupRef"
  else
  match kind with
  | .failover | .switchback =>
    if isHyphenatedUuid intent.targetPoolId = false then
      some ("invalid gslb intent: " ++ kind.text ++ " requires targetPoolId")
    else none
  | .weightUpdate => intent.validateWeights
  | _ => none

def requiresApproval : Bool :=
  match intent.kind with
  | .failover | .switchback => true
  | _ => false

def isDrill : Bool := intent.kind == .drill

def isExecutable : Bool := !intent.isDrill

def semanticPayload : String :=
  let weights := intent.weights.map fun entry =>
    "\"" ++ entry.1 ++ "\":" ++ toString entry.2
  "|".intercalate [intent.kind.text, intent.serviceId, intent.tenantId, intent.targetPoolId,
    "\x7b" ++ ",".intercalate (weights.mergeSort (fun a b => decide (a ≤ b))) ++ "\x7d", intent.drGroupRef]

/-- `SemanticDigest`, for a digest of texts. -/
def semanticDigest (sha : String → String) : String := sha intent.semanticPayload

end Intent

/-- `ParseIntent`; the texts of decoding errors are left out. -/
def parseIntent (body : Json) : Except String Intent :=
  match body.fields? with
  | none => .error "invalid gslb intent"
  | some fields =>
  match scanFields fields with
  | some key => .error ("invalid gslb intent: forbidden execution field \"" ++ key ++ "\"")
  | none =>
  match Intent.unmarshal body with
  | none => .error "invalid gslb intent"
  | some intent =>
  match intent.validate with
  | some reason => .error reason
  | none => .ok intent

/-! ## Round trip -/

theorem IntentKind.ofText_text {kind : IntentKind} (h : kind = .failover ∨ kind = .switchback) :
    ofText kind.text = kind := by
  rcases h with rfl | rfl <;> decide

theorem Intent.names_encoding (intent : Intent) :
    (intent.encoding.map fun field => folded field.1).Nodup := by
  simp only [encoding, map_cons, map_nil]
  decide

theorem Intent.names_metadata (intent : Intent) :
    (intent.metadata.map fun field => folded field.1).Nodup := by
  simp only [metadata, map_cons, map_nil]
  decide

theorem Intent.unmarshal_marshal {intent : Intent} (hweights : intent.weights = [])
    (hkind : ofText intent.kind.text = intent.kind) :
    Intent.unmarshal intent.marshal = some intent := by
  have hn := intent.names_encoding
  have htext := bind_text hn
  have homitted := bind_text_omitted hn
  have hmem : ("weights", none) ∈ intent.encoding := by simp [encoding, hweights]
  have hnone := bind_field hn "weights" assignWeights [] hmem rfl
  have hmem : ("metadata", some (.obj (present intent.metadata))) ∈ intent.encoding := by
    simp [encoding]
  have hmetadata := bind_field hn "metadata" (fun old value => value.fields?.map (old ++ ·)) []
    (a := present intent.metadata) hmem rfl
  have hinner := bind_text intent.names_metadata
  show (decodeText "apiVersion" (present intent.encoding) >>= _) = _
  rw [htext "apiVersion" intent.apiVersion (by simp [encoding]),
    htext "kind" intent.kind.text (by simp [encoding]),
    htext "serviceId" intent.serviceId (by simp [encoding]),
    htext "tenantId" intent.tenantId (by simp [encoding]),
    homitted "targetPoolId" intent.targetPoolId (by simp [encoding, optionalText]), hnone,
    homitted "reason" intent.reason (by simp [encoding, optionalText]),
    homitted "drGroupRef" intent.drGroupRef (by simp [encoding, optionalText]), hmetadata,
    hinner "idempotencyKey" intent.idempotencyKey (by simp [metadata]),
    hinner "correlationId" intent.correlationId (by simp [metadata]), hkind, ← hweights]
  rfl

theorem parseIntent_marshal {intent parsed : Intent} (hweights : intent.weights = [])
    (hkind : ofText intent.kind.text = intent.kind)
    (h : parseIntent intent.marshal = .ok parsed) : parsed = intent := by
  unfold parseIntent at h
  split at h
  · simp at h
  split at h
  · simp at h
  rw [Intent.unmarshal_marshal hweights hkind] at h
  simp only at h
  split at h
  · simp at h
  · exact (Except.ok.inj h).symm

/-! ## Forbidden fields -/

/-- A forbidden key occurs in the document, at any depth. -/
inductive Forbids : Json → Prop where
  | key {fields : List (String × Json)} {field : String × Json} (mem : field ∈ fields)
      (forbidden : isForbiddenField field.1 = true) : Forbids (.obj fields)
  | field {fields : List (String × Json)} {field : String × Json} (mem : field ∈ fields)
      (inside : Forbids field.2) : Forbids (.obj fields)
  | item {items : List Json} {item : Json} (mem : item ∈ items) (inside : Forbids item) :
      Forbids (.arr items)

/-- It occurs where the walk goes: below objects only, and in fields that no later one overwrites. -/
inductive Exposes : List (String × Json) → Prop where
  | key {rest : List (String × Json)} {key : String} {value : Json}
      (last : rest.any (fun field => field.1 == key) = false)
      (forbidden : isForbiddenField key = true) : Exposes ((key, value) :: rest)
  | field {rest inner : List (String × Json)} {key : String}
      (last : rest.any (fun field => field.1 == key) = false) (inside : Exposes inner) :
      Exposes ((key, .obj inner) :: rest)
  | later {rest : List (String × Json)} {field : String × Json} (inside : Exposes rest) :
      Exposes (field :: rest)

theorem exposes_of_scanFields {key : String} :
    ∀ {fields : List (String × Json)}, scanFields fields = some key → Exposes fields
  | [], h => by simp [scanFields] at h
  | (_, value) :: _, h => by
    rw [scanFields] at h
    split at h
    · exact .later (exposes_of_scanFields h)
    next hlast =>
    split at h
    · next hforbidden => exact .key (eq_false_of_ne_true hlast) hforbidden
    cases value with
    | obj inner =>
      rw [scanValue] at h
      rcases hinner : scanFields inner with _ | found
      · rw [hinner] at h
        exact .later (exposes_of_scanFields h)
      · exact .field (eq_false_of_ne_true hlast) (exposes_of_scanFields hinner)
    | _ => exact .later (exposes_of_scanFields h)

theorem Exposes.scanFields_ne_none {fields : List (String × Json)} (h : Exposes fields) :
    scanFields fields ≠ none := by
  induction h with
  | key last forbidden => simp [scanFields, last, forbidden]
  | field last _ ih =>
    rw [scanFields, if_neg (by simp [last]), scanValue]
    split <;> simp [ih]
  | later _ ih =>
    rw [scanFields]
    split
    · exact ih
    · split <;> simp [ih]

/-- **Bodies that are refused.** The walk meets a forbidden key in them, or they would be refused
    without the walk. -/
theorem parseIntent_refuses_iff (body : Json) : (∀ intent, parseIntent body ≠ .ok intent)
      ↔ (∃ fields, body.fields? = some fields ∧ Exposes fields)
        ∨ ∀ intent, Intent.unmarshal body = some intent → intent.validate ≠ none := by
  unfold parseIntent
  rcases hfields : body.fields? with _ | fields
  · simp [Intent.unmarshal, hfields]
  dsimp only
  rcases hscan : scanFields fields with _ | key
  · have hnone : ¬ Exposes fields := fun h => h.scanFields_ne_none hscan
    rcases Intent.unmarshal body with _ | intent
    · simp
    · cases hvalid : intent.validate <;> simp [hvalid, hnone]
  · simp [exposes_of_scanFields hscan]

/-- A command inside an array passes. -/
theorem command_in_array_accepted :
    let id := "00000000-0000-4000-8000-000000000001"
    let body : Json := .obj [("apiVersion", .str "gslb.hnb.io/v1"), ("kind", .str "gslb.drill"),
      ("serviceId", .str id), ("tenantId", .str "t1"), ("metadata", .obj
        [("idempotencyKey", .str "k1"), ("correlationId", .str id)]),
      ("plan", .arr [.obj [("command", .str "rm")]])]
    Forbids body ∧ ∃ intent, parseIntent body = .ok intent := by
  refine ⟨.field (mem_of_mem_getLast? rfl) (.item mem_cons_self (.key mem_cons_self ?_)), _, rfl⟩
  decide

end HnbCloud.Gslb
