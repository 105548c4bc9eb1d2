import HnbCloud.Messaging.Outbox
import Mathlib.Data.Nat.Digits.Defs

set_option autoImplicit false

/-! # The message envelope

`eventEnvelope` is the document that operation-worker publishes for a row of the outbox, and the
one its own consumer decodes. The row's payload is one field of it. Instants are rendered by their
microseconds: no reader in the development looks at them. -/

namespace HnbCloud.Messaging

open List Nat Json

/-- `eventEnvelope`. -/
structure Envelope where
  (messageId messageType schemaVersion : String)
  occurredAt : Int
  (tenantId projectId environmentId actorId correlationId causationId idempotencyKey : String)
  aggregateId : String
  aggregateVersion : Int
  (operationId stepId : String)
  expectedVersion : Int
  /-- A `json.RawMessage`. -/
  payload : Option Json

/-- The envelope `publishOne` builds from a row: a `NULL` text is empty, a `NULL` number is zero. -/
def OutboxEvent.envelope (event : OutboxEvent) : Envelope where
  messageId := event.messageId
  messageType := event.messageType
  schemaVersion := event.schemaVersion
  occurredAt := event.occurredAt
  tenantId := event.tenantId
  projectId := event.projectId
  environmentId := event.environmentId
  actorId := event.actorId
  correlationId := event.correlationId
  causationId := event.causationId
  idempotencyKey := event.idempotencyKey
  aggregateId := event.aggregateId
  aggregateVersion := event.aggregateVersion.getD 0
  operationId := event.operationId
  stepId := event.stepId
  expectedVersion := event.expectedVersion.getD 0
  payload := some event.payload

/-- `json.Marshal(envelope)`: the fields in the order of the structure. -/
def Envelope.marshal (e : Envelope) : Json :=
  .obj ([("messageId", .str e.messageId), ("messageType", .str e.messageType),
      ("schemaVersion", .str e.schemaVersion), ("occurredAt", .str (toString e.occurredAt)),
      ("tenantId", .str e.tenantId)]
    ++ textField "projectId" e.projectId
    ++ textField "environmentId" e.environmentId
    ++ textField "actorId" e.actorId
    ++ [("correlationId", .str e.correlationId)]
    ++ textField "causationId" e.causationId
    ++ [("idempotencyKey", .str e.idempotencyKey)]
    ++ textField "aggregateId" e.aggregateId
    ++ numField "aggregateVersion" e.aggregateVersion
    ++ textField "operationId" e.operationId
    ++ textField "stepId" e.stepId
    ++ numField "expectedVersion" e.expectedVersion
    ++ [("payload", e.payload.getD .null)])

/-! ## Decoding -/

/-- The digits of a number in decimal, after the digits already read. -/
def parseDigits (read : Nat) : List Char → Option Nat
  | [] => some read
  | c :: rest => if c.isDigit then parseDigits (10 * read + (c.toNat - '0'.toNat)) rest else none

def parseInstant (text : String) : Option Int :=
  match text.toList with
  | [] | ['-'] => none
  | '-' :: digits => (parseDigits 0 digits).map fun n => -(n : Int)
  | digits => (parseDigits 0 digits).map fun n => (n : Int)

/-- The zero value of `time.Time`: the start of the year 1, in microseconds. -/
def zeroTime : Int := -62135596800000000

def assignTime (old : Int) : Json → Option Int
  | .str s => parseInstant s
  | .null => some old
  | _ => none

/-- `json.Unmarshal(data, &envelope)`; `none` is an error. -/
def Envelope.unmarshal (data : Json) : Option Envelope := do
  let fields ← data.fields?
  let messageId ← Json.decodeText "messageId" fields
  let messageType ← Json.decodeText "messageType" fields
  let schemaVersion ← Json.decodeText "schemaVersion" fields
  let occurredAt ← Json.decodeField assignTime zeroTime "occurredAt" fields
  let tenantId ← Json.decodeText "tenantId" fields
  let projectId ← Json.decodeText "projectId" fields
  let environmentId ← Json.decodeText "environmentId" fields
  let actorId ← Json.decodeText "actorId" fields
  let correlationId ← Json.decodeText "correlationId" fields
  let causationId ← Json.decodeText "causationId" fields
  let idempotencyKey ← Json.decodeText "idempotencyKey" fields
  let aggregateId ← Json.decodeText "aggregateId" fields
  let aggregateVersion ← Json.decodeInt "aggregateVersion" fields
  let operationId ← Json.decodeText "operationId" fields
  let stepId ← Json.decodeText "stepId" fields
  let expectedVersion ← Json.decodeInt "expectedVersion" fields
  let payload ← Json.decodeRaw "payload" fields
  return ⟨messageId, messageType, schemaVersion, occurredAt, tenantId, projectId, environmentId,
    actorId, correlationId, causationId, idempotencyKey, aggregateId, aggregateVersion, operationId,
    stepId, expectedVersion, payload⟩

/-! ## Decoding what was encoded -/

section RoundTrip

theorem textField_eq_present (name value : String) :
    textField name value = present [(name, if value = "" then none else some (.str value))] := by
  unfold textField
  split <;> rfl

theorem numField_eq_present (name : String) (value : Int) :
    numField name value = present [(name, if value = 0 then none else some (.num value))] := by
  unfold numField
  split <;> rfl

/-- The fields of an envelope, those that are left out included. -/
def Envelope.encoding (e : Envelope) : List (String × Option Json) :=
  [("messageId", some (.str e.messageId)), ("messageType", some (.str e.messageType)),
    ("schemaVersion", some (.str e.schemaVersion)),
    ("occurredAt", some (.str (toString e.occurredAt))), ("tenantId", some (.str e.tenantId)),
    ("projectId", if e.projectId = "" then none else some (.str e.projectId)),
    ("environmentId", if e.environmentId = "" then none else some (.str e.environmentId)),
    ("actorId", if e.actorId = "" then none else some (.str e.actorId)),
    ("correlationId", some (.str e.correlationId)),
    ("causationId", if e.causationId = "" then none else some (.str e.causationId)),
    ("idempotencyKey", some (.str e.idempotencyKey)),
    ("aggregateId", if e.aggregateId = "" then none else some (.str e.aggregateId)),
    ("aggregateVersion", if e.aggregateVersion = 0 then none else some (.num e.aggregateVersion)),
    ("operationId", if e.operationId = "" then none else some (.str e.operationId)),
    ("stepId", if e.stepId = "" then none else some (.str e.stepId)),
    ("expectedVersion", if e.expectedVersion = 0 then none else some (.num e.expectedVersion)),
    ("payload", some (e.payload.getD .null))]

variable (e : Envelope)

theorem Envelope.marshal_eq : e.marshal = .obj (present e.encoding) := by
  simp only [marshal, textField_eq_present, numField_eq_present]
  rw [encoding]
  simp only [present_cons, present_nil, append_nil, append_assoc]
  rfl

theorem parseDigits_eq (read : Nat) (digits : List Char) (h : ∀ c ∈ digits, c.isDigit = true) :
    parseDigits read digits = some (ofDigitChars 10 digits read) := by
  induction digits generalizing read with
  | nil => rfl
  | cons c _ ih =>
    rw [parseDigits, if_pos (h c mem_cons_self), ofDigitChars_cons]
    exact ih _ fun d hd => h d (mem_cons_of_mem _ hd)

theorem parseDigits_repr (n : Nat) : parseDigits 0 n.repr.toList = some n := by
  rw [toList_repr, parseDigits_eq, ofDigitChars_toDigits (by decide) (by decide)]
  exact fun c hc => isDigit_of_mem_toDigits (by decide) (by decide) hc

theorem parseInstant_of_digit {text : String} {c : Char} {rest : List Char}
    (htext : text.toList = c :: rest) (hc : c.isDigit = true) :
    parseInstant text = (parseDigits 0 text.toList).map fun n => (n : Int) := by
  have hminus : c ≠ '-' := by
    rintro rfl
    exact absurd hc (by decide)
  unfold parseInstant
  rw [htext]
  split
  · next h => simp at h
  · next h =>
    simp only [List.cons.injEq] at h
    exact absurd h.1 hminus
  · next digits _ h =>
    simp only [List.cons.injEq] at h
    exact absurd h.1 hminus
  · rfl

theorem parseInstant_toString (n : Int) : parseInstant (toString n) = some n := by
  have hcons : ∀ k : Nat, ∃ c rest, k.repr.toList = c :: rest ∧ c.isDigit = true := by
    intro k
    rw [toList_repr]
    rcases hdigits : toDigits 10 k with _ | ⟨c, rest⟩
    · exact absurd hdigits toDigits_ne_nil
    · have hmem : c ∈ toDigits 10 k := hdigits ▸ mem_cons_self
      exact ⟨c, rest, rfl, isDigit_of_mem_toDigits (by decide) (le_refl 10) hmem⟩
  rw [Int.toString_eq_repr, Int.repr_eq_if]
  split
  · next hpos =>
    obtain ⟨c, rest, htext, hc⟩ := hcons n.toNat
    rw [parseInstant_of_digit htext hc, parseDigits_repr]
    simp [Int.toNat_of_nonneg hpos]
  next hneg =>
  obtain ⟨c, rest, htext, -⟩ := hcons (-n).toNat
  have hlist : ("-" ++ (-n).toNat.repr).toList = '-' :: c :: rest := by
    simp [htext]
  have hparse : parseInstant ("-" ++ (-n).toNat.repr)
      = (parseDigits 0 (c :: rest)).map fun k => -(k : Int) := by
    unfold parseInstant
    rw [hlist]
    rfl
  rw [hparse, ← htext, parseDigits_repr]
  show some (-((-n).toNat : Int)) = some n
  congr 1
  omega
/-- The numbers of an envelope that are `int64`. -/
def Envelope.InRange : Prop :=
  (-2 ^ 63 ≤ e.aggregateVersion ∧ e.aggregateVersion < 2 ^ 63)
    ∧ (-2 ^ 63 ≤ e.expectedVersion ∧ e.expectedVersion < 2 ^ 63)

theorem names_encoding : (e.encoding.map fun field => folded field.1).Nodup := by
  simp only [Envelope.encoding, map_cons, map_nil]
  decide

theorem Envelope.unmarshal_marshal (hrange : e.InRange)
    (hpayload : e.payload.isSome = true) : Envelope.unmarshal e.marshal = some e := by
  obtain ⟨payload, hsome⟩ := Option.isSome_iff_exists.1 hpayload
  have hn := names_encoding e
  have hmem : ("occurredAt", some (.str (toString e.occurredAt))) ∈ e.encoding := by simp [encoding]
  have htime := bind_field hn "occurredAt" assignTime zeroTime hmem (parseInstant_toString _)
  have hmem : ("payload", some (e.payload.getD .null)) ∈ e.encoding := by simp [encoding]
  have hraw := bind_field hn "payload" assignRaw none (a := e.payload) hmem
    (by simp [assignRaw, hsome])
  have htext := bind_text hn
  have homitted := bind_text_omitted hn
  have hint := bind_int_omitted hn
  rw [marshal_eq]
  show (decodeText "messageId" (present e.encoding) >>= _) = _
  rw [htext "messageId" e.messageId (by simp [encoding]),
    htext "messageType" e.messageType (by simp [encoding]),
    htext "schemaVersion" e.schemaVersion (by simp [encoding]), htime,
    htext "tenantId" e.tenantId (by simp [encoding]),
    homitted "projectId" e.projectId (by simp [encoding]),
    homitted "environmentId" e.environmentId (by simp [encoding]),
    homitted "actorId" e.actorId (by simp [encoding]),
    htext "correlationId" e.correlationId (by simp [encoding]),
    homitted "causationId" e.causationId (by simp [encoding]),
    htext "idempotencyKey" e.idempotencyKey (by simp [encoding]),
    homitted "aggregateId" e.aggregateId (by simp [encoding]),
    hint "aggregateVersion" e.aggregateVersion (by simp [encoding]) hrange.1,
    homitted "operationId" e.operationId (by simp [encoding]),
    homitted "stepId" e.stepId (by simp [encoding]),
    hint "expectedVersion" e.expectedVersion (by simp [encoding]) hrange.2, decodeRaw, hraw]
  rfl

end RoundTrip

/-! ## Messages of the broker -/

/-- A message of the broker: its subject, the id under which duplicates are dropped, its data. -/
structure Message where
  (subject msgId : String)
  data : Json

/-- The message `publishOne` publishes for a row. -/
def OutboxEvent.message (event : OutboxEvent) : Message where
  subject := event.subject
  msgId := event.messageId
  data := event.envelope.marshal

end HnbCloud.Messaging
