import HnbCloud.Lib.Decimal
import HnbCloud.Lib.ObjectStore
import HnbCloud.Lib.Text
import HnbCloud.Lib.Uuid
import Mathlib.Data.Finmap

set_option autoImplicit false

/-! # The contract of the runtime providers

What `kubernetes-provider`, `edge-provider` and `runtime-target-lifecycle-provider` have in common:
the execution a worker asks for, and the errors a provider answers with. Each of the three programs
has its own copy of these types. -/

namespace HnbCloud.Provider

def contractVersion : String := "2.0.0"

inductive ErrorCode where
  | invalidRequest
  | scopeDenied
  | unsupportedAction
  | resourceConflict
  | fenced
  | targetUnavailable
  | cancelled
  | internal
deriving DecidableEq, Repr

def ErrorCode.text : ErrorCode → String
  | invalidRequest => "INVALID_REQUEST"
  | scopeDenied => "SCOPE_DENIED"
  | unsupportedAction => "UNSUPPORTED_ACTION"
  | resourceConflict => "RESOURCE_CONFLICT"
  | fenced => "FENCED"
  | targetUnavailable => "TARGET_UNAVAILABLE"
  | cancelled => "CANCELLED"
  | internal => "INTERNAL"

structure StatusError where
  httpCode : Nat
  errorCode : ErrorCode
  retryable : Bool
  text : String
deriving DecidableEq, Repr

def invalid (text : String) : StatusError := ⟨400, .invalidRequest, false, text⟩

def conflict (text : String) : StatusError := ⟨409, .resourceConflict, false, text⟩

/-- What an error of the API server is printed as. -/
def errorText : ObjectError → String
  | .notFound => "not found"
  | .alreadyExists => "already exists"
  | .conflict => "the object has been modified"
  | .cancelled => "context canceled"
  | .unavailable text => text

def targetError (operation : String) (err : ObjectError) : StatusError :=
  if err = .cancelled then ⟨408, .cancelled, true, operation ++ ": " ++ errorText err⟩
  else ⟨503, .targetUnavailable, true, operation ++ ": " ++ errorText err⟩

/-- `executionRequest`, the execution on the wire. -/
structure ExecutionRequest where
  (stepId operationId tenantId projectId environmentId stepType : String)
  inputs : List (String × Json)
  (providerId providerVersion providerDigest providerProtocolVersion checkpoint : String)
  (idempotencyKey executionAttemptId fencingGeneration : String)

/-- `ExecutionContext`. The generation is an `int64`. -/
structure ExecutionContext where
  (stepId operationId tenantId projectId environmentId stepType : String)
  inputs : List (String × Json)
  (providerId providerVersion providerDigest providerProtocolVersion checkpoint : String)
  (idempotencyKey executionAttemptId : String)
  fencingGeneration : Int
  int64 : Fits 64 fencingGeneration

/-- `ParseInt` of a generation, and the comparison with the text `FormatInt` gives. -/
def parseGeneration (value : String) : Option Int :=
  (canonicalInt? 64 value).filter fun generation => decide (0 < generation)

theorem parseGeneration_toString {generation : Int} (hfits : Fits 64 generation)
    (hpos : 0 < generation) : parseGeneration (toString generation) = some generation := by
  rw [parseGeneration, canonicalInt?_toString hfits]
  simp [hpos]

theorem of_parseGeneration {value : String} {generation : Int}
    (h : parseGeneration value = some generation) : Fits 64 generation ∧ 0 < generation := by
  simp only [parseGeneration, Option.filter_eq_some_iff, decide_eq_true_eq] at h
  exact ⟨fits_of_canonicalInt? h.1, h.2⟩

mutual

/-- `fmt.Sprintf("%v", value)`, for numbers that are not printed with an exponent. -/
def sprint : Json → String
  | .null => "<nil>"
  | .bool b => toString b
  | .num n => toString n
  | .str s => s
  | .arr items => "[" ++ sprintItems items ++ "]"
  | .obj fields => "map[" ++ sprintFields fields ++ "]"

/-- The items of a slice. -/
def sprintItems : List Json → String
  | [] => ""
  | item :: items => sprint item ++ (if items.isEmpty then "" else " ") ++ sprintItems items

/-- The entries of a map. -/
def sprintFields : List (String × Json) → String
  | [] => ""
  | (name, value) :: fields =>
    name ++ ":" ++ sprint value ++ (if fields.isEmpty then "" else " ") ++ sprintFields fields

end

/-- `uuid.Parse` takes the text, it is not the nil UUID, and it is the text of what was parsed. -/
def isCanonicalUuid (value : String) : Bool :=
  isHyphenatedUuid value && value.toList.all (fun c => !c.isUpper)
    && value != "00000000-0000-0000-0000-000000000000"

/-! ## The annotations of an object -/

/-- `map[string]string`. -/
abbrev StringMap : Type := Finmap fun _ : String => String

/-- `m[name]`. -/
def StringMap.value (m : StringMap) (name : String) : String := (m.lookup name).getD ""

@[simp] theorem StringMap.value_insert_self (m : StringMap) (name text : String) :
    StringMap.value (m.insert name text) name = text := by
  simp [StringMap.value]

@[simp] theorem StringMap.value_insert_of_ne (m : StringMap) {name other : String} (text : String)
    (h : other ≠ name) :
    StringMap.value (m.insert name text) other = StringMap.value m other := by
  simp [StringMap.value, Finmap.lookup_insert_of_ne _ h]

/-- A map from its entries, the last one first. -/
def stringMap (entries : List (String × String)) : StringMap :=
  entries.foldr (fun entry m => m.insert entry.1 entry.2) ∅

/-! ## Checks of an execution -/

def ExecutionContext.hasIdentity (e : ExecutionContext) : Bool :=
  e.tenantId != "" && e.operationId != "" && e.stepId != "" && e.idempotencyKey != ""

def validateInputKeys (inputs : List (String × Json)) (allowed : List String) :
    Except StatusError Unit :=
  match inputs.find? fun input => !allowed.contains input.1 with
  | none => .ok ()
  | some input => .error (invalid ("unsupported input " ++ quoted input.1))

end HnbCloud.Provider
