import HnbCloud.Gslb.Intent

set_option autoImplicit false

/-! # Plans

`pkg/gslb/plan.go`: the immutable plan that an intent is resolved into. It is stored and sent as a
JSON document, and read back from it. -/

namespace HnbCloud.Gslb

open Json

/-- `StepType`: the four types, and what else a document may say. -/
inductive StepType where
  | dnsApply
  | dnsVerify
  | dnsRevert
  | drillCompute
  | other (text : String)
deriving DecidableEq, Repr

namespace StepType

def text : StepType → String
  | dnsApply => "gslb_dns_apply"
  | dnsVerify => "gslb_dns_verify"
  | dnsRevert => "gslb_dns_revert"
  | drillCompute => "gslb_drill_compute"
  | other text => text

def ofText (text : String) : StepType :=
  if text = "gslb_dns_apply" then dnsApply
  else if text = "gslb_dns_verify" then dnsVerify
  else if text = "gslb_dns_revert" then dnsRevert
  else if text = "gslb_drill_compute" then drillCompute
  else other text

end StepType

structure Step where
  stepId : String
  stepType : StepType
  dependsOn : List String
  /-- A `map[string]any`. -/
  inputs : List (String × Json)
  idempotencyKey : String
  /-- The step that undoes this one, if any. -/
  compensation : String

structure Plan where
  (planId intentId semanticDigest : String)
  steps : List Step

structure PlanInput where
  (serviceId tenantId domain targetPoolId : String)
  targets : List String
  weights : List (String × Int)
  previousTargets : List String

/-- A value of the inputs. -/
def Step.input (step : Step) (key : String) : Json :=
  match step.inputs.find? (fun entry => entry.1 == key) with
  | some entry => entry.2
  | none => .null

/-! ## BuildPlan -/

/-- A slice of texts in the inputs; an empty one is a nil slice. -/
def stringSlice (texts : List String) : Json :=
  if texts = [] then .null else strings texts

def weightsJson (weights : List (String × Int)) : Json :=
  .obj (weights.map fun entry => (entry.1, .num entry.2))

namespace Intent

variable (intent : Intent)

/-- The `apply` step of a switch. -/
def applyStep (input : PlanInput) : Step where
  stepId := "apply"
  stepType := .dnsApply
  dependsOn := []
  inputs := [("serviceId", .str intent.serviceId), ("domain", .str input.domain),
    ("targetPoolId", .str intent.targetPoolId), ("targets", stringSlice input.targets)]
  idempotencyKey := intent.idempotencyKey ++ "-apply"
  compensation := "revert"

/-- The `verify` step of a switch. -/
def verifyStep (input : PlanInput) : Step where
  stepId := "verify"
  stepType := .dnsVerify
  dependsOn := ["apply"]
  inputs := [("serviceId", .str intent.serviceId), ("domain", .str input.domain),
    ("targets", stringSlice input.targets)]
  idempotencyKey := intent.idempotencyKey ++ "-verify"
  compensation := ""

/-- The `revert` step of a switch. It depends on nothing. -/
def revertStep (input : PlanInput) : Step where
  stepId := "revert"
  stepType := .dnsRevert
  dependsOn := []
  inputs := [("serviceId", .str intent.serviceId), ("domain", .str input.domain),
    ("targets", stringSlice input.previousTargets)]
  idempotencyKey := intent.idempotencyKey ++ "-revert"
  compensation := ""

def weightSteps (input : PlanInput) : List Step :=
  [{ stepId := "apply"
     stepType := .dnsApply
     dependsOn := []
     inputs := [("serviceId", .str intent.serviceId), ("domain", .str input.domain),
       ("weights", weightsJson intent.weights)]
     idempotencyKey := intent.idempotencyKey ++ "-apply"
     compensation := "" },
   { stepId := "verify"
     stepType := .dnsVerify
     dependsOn := ["apply"]
     inputs := [("serviceId", .str intent.serviceId), ("domain", .str input.domain)]
     idempotencyKey := intent.idempotencyKey ++ "-verify"
     compensation := "" }]

def drillSteps : List Step :=
  [{ stepId := "compute"
     stepType := .drillCompute
     dependsOn := []
     inputs := [("serviceId", .str intent.serviceId), ("targetPoolId", .str intent.targetPoolId),
       ("weights", weightsJson intent.weights)]
     idempotencyKey := intent.idempotencyKey ++ "-compute"
     compensation := "" }]

def planOf (sha : String → String) (steps : List Step) : Plan :=
  let digest := intent.semanticDigest sha
  { planId := "gslb-plan-" ++ String.ofList (digest.toList.take 16)
    intentId := digest
    semanticDigest := digest
    steps := steps }

def buildPlan (sha : String → String) (input : PlanInput) : Except String Plan :=
  match intent.validate with
  | some reason => .error reason
  | none =>
  if input.serviceId ≠ intent.serviceId then .error "invalid gslb intent: plan serviceId mismatch"
  else
  match intent.kind with
  | .failover | .switchback =>
    if input.targets = [] then
      .error ("invalid gslb intent: " ++ intent.kind.text ++ " requires non-empty targets")
    else .ok (intent.planOf sha [intent.applyStep input, intent.verifyStep input,
      intent.revertStep input])
  | .weightUpdate => .ok (intent.planOf sha (intent.weightSteps input))
  | .drill => .ok (intent.planOf sha intent.drillSteps)
  | .other text => .error ("planning not allowed: unknown kind \"" ++ text ++ "\"")

variable {intent}

/-- The steps of a plan, by the kind of its intent. -/
theorem steps_of_buildPlan {sha : String → String} {input : PlanInput} {plan : Plan}
    (h : intent.buildPlan sha input = .ok plan) :
    ((intent.kind = .failover ∨ intent.kind = .switchback) ∧ input.targets ≠ []
      ∧ plan.steps = [intent.applyStep input, intent.verifyStep input, intent.revertStep input])
    ∨ (intent.kind = .weightUpdate ∧ plan.steps = intent.weightSteps input)
    ∨ (intent.kind = .drill ∧ plan.steps = intent.drillSteps) := by
  unfold buildPlan at h
  split at h
  · simp at h
  split at h
  · simp at h
  split at h
  · next hkind =>
    split_ifs at h with hempty
    rw [← Except.ok.inj h]
    exact .inl ⟨.inl hkind, hempty, rfl⟩
  · next hkind =>
    split_ifs at h with hempty
    rw [← Except.ok.inj h]
    exact .inl ⟨.inr hkind, hempty, rfl⟩
  · next hkind =>
    rw [← Except.ok.inj h]
    exact .inr (.inl ⟨hkind, rfl⟩)
  · next hkind =>
    rw [← Except.ok.inj h]
    exact .inr (.inr ⟨hkind, rfl⟩)
  · simp at h

end Intent

/-! ## The document -/

/-- `json.Marshal` of a step; a nil slice is `null`. -/
def Step.marshal (step : Step) : Json :=
  .obj ([("stepId", .str step.stepId), ("stepType", .str step.stepType.text),
      ("dependsOn", stringSlice step.dependsOn), ("inputs", .obj step.inputs),
      ("idempotencyKey", .str step.idempotencyKey)]
    ++ if step.compensation = "" then [] else [("compensation", .str step.compensation)])

/-- `json.Marshal(plan)`. -/
def Plan.marshal (plan : Plan) : Json :=
  .obj [("planId", .str plan.planId), ("intentId", .str plan.intentId),
    ("semanticDigest", .str plan.semanticDigest), ("steps", .arr (plan.steps.map Step.marshal))]

/-- Decoding into a `[]string`. -/
def assignStrings (_ : List String) : Json → Option (List String)
  | .arr items => items.mapM (assignText "")
  | .null => some []
  | _ => none

/-- Decoding into a `map[string]any`. -/
def assignMap (old : List (String × Json)) : Json → Option (List (String × Json))
  | .obj fields => some (fields.foldl (fun map field => setEntry map field.1 field.2) old)
  | .null => some []
  | _ => none

/-- Decoding into a `Step`. -/
def Step.unmarshal (data : Json) : Option Step := do
  let fields ← data.fields?
  let stepId ← decodeText "stepId" fields
  let stepType ← decodeText "stepType" fields
  let dependsOn ← decodeField assignStrings [] "dependsOn" fields
  let inputs ← decodeField assignMap [] "inputs" fields
  let idempotencyKey ← decodeText "idempotencyKey" fields
  let compensation ← decodeText "compensation" fields
  return ⟨stepId, .ofText stepType, dependsOn, inputs, idempotencyKey, compensation⟩

def assignSteps (_ : List Step) : Json → Option (List Step)
  | .arr items => items.mapM Step.unmarshal
  | .null => some []
  | _ => none

/-- `json.Unmarshal(data, &plan)`. -/
def Plan.unmarshal (data : Json) : Option Plan := do
  let fields ← data.fields?
  let planId ← decodeText "planId" fields
  let intentId ← decodeText "intentId" fields
  let semanticDigest ← decodeText "semanticDigest" fields
  let steps ← decodeField assignSteps [] "steps" fields
  return ⟨planId, intentId, semanticDigest, steps⟩

end HnbCloud.Gslb
