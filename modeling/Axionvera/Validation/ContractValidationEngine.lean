import Axionvera.Foundation.ThrownValue
import Axionvera.Foundation.InsertionMap

/-! The registry of schemas for contract methods (`validation/engine.ts`). Schemas are applied by
`safeParse`, which is given with each schema.
-/

namespace Axionvera.Validation

open Axionvera.Foundation

variable {ω : Type}

/-- An issue that a schema finds in a value, with the printed keys of its path. -/
structure BaseIssue (ω : Type) where
  path : List String
  message : String
  input : ω
  deriving DecidableEq, Repr

/-- A schema, as `safeParse` applies it to a value: it gives an output or issues, and can
throw.
-/
abbrev AnyValidationSchema (ω : Type) := ω → Except ThrownValue (Except (List (BaseIssue ω)) ω)

/-- `ValidationIssue`. -/
structure ValidationIssue (ω : Type) where
  path : String
  message : String
  received : ω
  deriving DecidableEq, Repr

/-- `ValidationKind`. -/
inductive ValidationKind where
  | params
  | result
  deriving DecidableEq, Repr

/-- `ContractMethodSchema`. -/
structure ContractMethodSchema (ω : Type) where
  params : Option (AnyValidationSchema ω) := none
  result : Option (AnyValidationSchema ω) := none
  description : Option String := none

/-- `SchemaValidationError`. -/
structure SchemaValidationError (ω : Type) where
  message : String
  contractId : String
  method : String
  kind : ValidationKind
  issues : List (ValidationIssue ω)
  originalError : List (BaseIssue ω)
  deriving DecidableEq, Repr

/-- What a validation throws. -/
inductive ValidationFailure (ω : Type) where
  | schemaValidation (error : SchemaValidationError ω)
  | thrown (error : ThrownValue)

/-- `issuePath`. -/
def issuePath (issue : BaseIssue ω) : String :=
  if issue.path.isEmpty then "(root)" else ".".intercalate issue.path

/-- `toValidationIssues`. -/
def toValidationIssues (issues : List (BaseIssue ω)) : List (ValidationIssue ω) :=
  issues.map fun issue =>
    { path := issuePath issue, message := issue.message, received := issue.input }

/-- `summarizeIssues`. -/
def summarizeIssues (issues : List (ValidationIssue ω)) : String :=
  "; ".intercalate (issues.map (fun issue => issue.path ++ ": " ++ issue.message))

/-- The error that `validateAgainstSchema` throws for some issues. -/
def schemaValidationError (contractId method : String) (kind : ValidationKind)
    (issues : List (BaseIssue ω)) : SchemaValidationError ω :=
  let label := match kind with
    | .params => "Input"
    | .result => "Output"
  {
    message :=
      label ++ " validation failed for \"" ++ method ++ "\" on contract \"" ++ contractId ++ "\": "
        ++ summarizeIssues (toValidationIssues issues)
    contractId := contractId
    method := method
    kind := kind
    issues := toValidationIssues issues
    originalError := issues
  }

/-- `validateAgainstSchema`. -/
def validateAgainstSchema (schema : AnyValidationSchema ω) (value : ω)
    (contractId method : String) (kind : ValidationKind) : Except (ValidationFailure ω) ω :=
  match schema value with
  | .error thrown => .error (.thrown thrown)
  | .ok (.ok output) => .ok output
  | .ok (.error issues) =>
      .error (.schemaValidation (schemaValidationError contractId method kind issues))

/-- `ContractValidationEngine`. -/
structure ContractValidationEngine (ω : Type) where
  schemas : InsertionMap String (ContractMethodSchema ω)

namespace ContractValidationEngine

/-- An engine without schemas. -/
def empty : ContractValidationEngine ω := ⟨.empty⟩

/-- `key`. -/
def key (contractId method : String) : String :=
  contractId ++ "::" ++ method

/-- `registerSchema`. -/
def registerSchema (engine : ContractValidationEngine ω) (contractId method : String)
    (schema : ContractMethodSchema ω) : ContractValidationEngine ω :=
  ⟨engine.schemas.set (key contractId method) schema⟩

/-- `unregisterSchema`. -/
def unregisterSchema (engine : ContractValidationEngine ω) (contractId method : String)
    : ContractValidationEngine ω :=
  ⟨engine.schemas.delete (key contractId method)⟩

/-- `hasSchema`. -/
def hasSchema (engine : ContractValidationEngine ω) (contractId method : String) : Bool :=
  engine.schemas.has (key contractId method)

/-- `getSchema`. -/
def getSchema (engine : ContractValidationEngine ω) (contractId method : String)
    : Option (ContractMethodSchema ω) :=
  engine.schemas.get (key contractId method)

/-- `validateParams`. -/
def validateParams (engine : ContractValidationEngine ω) (contractId method : String) (params : ω)
    : Except (ValidationFailure ω) ω :=
  match (engine.getSchema contractId method).bind ContractMethodSchema.params with
  | none => .ok params
  | some schema => validateAgainstSchema schema params contractId method .params

/-- `validateResult`. -/
def validateResult (engine : ContractValidationEngine ω) (contractId method : String) (result : ω)
    : Except (ValidationFailure ω) ω :=
  match (engine.getSchema contractId method).bind ContractMethodSchema.result with
  | none => .ok result
  | some schema => validateAgainstSchema schema result contractId method .result

/-- The schema of a pair alone decides how its parameters and results are validated. -/
theorem validate_congr {engine other : ContractValidationEngine ω} {contractId method : String}
    (same : engine.getSchema contractId method = other.getSchema contractId method)
    : engine.validateParams contractId method = other.validateParams contractId method
      ∧ engine.validateResult contractId method = other.validateResult contractId method := by
  unfold validateParams validateResult
  rw [same]
  exact ⟨rfl, rfl⟩

end ContractValidationEngine

end Axionvera.Validation
