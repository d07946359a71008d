import Axionvera.Migrations.MigrationRegistry

/-! The validation of states (`migrations/stateValidator.ts`) and the runner of migration plans
(`migrations/migrationRunner.ts`). A run takes its timestamps from a clock, and its calls of
rollback functions are recorded beside its result.
-/

namespace Axionvera.Migrations

open Axionvera.Foundation

variable {ω μ : Type}

/-- An issue that a schema finds in a state, with the printed keys of its path. -/
structure SchemaIssue where
  path : List String
  message : String
  deriving DecidableEq, Repr

/-- A schema, as `safeParse` applies it to a state: it gives an output or issues, and can
throw.
-/
abbrev StateSchema (ω : Type) := ω → Except ThrownValue (Except (List SchemaIssue) ω)

/-- `issuePath`. -/
def issuePath (issue : SchemaIssue) : String :=
  if issue.path.isEmpty then "(root)" else ".".intercalate issue.path

/-- `MigrationStateValidator`. -/
structure MigrationStateValidator (ω : Type) where
  schemas : InsertionMap String (StateSchema ω)

namespace MigrationStateValidator

/-- A validator without schemas. -/
def empty : MigrationStateValidator ω := ⟨.empty⟩

/-- `key`. -/
def key (contractId version : String) : String :=
  contractId ++ "::" ++ version

/-- `registerStateSchema`. -/
def registerStateSchema (validator : MigrationStateValidator ω) (contractId version : String)
    (schema : StateSchema ω) : MigrationStateValidator ω :=
  ⟨validator.schemas.set (key contractId version) schema⟩

/-- `unregisterStateSchema`. -/
def unregisterStateSchema (validator : MigrationStateValidator ω) (contractId version : String)
    : MigrationStateValidator ω :=
  ⟨validator.schemas.delete (key contractId version)⟩

/-- `hasStateSchema`. -/
def hasStateSchema (validator : MigrationStateValidator ω) (contractId version : String) : Bool :=
  validator.schemas.has (key contractId version)

/-- The `MigrationStateValidationError` for the issues, as far as its report shows it. -/
def validationError (contractId version : String) (issues : List SchemaIssue) : ThrownValue :=
  let summary :=
    "; ".intercalate (issues.map (fun issue => issuePath issue ++ ": " ++ issue.message))
  .error
    (.ok "MigrationStateValidationError")
    (.ok
      ("State validation failed for contract \"" ++ contractId ++ "\" at version \"" ++ version
        ++ "\": " ++ summary))

/-- `validateState`. -/
def validateState (validator : MigrationStateValidator ω) (contractId version : String) (state : ω)
    : Except ThrownValue ω :=
  match validator.schemas.get (key contractId version) with
  | none => .ok state
  | some schema => do
      match ← schema state with
      | .ok output => return output
      | .error issues => throw (validationError contractId version issues)

end MigrationStateValidator

/-- `MigrationStatus`. -/
inductive MigrationStatus where
  | completed
  | failed
  | rolledBack
  deriving DecidableEq, Repr

/-- `MigrationStepStatus`. -/
inductive MigrationStepStatus where
  | succeeded
  | failed
  deriving DecidableEq, Repr

/-- The name and message of an error in a report. -/
structure ErrorInfo where
  name : String
  message : String
  deriving DecidableEq, Repr

/-- `MigrationStepResult`. -/
structure MigrationStepResult where
  stepId : String
  fromVersion : String
  toVersion : String
  status : MigrationStepStatus
  startedAt : Int
  finishedAt : Int
  durationMs : Int
  error : Option ErrorInfo
  deriving DecidableEq, Repr

/-- `RunMigrationOptions`, with its defaults. -/
structure RunMigrationOptions (μ : Type) where
  dryRun : Bool := false
  rollbackOnFailure : Bool := false
  validateState : Bool := true
  metadata : Option μ := none

/-- `MigrationReport`. -/
structure MigrationReport where
  contractId : String
  fromVersion : String
  toVersion : String
  status : MigrationStatus
  dryRun : Bool
  startedAt : Int
  finishedAt : Int
  durationMs : Int
  totalSteps : Nat
  succeededSteps : Nat
  failedSteps : Nat
  steps : List MigrationStepResult
  rollbackSteps : Option (List MigrationStepResult)
  deriving DecidableEq, Repr

/-- `RunMigrationResult`. -/
structure RunMigrationResult (ω : Type) where
  state : ω
  report : MigrationReport

/-- What a run gets from its surroundings: the readings of the clock, in their order, and how
numbers are printed.
-/
structure Host where
  clock : Nat → Int
  printed : JsNumber → String

/-- `toErrorInfo`, which throws what reading or printing the error throws. -/
def toErrorInfo (host : Host) : ThrownValue → Except ThrownValue ErrorInfo
  | .error name message => do return { name := ← name, message := ← message }
  | error => do return { name := "Error", message := ← error.toText host.printed }

/-- The result of a step or its rollback that began with the given reading of the clock; it
takes two more readings.
-/
def stepResult (host : Host) (stepId fromVersion toVersion : String) (status : MigrationStepStatus)
    (readings : Nat) (error : Option ErrorInfo) : MigrationStepResult :=
  {
    stepId := stepId
    fromVersion := fromVersion
    toVersion := toVersion
    status := status
    startedAt := host.clock readings
    finishedAt := host.clock (readings + 1)
    durationMs := host.clock (readings + 2) - host.clock readings
    error := error
  }

/-- The variables of `run` in its loop over the steps, and how often it has read the clock. -/
structure ForwardState (ω μ : Type) where
  state : ω
  completedSteps : List (MigrationStepDefinition ω μ)
  stepResults : List MigrationStepResult
  failure : ThrownValue
  readings : Nat

/-- The part of `run` in which a step can fail: the state that it leads to, or what is thrown. -/
def attemptStep (validator : MigrationStateValidator ω) (context : MigrationContext μ)
    (shouldValidateState : Bool) (state : ω) (step : MigrationStepDefinition ω μ)
    : Except ThrownValue ω := do
  if shouldValidateState then
    let _ ← validator.validateState context.contractId step.fromVersion state
  let nextState ← step.migrate state context
  if shouldValidateState then
    let _ ← validator.validateState context.contractId step.toVersion nextState
  return nextState

/-- The loop of `run` over the steps. -/
def forwardSteps (host : Host) (validator : MigrationStateValidator ω)
    (context : MigrationContext μ) (shouldValidateState : Bool)
    : List (MigrationStepDefinition ω μ) → ForwardState ω μ → Except ThrownValue (ForwardState ω μ)
  | [], current => .ok current
  | step :: rest, current =>
      match attemptStep validator context shouldValidateState current.state step with
      | .ok nextState =>
          let result :=
            stepResult host step.id step.fromVersion step.toVersion .succeeded current.readings none
          forwardSteps host validator context shouldValidateState rest
            { current with
              state := nextState
              completedSteps := current.completedSteps ++ [step]
              stepResults := current.stepResults ++ [result]
              readings := current.readings + 3 }
      | .error error => do
          let info ← toErrorInfo host error
          let result :=
            stepResult host step.id step.fromVersion step.toVersion .failed current.readings
              (some info)
          return { current with
            stepResults := current.stepResults ++ [result]
            failure := error
            readings := current.readings + 3 }

/-- A call of a step's rollback function. -/
structure RollbackCall (ω μ : Type) where
  step : MigrationStepDefinition ω μ
  state : ω
  outcome : Except ThrownValue ω

/-- The variables of `rollback`, the calls that it has made, and the readings of the clock. -/
structure RollbackState (ω μ : Type) where
  current : ω
  results : List MigrationStepResult
  allRolledBack : Bool
  calls : List (RollbackCall ω μ)
  readings : Nat

/-- The loop of `rollback`, with what it throws, if anything. -/
def rollbackSteps (host : Host) (context : MigrationContext μ)
    : List (MigrationStepDefinition ω μ)
      → RollbackState ω μ
      → RollbackState ω μ × Option ThrownValue
  | [], current => (current, none)
  | step :: rest, current =>
      match step.rollback with
      | none => rollbackSteps host context rest { current with allRolledBack := false }
      | some rollback =>
          let outcome := rollback current.current context
          let called :=
            { current with calls := current.calls ++ [⟨step, current.current, outcome⟩] }
          match outcome with
          | .ok previous =>
              let result :=
                stepResult host step.id step.toVersion step.fromVersion .succeeded
                  current.readings none
              rollbackSteps host context rest
                { called with
                  current := previous
                  results := current.results ++ [result]
                  readings := current.readings + 3 }
          | .error error =>
              match toErrorInfo host error with
              | .error thrown => (called, some thrown)
              | .ok info =>
                  let result :=
                    stepResult host step.id step.toVersion step.fromVersion .failed
                      current.readings (some info)
                  rollbackSteps host context rest
                    { called with
                      allRolledBack := false
                      results := current.results ++ [result]
                      readings := current.readings + 3 }

/-- `rollback`, from the given reading of the clock on. -/
def rollback (host : Host) (completedSteps : List (MigrationStepDefinition ω μ)) (state : ω)
    (context : MigrationContext μ) (readings : Nat) : RollbackState ω μ × Option ThrownValue :=
  rollbackSteps host context completedSteps.reverse
    {
      current := state
      results := []
      allRolledBack := 0 < completedSteps.length
      calls := []
      readings := readings
    }

/-- What a run comes to: the calls of rollback functions, and its result or what it rejects
with.
-/
structure RunOutcome (ω μ : Type) where
  rollbackCalls : List (RollbackCall ω μ)
  result : Except ThrownValue (RunMigrationResult ω)

/-- The end of `run`: its report and the state that it returns. -/
def finishRun (host : Host) (plan : MigrationPlan ω μ) (initialState : ω) (dryRun : Bool)
    (forward : ForwardState ω μ) (state : ω) (status : MigrationStatus)
    (rollbackSteps : Option (List MigrationStepResult)) (readings : Nat)
    : RunMigrationResult ω :=
  {
    state := if dryRun then initialState else state
    report :=
      {
        contractId := plan.contractId
        fromVersion := plan.fromVersion
        toVersion := plan.toVersion
        status := status
        dryRun := dryRun
        startedAt := host.clock 0
        finishedAt := host.clock readings
        durationMs := host.clock readings - host.clock 0
        totalSteps := plan.steps.length
        succeededSteps :=
          (forward.stepResults.filter (fun result => result.status = .succeeded)).length
        failedSteps :=
          (forward.stepResults.filter (fun result => result.status = .failed)).length
        steps := forward.stepResults
        rollbackSteps := rollbackSteps
      }
  }

/-- The context that `run` passes to the steps. -/
def runContext (plan : MigrationPlan ω μ) (options : RunMigrationOptions μ) : MigrationContext μ :=
  {
    contractId := plan.contractId
    dryRun := options.dryRun
    metadata := options.metadata
  }

/-- `run`. -/
def run (host : Host) (validator : MigrationStateValidator ω) (plan : MigrationPlan ω μ)
    (initialState : ω) (options : RunMigrationOptions μ) : RunOutcome ω μ :=
  let context := runContext plan options
  match
      forwardSteps host validator context options.validateState plan.steps
        ⟨initialState, [], [], .undefined, 1⟩ with
  | .error thrown => ⟨[], .error thrown⟩
  | .ok forward =>
      let status := if forward.failure.isTruthy then .failed else .completed
      if forward.failure.isTruthy && options.rollbackOnFailure && !options.dryRun then
        let (outcome, rejection) :=
          rollback host forward.completedSteps forward.state context forward.readings
        match rejection with
        | some thrown => ⟨outcome.calls, .error thrown⟩
        | none =>
            let status := if outcome.allRolledBack then .rolledBack else status
            ⟨outcome.calls,
              .ok
                (finishRun host plan initialState options.dryRun forward outcome.current status
                  (some outcome.results) outcome.readings)⟩
      else
        ⟨[],
          .ok
            (finishRun host plan initialState options.dryRun forward forward.state status none
              forward.readings)⟩

/-- `migrate`, which rejects with the error of `resolvePath`, if it throws. -/
def migrate (fuel : Nat) (host : Host) (registry : MigrationRegistry ω μ)
    (validator : MigrationStateValidator ω) (contractId : String) (initialState : ω)
    (fromVersion toVersion : String) (options : RunMigrationOptions μ)
    : Option (RunOutcome ω μ) :=
  (registry.resolvePath fuel contractId fromVersion toVersion).map fun resolved =>
    match resolved with
    | .ok plan => run host validator plan initialState options
    | .error error => ⟨[], .error (.error (.ok error.name) (.ok error.message))⟩

end Axionvera.Migrations
