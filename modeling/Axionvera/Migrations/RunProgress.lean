import Axionvera.Foundation.FallibleSteps
import Axionvera.Migrations.MigrationRunner

/-! A run of a migration reports the steps that its plan's functions determine: those that
succeed one after another, and the first that fails.
-/

namespace Axionvera.Migrations

open Axionvera.Foundation

variable {ω μ : Type}

/-- How far the steps of a plan come, by what their functions and the registered schemas do. -/
def planProgress (validator : MigrationStateValidator ω) (plan : MigrationPlan ω μ)
    (initialState : ω) (options : RunMigrationOptions μ)
    : Progress (MigrationStepDefinition ω μ) ω ThrownValue :=
  takeSteps (attemptStep validator (runContext plan options) options.validateState) initialState
    plan.steps

/-- The results of steps that succeed, the first of which begins with the given reading of the
clock.
-/
def succeededResults (host : Host)
    : List (MigrationStepDefinition ω μ) → Nat → List MigrationStepResult
  | [], _ => []
  | step :: rest, readings =>
      stepResult host step.id step.fromVersion step.toVersion .succeeded readings none
        :: succeededResults host rest (readings + 3)

/-- The variables of `run` after more steps have succeeded. -/
def ForwardState.advanced (host : Host) (current : ForwardState ω μ)
    (done : List (MigrationStepDefinition ω μ)) (state : ω) : ForwardState ω μ :=
  { current with
    state := state
    completedSteps := current.completedSteps ++ done
    stepResults := current.stepResults ++ succeededResults host done current.readings
    readings := current.readings + 3 * done.length }

/-- The variables of `run` after a step has failed. -/
def ForwardState.failedAt (host : Host) (current : ForwardState ω μ)
    (step : MigrationStepDefinition ω μ) (error : ThrownValue) (info : ErrorInfo)
    : ForwardState ω μ :=
  { current with
    stepResults :=
      current.stepResults
        ++ [stepResult host step.id step.fromVersion step.toVersion .failed current.readings
              (some info)]
    failure := error
    readings := current.readings + 3 }

/-- The loop of `run` comes as far as the functions of the steps do, and throws only when it
cannot describe the error of the step that fails. Witness: induction on the steps.
-/
theorem forwardSteps_eq (host : Host) (validator : MigrationStateValidator ω)
    (context : MigrationContext μ) (shouldValidateState : Bool)
    (steps : List (MigrationStepDefinition ω μ)) (current : ForwardState ω μ)
    : let progress :=
        takeSteps (attemptStep validator context shouldValidateState) current.state steps
      forwardSteps host validator context shouldValidateState steps current
      = match progress.failure with
        | none => .ok (current.advanced host progress.done progress.state)
        | some (step, error) =>
            (toErrorInfo host error).map
              ((current.advanced host progress.done progress.state).failedAt host step error) := by
  induction steps generalizing current with
  | nil => simp [forwardSteps, takeSteps, ForwardState.advanced, succeededResults]
  | cons step rest ih =>
      dsimp only
      cases attempted : attemptStep validator context shouldValidateState current.state step with
      | error error =>
          rw [takeSteps_cons_error attempted]
          simp only [forwardSteps, attempted]
          cases toErrorInfo host error with
          | error thrown => rfl
          | ok info =>
              simp [Except.map, bind, Except.bind, pure, Except.pure, ForwardState.failedAt,
                ForwardState.advanced, succeededResults]
      | ok next =>
          rw [takeSteps_cons_ok attempted]
          simp only [forwardSteps, attempted]
          have shifted (done : List (MigrationStepDefinition ω μ)) (state : ω)
              : ForwardState.advanced host
                  { current with
                    state := next
                    completedSteps := current.completedSteps ++ [step]
                    stepResults :=
                      current.stepResults
                        ++ [stepResult host step.id step.fromVersion step.toVersion .succeeded
                              current.readings none]
                    readings := current.readings + 3 }
                  done state
                = current.advanced host (step :: done) state := by
            simp [ForwardState.advanced, succeededResults, Nat.mul_add, Nat.add_assoc,
              Nat.add_comm 3]
          have later := ih
            { current with
              state := next
              completedSteps := current.completedSteps ++ [step]
              stepResults :=
                current.stepResults
                  ++ [stepResult host step.id step.fromVersion step.toVersion .succeeded
                        current.readings none]
              readings := current.readings + 3 }
          simp only [shifted] at later
          exact later

/-- The variables of `run` after the steps that succeed. -/
def reportedState (host : Host) (initialState : ω)
    (progress : Progress (MigrationStepDefinition ω μ) ω ThrownValue) : ForwardState ω μ :=
  ForwardState.advanced host ⟨initialState, [], [], .undefined, 1⟩ progress.done progress.state

/-- The variables of `run` after the steps that succeed and the one that fails. -/
def failedState (host : Host) (initialState : ω)
    (progress : Progress (MigrationStepDefinition ω μ) ω ThrownValue)
    (step : MigrationStepDefinition ω μ) (error : ThrownValue) (info : ErrorInfo)
    : ForwardState ω μ :=
  (reportedState host initialState progress).failedAt host step error info

/-- The loop of `run` comes from its start to one of these states, or throws. -/
theorem forwardSteps_planProgress (host : Host) (validator : MigrationStateValidator ω)
    (plan : MigrationPlan ω μ) (initialState : ω) (options : RunMigrationOptions μ)
    : let progress := planProgress validator plan initialState options
      forwardSteps host validator (runContext plan options) options.validateState plan.steps
          ⟨initialState, [], [], .undefined, 1⟩
        = match progress.failure with
          | none => .ok (reportedState host initialState progress)
          | some (step, error) =>
              (toErrorInfo host error).map (failedState host initialState progress step error) :=
  forwardSteps_eq host validator (runContext plan options) options.validateState plan.steps
    ⟨initialState, [], [], .undefined, 1⟩

end Axionvera.Migrations
