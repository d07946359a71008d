import Axionvera.Migrations.RunProgress

/-! What a rollback does: which rollback functions it calls on which states, and what it
reports.
-/

namespace Axionvera.Migrations

open Axionvera.Foundation

variable {ω μ : Type}

/-- The error of a step can be described, so that it can be reported. -/
def describes (host : Host) (error : ThrownValue) : Bool :=
  (toErrorInfo host error).isOk

/-- The calls that a rollback of the steps makes from a state on; the steps are listed latest
first.
-/
def rollbackCalls (host : Host) (context : MigrationContext μ)
    : List (MigrationStepDefinition ω μ) → ω → List (RollbackCall ω μ)
  | [], _ => []
  | step :: earlier, state =>
      match step.rollback with
      | none => rollbackCalls host context earlier state
      | some rollback =>
          ⟨step, state, rollback state context⟩
            :: match rollback state context with
              | .ok previous => rollbackCalls host context earlier previous
              | .error error =>
                  if describes host error then rollbackCalls host context earlier state else []

/-- The loop of `rollback` makes these calls, by induction on the steps. -/
theorem rollbackSteps_calls (host : Host) (context : MigrationContext μ)
    (steps : List (MigrationStepDefinition ω μ)) (current : RollbackState ω μ)
    : (rollbackSteps host context steps current).1.calls
      = current.calls ++ rollbackCalls host context steps current.current := by
  induction steps generalizing current with
  | nil => simp [rollbackSteps, rollbackCalls]
  | cons step earlier ih =>
      cases isRollback : step.rollback with
      | none =>
          simp only [rollbackSteps, rollbackCalls, isRollback]
          exact ih _
      | some rollback =>
          cases outcome : rollback current.current context with
          | ok previous =>
              simp only [rollbackSteps, rollbackCalls, isRollback, outcome]
              rw [ih]
              simp
          | error error =>
              cases info : toErrorInfo host error with
              | error thrown =>
                  simp [rollbackSteps, rollbackCalls, isRollback, outcome, info, describes,
                    Except.isOk, Except.toBool]
              | ok info' =>
                  simp only [rollbackSteps, rollbackCalls, isRollback, outcome, info, describes]
                  rw [ih]
                  simp [Except.isOk, Except.toBool]

/-- Every call is of a step with a rollback function. -/
theorem rollback_isSome_of_mem_rollbackCalls {host : Host} {context : MigrationContext μ}
    {steps : List (MigrationStepDefinition ω μ)} {state : ω} {call : RollbackCall ω μ}
    (member : call ∈ rollbackCalls host context steps state)
    : call.step.rollback.isSome = true := by
  induction steps generalizing state with
  | nil => cases member
  | cons step earlier ih =>
      cases isRollback : step.rollback with
      | none =>
          simp only [rollbackCalls, isRollback] at member
          exact ih member
      | some rollback =>
          simp only [rollbackCalls, isRollback] at member
          rcases List.mem_cons.mp member with rfl | later
          · simp [isRollback]
          · cases outcome : rollback state context with
            | ok previous =>
                simp only [outcome] at later
                exact ih later
            | error error =>
                simp only [outcome] at later
                split at later
                · exact ih later
                · cases later

/-- No call is made exactly when no step has a rollback function. -/
theorem rollbackCalls_eq_nil_iff {host : Host} {context : MigrationContext μ}
    {steps : List (MigrationStepDefinition ω μ)} {state : ω}
    : rollbackCalls host context steps state = [] ↔ ∀ step ∈ steps, step.rollback = none := by
  induction steps generalizing state with
  | nil => exact iff_of_true rfl fun _ member => (List.not_mem_nil member).elim
  | cons step earlier ih =>
      cases isRollback : step.rollback with
      | none => simp [rollbackCalls, isRollback, ih]
      | some rollback => simp [rollbackCalls, isRollback]

/-- The errors that rollback functions throw, from a state on, can all be described. -/
def describesRollbacks (host : Host) (context : MigrationContext μ)
    : List (MigrationStepDefinition ω μ) → ω → Prop
  | [], _ => True
  | step :: earlier, state =>
      match step.rollback with
      | none => describesRollbacks host context earlier state
      | some rollback =>
          match rollback state context with
          | .ok previous => describesRollbacks host context earlier previous
          | .error error =>
              describes host error = true ∧ describesRollbacks host context earlier state

/-- A rollback comes to its end exactly when it can describe every error, by induction on the
steps.
-/
theorem describesRollbacks_iff (host : Host) (context : MigrationContext μ)
    (steps : List (MigrationStepDefinition ω μ)) (current : RollbackState ω μ)
    : describesRollbacks host context steps current.current
      ↔ (rollbackSteps host context steps current).2 = none := by
  induction steps generalizing current with
  | nil => exact iff_of_true trivial rfl
  | cons step earlier ih =>
      cases isRollback : step.rollback with
      | none =>
          simp only [describesRollbacks, rollbackSteps, isRollback]
          rw [← ih]
      | some rollback =>
          cases outcome : rollback current.current context with
          | ok previous =>
              simp only [describesRollbacks, rollbackSteps, isRollback, outcome]
              rw [← ih]
          | error error =>
              cases info : toErrorInfo host error with
              | error thrown =>
                  simp [describesRollbacks, rollbackSteps, isRollback, outcome, info, describes,
                    Except.isOk, Except.toBool]
              | ok info' =>
                  simp only [describesRollbacks, rollbackSteps, isRollback, outcome, info,
                    describes]
                  rw [← ih]
                  exact and_iff_right rfl

/-- A rollback that comes to its end calls every rollback function there is, latest first. -/
theorem rollbackCalls_map_step {host : Host} {context : MigrationContext μ}
    {steps : List (MigrationStepDefinition ω μ)} {state : ω}
    (described : describesRollbacks host context steps state)
    : (rollbackCalls host context steps state).map RollbackCall.step
      = steps.filter (fun step => step.rollback.isSome) := by
  induction steps generalizing state with
  | nil => rfl
  | cons step earlier ih =>
      cases isRollback : step.rollback with
      | none =>
          simp only [describesRollbacks, isRollback] at described
          simp [rollbackCalls, isRollback, ih described]
      | some rollback =>
          simp only [describesRollbacks, isRollback] at described
          cases outcome : rollback state context with
          | ok previous =>
              simp only [outcome] at described
              simp [rollbackCalls, isRollback, outcome, ih described]
          | error error =>
              simp only [outcome] at described
              simp [rollbackCalls, isRollback, outcome, described.1, ih described.2]

/-- `rollback` makes these calls, and throws when it cannot describe an error. -/
theorem rollback_spec (host : Host) (completedSteps : List (MigrationStepDefinition ω μ))
    (state : ω) (context : MigrationContext μ) (readings : Nat)
    : (rollback host completedSteps state context readings).1.calls
        = rollbackCalls host context completedSteps.reverse state
      ∧ (describesRollbacks host context completedSteps.reverse state
          ↔ (rollback host completedSteps state context readings).2 = none) := by
  unfold rollback
  constructor
  · rw [rollbackSteps_calls]
    rfl
  · rw [← describesRollbacks_iff]

/-- A rollback is asked for, and the run is no dry run. -/
def RunMigrationOptions.rollsBack (options : RunMigrationOptions μ) : Bool :=
  options.rollbackOnFailure && !options.dryRun

/-- What a run comes to, by what its steps do: it succeeds; it rejects because it cannot
describe an error; it takes no notice of an error that does not count as true; it fails without
a rollback; or it fails and rolls back, which it may not be able to describe either.
-/
inductive RunEffect (host : Host) (plan : MigrationPlan ω μ) (initialState : ω)
    (options : RunMigrationOptions μ)
    (progress : Progress (MigrationStepDefinition ω μ) ω ThrownValue)
    : RunOutcome ω μ → Prop where
  | succeeded (succeeds : progress.failure = none)
    : RunEffect host plan initialState options progress
        ⟨[],
          .ok
            (finishRun host plan initialState options.dryRun
              (reportedState host initialState progress) progress.state .completed none
              (reportedState host initialState progress).readings)⟩
  | undescribed (step : MigrationStepDefinition ω μ) (error thrown : ThrownValue)
    (fails : progress.failure = some (step, error))
    (rejects : toErrorInfo host error = .error thrown)
    : RunEffect host plan initialState options progress ⟨[], .error thrown⟩
  | unnoticed (step : MigrationStepDefinition ω μ) (error : ThrownValue) (info : ErrorInfo)
    (fails : progress.failure = some (step, error)) (described : toErrorInfo host error = .ok info)
    (falsy : error.isTruthy = false)
    : RunEffect host plan initialState options progress
        ⟨[],
          .ok
            (finishRun host plan initialState options.dryRun
              (failedState host initialState progress step error info) progress.state .completed
              none (failedState host initialState progress step error info).readings)⟩
  | failed (step : MigrationStepDefinition ω μ) (error : ThrownValue) (info : ErrorInfo)
    (fails : progress.failure = some (step, error)) (described : toErrorInfo host error = .ok info)
    (truthy : error.isTruthy = true)
    (notAsked : options.rollsBack = false)
    : RunEffect host plan initialState options progress
        ⟨[],
          .ok
            (finishRun host plan initialState options.dryRun
              (failedState host initialState progress step error info) progress.state .failed
              none (failedState host initialState progress step error info).readings)⟩
  | rejected (step : MigrationStepDefinition ω μ) (error thrown : ThrownValue) (info : ErrorInfo)
    (fails : progress.failure = some (step, error)) (described : toErrorInfo host error = .ok info)
    (truthy : error.isTruthy = true) (asked : options.rollsBack = true)
    (undescribed
      : ¬ describesRollbacks host (runContext plan options) progress.done.reverse progress.state)
    : RunEffect host plan initialState options progress
        ⟨rollbackCalls host (runContext plan options) progress.done.reverse progress.state,
          .error thrown⟩
  | rolledBack (step : MigrationStepDefinition ω μ) (error : ThrownValue) (info : ErrorInfo)
    (fails : progress.failure = some (step, error)) (described : toErrorInfo host error = .ok info)
    (truthy : error.isTruthy = true) (asked : options.rollsBack = true)
    (outcome : RollbackState ω μ)
    (ended
      : rollback host progress.done progress.state (runContext plan options)
            (failedState host initialState progress step error info).readings
          = (outcome, none))
    : RunEffect host plan initialState options progress
        ⟨rollbackCalls host (runContext plan options) progress.done.reverse progress.state,
          .ok
            (finishRun host plan initialState options.dryRun
              (failedState host initialState progress step error info) outcome.current
              (if outcome.allRolledBack then .rolledBack else .failed) (some outcome.results)
              outcome.readings)⟩

/-- Every run comes to one of these, by cases on the failure of its steps. -/
theorem run_effect (host : Host) (validator : MigrationStateValidator ω) (plan : MigrationPlan ω μ)
    (initialState : ω) (options : RunMigrationOptions μ)
    : RunEffect host plan initialState options (planProgress validator plan initialState options)
        (run host validator plan initialState options) := by
  have forward := forwardSteps_planProgress host validator plan initialState options
  revert forward
  generalize planProgress validator plan initialState options = progress
  intro forward
  cases failure : progress.failure with
  | none =>
      simp only [failure] at forward
      simp only [run, forward]
      exact .succeeded failure
  | some failed =>
      obtain ⟨step, error⟩ := failed
      simp only [failure] at forward
      cases described : toErrorInfo host error with
      | error thrown =>
          simp only [run, forward, described]
          exact .undescribed step error thrown failure described
      | ok info =>
          have completed
              : (failedState host initialState progress step error info).completedSteps
                = progress.done :=
            rfl
          have reached
              : (failedState host initialState progress step error info).state = progress.state :=
            rfl
          have isFailure
              : (failedState host initialState progress step error info).failure = error :=
            rfl
          simp only [run, forward, described, Except.map, completed, reached, isFailure]
          cases truthy : error.isTruthy with
          | false => exact .unnoticed step error info failure described truthy
          | true =>
              cases asked : options.rollsBack with
              | false =>
                  unfold RunMigrationOptions.rollsBack at asked
                  simp only [Bool.true_and, asked, Bool.false_eq_true, ↓reduceIte]
                  exact .failed step error info failure described truthy asked
              | true =>
                  obtain ⟨calls, ends⟩ := rollback_spec host progress.done progress.state
                    (runContext plan options)
                    (failedState host initialState progress step error info).readings
                  have condition := asked
                  unfold RunMigrationOptions.rollsBack at condition
                  simp only [Bool.true_and, condition, ↓reduceIte, calls]
                  cases rejection
                      : (rollback host progress.done progress.state (runContext plan options)
                          (failedState host initialState progress step error info).readings).2 with
                  | some thrown =>
                      rw [rejection] at ends
                      exact .rejected step error thrown info failure described truthy asked
                        fun described => nomatch ends.mp described
                  | none =>
                      exact .rolledBack step error info failure described truthy asked _
                        (Prod.ext rfl rejection)

/-- A host whose clock stands still, for runs on given plans. -/
def stillHost : Host := ⟨fun _ => 0, fun _ => ""⟩

end Axionvera.Migrations
