import Axionvera.Migrations.Rollback

/-! Rollback functions get states of the version that they expect exactly when, before a step that
cannot be rolled back, no completed step has a rollback function.
-/

namespace Axionvera.Migrations

open Axionvera.Foundation

variable {ω μ : Type}

/-- (callsInTurn steps state calls) requires the calls to roll the steps back one after
another: each is of the next step, on the state that the one before has led back to, and none
follows one that fails.
-/
def callsInTurn : List (MigrationStepDefinition ω μ) → ω → List (RollbackCall ω μ) → Prop
  | _, _, [] => True
  | [], _, _ :: _ => False
  | step :: earlier, state, call :: later =>
      call.step = step
      ∧ call.state = state
      ∧ match call.outcome with
        | .ok previous => callsInTurn earlier previous later
        | .error _ => later = []

/-- The completed steps before the first, from the end, that has no rollback function or whose
rollback function fails have no rollback function either; nor does it matter when that failure
cannot be described.
-/
def noneBeyondGap (host : Host) (context : MigrationContext μ)
    : List (MigrationStepDefinition ω μ) → ω → Prop
  | [], _ => True
  | step :: earlier, state =>
      match step.rollback with
      | none => ∀ other ∈ earlier, other.rollback = none
      | some rollback =>
          match rollback state context with
          | .ok previous => noneBeyondGap host context earlier previous
          | .error error => describes host error = true → ∀ other ∈ earlier, other.rollback = none

/-- A rollback calls the steps in turn exactly when there is none beyond the first gap, by
induction on the steps.
-/
theorem callsInTurn_iff_noneBeyondGap {host : Host} {context : MigrationContext μ}
    {steps : List (MigrationStepDefinition ω μ)} {state : ω}
    : callsInTurn steps state (rollbackCalls host context steps state)
      ↔ noneBeyondGap host context steps state := by
  induction steps generalizing state with
  | nil => exact iff_of_true trivial trivial
  | cons step earlier ih =>
      cases isRollback : step.rollback with
      | none =>
          simp only [rollbackCalls, noneBeyondGap, isRollback]
          have noCalls
              : rollbackCalls host context earlier state = []
                ↔ ∀ other ∈ earlier, other.rollback = none :=
            rollbackCalls_eq_nil_iff
          rw [← noCalls]
          cases calls : rollbackCalls host context earlier state with
          | nil => exact iff_of_true trivial rfl
          | cons call later =>
              -- A call that follows the gap is not of the step without a rollback function.
              refine iff_of_false (fun inTurn => ?_) (List.cons_ne_nil call later)
              have hasRollback := rollback_isSome_of_mem_rollbackCalls
                (calls ▸ List.mem_cons_self : call ∈ rollbackCalls host context earlier state)
              rw [inTurn.1, isRollback] at hasRollback
              cases hasRollback
      | some rollback =>
          cases outcome : rollback state context with
          | ok previous =>
              simp only [rollbackCalls, noneBeyondGap, callsInTurn, isRollback, outcome, true_and]
              exact ih
          | error error =>
              simp only [rollbackCalls, noneBeyondGap, callsInTurn, isRollback, outcome, true_and]
              split
              · rename_i described
                rw [rollbackCalls_eq_nil_iff]
                exact ⟨fun none _ => none, fun none => none described⟩
              · rename_i undescribed
                exact iff_of_true rfl fun described => absurd described undescribed

/-- The state after a rollback is the one before it or comes from a rollback function, by
induction on the steps.
-/
theorem rollbackSteps_current (host : Host) (context : MigrationContext μ)
    (steps : List (MigrationStepDefinition ω μ)) (current : RollbackState ω μ)
    : (rollbackSteps host context steps current).1.current = current.current
      ∨ ∃ call ∈ rollbackCalls host context steps current.current,
          call.outcome = .ok (rollbackSteps host context steps current).1.current := by
  induction steps generalizing current with
  | nil => exact .inl rfl
  | cons step earlier ih =>
      cases isRollback : step.rollback with
      | none =>
          simp only [rollbackSteps, rollbackCalls, isRollback]
          exact ih _
      | some rollback =>
          cases outcome : rollback current.current context with
          | ok previous =>
              simp only [rollbackSteps, rollbackCalls, isRollback, outcome]
              right
              rcases ih
                { current with
                  current := previous
                  calls := current.calls ++ [⟨step, current.current, .ok previous⟩]
                  results :=
                    current.results
                      ++ [stepResult host step.id step.toVersion step.fromVersion .succeeded
                            current.readings none]
                  readings := current.readings + 3 } with same | ⟨call, member, led⟩
              · exact ⟨_, List.mem_cons_self, congrArg Except.ok same.symm⟩
              · exact ⟨call, List.mem_cons_of_mem _ member, led⟩
          | error error =>
              cases info : toErrorInfo host error with
              | error thrown => simp [rollbackSteps, isRollback, outcome, info]
              | ok info' =>
                  have described : describes host error = true := by
                    simp [describes, info, Except.isOk, Except.toBool]
                  simp only [rollbackSteps, rollbackCalls, isRollback, outcome, info, described,
                    ↓reduceIte]
                  rcases ih
                    { current with
                      calls := current.calls ++ [⟨step, current.current, .error error⟩]
                      allRolledBack := false
                      results :=
                        current.results
                          ++ [stepResult host step.id step.toVersion step.fromVersion .failed
                                current.readings (some info')]
                      readings := current.readings + 3 } with same | ⟨call, member, led⟩
                  · exact .inl same
                  · exact .inr ⟨call, List.mem_cons_of_mem _ member, led⟩

/-- The same for `rollback`. -/
theorem rollback_current (host : Host) (completedSteps : List (MigrationStepDefinition ω μ))
    (state : ω) (context : MigrationContext μ) (readings : Nat)
    : (rollback host completedSteps state context readings).1.current = state
      ∨ ∃ call ∈ rollbackCalls host context completedSteps.reverse state,
          call.outcome
          = .ok (rollback host completedSteps state context readings).1.current :=
  rollbackSteps_current host context completedSteps.reverse
    ⟨state, [], 0 < completedSteps.length, [], readings⟩

/-- A run calls rollback functions on states of the right version, and returns a state that
existed along the chain: the initial one, the last one that a step led to, or one that was led
back to.
-/
structure KeepsVersions (initialState : ω)
    (progress : Progress (MigrationStepDefinition ω μ) ω ThrownValue) (outcome : RunOutcome ω μ)
    : Prop where
  inTurn : callsInTurn progress.done.reverse progress.state outcome.rollbackCalls
  existed
    : ∀ result,
        outcome.result = .ok result
        → result.state = initialState
          ∨ result.state = progress.state
          ∨ ∃ call ∈ outcome.rollbackCalls, call.outcome = .ok result.state

/-- If the run rolls back, no completed step beyond the first gap has a rollback function. -/
def rollsBackWithoutGap (host : Host) (plan : MigrationPlan ω μ) (options : RunMigrationOptions μ)
    (progress : Progress (MigrationStepDefinition ω μ) ω ThrownValue) : Prop :=
  ∀ step error,
    progress.failure = some (step, error)
    → error.isTruthy = true
    → describes host error = true
    → options.rollsBack = true
    → noneBeyondGap host (runContext plan options) progress.done.reverse progress.state

/-- A run that calls nothing keeps versions if it returns the initial state or the last one. -/
theorem keepsVersions_of_noCalls {initialState : ω}
    {progress : Progress (MigrationStepDefinition ω μ) ω ThrownValue}
    {result : Except ThrownValue (RunMigrationResult ω)}
    (returns
      : ∀ returned,
          result = .ok returned
          → returned.state = initialState ∨ returned.state = progress.state)
    : KeepsVersions initialState progress ⟨[], result⟩ := by
  constructor
  case inTurn => cases progress.done.reverse <;> exact trivial
  case existed => exact fun returned isOk => (returns returned isOk).imp_right .inl

/-- What `run` returns is the initial state in a dry run, or else the state that it has come
to.
-/
theorem finishRun_state {host : Host} {plan : MigrationPlan ω μ} {initialState state : ω}
    {options : RunMigrationOptions μ} {forward : ForwardState ω μ} {status : MigrationStatus}
    {rolledBack : Option (List MigrationStepResult)} {readings : Nat}
    {returned : RunMigrationResult ω}
    (isOk
      : (.ok
            (finishRun host plan initialState options.dryRun forward state status rolledBack
              readings)
          : Except ThrownValue (RunMigrationResult ω))
        = .ok returned)
    : returned.state = initialState ∨ returned.state = state := by
  obtain rfl := Except.ok.inj isOk
  cases dryRun : options.dryRun with
  | false => exact .inr rfl
  | true => exact .inl rfl

/-- In every run, rollback functions get states of the right version, and a state that existed is
returned, exactly when the run does not roll back across a gap. Witness: by cases on what the run
comes to.
-/
theorem keepsVersions_iff_rollsBackWithoutGap (host : Host) (validator : MigrationStateValidator ω)
    (plan : MigrationPlan ω μ) (initialState : ω) (options : RunMigrationOptions μ)
    : KeepsVersions initialState (planProgress validator plan initialState options)
        (run host validator plan initialState options)
      ↔ rollsBackWithoutGap host plan options
          (planProgress validator plan initialState options) := by
  have effect := run_effect host validator plan initialState options
  revert effect
  generalize run host validator plan initialState options = outcome
  generalize planProgress validator plan initialState options = progress
  intro effect
  have condition {step : MigrationStepDefinition ω μ} {error : ThrownValue} {info : ErrorInfo}
      (fails : progress.failure = some (step, error)) (truthy : error.isTruthy = true)
      (described : toErrorInfo host error = .ok info) (asked : options.rollsBack = true)
      : rollsBackWithoutGap host plan options progress
        ↔ callsInTurn progress.done.reverse progress.state
            (rollbackCalls host (runContext plan options) progress.done.reverse
              progress.state) := by
    rw [callsInTurn_iff_noneBeyondGap]
    have describesError : describes host error = true := by
      simp [describes, described, Except.isOk, Except.toBool]
    exact ⟨fun all => all step error fails truthy describesError asked,
      fun none _ _ _ _ _ _ => none⟩
  cases effect with
  | succeeded succeeds =>
      refine iff_of_true (keepsVersions_of_noCalls fun _ => finishRun_state) ?_
      intro _ _ fails
      cases succeeds.symm.trans fails
  | undescribed step error thrown fails rejects =>
      refine iff_of_true (keepsVersions_of_noCalls fun _ isOk => by cases isOk) ?_
      intro other otherError same _ described
      obtain ⟨rfl, rfl⟩ := Prod.mk.inj (Option.some.inj (fails.symm.trans same))
      simp [describes, rejects, Except.isOk, Except.toBool] at described
  | unnoticed step error info fails described falsy =>
      refine iff_of_true (keepsVersions_of_noCalls fun _ => finishRun_state) ?_
      intro other otherError same truthy
      obtain ⟨rfl, rfl⟩ := Prod.mk.inj (Option.some.inj (fails.symm.trans same))
      cases falsy.symm.trans truthy
  | failed step error info fails described truthy notAsked =>
      refine iff_of_true (keepsVersions_of_noCalls fun _ => finishRun_state) ?_
      intro _ _ _ _ _ asked
      cases notAsked.symm.trans asked
  | rejected step error thrown info fails described truthy asked undescribed =>
      rw [condition fails truthy described asked]
      exact ⟨fun keeps => keeps.inTurn, fun inTurn => ⟨inTurn, fun _ isOk => by cases isOk⟩⟩
  | rolledBack step error info fails described truthy asked outcome ended =>
      rw [condition fails truthy described asked]
      refine ⟨fun keeps => keeps.inTurn, fun inTurn => ⟨inTurn, fun returned isOk => ?_⟩⟩
      have current := rollback_current host progress.done progress.state (runContext plan options)
        (failedState host initialState progress step error info).readings
      rw [ended] at current
      rcases finishRun_state isOk with initial | last
      · exact .inl initial
      · exact .inr (last ▸ current)

/-- A plan whose second step has no rollback function and whose third step fails. -/
def planWithGap : MigrationPlan Nat Unit :=
  {
    contractId := "Vault"
    fromVersion := "v1"
    toVersion := "v4"
    steps :=
      [
        {
          id := "v1-v2"
          fromVersion := "v1"
          toVersion := "v2"
          migrate := fun state _ => .ok (state + 1)
          rollback := some (fun state _ => .ok (state - 1))
        },
        {
          id := "v2-v3"
          fromVersion := "v2"
          toVersion := "v3"
          migrate := fun state _ => .ok (state * 10)
          rollback := none
        },
        {
          id := "v3-v4"
          fromVersion := "v3"
          toVersion := "v4"
          migrate := fun _ _ => .error (.error (.ok "Error") (.ok "boom"))
          rollback := none
        }
      ]
  }

/-- The first step is rolled back from the state at `v3`, so that a state of no version is
returned.
-/
theorem keepsVersions_gap
    : (∃ result,
          (run stillHost .empty planWithGap 1 { rollbackOnFailure := true }).result
            = .ok result
          ∧ result.state = 19)
      ∧ (run stillHost .empty planWithGap 1 { rollbackOnFailure := true }).rollbackCalls.map
            (fun call => (call.step.id, call.state))
          = [("v1-v2", 20)]
      ∧ ¬ KeepsVersions 1 (planProgress .empty planWithGap 1 { rollbackOnFailure := true })
          (run stillHost .empty planWithGap 1 { rollbackOnFailure := true }) := by
  refine ⟨⟨_, rfl, rfl⟩, rfl, fun keeps => ?_⟩
  have isStep := congrArg MigrationStepDefinition.id keeps.inTurn.1
  exact absurd isStep (by decide)

end Axionvera.Migrations
