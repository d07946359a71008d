import Axionvera.Migrations.MigrationReports

/-! Rollback functions that undo their steps restore the initial state. -/

namespace Axionvera.Migrations

open Axionvera.Foundation

variable {ω μ : Type}

/-- Roll a step back, which fails when it has no rollback function or this throws. -/
def undoStep (context : MigrationContext μ) (state : ω) (step : MigrationStepDefinition ω μ)
    : Except (Option ThrownValue) ω :=
  match step.rollback with
  | none => .error none
  | some rollback => (rollback state context).mapError some

/-- What the results of a rollback have to say about steps that are rolled back. -/
def undoneSummaries (steps : List (MigrationStepDefinition ω μ))
    : List (String × String × String × MigrationStepStatus) :=
  steps.map (fun step => (step.id, step.toVersion, step.fromVersion, .succeeded))

/-- A step that can be rolled back has a rollback function that returns. -/
theorem undoStep_eq_ok {context : MigrationContext μ} {state previous : ω}
    {step : MigrationStepDefinition ω μ} (undone : undoStep context state step = .ok previous)
    : ∃ rollback, step.rollback = some rollback ∧ rollback state context = .ok previous := by
  unfold undoStep at undone
  cases isRollback : step.rollback with
  | none =>
      rw [isRollback] at undone
      cases undone
  | some rollback =>
      refine ⟨rollback, rfl, ?_⟩
      rw [isRollback] at undone
      cases outcome : rollback state context with
      | error error =>
          simp only [outcome] at undone
          cases undone
      | ok other =>
          simp only [outcome] at undone
          exact congrArg Except.ok (Except.ok.inj undone)

/-- A rollback of steps that can all be rolled back does so and reports it, by induction on the
steps.
-/
theorem rollbackSteps_of_undone (host : Host) {context : MigrationContext μ}
    {steps : List (MigrationStepDefinition ω μ)} (current : RollbackState ω μ) {first : ω}
    (undone : steps.foldlM (undoStep context) current.current = .ok first)
    : (rollbackSteps host context steps current).2 = none
      ∧ (rollbackSteps host context steps current).1.current = first
      ∧ (rollbackSteps host context steps current).1.allRolledBack = current.allRolledBack
      ∧ (rollbackSteps host context steps current).1.results.map MigrationStepResult.summary
        = current.results.map MigrationStepResult.summary ++ undoneSummaries steps := by
  induction steps generalizing current with
  | nil =>
      obtain rfl := Except.ok.inj undone
      exact ⟨rfl, rfl, rfl, (List.append_nil _).symm⟩
  | cons step earlier ih =>
      rw [List.foldlM_cons] at undone
      cases once : undoStep context current.current step with
      | error cause =>
          rw [once] at undone
          cases undone
      | ok previous =>
          rw [once] at undone
          obtain ⟨rollback, isRollback, returns⟩ := undoStep_eq_ok once
          simp only [rollbackSteps, isRollback, returns]
          obtain ⟨ends, isFirst, same, results⟩ := ih
            { current with
              current := previous
              calls := current.calls ++ [⟨step, current.current, .ok previous⟩]
              results :=
                current.results
                  ++ [stepResult host step.id step.toVersion step.fromVersion .succeeded
                        current.readings none]
              readings := current.readings + 3 }
            undone
          refine ⟨ends, isFirst, same, results.trans ?_⟩
          rw [List.map_append, List.append_assoc]
          rfl

/-- If a rollback reports that all steps were rolled back, each rollback function was called and
returned, by induction on the steps.
-/
theorem rollbackSteps_allRolledBack {host : Host} {context : MigrationContext μ}
    {steps : List (MigrationStepDefinition ω μ)} {current : RollbackState ω μ}
    (ended : (rollbackSteps host context steps current).2 = none)
    (all : (rollbackSteps host context steps current).1.allRolledBack = true)
    : current.allRolledBack = true
      ∧ (rollbackCalls host context steps current.current).map RollbackCall.step = steps
      ∧ ∀ call ∈ rollbackCalls host context steps current.current,
          ∃ previous, call.outcome = .ok previous := by
  induction steps generalizing current with
  | nil => exact ⟨all, rfl, fun _ member => (List.not_mem_nil member).elim⟩
  | cons step earlier ih =>
      cases isRollback : step.rollback with
      | none =>
          simp only [rollbackSteps, isRollback] at ended all
          cases (ih ended all).1
      | some rollback =>
          cases outcome : rollback current.current context with
          | ok previous =>
              simp only [rollbackSteps, isRollback, outcome] at ended all
              obtain ⟨before, steps, returned⟩ := ih ended all
              simp only [rollbackCalls, isRollback, outcome]
              refine ⟨before, congrArg (step :: ·) steps, ?_⟩
              exact List.forall_mem_cons.mpr ⟨⟨previous, rfl⟩, returned⟩
          | error error =>
              cases info : toErrorInfo host error with
              | error thrown =>
                  simp only [rollbackSteps, isRollback, outcome, info] at ended
                  cases ended
              | ok info' =>
                  simp only [rollbackSteps, isRollback, outcome, info] at ended all
                  cases (ih ended all).1

/-- The rollback functions of the steps done undo them: from the state that such a step leads
to, its rollback function leads back.
-/
def undoesSteps (validator : MigrationStateValidator ω) (plan : MigrationPlan ω μ)
    (initialState : ω) (options : RunMigrationOptions μ) : Prop :=
  ∀ front step back before after,
    (planProgress validator plan initialState options).done = front ++ step :: back
    → front.foldlM (attemptStep validator (runContext plan options) options.validateState)
          initialState
        = .ok before
    → attemptStep validator (runContext plan options) options.validateState before step
        = .ok after
    → undoStep (runContext plan options) after step = .ok before

/-- The run returns the initial state and reports that the steps done were all rolled back, the
latest first.
-/
def restoresInitialState (initialState : ω)
    (progress : Progress (MigrationStepDefinition ω μ) ω ThrownValue) (outcome : RunOutcome ω μ)
    : Prop :=
  ∃ report,
    outcome.result = .ok ⟨initialState, report⟩
    ∧ report.status = .rolledBack
    ∧ report.rollbackSteps.map (List.map MigrationStepResult.summary)
      = some (undoneSummaries progress.done.reverse)

/-- Rolling back steps that can be undone restores the initial state. -/
theorem undone_of_undoesSteps {validator : MigrationStateValidator ω} {plan : MigrationPlan ω μ}
    {initialState : ω} {options : RunMigrationOptions μ}
    (undoes : undoesSteps validator plan initialState options)
    : (planProgress validator plan initialState options).done.reverse.foldlM
          (undoStep (runContext plan options))
          (planProgress validator plan initialState options).state
        = .ok initialState :=
  foldlM_reverse_of_undone (takeSteps_foldlM initialState plan.steps) undoes

/-- `rollback` of steps that can all be rolled back, of which there is one at least. -/
theorem rollback_of_undone (host : Host) {context : MigrationContext μ}
    {completedSteps : List (MigrationStepDefinition ω μ)} {state first : ω} (readings : Nat)
    (nonempty : completedSteps ≠ [])
    (undone : completedSteps.reverse.foldlM (undoStep context) state = .ok first)
    : ∃ outcome,
        rollback host completedSteps state context readings = (outcome, none)
        ∧ outcome.current = first
        ∧ outcome.allRolledBack = true
        ∧ outcome.results.map MigrationStepResult.summary
          = undoneSummaries completedSteps.reverse := by
  obtain ⟨ends, current, same, results⟩ := rollbackSteps_of_undone host
    ⟨state, [], 0 < completedSteps.length, [], readings⟩ undone
  refine ⟨_, Prod.ext rfl ends, current, ?_, results⟩
  exact same.trans (decide_eq_true (List.length_pos_iff.mpr nonempty))

/-- A run that fails after the first step, rolls back and can undo the steps done restores the
initial state exactly when it can describe the error.
-/
theorem RunEffect.restores_iff {host : Host} {plan : MigrationPlan ω μ} {initialState : ω}
    {options : RunMigrationOptions μ}
    {progress : Progress (MigrationStepDefinition ω μ) ω ThrownValue} {outcome : RunOutcome ω μ}
    {step : MigrationStepDefinition ω μ} {error : ThrownValue}
    (effect : RunEffect host plan initialState options progress outcome)
    (fails : progress.failure = some (step, error)) (notFirst : progress.done ≠ [])
    (truthy : error.isTruthy = true) (rolls : options.rollsBack = true)
    (undone
      : progress.done.reverse.foldlM (undoStep (runContext plan options)) progress.state
        = .ok initialState)
    : restoresInitialState initialState progress outcome ↔ describes host error = true := by
  have same {other : MigrationStepDefinition ω μ} {otherError : ThrownValue}
      (fails' : progress.failure = some (other, otherError))
      : other = step ∧ otherError = error :=
    Prod.mk.inj (Option.some.inj (fails'.symm.trans fails))
  cases effect with
  | succeeded succeeds => cases succeeds.symm.trans fails
  | undescribed other otherError thrown fails' rejects =>
      obtain ⟨rfl, rfl⟩ := same fails'
      refine iff_of_false (fun ⟨_, isOk, _⟩ => nomatch isOk) fun described => ?_
      obtain ⟨info, isInfo⟩ := describes_iff.mp described
      cases rejects.symm.trans isInfo
  | unnoticed other otherError info fails' described falsy =>
      obtain ⟨rfl, rfl⟩ := same fails'
      cases falsy.symm.trans truthy
  | failed other otherError info fails' described otherTruthy notAsked =>
      cases notAsked.symm.trans rolls
  | rejected other otherError thrown info fails' described otherTruthy asked undescribed =>
      obtain ⟨outcome, ends, _⟩ := rollback_of_undone host 0 notFirst undone
      exact absurd ((rollback_spec host _ _ _ _).2.mpr (congrArg Prod.snd ends)) undescribed
  | rolledBack other otherError info fails' described otherTruthy asked outcome ended =>
      obtain ⟨rfl, rfl⟩ := same fails'
      obtain ⟨_, ends, current, all, results⟩ := rollback_of_undone host
        (failedState host initialState progress other otherError info).readings notFirst undone
      obtain rfl := congrArg Prod.fst (ended.symm.trans ends)
      refine iff_of_true ?_ (describes_iff.mpr ⟨info, described⟩)
      have real : options.dryRun = false := by
        simp only [RunMigrationOptions.rollsBack, Bool.and_eq_true, Bool.not_eq_true'] at rolls
        exact rolls.2
      refine
        ⟨(finishRun host plan initialState options.dryRun
            (failedState host initialState progress other otherError info) outcome.current
            (if outcome.allRolledBack then .rolledBack else .failed) (some outcome.results)
            outcome.readings).report,
        ?_, ?_, congrArg some results⟩
      · rw [← current, real]
        rfl
      · dsimp only [finishRun]
        rw [if_pos all]

/-- A run that reports a rollback has called and heard from the rollback function of each step
done.
-/
theorem RunEffect.allRolledBack {host : Host} {plan : MigrationPlan ω μ} {initialState : ω}
    {options : RunMigrationOptions μ}
    {progress : Progress (MigrationStepDefinition ω μ) ω ThrownValue} {outcome : RunOutcome ω μ}
    (effect : RunEffect host plan initialState options progress outcome)
    {result : RunMigrationResult ω} (isOk : outcome.result = .ok result)
    (isRolledBack : result.report.status = .rolledBack)
    : outcome.rollbackCalls.map RollbackCall.step = progress.done.reverse
      ∧ ∀ call ∈ outcome.rollbackCalls, ∃ previous, call.outcome = .ok previous := by
  cases effect with
  | succeeded succeeds =>
      obtain rfl := Except.ok.inj isOk
      cases isRolledBack
  | undescribed step error thrown fails rejects => cases isOk
  | unnoticed step error info fails described falsy =>
      obtain rfl := Except.ok.inj isOk
      cases isRolledBack
  | failed step error info fails described truthy notAsked =>
      obtain rfl := Except.ok.inj isOk
      cases isRolledBack
  | rejected step error thrown info fails described truthy asked undescribed => cases isOk
  | rolledBack step error info fails described truthy asked outcome ended =>
      obtain rfl := Except.ok.inj isOk
      cases all : outcome.allRolledBack with
      | false => simp [finishRun, all] at isRolledBack
      | true =>
          have isOutcome := congrArg Prod.fst ended
          exact (rollbackSteps_allRolledBack (congrArg Prod.snd ended) (isOutcome ▸ all)).2

/-- If a step after the first fails with an error that counts as true, and a rollback is asked
for whose functions undo the steps done, the run restores the initial state and reports so,
exactly when it can describe the error. A run reports a rollback only if it has rolled back
each of the steps done. Witness: `RunEffect.restores_iff` and `RunEffect.allRolledBack`.
-/
theorem restoresInitialState_iff_describes (host : Host) (validator : MigrationStateValidator ω)
    (plan : MigrationPlan ω μ) (initialState : ω) (options : RunMigrationOptions μ)
    : (∀ step error,
        (planProgress validator plan initialState options).failure = some (step, error)
        → (planProgress validator plan initialState options).done ≠ []
        → error.isTruthy = true
        → options.rollbackOnFailure = true
        → options.dryRun = false
        → undoesSteps validator plan initialState options
        → (restoresInitialState initialState (planProgress validator plan initialState options)
              (run host validator plan initialState options)
            ↔ describes host error = true))
      ∧ ∀ result,
          (run host validator plan initialState options).result = .ok result
          → result.report.status = .rolledBack
          → (run host validator plan initialState options).rollbackCalls.map RollbackCall.step
              = (planProgress validator plan initialState options).done.reverse
            ∧ ∀ call ∈ (run host validator plan initialState options).rollbackCalls,
                ∃ previous, call.outcome = .ok previous := by
  have effect := run_effect host validator plan initialState options
  refine ⟨fun step error fails notFirst truthy asked real undoes => ?_,
    fun result isOk isRolledBack => effect.allRolledBack isOk isRolledBack⟩
  have rolls : options.rollsBack = true := by simp [RunMigrationOptions.rollsBack, asked, real]
  exact effect.restores_iff fails notFirst truthy rolls (undone_of_undoesSteps undoes)

/-- The first step of the plan can be undone. -/
theorem undoesSteps_planThatThrows (error : ThrownValue)
    : undoesSteps .empty (planThatThrows error) 7 { rollbackOnFailure := true } := by
  intro front step back before after whole led taken
  cases front with
  | nil =>
      obtain rfl := Except.ok.inj led
      obtain ⟨isStep, _⟩ := List.cons.inj whole
      subst isStep
      obtain rfl := Except.ok.inj taken
      rfl
  | cons first others =>
      have lengths : 1 = (first :: others ++ step :: back).length := congrArg List.length whole
      rw [List.length_append, List.length_cons, List.length_cons] at lengths
      omega

/-- An object without a text makes the run reject, although the rollback would have worked. -/
theorem restoresInitialState_unprintable
    : let error : ThrownValue := .object (.error (.text "TypeError"))
      let progress :=
        planProgress .empty (planThatThrows error) 7 { rollbackOnFailure := true }
      progress.failure.map Prod.snd = some error
      ∧ progress.done ≠ []
      ∧ error.isTruthy = true
      ∧ undoesSteps .empty (planThatThrows error) 7 { rollbackOnFailure := true }
      ∧ (run stillHost .empty (planThatThrows error) 7 { rollbackOnFailure := true }).result
        = .error (.text "TypeError")
      ∧ ¬ restoresInitialState 7 progress
          (run stillHost .empty (planThatThrows error) 7 { rollbackOnFailure := true }) := by
  refine ⟨rfl, List.cons_ne_nil _ _, rfl, undoesSteps_planThatThrows _, rfl, ?_⟩
  exact fun ⟨_, isOk, _⟩ => nomatch isOk

/-- An ordinary error leads back to the initial state. -/
theorem restoresInitialState_boom
    : restoresInitialState 7
        (planProgress .empty (planThatThrows (.error (.ok "Error") (.ok "boom"))) 7
          { rollbackOnFailure := true })
        (run stillHost .empty (planThatThrows (.error (.ok "Error") (.ok "boom"))) 7
          { rollbackOnFailure := true }) :=
  ((restoresInitialState_iff_describes stillHost .empty
      (planThatThrows (.error (.ok "Error") (.ok "boom"))) 7 { rollbackOnFailure := true }).1
    _ _ rfl (List.cons_ne_nil _ _) rfl rfl rfl (undoesSteps_planThatThrows _)).mpr rfl

end Axionvera.Migrations
