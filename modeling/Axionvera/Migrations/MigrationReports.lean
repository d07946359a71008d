import Axionvera.Migrations.Rollback

/-! The report of a run agrees with what its steps did exactly when the error of the step that
fails, if one does, counts as true and all errors can be described.
-/

namespace Axionvera.Migrations

open Axionvera.Foundation

variable {ω μ : Type}

/-- What the result of a step says about it, apart from times and errors. -/
def MigrationStepResult.summary (result : MigrationStepResult)
    : String × String × String × MigrationStepStatus :=
  (result.stepId, result.fromVersion, result.toVersion, result.status)

/-- What the results of a run have to say about the steps that were tried. -/
def triedSummaries (progress : Progress (MigrationStepDefinition ω μ) ω ThrownValue)
    : List (String × String × String × MigrationStepStatus) :=
  progress.done.map (fun step => (step.id, step.fromVersion, step.toVersion, .succeeded))
  ++ (progress.failure.map Prod.fst).toList.map
      (fun step => (step.id, step.fromVersion, step.toVersion, .failed))

/-- The report agrees with what the steps of the plan did: the executed steps are a prefix of
the plan that ends with the first that fails, their number is the sum of the counts,
`COMPLETED` means that every step succeeded, and the rollback of the steps done has been
attempted when it was asked for.
-/
structure ReportAgrees (plan : MigrationPlan ω μ) (options : RunMigrationOptions μ)
    (progress : Progress (MigrationStepDefinition ω μ) ω ThrownValue)
    (rollbackCalls : List (RollbackCall ω μ)) (report : MigrationReport) : Prop where
  executed : progress.tried <+: plan.steps
  stopsAtFailure : progress.failure = none → progress.tried = plan.steps
  steps : report.steps.map MigrationStepResult.summary = triedSummaries progress
  counts : report.succeededSteps + report.failedSteps = progress.tried.length
  atMostOne : report.failedSteps ≤ 1
  completed : report.status = .completed ↔ progress.done = plan.steps
  rollback
    : progress.failure.isSome = true
      → options.rollsBack = true
      → rollbackCalls.map RollbackCall.step
          = progress.done.reverse.filter (fun step => step.rollback.isSome)
        ∧ report.rollbackSteps.isSome = true

/-- The error of the step that fails, if one does, counts as true, and it can be described, as can
those of the rollback functions that are called then.
-/
def failsReportably (host : Host) (plan : MigrationPlan ω μ) (options : RunMigrationOptions μ)
    (progress : Progress (MigrationStepDefinition ω μ) ω ThrownValue) : Prop :=
  ∀ step error,
    progress.failure = some (step, error)
    → error.isTruthy = true
      ∧ describes host error = true
      ∧ (options.rollsBack = true
          → describesRollbacks host (runContext plan options) progress.done.reverse progress.state)

/-- The results of succeeded steps name them in their order, by induction on the steps. -/
theorem succeededResults_summaries (host : Host) (steps : List (MigrationStepDefinition ω μ))
    (readings : Nat)
    : (succeededResults host steps readings).map MigrationStepResult.summary
      = steps.map (fun step => (step.id, step.fromVersion, step.toVersion, .succeeded)) := by
  induction steps generalizing readings with
  | nil => rfl
  | cons step rest ih => exact congrArg₂ List.cons rfl (ih (readings + 3))

/-- The number of results with a status is the number of summaries with it. -/
theorem filter_status_length (results : List MigrationStepResult) (status : MigrationStepStatus)
    : (results.filter (fun result => result.status = status)).length
      = (results.map MigrationStepResult.summary).countP
          (fun summary => summary.2.2.2 = status) := by
  rw [List.countP_map, List.countP_eq_length_filter]
  rfl

/-- Among the summaries, the steps done have succeeded and the other one has failed. -/
theorem triedSummaries_counts (progress : Progress (MigrationStepDefinition ω μ) ω ThrownValue)
    : (triedSummaries progress).countP (fun summary => summary.2.2.2 = .succeeded)
        = progress.done.length
      ∧ (triedSummaries progress).countP (fun summary => summary.2.2.2 = .failed)
        = (progress.failure.map Prod.fst).toList.length := by
  constructor
  · simp [triedSummaries, List.countP_map, Function.comp_def]
  · simp [triedSummaries, List.countP_map, Function.comp_def]

/-- A report whose results say what was tried agrees, given its status and rollback. -/
theorem reportAgrees_finishRun {host : Host} {validator : MigrationStateValidator ω}
    {plan : MigrationPlan ω μ} {initialState : ω} {options : RunMigrationOptions μ}
    {forward : ForwardState ω μ} {calls : List (RollbackCall ω μ)} {state : ω}
    {status : MigrationStatus} {rolledBack : Option (List MigrationStepResult)} {readings : Nat}
    (steps
      : forward.stepResults.map MigrationStepResult.summary
        = triedSummaries (planProgress validator plan initialState options))
    (completed
      : status = .completed ↔ (planProgress validator plan initialState options).failure = none)
    (rollback
      : (planProgress validator plan initialState options).failure.isSome = true
        → options.rollsBack = true
        → calls.map RollbackCall.step
            = (planProgress validator plan initialState options).done.reverse.filter
                (fun step => step.rollback.isSome)
          ∧ rolledBack.isSome = true)
    : ReportAgrees plan options (planProgress validator plan initialState options) calls
        (finishRun host plan initialState options.dryRun forward state status rolledBack
          readings).report := by
  obtain ⟨succeeded, failed⟩ :=
    triedSummaries_counts (planProgress validator plan initialState options)
  rw [← steps, ← filter_status_length] at succeeded failed
  constructor
  case executed => exact takeSteps_tried_isPrefix initialState plan.steps
  case stopsAtFailure =>
    intro noFailure
    rw [Progress.tried, noFailure]
    exact (List.append_nil _).trans (takeSteps_of_success noFailure)
  case steps => exact steps
  case counts =>
    dsimp only [finishRun]
    rw [succeeded, failed, Progress.tried, List.length_append]
  case atMostOne =>
    dsimp only [finishRun]
    rw [failed]
    exact Option.length_toList_le
  case completed => exact completed.trans takeSteps_failure_eq_none_iff
  case rollback => exact rollback

/-- The results after the steps that succeed say so. -/
theorem reportedState_summaries (host : Host) (initialState : ω)
    {progress : Progress (MigrationStepDefinition ω μ) ω ThrownValue}
    (succeeds : progress.failure = none)
    : (reportedState host initialState progress).stepResults.map MigrationStepResult.summary
      = triedSummaries progress := by
  rw [triedSummaries, succeeds]
  simp [reportedState, ForwardState.advanced, succeededResults_summaries]

/-- The results after a step that fails say so, as does the one of the step. -/
theorem failedState_summaries (host : Host) (initialState : ω) (info : ErrorInfo)
    {progress : Progress (MigrationStepDefinition ω μ) ω ThrownValue}
    {step : MigrationStepDefinition ω μ} {error : ThrownValue}
    (fails : progress.failure = some (step, error))
    : (failedState host initialState progress step error info).stepResults.map
        MigrationStepResult.summary
      = triedSummaries progress := by
  rw [triedSummaries, fails]
  simp [failedState, reportedState, ForwardState.advanced, ForwardState.failedAt,
    succeededResults_summaries, stepResult, MigrationStepResult.summary]

/-- For a given failure, failing reportably is about that failure. -/
theorem failsReportably_iff {host : Host} {plan : MigrationPlan ω μ}
    {options : RunMigrationOptions μ}
    {progress : Progress (MigrationStepDefinition ω μ) ω ThrownValue}
    {step : MigrationStepDefinition ω μ} {error : ThrownValue}
    (fails : progress.failure = some (step, error))
    : failsReportably host plan options progress
      ↔ error.isTruthy = true
        ∧ describes host error = true
        ∧ (options.rollsBack = true
            → describesRollbacks host (runContext plan options) progress.done.reverse
                progress.state) := by
  refine ⟨fun reportable => reportable step error fails, fun all other otherError same => ?_⟩
  obtain ⟨rfl, rfl⟩ := Prod.mk.inj (Option.some.inj (fails.symm.trans same))
  exact all

/-- An error can be described when its name and message can be read. -/
theorem describes_iff {host : Host} {error : ThrownValue}
    : describes host error = true ↔ ∃ info, toErrorInfo host error = .ok info := by
  unfold describes
  cases toErrorInfo host error with
  | error thrown => exact iff_of_false Bool.false_ne_true fun ⟨_, isOk⟩ => nomatch isOk
  | ok info => exact iff_of_true rfl ⟨info, rfl⟩

/-- A run gives a report that agrees with what its steps did exactly when it fails reportably,
if at all. Witness: by cases on what the run comes to.
-/
theorem reportAgrees_iff_failsReportably (host : Host) (validator : MigrationStateValidator ω)
    (plan : MigrationPlan ω μ) (initialState : ω) (options : RunMigrationOptions μ)
    : (∃ result,
        (run host validator plan initialState options).result = .ok result
        ∧ ReportAgrees plan options (planProgress validator plan initialState options)
            (run host validator plan initialState options).rollbackCalls result.report)
      ↔ failsReportably host plan options (planProgress validator plan initialState options) := by
  have effect := run_effect host validator plan initialState options
  revert effect
  generalize run host validator plan initialState options = outcome
  intro effect
  cases effect with
  | succeeded succeeds =>
      refine iff_of_true ⟨_, rfl, ?_⟩ fun _ _ fails => nomatch succeeds.symm.trans fails
      refine reportAgrees_finishRun (reportedState_summaries host initialState succeeds) ?_
        fun fails => ?_
      · exact iff_of_true rfl succeeds
      · cases (congrArg Option.isSome succeeds).symm.trans fails
  | undescribed step error thrown fails rejects =>
      refine iff_of_false (fun ⟨_, isOk, _⟩ => nomatch isOk) fun reportable => ?_
      obtain ⟨info, described⟩ := describes_iff.mp (reportable step error fails).2.1
      cases rejects.symm.trans described
  | unnoticed step error info fails described falsy =>
      refine iff_of_false (fun ⟨result, isOk, agrees⟩ => ?_) fun reportable => ?_
      · obtain rfl := Except.ok.inj isOk
        have all := takeSteps_failure_eq_none_iff.mpr (agrees.completed.mp rfl)
        cases fails.symm.trans all
      · cases falsy.symm.trans (reportable step error fails).1
  | failed step error info fails described truthy notAsked =>
      rw [failsReportably_iff fails]
      refine iff_of_true ⟨_, rfl, ?_⟩ ⟨truthy, describes_iff.mpr ⟨info, described⟩, fun asked => ?_⟩
      · refine reportAgrees_finishRun (failedState_summaries host initialState info fails) ?_
          fun _ asked => ?_
        · exact iff_of_false (fun same => nomatch same) fun none => nomatch fails.symm.trans none
        · cases notAsked.symm.trans asked
      · cases notAsked.symm.trans asked
  | rejected step error thrown info fails described truthy asked undescribed =>
      refine iff_of_false (fun ⟨_, isOk, _⟩ => nomatch isOk) fun reportable => ?_
      exact undescribed ((reportable step error fails).2.2 asked)
  | rolledBack step error info fails described truthy asked outcome ended =>
      have rollbacks := (rollback_spec host _ _ _ _).2.mpr (congrArg Prod.snd ended)
      rw [failsReportably_iff fails]
      refine iff_of_true ⟨_, rfl, ?_⟩
        ⟨truthy, describes_iff.mpr ⟨info, described⟩, fun _ => rollbacks⟩
      refine reportAgrees_finishRun (failedState_summaries host initialState info fails) ?_
        fun _ _ => ⟨rollbackCalls_map_step rollbacks, rfl⟩
      refine iff_of_false (fun same => ?_) fun none => nomatch fails.symm.trans none
      cases rolled : outcome.allRolledBack with
      | false => simp [rolled] at same
      | true => simp [rolled] at same

/-- A plan of one step that adds one and can be rolled back, and one that throws. -/
def planThatThrows (error : ThrownValue) : MigrationPlan Nat Unit :=
  {
    contractId := "Vault"
    fromVersion := "v1"
    toVersion := "v3"
    steps :=
      [
        {
          id := "v1-v2"
          fromVersion := "v1"
          toVersion := "v2"
          migrate := fun state _ => .ok (state + 1)
          rollback := some (fun state _ => .ok (state - 1))
        },
        {
          id := "v2-v3"
          fromVersion := "v2"
          toVersion := "v3"
          migrate := fun _ _ => .error error
          rollback := none
        }
      ]
  }

/-- If the second step throws `undefined`, the run reports `COMPLETED` with a failed step, and
rolls nothing back.
-/
theorem reportAgrees_undefined
    : ∃ result,
        (run stillHost .empty (planThatThrows .undefined) 7 { rollbackOnFailure := true }).result
          = .ok result
        ∧ result.report.status = .completed
        ∧ result.report.failedSteps = 1
        ∧ result.report.rollbackSteps = none
        ∧ result.state = 8
        ∧ ¬ ReportAgrees (planThatThrows .undefined) { rollbackOnFailure := true }
            (planProgress .empty (planThatThrows .undefined) 7 { rollbackOnFailure := true })
            [] result.report := by
  refine ⟨_, rfl, rfl, rfl, rfl, rfl, fun agrees => ?_⟩
  cases agrees.completed.mp rfl

/-- If it throws an object that cannot be turned into text, there is no report. -/
example
    : (run stillHost .empty (planThatThrows (.object (.error (.text "TypeError")))) 7 {}).result
      = .error (.text "TypeError") :=
  rfl

end Axionvera.Migrations
