import Axionvera.Migrations.MigrationReports

/-! A dry run reports what the real run reports, if the steps take no notice of it. -/

namespace Axionvera.Migrations

open Axionvera.Foundation

variable {ω μ : Type}

/-- The result of a step without its times. -/
def MigrationStepResult.timeless (result : MigrationStepResult)
    : String × String × String × MigrationStepStatus × Option ErrorInfo :=
  (result.stepId, result.fromVersion, result.toVersion, result.status, result.error)

/-- What a report says apart from its times and whether the run was a dry one. -/
structure TimelessReport where
  contractId : String
  fromVersion : String
  toVersion : String
  status : MigrationStatus
  totalSteps : Nat
  succeededSteps : Nat
  failedSteps : Nat
  steps : List (String × String × String × MigrationStepStatus × Option ErrorInfo)
  rollbackSteps : Option (List (String × String × String × MigrationStepStatus × Option ErrorInfo))

/-- The report without its times. -/
def MigrationReport.timeless (report : MigrationReport) : TimelessReport :=
  {
    contractId := report.contractId
    fromVersion := report.fromVersion
    toVersion := report.toVersion
    status := report.status
    totalSteps := report.totalSteps
    succeededSteps := report.succeededSteps
    failedSteps := report.failedSteps
    steps := report.steps.map MigrationStepResult.timeless
    rollbackSteps := report.rollbackSteps.map (List.map MigrationStepResult.timeless)
  }

/-- The steps of the plan do not read whether the run is a dry one. -/
def ignoresDryRun (plan : MigrationPlan ω μ) : Prop :=
  ∀ step ∈ plan.steps, ∀ state context dryRun,
    step.migrate state { context with dryRun := dryRun } = step.migrate state context

/-- The dry run gives the same report as the real run up to times, returns the initial state
and calls no rollback function, and the real run returns the state threaded through the
succeeded steps.
-/
def dryRunPredicts (validator : MigrationStateValidator ω) (plan : MigrationPlan ω μ)
    (initialState : ω) (options : RunMigrationOptions μ) (dry real : RunOutcome ω μ) : Prop :=
  ∃ predicted actual,
    dry.result = .ok predicted
    ∧ real.result = .ok actual
    ∧ predicted.report.timeless = actual.report.timeless
    ∧ predicted.state = initialState
    ∧ dry.rollbackCalls = []
    ∧ (plan.steps.take actual.report.succeededSteps).foldlM
          (attemptStep validator (runContext plan options) options.validateState) initialState
        = .ok actual.state

/-- The results of succeeded steps differ in nothing but times, by induction on the steps. -/
theorem succeededResults_timeless (host : Host) (steps : List (MigrationStepDefinition ω μ))
    (readings : Nat)
    : (succeededResults host steps readings).map MigrationStepResult.timeless
      = steps.map (fun step => (step.id, step.fromVersion, step.toVersion, .succeeded, none)) := by
  induction steps generalizing readings with
  | nil => rfl
  | cons step rest ih => exact congrArg₂ List.cons rfl (ih (readings + 3))

/-- What a run without a rollback comes to. -/
theorem RunEffect.withoutRollback {host : Host} {plan : MigrationPlan ω μ} {initialState : ω}
    {options : RunMigrationOptions μ}
    {progress : Progress (MigrationStepDefinition ω μ) ω ThrownValue} {outcome : RunOutcome ω μ}
    (effect : RunEffect host plan initialState options progress outcome)
    (rollsNot : options.rollsBack = false)
    : outcome
      = match progress.failure with
        | none =>
            ⟨[],
              .ok
                (finishRun host plan initialState options.dryRun
                  (reportedState host initialState progress) progress.state .completed none
                  (reportedState host initialState progress).readings)⟩
        | some (step, error) =>
            ⟨[],
              (toErrorInfo host error).map fun info =>
                finishRun host plan initialState options.dryRun
                  (failedState host initialState progress step error info) progress.state
                  (if error.isTruthy then .failed else .completed) none
                  (failedState host initialState progress step error info).readings⟩ := by
  cases effect with
  | succeeded succeeds => rw [succeeds]
  | undescribed step error thrown fails rejects =>
      rw [fails]
      simp only [rejects]
      rfl
  | unnoticed step error info fails described falsy =>
      rw [fails]
      simp only [described, falsy]
      rfl
  | failed step error info fails described truthy notAsked =>
      rw [fails]
      simp only [described, truthy]
      rfl
  | rejected step error thrown info fails described truthy asked undescribed =>
      cases rollsNot.symm.trans asked
  | rolledBack step error info fails described truthy asked outcome ended =>
      cases rollsNot.symm.trans asked

/-- Steps that do not read it come equally far in a dry run. -/
theorem planProgress_dryRun {validator : MigrationStateValidator ω} {plan : MigrationPlan ω μ}
    (ignores : ignoresDryRun plan) (initialState : ω) (options : RunMigrationOptions μ)
    (dryRun rollbackOnFailure : Bool)
    : planProgress validator plan initialState
        { options with dryRun := dryRun, rollbackOnFailure := rollbackOnFailure }
      = planProgress validator plan initialState options := by
  refine takeSteps_congr initialState fun step member state => ?_
  have same := ignores step member state (runContext plan options) dryRun
  unfold attemptStep
  change (do
      if options.validateState then
        let _ ← validator.validateState plan.contractId step.fromVersion state
      let nextState ← step.migrate state { runContext plan options with dryRun := dryRun }
      if options.validateState then
        let _ ← validator.validateState plan.contractId step.toVersion nextState
      return nextState) = _
  rw [same]
  rfl

/-- Reports on results that differ in nothing but times differ in nothing else. -/
theorem finishRun_timeless {host other : Host} {plan : MigrationPlan ω μ}
    {initialState state otherState : ω} {dryRun otherDryRun : Bool}
    {forward otherForward : ForwardState ω μ} {status : MigrationStatus}
    {readings otherReadings : Nat}
    (same
      : forward.stepResults.map MigrationStepResult.timeless
        = otherForward.stepResults.map MigrationStepResult.timeless)
    : (finishRun host plan initialState dryRun forward state status none readings).report.timeless
      = (finishRun other plan initialState otherDryRun otherForward otherState status none
          otherReadings).report.timeless := by
  have sameCount (status : MigrationStepStatus)
      : (forward.stepResults.filter (fun result => result.status = status)).length
        = (otherForward.stepResults.filter (fun result => result.status = status)).length := by
    have counts := congrArg (List.countP (fun result => result.2.2.2.1 = status)) same
    rw [List.countP_map, List.countP_map, List.countP_eq_length_filter,
      List.countP_eq_length_filter] at counts
    exact counts
  simp only [finishRun, MigrationReport.timeless, same, sameCount, Option.map_none]

/-- The steps done are as many of the first steps of the plan. -/
theorem take_planProgress_done (validator : MigrationStateValidator ω) (plan : MigrationPlan ω μ)
    (initialState : ω) (options : RunMigrationOptions μ)
    : plan.steps.take (planProgress validator plan initialState options).done.length
      = (planProgress validator plan initialState options).done := by
  have isPrefix : (planProgress validator plan initialState options).done <+: plan.steps :=
    (List.prefix_append _ _).trans (takeSteps_tried_isPrefix initialState plan.steps)
  exact (List.prefix_iff_eq_take.mp isPrefix).symm

/-- A run that reports what was tried counts the steps done as succeeded. -/
theorem foldlM_take_succeededSteps {host : Host} {validator : MigrationStateValidator ω}
    {plan : MigrationPlan ω μ} {initialState : ω} {options : RunMigrationOptions μ}
    {dryRun : Bool} {forward : ForwardState ω μ} {status : MigrationStatus} {readings : Nat}
    (steps
      : forward.stepResults.map MigrationStepResult.summary
        = triedSummaries (planProgress validator plan initialState options))
    : (plan.steps.take
            (finishRun host plan initialState dryRun forward
              (planProgress validator plan initialState options).state status none
              readings).report.succeededSteps).foldlM
          (attemptStep validator (runContext plan options) options.validateState) initialState
        = .ok (planProgress validator plan initialState options).state := by
  have succeeded := (triedSummaries_counts (planProgress validator plan initialState options)).1
  rw [← steps, ← filter_status_length] at succeeded
  dsimp only [finishRun]
  rw [succeeded, take_planProgress_done]
  exact takeSteps_foldlM initialState plan.steps

/-- The description of an error does not depend on the clock. -/
theorem toErrorInfo_clock (clock other : Nat → Int) (printed : JsNumber → String)
    (error : ThrownValue)
    : toErrorInfo ⟨clock, printed⟩ error = toErrorInfo ⟨other, printed⟩ error := by
  cases error <;> rfl

/-- For steps that do not read whether the run is a dry one, the dry run predicts the real run
without rollback exactly when the error of the step that fails, if one does, can be described.
Witness: both runs come to what `RunEffect.withoutRollback` says, with the same progress.
-/
theorem dryRunPredicts_iff_describes (dryClock realClock : Nat → Int) (printed : JsNumber → String)
    (validator : MigrationStateValidator ω) (plan : MigrationPlan ω μ) (initialState : ω)
    (options : RunMigrationOptions μ) (ignores : ignoresDryRun plan)
    : dryRunPredicts validator plan initialState options
        (run ⟨dryClock, printed⟩ validator plan initialState { options with dryRun := true })
        (run ⟨realClock, printed⟩ validator plan initialState
          { options with dryRun := false, rollbackOnFailure := false })
      ↔ ∀ step error,
          (planProgress validator plan initialState options).failure = some (step, error)
          → describes ⟨dryClock, printed⟩ error = true := by
  have dry := run_effect ⟨dryClock, printed⟩ validator plan initialState
    { options with dryRun := true }
  have real := run_effect ⟨realClock, printed⟩ validator plan initialState
    { options with dryRun := false, rollbackOnFailure := false }
  rw [planProgress_dryRun ignores initialState options true options.rollbackOnFailure] at dry
  rw [planProgress_dryRun ignores initialState options false false] at real
  rw [dry.withoutRollback (by simp [RunMigrationOptions.rollsBack]), real.withoutRollback rfl]
  cases failure : (planProgress validator plan initialState options).failure with
  | none =>
      refine iff_of_true ⟨_, _, rfl, rfl, ?_, rfl, rfl, ?_⟩ fun _ _ fails => by cases fails
      · apply finishRun_timeless
        simp [reportedState, ForwardState.advanced, succeededResults_timeless]
      · exact foldlM_take_succeededSteps (reportedState_summaries _ initialState failure)
  | some failed =>
      obtain ⟨step, error⟩ := failed
      have sameInfo := toErrorInfo_clock realClock dryClock printed error
      cases described : toErrorInfo ⟨dryClock, printed⟩ error with
      | error thrown =>
          refine iff_of_false (fun predicts => ?_) fun describesAll => ?_
          · obtain ⟨_, _, isOk, _⟩ := predicts
            simp only [described] at isOk
            cases isOk
          · obtain ⟨info, isInfo⟩ := describes_iff.mp (describesAll step error rfl)
            cases described.symm.trans isInfo
      | ok info =>
          refine iff_of_true ?_ fun other otherError same => ?_
          · refine ⟨_, _, by simp only [described]; rfl, by simp only [sameInfo, described]; rfl,
              ?_, rfl, rfl, ?_⟩
            · apply finishRun_timeless
              simp [failedState, reportedState, ForwardState.advanced, ForwardState.failedAt,
                succeededResults_timeless, MigrationStepResult.timeless, stepResult]
            · exact foldlM_take_succeededSteps
                (failedState_summaries _ initialState info failure)
          · obtain ⟨rfl, rfl⟩ := Prod.mk.inj (Option.some.inj same)
            exact describes_iff.mpr ⟨info, described⟩

/-- The steps of the plan read no context. -/
theorem ignoresDryRun_planThatThrows (error : ThrownValue) : ignoresDryRun (planThatThrows error) :=
  List.forall_mem_cons.mpr ⟨fun _ _ _ => rfl, List.forall_mem_singleton.mpr fun _ _ _ => rfl⟩

/-- A step that throws an object without a text makes both runs reject, so that neither
reports.
-/
theorem dryRunPredicts_unprintable
    : let plan := planThatThrows (.object (.error (.text "TypeError")))
      ignoresDryRun plan
      ∧ ¬ dryRunPredicts .empty plan 7 {} (run stillHost .empty plan 7 { dryRun := true })
          (run stillHost .empty plan 7 {}) :=
  ⟨ignoresDryRun_planThatThrows _, fun ⟨_, _, isOk, _⟩ => nomatch isOk⟩

/-- A dry run predicts that a step throws an ordinary error. -/
theorem dryRunPredicts_boom
    : let plan := planThatThrows (.error (.ok "Error") (.ok "boom"))
      dryRunPredicts .empty plan 7 {} (run stillHost .empty plan 7 { dryRun := true })
        (run stillHost .empty plan 7 {}) := by
  intro plan
  refine (dryRunPredicts_iff_describes (fun _ => 0) (fun _ => 0) (fun _ => "") .empty plan 7 {}
    (ignoresDryRun_planThatThrows _)).mpr fun step error fails => ?_
  obtain ⟨rfl, rfl⟩ := Prod.mk.inj (Option.some.inj fails)
  rfl

end Axionvera.Migrations
