import Axionvera.Migrations.PathResolution
import Axionvera.Migrations.RollbackRestores
import Axionvera.Migrations.VaultMigrations

/-! The runner upgrades exactly the vault states that are valid, and rolls the registered steps
back when a later one fails.
-/

namespace Axionvera.Migrations

open Axionvera.Foundation

variable {ω μ : Type}

-----------------------------------------------------------------------------------------
-- What runs come to
-----------------------------------------------------------------------------------------

/-- A run whose steps all succeed completes with the state that they lead to. -/
theorem run_of_success (host : Host) {validator : MigrationStateValidator ω}
    {plan : MigrationPlan ω μ} {initialState last : ω} {options : RunMigrationOptions μ}
    (succeeds : planProgress validator plan initialState options = ⟨plan.steps, last, none⟩)
    : ∃ result,
        run host validator plan initialState options = ⟨[], .ok result⟩
        ∧ result.state = (if options.dryRun then initialState else last)
        ∧ result.report.status = .completed := by
  have effect := run_effect host validator plan initialState options
  rw [succeeds] at effect
  generalize run host validator plan initialState options = outcome at effect ⊢
  cases effect with
  | succeeded _ => exact ⟨_, rfl, rfl, rfl⟩
  | undescribed _ _ _ fails => cases fails
  | unnoticed _ _ _ fails => cases fails
  | failed _ _ _ fails => cases fails
  | rejected _ _ _ _ fails => cases fails
  | rolledBack _ _ _ fails => cases fails

/-- A run whose first step fails with a validation error fails with the initial state, and rolls
nothing back.
-/
theorem run_of_invalid (host : Host) {validator : MigrationStateValidator ω}
    {plan : MigrationPlan ω μ} {initialState : ω} {options : RunMigrationOptions μ}
    {step : MigrationStepDefinition ω μ} {contractId version : String} {issues : List SchemaIssue}
    (fails
      : planProgress validator plan initialState options
        = ⟨[], initialState,
            some (step, MigrationStateValidator.validationError contractId version issues)⟩)
    : ∃ result,
        run host validator plan initialState options = ⟨[], .ok result⟩
        ∧ result.state = initialState
        ∧ result.report.status = .failed
        ∧ result.report.succeededSteps = 0 := by
  have effect := run_effect host validator plan initialState options
  rw [fails] at effect
  generalize run host validator plan initialState options = outcome at effect ⊢
  cases effect with
  | succeeded succeeds => cases succeeds
  | undescribed other error thrown isFailure rejects =>
      obtain ⟨rfl, rfl⟩ := Prod.mk.inj (Option.some.inj isFailure)
      cases rejects
  | unnoticed other error info isFailure described falsy =>
      obtain ⟨rfl, rfl⟩ := Prod.mk.inj (Option.some.inj isFailure)
      cases falsy
  | failed other error info isFailure described truthy notAsked =>
      exact ⟨_, rfl, ite_self initialState, rfl, rfl⟩
  | rejected other error thrown info isFailure described truthy asked undescribed =>
      exact absurd trivial undescribed
  | rolledBack other error info isFailure described truthy asked outcome ended =>
      obtain rfl := congrArg Prod.fst ended
      exact ⟨_, rfl, ite_self initialState, rfl, rfl⟩

-----------------------------------------------------------------------------------------
-- Upgrades of vaults
-----------------------------------------------------------------------------------------

/-- The fields that the later version has and the earlier one has not, if states can be migrated
from the one to the other.
-/
def addedFields (fromVersion toVersion : String) : Option (List String) :=
  if fromVersion = "v1" ∧ toVersion = "v2" then some ["apy", "lockPeriod"]
  else if fromVersion = "v2" ∧ toVersion = "v3" then some ["feeBps"]
  else if fromVersion = "v1" ∧ toVersion = "v3" then some ["apy", "lockPeriod", "feeBps"]
  else none

/-- The schema for vault states of a version. -/
def vaultSchema (version : String) : List (String × FieldSchema) :=
  if version = "v1" then vaultStateV1Schema
  else if version = "v2" then vaultStateV2Schema
  else vaultStateV3Schema

/-- What the first step is called and leads between. -/
@[simp]
theorem vaultV1ToV2Migration_versions (nullishText : String)
    : (vaultV1ToV2Migration (ω := ω) (μ := μ) nullishText).id = "vault-v1-to-v2"
      ∧ (vaultV1ToV2Migration (ω := ω) (μ := μ) nullishText).fromVersion = "v1"
      ∧ (vaultV1ToV2Migration (ω := ω) (μ := μ) nullishText).toVersion = "v2" :=
  ⟨rfl, rfl, rfl⟩

/-- What the second step is called and leads between. -/
@[simp]
theorem vaultV2ToV3Migration_versions (nullishText : String)
    : (vaultV2ToV3Migration (ω := ω) (μ := μ) nullishText).id = "vault-v2-to-v3"
      ∧ (vaultV2ToV3Migration (ω := ω) (μ := μ) nullishText).fromVersion = "v2"
      ∧ (vaultV2ToV3Migration (ω := ω) (μ := μ) nullishText).toVersion = "v3" :=
  ⟨rfl, rfl, rfl⟩

/-- The registered steps of a vault, in their order. -/
theorem listSteps_vaultMigrationRegistry (nullishText : String)
    : (vaultMigrationRegistry (ω := ω) (μ := μ) nullishText).listSteps vaultMigrationContractId
      = [vaultV1ToV2Migration nullishText, vaultV2ToV3Migration nullishText] := by
  have none
      : (MigrationRegistry.empty : MigrationRegistry (VaultState ω) μ).listSteps
          vaultMigrationContractId
        = [] :=
    rfl
  simp [vaultMigrationRegistry, MigrationRegistry.listSteps_register, MigrationRegistry.withoutId,
    none]

/-- The steps that lead from the one version to the other. -/
def upgradeSteps (nullishText fromVersion toVersion : String)
    : Option (List (MigrationStepDefinition (VaultState ω) μ)) :=
  if fromVersion = "v1" ∧ toVersion = "v2" then some [vaultV1ToV2Migration nullishText]
  else if fromVersion = "v2" ∧ toVersion = "v3" then some [vaultV2ToV3Migration nullishText]
  else if fromVersion = "v1" ∧ toVersion = "v3" then
    some [vaultV1ToV2Migration nullishText, vaultV2ToV3Migration nullishText]
  else none

/-- The search finds these steps, from each version in turn. -/
theorem searchPath_vault (fuel : Nat) (nullishText : String) {fromVersion toVersion : String}
    (differs : fromVersion ≠ toVersion)
    : MigrationRegistry.searchPath
          (MigrationRegistry.edgesByFrom
            [vaultV1ToV2Migration (ω := ω) (μ := μ) nullishText, vaultV2ToV3Migration nullishText])
          toVersion (fuel + 4) [fromVersion] [(fromVersion, [])]
        = some (upgradeSteps nullishText fromVersion toVersion) := by
  by_cases first : fromVersion = "v1"
  · subst first
    by_cases second : toVersion = "v2"
    · subst second
      simp [MigrationRegistry.searchPath, MigrationRegistry.edgesByFrom_get,
        MigrationRegistry.followEdges, upgradeSteps]
    · by_cases third : toVersion = "v3"
      · subst third
        simp [MigrationRegistry.searchPath, MigrationRegistry.edgesByFrom_get,
          MigrationRegistry.followEdges, upgradeSteps]
      · simp [MigrationRegistry.searchPath, MigrationRegistry.edgesByFrom_get,
          MigrationRegistry.followEdges, upgradeSteps, second, third, Ne.symm second,
          Ne.symm third]
  · by_cases second : fromVersion = "v2"
    · subst second
      by_cases third : toVersion = "v3"
      · subst third
        simp [MigrationRegistry.searchPath, MigrationRegistry.edgesByFrom_get,
          MigrationRegistry.followEdges, upgradeSteps]
      · simp [MigrationRegistry.searchPath, MigrationRegistry.edgesByFrom_get,
          MigrationRegistry.followEdges, upgradeSteps, third, Ne.symm third]
    · simp [MigrationRegistry.searchPath, MigrationRegistry.edgesByFrom_get,
        MigrationRegistry.followEdges, upgradeSteps, first, second, Ne.symm first,
        Ne.symm second]

/-- The steps between two versions form a chain that adds the fields between them. -/
theorem upgradeChain (valibot : Valibot ω) (nullishText : String) {fromVersion toVersion : String}
    {added : List String} (isUpgrade : addedFields fromVersion toVersion = some added)
    : ∃ steps,
        upgradeSteps nullishText fromVersion toVersion = some steps
        ∧ UpgradeChain (μ := μ) (vaultStateValidator valibot) valibot vaultMigrationContractId steps
            (vaultSchema fromVersion) (vaultSchema toVersion) added := by
  have first := vaultV1ToV2Migration_addsFields (μ := μ) valibot nullishText
  have second := vaultV2ToV3Migration_addsFields (μ := μ) valibot nullishText
  unfold addedFields at isUpgrade
  split at isUpgrade
  · rename_i versions
    obtain ⟨rfl, rfl⟩ := versions
    obtain rfl := Option.some.inj isUpgrade
    exact ⟨_, rfl, .one first⟩
  · split at isUpgrade
    · rename_i versions
      obtain ⟨rfl, rfl⟩ := versions
      obtain rfl := Option.some.inj isUpgrade
      exact ⟨_, rfl, .one second⟩
    · split at isUpgrade
      · rename_i versions
        obtain ⟨rfl, rfl⟩ := versions
        obtain rfl := Option.some.inj isUpgrade
        exact ⟨_, rfl, .cons first (.one second)⟩
      · cases isUpgrade

/-- Where no fields are listed, no steps lead. -/
theorem upgradeSteps_eq_none {nullishText fromVersion toVersion : String}
    (noUpgrade : addedFields fromVersion toVersion = none)
    : upgradeSteps (ω := ω) (μ := μ) nullishText fromVersion toVersion = none := by
  unfold addedFields at noUpgrade
  unfold upgradeSteps
  split at noUpgrade
  · cases noUpgrade
  · rename_i notFirst
    split at noUpgrade
    · cases noUpgrade
    · rename_i notSecond
      split at noUpgrade
      · cases noUpgrade
      · rename_i notBoth
        rw [if_neg notFirst, if_neg notSecond, if_neg notBoth]

/-- A run that upgrades a state never calls a rollback function. It completes exactly when the
state conforms to the schema of its version, or is not validated, with the state that has zeros
in the added fields and nothing else changed (or the initial state in a dry run); else it fails in
its first step with the initial state. The result conforms to the schema of the later version
whenever the state conforms to that of the earlier.
-/
structure Upgrades (options : RunMigrationOptions μ) (state : VaultState ω)
    (fromVersion toVersion : String) (added : List String) (outcome : RunOutcome (VaultState ω) μ)
    : Prop where
  rollsNothingBack : outcome.rollbackCalls = []
  completes
    : (options.validateState = true → Conforms (vaultSchema fromVersion) state)
      → ∃ result,
          outcome.result = .ok result
          ∧ result.report.status = .completed
          ∧ result.state = (if options.dryRun then state else state.withZeros added)
  fails
    : options.validateState = true
      → ¬ Conforms (vaultSchema fromVersion) state
      → ∃ result,
          outcome.result = .ok result
          ∧ result.report.status = .failed
          ∧ result.report.succeededSteps = 0
          ∧ result.state = state
  conforms
    : Conforms (vaultSchema fromVersion) state
      → Conforms (vaultSchema toVersion) (state.withZeros added)
  keeps
    : ∀ field,
        (state.withZeros added).fields.get field
        = if field ∈ added then some (.number (.finite 0)) else state.fields.get field

/-- What `migrate` rejects with when it finds no path. -/
def pathNotFound (contractId fromVersion toVersion : String) : ThrownValue :=
  let error := newMigrationPathNotFoundError contractId fromVersion toVersion
  .error (.ok error.name) (.ok error.message)

/-- No fields lie between a version and itself. -/
theorem addedFields_self (version : String) : addedFields version version = none := by
  have apart (first second : String) (differ : first ≠ second)
      : ¬ (version = first ∧ version = second) :=
    fun both => differ (both.1.symm.trans both.2)
  rw [addedFields, if_neg (apart "v1" "v2" (by decide)), if_neg (apart "v2" "v3" (by decide)),
    if_neg (apart "v1" "v3" (by decide))]

/-- Between different versions `migrate` runs the steps that lead from the one to the other. -/
theorem migrate_vault (fuel : Nat) (host : Host) (valibot : Valibot ω) (nullishText : String)
    (state : VaultState ω) {fromVersion toVersion : String} (differs : fromVersion ≠ toVersion)
    (options : RunMigrationOptions μ)
    : migrate (fuel + 4) host (vaultMigrationRegistry nullishText) (vaultStateValidator valibot)
          vaultMigrationContractId state fromVersion toVersion options
        = some
            ((upgradeSteps nullishText fromVersion toVersion).elim
              ⟨[], .error (pathNotFound vaultMigrationContractId fromVersion toVersion)⟩
              fun steps =>
                run host (vaultStateValidator valibot)
                  ⟨vaultMigrationContractId, fromVersion, toVersion, steps⟩ state options) := by
  rw [migrate, MigrationRegistry.resolvePath, if_neg differs, listSteps_vaultMigrationRegistry,
    searchPath_vault fuel nullishText differs]
  cases upgradeSteps (ω := ω) (μ := μ) nullishText fromVersion toVersion with
  | some steps => rfl
  | none => rfl

/-- Running a chain of steps between two versions upgrades the state. -/
theorem run_upgrades (host : Host) {valibot : Valibot ω} {state : VaultState ω}
    {fromVersion toVersion : String} {steps : List (MigrationStepDefinition (VaultState ω) μ)}
    {added : List String} (options : RunMigrationOptions μ)
    (chain
      : UpgradeChain (vaultStateValidator valibot) valibot vaultMigrationContractId steps
          (vaultSchema fromVersion) (vaultSchema toVersion) added)
    : Upgrades options state fromVersion toVersion added
        (run host (vaultStateValidator valibot)
          ⟨vaultMigrationContractId, fromVersion, toVersion, steps⟩ state options) := by
  by_cases valid : options.validateState = true → Conforms (vaultSchema fromVersion) state
  · have succeeds
        : planProgress (vaultStateValidator valibot)
              ⟨vaultMigrationContractId, fromVersion, toVersion, steps⟩ state options
            = ⟨steps, state.withZeros added, none⟩ :=
      chain.takeSteps_ok valid
    obtain ⟨result, isRun, isState, isCompleted⟩ := run_of_success host succeeds
    rw [isRun]
    exact {
      rollsNothingBack := rfl
      completes := fun _ => ⟨result, rfl, isCompleted, isState⟩
      fails := fun validates deviates => absurd (valid validates) deviates
      conforms := fun conforms => chain.conforms conforms
      keeps := get_withZeros state added
    }
  · obtain ⟨validates, deviates⟩ := Classical.not_imp.mp valid
    have isChain
        : UpgradeChain (vaultStateValidator valibot) valibot
            (runContext ⟨vaultMigrationContractId, fromVersion, toVersion, steps⟩
              options).contractId
            steps (vaultSchema fromVersion) (vaultSchema toVersion) added :=
      chain
    obtain ⟨step, version, issues, isFailure⟩ := isChain.takeSteps_error deviates
    have fails
        : planProgress (vaultStateValidator valibot)
              ⟨vaultMigrationContractId, fromVersion, toVersion, steps⟩ state options
            = ⟨[], state,
                some
                  (step,
                    MigrationStateValidator.validationError vaultMigrationContractId version
                      issues)⟩ := by
      rw [planProgress, validates]
      exact isFailure
    obtain ⟨result, isRun, isState, isFailed, none⟩ := run_of_invalid host fails
    rw [isRun]
    exact {
      rollsNothingBack := rfl
      completes := fun valid' => absurd valid' valid
      fails := fun _ _ => ⟨result, rfl, isFailed, none, isState⟩
      conforms := fun conforms => absurd conforms deviates
      keeps := get_withZeros state added
    }

/-- Migrating the state of a vault between any two versions does nothing between equal ones,
upgrades it where fields are added, and finds no path otherwise.
-/
theorem vault_migrations_upgrade (fuel : Nat) (host : Host) (valibot : Valibot ω)
    (nullishText : String) (state : VaultState ω) (fromVersion toVersion : String)
    (options : RunMigrationOptions μ)
    : ∃ outcome,
        migrate (fuel + 4) host (vaultMigrationRegistry nullishText) (vaultStateValidator valibot)
          vaultMigrationContractId state fromVersion toVersion options
        = some outcome
        ∧ (fromVersion = toVersion
          → outcome.rollbackCalls = []
            ∧ ∃ result,
                outcome.result = .ok result
                ∧ result.state = state
                ∧ result.report.status = .completed
                ∧ result.report.steps = [])
        ∧ (fromVersion ≠ toVersion
          → addedFields fromVersion toVersion = none
          → outcome
            = ⟨[], .error (pathNotFound vaultMigrationContractId fromVersion toVersion)⟩)
        ∧ ∀ added,
            addedFields fromVersion toVersion = some added
            → Upgrades options state fromVersion toVersion added outcome := by
  by_cases same : fromVersion = toVersion
  · subst same
    refine
      ⟨run host (vaultStateValidator valibot)
        ⟨vaultMigrationContractId, fromVersion, fromVersion, []⟩ state options, ?_, ?_, ?_, ?_⟩
    · rw [migrate, MigrationRegistry.resolvePath, if_pos rfl]
      rfl
    · exact fun _ => ⟨rfl, _, rfl, ite_self state, rfl, rfl⟩
    · exact fun differs => absurd rfl differs
    · intro added isUpgrade
      cases (addedFields_self fromVersion).symm.trans isUpgrade
  · rw [migrate_vault fuel host valibot nullishText state same options]
    cases isUpgrade : addedFields fromVersion toVersion with
    | none =>
        rw [upgradeSteps_eq_none isUpgrade]
        refine ⟨_, rfl, fun equal => absurd equal same, fun _ _ => rfl, fun added isSome => ?_⟩
        cases isSome
    | some added =>
        obtain ⟨steps, areSteps, chain⟩ := upgradeChain (μ := μ) valibot nullishText isUpgrade
        rw [areSteps]
        refine ⟨_, rfl, fun equal => absurd equal same, fun _ isNone => ?_, fun _ isAdded => ?_⟩
        · cases isNone
        · obtain rfl := Option.some.inj isAdded
          exact run_upgrades host options chain

-----------------------------------------------------------------------------------------
-- A later step that fails
-----------------------------------------------------------------------------------------

/-- The state without some fields, as taking them out of it leaves it. -/
def VaultState.without (state : VaultState ω) (removed : List String) : VaultState ω :=
  .literal (state.fields.filter (fun field _ => field ∉ removed))

/-- A run whose steps fail after some that can be undone rolls these back. -/
theorem run_of_undone {host : Host} {validator : MigrationStateValidator ω}
    {plan : MigrationPlan ω μ} {initialState last first : ω} {options : RunMigrationOptions μ}
    {done : List (MigrationStepDefinition ω μ)} {step : MigrationStepDefinition ω μ}
    {error : ThrownValue}
    (fails : planProgress validator plan initialState options = ⟨done, last, some (step, error)⟩)
    (notFirst : done ≠ []) (truthy : error.isTruthy = true) (rolls : options.rollsBack = true)
    (described : describes host error = true)
    (undone : done.reverse.foldlM (undoStep (runContext plan options)) last = .ok first)
    : ∃ result,
        (run host validator plan initialState options).result = .ok result
        ∧ result.state = first
        ∧ result.report.status = .rolledBack
        ∧ result.report.rollbackSteps.map (List.map MigrationStepResult.summary)
          = some (undoneSummaries done.reverse) := by
  have effect := run_effect host validator plan initialState options
  rw [fails] at effect
  generalize run host validator plan initialState options = outcome at effect ⊢
  cases effect with
  | succeeded succeeds => cases succeeds
  | undescribed other otherError thrown isFailure rejects =>
      obtain ⟨rfl, rfl⟩ := Prod.mk.inj (Option.some.inj isFailure)
      obtain ⟨info, isInfo⟩ := describes_iff.mp described
      cases rejects.symm.trans isInfo
  | unnoticed other otherError info isFailure isInfo falsy =>
      obtain ⟨rfl, rfl⟩ := Prod.mk.inj (Option.some.inj isFailure)
      cases falsy.symm.trans truthy
  | failed other otherError info isFailure isInfo otherTruthy notAsked =>
      cases notAsked.symm.trans rolls
  | rejected other otherError thrown info isFailure isInfo otherTruthy asked undescribed =>
      obtain ⟨outcome, ends, _⟩ := rollback_of_undone host 0 notFirst undone
      exact absurd ((rollback_spec host _ _ _ _).2.mpr (congrArg Prod.snd ends)) undescribed
  | rolledBack other otherError info isFailure isInfo otherTruthy asked outcome ended =>
      obtain ⟨_, ends, current, all, results⟩ := rollback_of_undone host
        (failedState host initialState ⟨done, last, some (step, error)⟩ other otherError
          info).readings
        notFirst undone
      obtain rfl := congrArg Prod.fst (ended.symm.trans ends)
      have real : options.dryRun = false := by
        simp only [RunMigrationOptions.rollsBack, Bool.and_eq_true, Bool.not_eq_true'] at rolls
        exact rolls.2
      refine ⟨_, rfl, ?_, ?_, congrArg some results⟩
      · rw [← current, real]
        rfl
      · exact if_pos all

/-- A step that is registered after those of vaults, and leads on from the last version. -/
structure LeadsOn (step : MigrationStepDefinition (VaultState ω) μ) : Prop where
  fromLast : step.fromVersion = "v3"
  toNew : step.toVersion ∉ ["v1", "v2", "v3"]
  ownId : step.id ∉ ["vault-v1-to-v2", "vault-v2-to-v3"]

/-- With such a step the search finds the whole chain to its version. -/
theorem migrate_on (fuel : Nat) (host : Host) (validator : MigrationStateValidator (VaultState ω))
    (nullishText : String) {step : MigrationStepDefinition (VaultState ω) μ}
    (leadsOn : LeadsOn step) (state : VaultState ω) (options : RunMigrationOptions μ)
    : migrate (fuel + 4) host
          ((vaultMigrationRegistry nullishText).register vaultMigrationContractId step) validator
          vaultMigrationContractId state "v1" step.toVersion options
        = some
            (run host validator
              ⟨vaultMigrationContractId, "v1", step.toVersion,
                [vaultV1ToV2Migration nullishText, vaultV2ToV3Migration nullishText, step]⟩
              state options) := by
  obtain ⟨fromLast, toNew, ownId⟩ := leadsOn
  simp only [List.mem_cons, List.not_mem_nil, or_false, not_or] at toNew ownId
  obtain ⟨notFirst, notSecond, notThird⟩ := toNew
  have listed
      : ((vaultMigrationRegistry nullishText).register vaultMigrationContractId step).listSteps
          vaultMigrationContractId
        = [vaultV1ToV2Migration nullishText, vaultV2ToV3Migration nullishText, step] := by
    simp [MigrationRegistry.listSteps_register, listSteps_vaultMigrationRegistry,
      MigrationRegistry.withoutId, Ne.symm ownId.1, Ne.symm ownId.2]
  rw [migrate, MigrationRegistry.resolvePath, if_neg (Ne.symm notFirst), listed]
  simp [MigrationRegistry.searchPath, MigrationRegistry.edgesByFrom_get,
    MigrationRegistry.followEdges, fromLast, Ne.symm notSecond, Ne.symm notThird]

/-- The steps of vaults succeed before such a step, which fails when it throws. -/
theorem planProgress_on (valibot : Valibot ω) (nullishText : String)
    {step : MigrationStepDefinition (VaultState ω) μ} (leadsOn : LeadsOn step)
    {state : VaultState ω} {options : RunMigrationOptions μ} {error : ThrownValue}
    (valid : options.validateState = true → Conforms vaultStateV1Schema state)
    (throws
      : step.migrate (state.withZeros ["apy", "lockPeriod", "feeBps"])
            ⟨vaultMigrationContractId, options.dryRun, options.metadata⟩
          = .error error)
    : planProgress (vaultStateValidator valibot)
          ⟨vaultMigrationContractId, "v1", step.toVersion,
            [vaultV1ToV2Migration nullishText, vaultV2ToV3Migration nullishText, step]⟩
          state options
        = ⟨[vaultV1ToV2Migration nullishText, vaultV2ToV3Migration nullishText],
            state.withZeros ["apy", "lockPeriod", "feeBps"], some (step, error)⟩ := by
  have first := vaultV1ToV2Migration_addsFields (μ := μ) valibot nullishText
  have second := vaultV2ToV3Migration_addsFields (μ := μ) valibot nullishText
  let context : MigrationContext μ :=
    ⟨vaultMigrationContractId, options.dryRun, options.metadata⟩
  have fails
      : attemptStep (vaultStateValidator valibot) context options.validateState
            (state.withZeros ["apy", "lockPeriod", "feeBps"]) step
          = .error error := by
    cases validates : options.validateState with
    | false =>
        simp only [attemptStep, context, throws]
        rfl
    | true =>
        have isLast
            : Conforms vaultStateV3Schema
                (state.withZeros ["apy", "lockPeriod", "feeBps"]) :=
          (UpgradeChain.cons first (.one second)).conforms (valid validates)
        obtain ⟨output, accepted⟩ :=
          validateState_of_accepts second.after (accepts_of_conforms isLast)
        rw [(vaultV2ToV3Migration_versions (ω := ω) (μ := μ) nullishText).2.2] at accepted
        simp only [attemptStep, context, leadsOn.fromLast, accepted, throws, ↓reduceIte]
        rfl
  have firstSucceeds
      : attemptStep (vaultStateValidator valibot) context options.validateState state
            (vaultV1ToV2Migration nullishText)
          = .ok (state.withZeros ["apy", "lockPeriod"]) :=
    AddsFields.attempt_ok first valid
  have secondSucceeds
      : attemptStep (vaultStateValidator valibot) context options.validateState
            (state.withZeros ["apy", "lockPeriod"]) (vaultV2ToV3Migration nullishText)
          = .ok ((state.withZeros ["apy", "lockPeriod"]).withZeros ["feeBps"]) :=
    AddsFields.attempt_ok second fun validates => first.conforms state (valid validates)
  change
    takeSteps (attemptStep (vaultStateValidator valibot) context options.validateState) state
        [vaultV1ToV2Migration nullishText, vaultV2ToV3Migration nullishText, step]
      = _
  rw [takeSteps_cons_ok firstSucceeds, takeSteps_cons_ok secondSucceeds, withZeros_withZeros,
    List.cons_append, List.singleton_append, takeSteps_cons_error fails]

/-- Rolling back the steps of vaults takes the fields out again. -/
theorem undo_vault (nullishText : String) (context : MigrationContext μ) (state : VaultState ω)
    : [vaultV2ToV3Migration nullishText, vaultV1ToV2Migration nullishText].foldlM
          (undoStep context) (state.withZeros ["apy", "lockPeriod", "feeBps"])
        = .ok (state.without ["apy", "lockPeriod", "feeBps"]) := by
  let fields :=
    ((state.fields.set "apy" (.number (.finite 0))).set "lockPeriod" (.number (.finite 0))).set
      "feeBps" (.number (.finite 0))
  have removed
      : ((fields.delete "feeBps").delete "apy").delete "lockPeriod"
        = fields.filter (fun field _ => field ∉ ["apy", "lockPeriod", "feeBps"]) := by
    simp only [InsertionMap.delete, InsertionMap.filter_filter]
    congr 1
    funext field _
    rw [Bool.eq_iff_iff]
    simp only [Bool.and_eq_true, decide_eq_true_eq, List.mem_cons, List.not_mem_nil, or_false,
      not_or, ne_eq]
    tauto
  have undone
      : ((fields.delete "feeBps").delete "apy").delete "lockPeriod"
        = state.fields.filter (fun field _ => field ∉ ["apy", "lockPeriod", "feeBps"]) := by
    rw [removed, InsertionMap.filter_set_of_rejected _ (by simp),
      InsertionMap.filter_set_of_rejected _ (by simp),
      InsertionMap.filter_set_of_rejected _ (by simp)]
  exact congrArg Except.ok (congrArg VaultState.literal undone)

/-- Taking fields out leaves the others as they are. -/
theorem get_without (state : VaultState ω) (removed : List String) (field : String)
    : (state.without removed).fields.get field
      = if field ∈ removed then none else state.fields.get field := by
  rw [VaultState.without, VaultState.literal, VaultState.fields, InsertionMap.get_filter]
  by_cases isRemoved : field ∈ removed
  · cases state.fields.get field <;> simp [isRemoved]
  · cases state.fields.get field <;> simp [isRemoved]

/-- Taking fields out changes nothing exactly in an object that has none of them and inherits
nothing.
-/
theorem without_eq_self_iff {state : VaultState ω} {removed : List String}
    : state.without removed = state
      ↔ ∃ fields, state = .literal fields ∧ ∀ field ∈ removed, fields.get field = none := by
  cases state with
  | nullish => simp [VaultState.without, VaultState.literal]
  | primitive fields => simp [VaultState.without, VaultState.literal]
  | object fields inherited =>
      simp only [VaultState.without, VaultState.literal, VaultState.fields,
        VaultState.object.injEq, InsertionMap.filter_eq_self_iff, decide_eq_true_eq]
      have untouched
          : (∀ entry ∈ fields.entries, entry.1 ∉ removed)
            ↔ ∀ field ∈ removed, fields.get field = none := by
        constructor
        · intro kept field isRemoved
          rw [InsertionMap.get_eq_none_iff, ← Bool.not_eq_true, InsertionMap.has_iff]
          intro isThere
          obtain ⟨value, found⟩ := isThere
          exact kept (field, value) (InsertionMap.get_eq_some_iff.mp found) isRemoved
        · intro absent entry member isRemoved
          have found := InsertionMap.get_eq_some_iff.mpr member
          cases (absent entry.1 isRemoved).symm.trans found
      rw [untouched]
      constructor
      · rintro ⟨absent, rfl⟩
        exact ⟨fields, ⟨rfl, rfl⟩, absent⟩
      · rintro ⟨_, ⟨rfl, rfl⟩, absent⟩
        exact ⟨absent, rfl⟩

/-- When a step that is registered on top of those of vaults throws, a run that rolls back takes
the added fields out again, the latest first: it restores the state exactly if this was an object
that inherits nothing and had none of them to begin with.
-/
theorem failing_upgrade_is_rolled_back (fuel : Nat) (host : Host) (valibot : Valibot ω)
    (nullishText : String) {step : MigrationStepDefinition (VaultState ω) μ}
    (leadsOn : LeadsOn step) (state : VaultState ω) (options : RunMigrationOptions μ)
    (error : ThrownValue)
    (valid : options.validateState = true → Conforms vaultStateV1Schema state)
    (throws
      : step.migrate (state.withZeros ["apy", "lockPeriod", "feeBps"])
            ⟨vaultMigrationContractId, options.dryRun, options.metadata⟩
          = .error error)
    (truthy : error.isTruthy = true) (described : describes host error = true)
    (rolls : options.rollsBack = true)
    : ∃ outcome result,
        migrate (fuel + 4) host
            ((vaultMigrationRegistry nullishText).register vaultMigrationContractId step)
            (vaultStateValidator valibot) vaultMigrationContractId state "v1" step.toVersion options
          = some outcome
        ∧ outcome.result = .ok result
        ∧ result.report.status = .rolledBack
        ∧ result.report.rollbackSteps.map (List.map MigrationStepResult.summary)
          = some
              [
                ("vault-v2-to-v3", "v3", "v2", .succeeded),
                ("vault-v1-to-v2", "v2", "v1", .succeeded)
              ]
        ∧ (∀ field,
            result.state.fields.get field
            = if field ∈ ["apy", "lockPeriod", "feeBps"] then none else state.fields.get field)
        ∧ (result.state = state
          ↔ ∃ fields,
              state = .literal fields
              ∧ ∀ field ∈ ["apy", "lockPeriod", "feeBps"], fields.get field = none) := by
  obtain ⟨result, isRun, isState, isRolledBack, results⟩ := run_of_undone
    (planProgress_on valibot nullishText leadsOn valid throws) (List.cons_ne_nil _ _) truthy rolls
    described (undo_vault nullishText _ state)
  refine ⟨_, result, migrate_on fuel host _ nullishText leadsOn state options, isRun, isRolledBack,
    results, ?_, ?_⟩
  · exact isState ▸ get_without state _
  · exact isState ▸ without_eq_self_iff

/-- A step to a version whose migration is not implemented yet. -/
def vaultV3ToV4Broken : MigrationStepDefinition (VaultState Empty) Empty :=
  {
    id := "vault-v3-to-v4-broken"
    fromVersion := "v3"
    toVersion := "v4"
    migrate := fun _ _ => .error (.error (.ok "Error") (.ok "v4 migration is not implemented yet"))
    rollback := none
  }

/-- A state of the first version. -/
def someVaultState : VaultState Empty :=
  .literal ((InsertionMap.empty.set "totalAssets" (.bigint 1000000)).set "totalSupply"
    (.bigint 900000))

/-- The state conforms to the schema of its version. -/
theorem someVaultState_conforms : Conforms vaultStateV1Schema someVaultState := by
  refine ⟨_, _, rfl, ?_⟩
  simp [vaultStateV1Schema, nonNegativeBigIntSchema, FieldSchema.accepts, FieldSchema.allows,
    customRule]

/-- Migrating it to that version restores it. -/
theorem failing_upgrade_is_rolled_back_broken
    : ∃ outcome result,
        migrate 4 stillHost
            ((vaultMigrationRegistry "").register vaultMigrationContractId vaultV3ToV4Broken)
            (vaultStateValidator .terse) vaultMigrationContractId someVaultState "v1" "v4"
            { rollbackOnFailure := true }
          = some outcome
        ∧ outcome.result = .ok result
        ∧ result.report.status = .rolledBack
        ∧ result.state = someVaultState := by
  have leadsOn : LeadsOn vaultV3ToV4Broken := ⟨rfl, by decide, by decide⟩
  obtain ⟨outcome, result, isOutcome, isOk, isRolledBack, _, _, restores⟩ :=
    failing_upgrade_is_rolled_back 0 stillHost .terse "" leadsOn
      someVaultState { rollbackOnFailure := true }
      (.error (.ok "Error") (.ok "v4 migration is not implemented yet"))
      (fun _ => someVaultState_conforms) rfl rfl rfl rfl
  refine ⟨outcome, result, isOutcome, isOk, isRolledBack, restores.mpr ⟨_, rfl, ?_⟩⟩
  simp [InsertionMap.get_set]

end Axionvera.Migrations
