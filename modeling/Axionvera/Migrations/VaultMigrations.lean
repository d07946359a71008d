import Axionvera.Migrations.RunProgress

/-! The migrations of vault states that the SDK registers (`contracts/contractMigrations.ts`), with
the schemas of the states (`validation/rules.ts`): they lead from valid states to valid states, and
add nothing but the fields of the later version.
-/

namespace Axionvera.Migrations

open Axionvera.Foundation

variable {ω μ : Type}

/-- The value of a field. Schemas tell bigints and numbers from all other values. -/
inductive FieldValue (ω : Type) where
  | bigint (value : Int)
  | number (value : JsNumber)
  | other (value : ω)

/-- A state that is given to a migration: null or undefined; something else that is no object, with
the fields that spreading it copies; or an object with its own fields, and with those that it
inherits beyond what all objects do.
-/
inductive VaultState (ω : Type) where
  | nullish
  | primitive (fields : InsertionMap String (FieldValue ω))
  | object (fields : InsertionMap String (FieldValue ω))
    (inherited : String → Option (FieldValue ω))

/-- An object of a literal, which inherits nothing more. -/
def VaultState.literal (fields : InsertionMap String (FieldValue ω)) : VaultState ω :=
  .object fields fun _ => none

/-- The fields that spreading a state copies. -/
def VaultState.fields : VaultState ω → InsertionMap String (FieldValue ω)
  | .nullish => .empty
  | .primitive fields | .object fields _ => fields

-----------------------------------------------------------------------------------------
-- Schemas
-----------------------------------------------------------------------------------------

/-- An action behind `v.number()` in a pipe. -/
inductive NumberAction where
  | integer
  | minValue (bound : Int) (message : String)
  | maxValue (bound : Int) (message : String)

/-- The schema of a field: `v.bigint()` or `v.number()`, with the checks or actions behind it. -/
inductive FieldSchema where
  | bigint (checks : List ((Int → Bool) × String))
  | number (actions : List NumberAction)

/-- `customRule`, for bigints. -/
def customRule (predicate : Int → Bool) (message : String) : (Int → Bool) × String :=
  (predicate, message)

/-- `nonNegativeBigIntSchema`. -/
def nonNegativeBigIntSchema (message : String) : FieldSchema :=
  .bigint [customRule (fun value => 0 ≤ value) message]

/-- `VaultStateV1Schema`. -/
def vaultStateV1Schema : List (String × FieldSchema) :=
  [
    ("totalAssets", nonNegativeBigIntSchema "totalAssets must be a non-negative bigint"),
    ("totalSupply", nonNegativeBigIntSchema "totalSupply must be a non-negative bigint")
  ]

/-- `VaultStateV2Schema`. -/
def vaultStateV2Schema : List (String × FieldSchema) :=
  [
    ("totalAssets", nonNegativeBigIntSchema "totalAssets must be a non-negative bigint"),
    ("totalSupply", nonNegativeBigIntSchema "totalSupply must be a non-negative bigint"),
    ("apy", .number [.minValue 0 "apy must not be negative"]),
    ("lockPeriod", .number [.integer, .minValue 0 "lockPeriod must not be negative"])
  ]

/-- `VaultStateV3Schema`. -/
def vaultStateV3Schema : List (String × FieldSchema) :=
  [
    ("totalAssets", nonNegativeBigIntSchema "totalAssets must be a non-negative bigint"),
    ("totalSupply", nonNegativeBigIntSchema "totalSupply must be a non-negative bigint"),
    ("apy", .number [.minValue 0 "apy must not be negative"]),
    ("lockPeriod", .number [.integer, .minValue 0 "lockPeriod must not be negative"]),
    ("feeBps",
      .number
        [
          .integer,
          .minValue 0 "feeBps must not be negative",
          .maxValue 10000 "feeBps must not exceed 10000 (100%)"
        ])
  ]

-----------------------------------------------------------------------------------------
-- What schemas accept
-----------------------------------------------------------------------------------------

/-- The numbers that an action is documented to let through. -/
def NumberAction.allows : NumberAction → JsNumber → Bool
  | .integer, .finite value => value.isInt
  | .integer, _ => false
  | .minValue bound _, value => value.isAtLeast bound
  | .maxValue bound _, value => value.isAtMost bound

/-- The values that the schema of a field is documented to accept. NaN is no number there. -/
def FieldSchema.allows : FieldSchema → FieldValue ω → Bool
  | .bigint checks, .bigint value => checks.all fun check => check.1 value
  | .number actions, .number value =>
      value ≠ .nan && actions.all fun action => action.allows value
  | _, _ => false

/-- A field that there is has a value that the schema allows. -/
def FieldSchema.accepts (schema : FieldSchema) (found : Option (FieldValue ω)) : Bool :=
  found.any schema.allows

/-- The states that `v.object` is documented to accept: objects with allowed values for all entries,
which they may also inherit.
-/
def accepts (entries : List (String × FieldSchema)) : VaultState ω → Bool
  | .object fields inherited =>
      entries.all fun entry => entry.2.accepts ((fields.get entry.1).or (inherited entry.1))
  | .nullish | .primitive _ => false

/-- What is used of `valibot`: `v.safeParse` with a schema of `v.object`. It throws nothing, and
finds issues exactly in the states that it is not documented to accept.
-/
structure Valibot (ω : Type) where
  safeParse : List (String × FieldSchema) → StateSchema (VaultState ω)
  safeParse_of_accepts
    : ∀ {entries state},
        accepts entries state = true → ∃ output, safeParse entries state = .ok (.ok output)
  safeParse_of_not_accepts
    : ∀ {entries state},
        accepts entries state = false → ∃ issues, safeParse entries state = .ok (.error issues)

/-- A library that gives back what it accepts, and one issue without a text for the rest. -/
def Valibot.terse : Valibot ω where
  safeParse entries state :=
    .ok (if accepts entries state then .ok state else .error [⟨[], ""⟩])
  safeParse_of_accepts {_ state} accepted := ⟨state, congrArg Except.ok (if_pos accepted)⟩
  safeParse_of_not_accepts refused :=
    ⟨_, congrArg Except.ok (if_neg (Bool.eq_false_iff.mp refused))⟩

/-- `VAULT_MIGRATION_CONTRACT_ID`. -/
def vaultMigrationContractId : String := "Vault"

/-- `defaultMigrationStateValidator`, with the schemas that are registered for vaults. -/
def vaultStateValidator (valibot : Valibot ω) : MigrationStateValidator (VaultState ω) :=
  ((MigrationStateValidator.empty.registerStateSchema vaultMigrationContractId "v1"
    (valibot.safeParse vaultStateV1Schema)).registerStateSchema vaultMigrationContractId "v2"
      (valibot.safeParse vaultStateV2Schema)).registerStateSchema vaultMigrationContractId "v3"
        (valibot.safeParse vaultStateV3Schema)

-----------------------------------------------------------------------------------------
-- Steps
-----------------------------------------------------------------------------------------

/-- The error of taking fields out of a state that is null or undefined. -/
def destructuringError (message : String) : ThrownValue :=
  .error (.ok "TypeError") (.ok message)

/-- `vaultV1ToV2Migration`. -/
def vaultV1ToV2Migration (nullishText : String) : MigrationStepDefinition (VaultState ω) μ :=
  {
    id := "vault-v1-to-v2"
    fromVersion := "v1"
    toVersion := "v2"
    migrate := fun state _ =>
      .ok (.literal ((state.fields.set "apy" (.number (.finite 0))).set "lockPeriod"
        (.number (.finite 0))))
    rollback := some fun state _ =>
      match state with
      | .nullish => .error (destructuringError nullishText)
      | .primitive fields | .object fields _ =>
          .ok (.literal ((fields.delete "apy").delete "lockPeriod"))
  }

/-- `vaultV2ToV3Migration`. -/
def vaultV2ToV3Migration (nullishText : String) : MigrationStepDefinition (VaultState ω) μ :=
  {
    id := "vault-v2-to-v3"
    fromVersion := "v2"
    toVersion := "v3"
    migrate := fun state _ => .ok (.literal (state.fields.set "feeBps" (.number (.finite 0))))
    rollback := some fun state _ =>
      match state with
      | .nullish => .error (destructuringError nullishText)
      | .primitive fields | .object fields _ => .ok (.literal (fields.delete "feeBps"))
  }

/-- `defaultMigrationRegistry`, with the steps that are registered for vaults. -/
def vaultMigrationRegistry (nullishText : String) : MigrationRegistry (VaultState ω) μ :=
  (MigrationRegistry.empty.register vaultMigrationContractId
    (vaultV1ToV2Migration nullishText)).register vaultMigrationContractId
      (vaultV2ToV3Migration nullishText)

-----------------------------------------------------------------------------------------
-- What the schemas say
-----------------------------------------------------------------------------------------

/-- (Conforms entries state) requires an object whose own fields have allowed values. -/
def Conforms (entries : List (String × FieldSchema)) (state : VaultState ω) : Prop :=
  ∃ fields inherited,
    state = .object fields inherited
    ∧ ∀ entry ∈ entries, entry.2.accepts (fields.get entry.1) = true

/-- A field of its own hides one that is inherited. -/
theorem FieldSchema.accepts_or {schema : FieldSchema} {own : Option (FieldValue ω)}
    (isAccepted : schema.accepts own = true) (inherited : Option (FieldValue ω))
    : schema.accepts (own.or inherited) = true := by
  cases own with
  | none => cases isAccepted
  | some value => exact isAccepted

/-- A state whose own fields have allowed values is accepted. -/
theorem accepts_of_conforms {entries : List (String × FieldSchema)} {state : VaultState ω}
    (conforms : Conforms entries state)
    : accepts entries state = true := by
  obtain ⟨fields, inherited, rfl, allowed⟩ := conforms
  exact List.all_eq_true.mpr fun entry member => FieldSchema.accepts_or (allowed entry member) _

section Validation

variable {validator : MigrationStateValidator (VaultState ω)} {valibot : Valibot ω}
  {entries : List (String × FieldSchema)} {contractId version : String} {state : VaultState ω}

/-- A validator with a schema returns for the states that it accepts. -/
theorem validateState_of_accepts
    (registered
      : validator.schemas.get (MigrationStateValidator.key contractId version)
        = some (valibot.safeParse entries))
    (accepted : accepts entries state = true)
    : ∃ output, validator.validateState contractId version state = .ok output := by
  obtain ⟨output, isOutput⟩ := valibot.safeParse_of_accepts accepted
  refine ⟨output, ?_⟩
  simp only [MigrationStateValidator.validateState, registered, isOutput]
  rfl

/-- It throws a validation error for all other states. -/
theorem validateState_of_not_accepts
    (registered
      : validator.schemas.get (MigrationStateValidator.key contractId version)
        = some (valibot.safeParse entries))
    (refused : accepts entries state = false)
    : ∃ issues,
        validator.validateState contractId version state
        = .error (MigrationStateValidator.validationError contractId version issues) := by
  obtain ⟨issues, areIssues⟩ := valibot.safeParse_of_not_accepts refused
  refine ⟨issues, ?_⟩
  simp only [MigrationStateValidator.validateState, registered, areIssues]
  rfl

end Validation

-----------------------------------------------------------------------------------------
-- What the steps do
-----------------------------------------------------------------------------------------

/-- The state with further fields, all zero. -/
def VaultState.withZeros (state : VaultState ω) (added : List String) : VaultState ω :=
  .literal (added.foldl (fun fields field => fields.set field (.number (.finite 0))) state.fields)

/-- Fields that are not added keep their values. Witness: induction on the added fields, for any
fields to start with.
-/
theorem get_withZeros (state : VaultState ω) (added : List String) (field : String)
    : (state.withZeros added).fields.get field
      = if field ∈ added then some (.number (.finite 0)) else state.fields.get field := by
  have general (fields : InsertionMap String (FieldValue ω))
      : (added.foldl (fun fields field => fields.set field (.number (.finite 0))) fields).get field
        = if field ∈ added then some (.number (.finite 0)) else fields.get field := by
    induction added generalizing fields with
    | nil => simp
    | cons first rest ih =>
        rw [List.foldl_cons, ih, InsertionMap.get_set]
        by_cases later : field ∈ rest <;> simp [later]
  exact general state.fields

/-- Adding fields one after another adds them all. -/
theorem withZeros_withZeros (state : VaultState ω) (added more : List String)
    : (state.withZeros added).withZeros more = state.withZeros (added ++ more) := by
  simp only [VaultState.withZeros, VaultState.literal, VaultState.fields, List.foldl_append]

/-- A state that conforms to a schema conforms to one with further fields that may be zero. -/
theorem conforms_withZeros {entries more : List (String × FieldSchema)} {state : VaultState ω}
    {added : List String} (conforms : Conforms entries state)
    (kept : ∀ entry ∈ entries, entry.1 ∉ added)
    (zero
      : ∀ entry ∈ more,
          entry.1 ∈ added ∧ entry.2.allows (FieldValue.number (ω := ω) (.finite 0)) = true)
    : Conforms (entries ++ more) (state.withZeros added) := by
  obtain ⟨fields, inherited, rfl, allowed⟩ := conforms
  refine ⟨_, _, rfl, fun entry member => ?_⟩
  have found := get_withZeros (.object fields inherited) added entry.1
  rcases List.mem_append.mp member with old | new
  · exact (congrArg entry.2.accepts (found.trans (if_neg (kept entry old)))).trans
      (allowed entry old)
  · obtain ⟨isAdded, allows⟩ := zero entry new
    exact (congrArg entry.2.accepts (found.trans (if_pos isAdded))).trans allows

/-- A state that is accepted before and behind such a step conforms to the schema: what it inherits
is not copied.
-/
theorem conforms_of_accepts_withZeros {entries : List (String × FieldSchema)}
    (more : List (String × FieldSchema)) {state : VaultState ω} {added : List String}
    (accepted : accepts entries state = true)
    (stillAccepted : accepts (entries ++ more) (state.withZeros added) = true)
    (kept : ∀ entry ∈ entries, entry.1 ∉ added)
    : Conforms entries state := by
  cases state with
  | nullish | primitive => cases accepted
  | object fields inherited =>
      refine ⟨fields, inherited, rfl, fun entry member => ?_⟩
      have isAccepted := List.all_eq_true.mp stillAccepted entry (List.mem_append_left _ member)
      have found := get_withZeros (.object fields inherited) added entry.1
      rw [if_neg (kept entry member)] at found
      rw [Option.or_none] at isAccepted
      exact (congrArg entry.2.accepts found).symm.trans isAccepted

/-- A step between two versions with these schemas: it adds the fields that are new, states that
conform to the old schema conform to the new one afterwards, and others are not accepted both times.
-/
structure AddsFields (validator : MigrationStateValidator (VaultState ω)) (valibot : Valibot ω)
    (contractId : String) (step : MigrationStepDefinition (VaultState ω) μ)
    (old new : List (String × FieldSchema)) (added : List String) : Prop where
  before
    : validator.schemas.get (MigrationStateValidator.key contractId step.fromVersion)
      = some (valibot.safeParse old)
  after
    : validator.schemas.get (MigrationStateValidator.key contractId step.toVersion)
      = some (valibot.safeParse new)
  adds : ∀ state context, step.migrate state context = .ok (state.withZeros added)
  conforms : ∀ state : VaultState ω, Conforms old state → Conforms new (state.withZeros added)
  conforms_of_accepts
    : ∀ state : VaultState ω,
        accepts old state = true
        → accepts new (state.withZeros added) = true
        → Conforms old state

/-- Such a step succeeds on states that conform, and on all states that are not validated. -/
theorem AddsFields.attempt_ok {validator : MigrationStateValidator (VaultState ω)}
    {valibot : Valibot ω} {step : MigrationStepDefinition (VaultState ω) μ}
    {old new : List (String × FieldSchema)} {added : List String} {context : MigrationContext μ}
    (step_adds : AddsFields validator valibot context.contractId step old new added)
    {shouldValidateState : Bool} {state : VaultState ω}
    (conforms : shouldValidateState = true → Conforms old state)
    : attemptStep validator context shouldValidateState state step
      = .ok (state.withZeros added) := by
  cases shouldValidateState with
  | false =>
      simp only [attemptStep, step_adds.adds]
      rfl
  | true =>
      obtain ⟨_, accepted⟩ :=
        validateState_of_accepts step_adds.before (accepts_of_conforms (conforms rfl))
      obtain ⟨_, stillAccepted⟩ :=
        validateState_of_accepts step_adds.after
          (accepts_of_conforms (step_adds.conforms state (conforms rfl)))
      simp only [attemptStep, step_adds.adds, accepted, ↓reduceIte]
      simp only [bind, Except.bind, stillAccepted]
      rfl

/-- It fails with a validation error on states that are validated and do not conform. -/
theorem AddsFields.attempt_error {validator : MigrationStateValidator (VaultState ω)}
    {valibot : Valibot ω} {step : MigrationStepDefinition (VaultState ω) μ}
    {old new : List (String × FieldSchema)} {added : List String} {context : MigrationContext μ}
    (step_adds : AddsFields validator valibot context.contractId step old new added)
    {state : VaultState ω} (deviates : ¬ Conforms old state)
    : ∃ version issues,
        attemptStep validator context true state step
        = .error
            (MigrationStateValidator.validationError context.contractId version issues) := by
  cases accepted : accepts old state with
  | false =>
      obtain ⟨issues, refused⟩ := validateState_of_not_accepts step_adds.before accepted
      refine ⟨step.fromVersion, issues, ?_⟩
      simp only [attemptStep, refused, ↓reduceIte]
      rfl
  | true =>
      -- What it inherits is accepted, but lost when the state is spread.
      have notStill : accepts new (state.withZeros added) = false :=
        Bool.eq_false_of_not_eq_true fun still =>
          deviates (step_adds.conforms_of_accepts state accepted still)
      obtain ⟨_, returned⟩ := validateState_of_accepts step_adds.before accepted
      obtain ⟨issues, refused⟩ := validateState_of_not_accepts step_adds.after notStill
      refine ⟨step.toVersion, issues, ?_⟩
      simp only [attemptStep, step_adds.adds, returned, ↓reduceIte]
      simp only [bind, Except.bind, refused]

/-- Zero is an integer. -/
theorem isInt_zero : Rat.isInt 0 = true := rfl

/-- Zero is allowed by the schemas of `apy` and `lockPeriod`. -/
theorem vaultV1ToV2Migration_addsFields (valibot : Valibot ω) (nullishText : String)
    : AddsFields (μ := μ) (vaultStateValidator valibot) valibot vaultMigrationContractId
        (vaultV1ToV2Migration nullishText) vaultStateV1Schema vaultStateV2Schema
        ["apy", "lockPeriod"] where
  before := by
    simp [vaultStateValidator, MigrationStateValidator.registerStateSchema,
      MigrationStateValidator.empty, vaultV1ToV2Migration, MigrationStateValidator.key,
      vaultMigrationContractId]
  after := by
    simp [vaultStateValidator, MigrationStateValidator.registerStateSchema,
      MigrationStateValidator.empty, vaultV1ToV2Migration, MigrationStateValidator.key,
      vaultMigrationContractId]
  adds := fun _ _ => rfl
  conforms := by
    intro state conforms
    change
      Conforms (vaultStateV1Schema ++ vaultStateV2Schema.drop 2)
        (state.withZeros ["apy", "lockPeriod"])
    apply conforms_withZeros conforms
    · simp [vaultStateV1Schema]
    · simp [vaultStateV2Schema, FieldSchema.allows, NumberAction.allows, JsNumber.isAtLeast,
        isInt_zero]
  conforms_of_accepts _ accepted still :=
    conforms_of_accepts_withZeros (vaultStateV2Schema.drop 2) accepted still
      (by simp [vaultStateV1Schema])

/-- Zero is allowed by the schema of `feeBps`. -/
theorem vaultV2ToV3Migration_addsFields (valibot : Valibot ω) (nullishText : String)
    : AddsFields (μ := μ) (vaultStateValidator valibot) valibot vaultMigrationContractId
        (vaultV2ToV3Migration nullishText) vaultStateV2Schema vaultStateV3Schema
        ["feeBps"] where
  before := by
    simp [vaultStateValidator, MigrationStateValidator.registerStateSchema,
      MigrationStateValidator.empty, vaultV2ToV3Migration, MigrationStateValidator.key,
      vaultMigrationContractId]
  after := by
    simp [vaultStateValidator, MigrationStateValidator.registerStateSchema,
      MigrationStateValidator.empty, vaultV2ToV3Migration, MigrationStateValidator.key,
      vaultMigrationContractId]
  adds := fun _ _ => rfl
  conforms := by
    intro state conforms
    change
      Conforms (vaultStateV2Schema ++ vaultStateV3Schema.drop 4)
        (state.withZeros ["feeBps"])
    apply conforms_withZeros conforms
    · simp [vaultStateV2Schema]
    · simp [vaultStateV3Schema, FieldSchema.allows, NumberAction.allows, JsNumber.isAtLeast,
        JsNumber.isAtMost, isInt_zero]
  conforms_of_accepts _ accepted still :=
    conforms_of_accepts_withZeros (vaultStateV3Schema.drop 4) accepted still
      (by simp [vaultStateV2Schema])

/-- Steps that add fields one after another, each from the version that the one before leads to. -/
inductive UpgradeChain (validator : MigrationStateValidator (VaultState ω)) (valibot : Valibot ω)
    (contractId : String)
    : List (MigrationStepDefinition (VaultState ω) μ)
      → List (String × FieldSchema)
      → List (String × FieldSchema)
      → List String
      → Prop where
  | one {step : MigrationStepDefinition (VaultState ω) μ} {old new : List (String × FieldSchema)}
    {added : List String} (adds : AddsFields validator valibot contractId step old new added)
    : UpgradeChain validator valibot contractId [step] old new added
  | cons {step : MigrationStepDefinition (VaultState ω) μ}
    {rest : List (MigrationStepDefinition (VaultState ω) μ)}
    {old middle new : List (String × FieldSchema)} {added more : List String}
    (adds : AddsFields validator valibot contractId step old middle added)
    (later : UpgradeChain validator valibot contractId rest middle new more)
    : UpgradeChain validator valibot contractId (step :: rest) old new (added ++ more)

namespace UpgradeChain

variable {validator : MigrationStateValidator (VaultState ω)} {valibot : Valibot ω}
  {steps : List (MigrationStepDefinition (VaultState ω) μ)} {old new : List (String × FieldSchema)}
  {added : List String} {context : MigrationContext μ}

/-- A chain leads from valid states to valid states, by induction on it. -/
theorem conforms {contractId : String}
    (chain : UpgradeChain validator valibot contractId steps old new added) {state : VaultState ω}
    (valid : Conforms old state)
    : Conforms new (state.withZeros added) := by
  induction chain generalizing state with
  | one adds => exact adds.conforms state valid
  | cons adds _ ih => exact withZeros_withZeros state _ _ ▸ ih (adds.conforms state valid)

/-- All steps of a chain succeed from a valid state on, or if states are not validated. Witness:
induction on the chain.
-/
theorem takeSteps_ok (chain : UpgradeChain validator valibot context.contractId steps old new added)
    {shouldValidateState : Bool} {state : VaultState ω}
    (valid : shouldValidateState = true → Conforms old state)
    : takeSteps (attemptStep validator context shouldValidateState) state steps
      = ⟨steps, state.withZeros added, none⟩ := by
  induction chain generalizing state with
  | one adds =>
      rw [takeSteps_cons_ok (adds.attempt_ok valid)]
      rfl
  | cons adds _ ih =>
      rw [takeSteps_cons_ok (adds.attempt_ok valid),
        ih fun validates => adds.conforms state (valid validates), withZeros_withZeros]

/-- The first step of a chain fails when states are validated and the first is not valid. -/
theorem takeSteps_error
    (chain : UpgradeChain validator valibot context.contractId steps old new added)
    {state : VaultState ω} (deviates : ¬ Conforms old state)
    : ∃ step version issues,
        takeSteps (attemptStep validator context true) state steps
        = ⟨[], state,
            some
              (step,
                MigrationStateValidator.validationError context.contractId version issues)⟩ := by
  cases chain with
  | one adds =>
      obtain ⟨version, issues, fails⟩ := adds.attempt_error deviates
      exact ⟨_, version, issues, takeSteps_cons_error fails⟩
  | cons adds _ =>
      obtain ⟨version, issues, fails⟩ := adds.attempt_error deviates
      exact ⟨_, version, issues, takeSteps_cons_error fails⟩

end UpgradeChain

end Axionvera.Migrations
