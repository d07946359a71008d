import Axionvera.Foundation.KeyedRegistry
import Axionvera.Foundation.SeparatedText
import Axionvera.Migrations.MigrationRunner
import Axionvera.Validation.ContractValidationEngine

/-! Schemas registered for different pairs of strings. Both registries flatten a pair into one
key, so two pairs stay apart exactly as long as the key of a registered one belongs to it alone.
-/

namespace Axionvera.Validation

open Axionvera.Foundation
open Axionvera.Migrations

variable {ω : Type}

/-- A contract id with a method or a version. -/
abbrev SchemaPair := String × String

/-- (IsUnambiguous pair) requires the two colons that join the pair to overlap with no others:
neither string contains two colons in a row, the first does not end with a colon and the second
does not begin with one.
-/
def IsUnambiguous (pair : SchemaPair) : Prop :=
  splitsOnlyThere ':' pair.1.toList pair.2.toList

instance (pair : SchemaPair) : Decidable (IsUnambiguous pair) :=
  inferInstanceAs (Decidable (splitsOnlyThere _ _ _))

/-- (RegistersUnambiguously call) requires a registered pair to be unambiguous; a removal is
unrestricted.
-/
def RegistersUnambiguously {ς : Type} : RegistryCall SchemaPair ς → Prop
  | .register pair _ => IsUnambiguous pair
  | .unregister _ => True

/-- The key of a pair in both registries. -/
def pairKey (pair : SchemaPair) : String :=
  ContractValidationEngine.key pair.1 pair.2

/-- The characters of a key are those of its pair around two colons. -/
theorem toList_pairKey (pair : SchemaPair)
    : (pairKey pair).toList = joinedBy ':' pair.1.toList pair.2.toList := by
  have colons : "::".toList = [':', ':'] := by decide
  simp [pairKey, ContractValidationEngine.key, joinedBy, colons]

/-- A pair is the only one with its key exactly if it is unambiguous. -/
theorem pairKey_injective_iff {pair : SchemaPair}
    : (∀ other, pairKey other = pairKey pair → other = pair) ↔ IsUnambiguous pair := by
  rw [IsUnambiguous, ← joinedBy_injective_iff]
  constructor
  · intro injective first second joined
    have same : pairKey (String.ofList first, String.ofList second) = pairKey pair := by
      rw [← String.toList_inj, toList_pairKey, toList_pairKey]
      simpa using joined
    have isPair := injective _ same
    constructor
    · rw [← isPair, String.toList_ofList]
    · rw [← isPair, String.toList_ofList]
  · intro injective other same
    have joined := congrArg String.toList same
    rw [toList_pairKey, toList_pairKey] at joined
    obtain ⟨firstSame, secondSame⟩ := injective _ _ joined
    exact Prod.ext (String.toList_inj.mp firstSame) (String.toList_inj.mp secondSame)

/-- Calls identify their pairs by the keys exactly if they register unambiguous ones. -/
theorem identifies_iff {ς : Type} (call : RegistryCall SchemaPair ς)
    : call.Identifies pairKey ↔ RegistersUnambiguously call := by
  cases call with
  | register pair schema => exact pairKey_injective_iff
  | unregister pair => exact Iff.rfl

/-- All along some calls each pair finds what was registered for it exactly if the registered
pairs are unambiguous.
-/
theorem findsRegistered_iff_registersUnambiguously {ς : Type}
    {calls : List (RegistryCall SchemaPair ς)}
    : (∀ front, front <+: calls → FindsRegistered pairKey front)
      ↔ ∀ call ∈ calls, RegistersUnambiguously call :=
  forall_prefix_findsRegistered_iff.trans (forall₂_congr fun call _ => identifies_iff call)

-----------------------------------------------------------------------------------------
-- The engine for contract methods

/-- A call of `registerSchema` or `unregisterSchema`. -/
abbrev EngineCall (ω : Type) := RegistryCall SchemaPair (ContractMethodSchema ω)

/-- Perform a call on an engine. -/
def performEngineCall (engine : ContractValidationEngine ω)
    : EngineCall ω → ContractValidationEngine ω
  | .register pair schema => engine.registerSchema pair.1 pair.2 schema
  | .unregister pair => engine.unregisterSchema pair.1 pair.2

/-- A new engine after some calls. -/
def engineAfter (calls : List (EngineCall ω)) : ContractValidationEngine ω :=
  calls.foldl performEngineCall .empty

/-- The schemas of an engine are those of a registry with its keys, call by call. -/
theorem schemas_engineAfter (calls : List (EngineCall ω))
    : afterCalls pairKey calls = (engineAfter calls).schemas := by
  apply List.foldl_hom ContractValidationEngine.schemas
  intro engine call
  cases call <;> rfl

/-- (EngineKeepsPairsApart calls) requires at every moment that each pair is validated by the
schema last registered for it, and that a call changes nothing for the other pairs.
-/
structure EngineKeepsPairsApart (calls : List (EngineCall ω)) : Prop where
  consulted
    : ∀ front, front <+: calls →
        ∀ pair : SchemaPair,
          (engineAfter front).getSchema pair.1 pair.2 = lastRegistered front pair
  unchanged
    : ∀ front call, front ++ [call] <+: calls →
        ∀ pair : SchemaPair,
          pair ≠ call.identifier
          → (performEngineCall (engineAfter front) call).validateParams pair.1 pair.2
              = (engineAfter front).validateParams pair.1 pair.2
            ∧ (performEngineCall (engineAfter front) call).validateResult pair.1 pair.2
              = (engineAfter front).validateResult pair.1 pair.2

/-- What an engine consults for a pair is what a registry finds for it. -/
theorem getSchema_engineAfter (calls : List (EngineCall ω)) (pair : SchemaPair)
    : (engineAfter calls).getSchema pair.1 pair.2 = (afterCalls pairKey calls).get (pairKey pair) :=
  congrArg (InsertionMap.get · (pairKey pair)) (schemas_engineAfter calls).symm

/-- An engine keeps pairs apart exactly if the registered ones are unambiguous. -/
theorem engineKeepsPairsApart_iff (calls : List (EngineCall ω))
    : EngineKeepsPairsApart calls ↔ ∀ call ∈ calls, RegistersUnambiguously call := by
  rw [← findsRegistered_iff_registersUnambiguously]
  constructor
  · intro apart front isPrefix pair
    rw [← getSchema_engineAfter]
    exact apart.consulted front isPrefix pair
  · intro finds
    refine ⟨fun front isPrefix pair => ?_, fun front call isPrefix pair isOther => ?_⟩
    · rw [getSchema_engineAfter]
      exact finds front isPrefix pair
    · have performed : performEngineCall (engineAfter front) call = engineAfter (front ++ [call]) :=
        (List.foldl_concat ..).symm
      rw [performed]
      apply ContractValidationEngine.validate_congr
      rw [getSchema_engineAfter, getSchema_engineAfter]
      exact get_afterCalls_concat (finds front ((List.prefix_append front [call]).trans isPrefix))
        (finds _ isPrefix) isOther

-----------------------------------------------------------------------------------------
-- The validator of migration states

/-- A call of `registerStateSchema` or `unregisterStateSchema`. -/
abbrev ValidatorCall (ω : Type) := RegistryCall SchemaPair (StateSchema ω)

/-- Perform a call on a validator. -/
def performValidatorCall (validator : MigrationStateValidator ω)
    : ValidatorCall ω → MigrationStateValidator ω
  | .register pair schema => validator.registerStateSchema pair.1 pair.2 schema
  | .unregister pair => validator.unregisterStateSchema pair.1 pair.2

/-- A new validator after some calls. -/
def validatorAfter (calls : List (ValidatorCall ω)) : MigrationStateValidator ω :=
  calls.foldl performValidatorCall .empty

/-- The schemas of a validator are those of a registry with its keys, call by call. -/
theorem schemas_validatorAfter (calls : List (ValidatorCall ω))
    : afterCalls pairKey calls = (validatorAfter calls).schemas := by
  apply List.foldl_hom MigrationStateValidator.schemas
  intro validator call
  cases call <;> rfl

/-- The schema that `validateState` consults for a pair. -/
def consultedStateSchema (validator : MigrationStateValidator ω) (pair : SchemaPair)
    : Option (StateSchema ω) :=
  validator.schemas.get (MigrationStateValidator.key pair.1 pair.2)

/-- The consulted schema alone decides how a state is validated. -/
theorem validateState_congr {validator other : MigrationStateValidator ω} {pair : SchemaPair}
    (same : consultedStateSchema validator pair = consultedStateSchema other pair)
    : validator.validateState pair.1 pair.2 = other.validateState pair.1 pair.2 := by
  unfold consultedStateSchema at same
  unfold MigrationStateValidator.validateState
  rw [same]

/-- (ValidatorKeepsPairsApart calls) requires at every moment that each pair is validated by the
schema last registered for it, and that a call changes nothing for the other pairs.
-/
structure ValidatorKeepsPairsApart (calls : List (ValidatorCall ω)) : Prop where
  consulted
    : ∀ front, front <+: calls →
        ∀ pair, consultedStateSchema (validatorAfter front) pair = lastRegistered front pair
  unchanged
    : ∀ front call, front ++ [call] <+: calls →
        ∀ pair : SchemaPair,
          pair ≠ call.identifier
          → (performValidatorCall (validatorAfter front) call).validateState pair.1 pair.2
            = (validatorAfter front).validateState pair.1 pair.2

/-- What a validator consults for a pair is what a registry finds for it. -/
theorem consulted_validatorAfter (calls : List (ValidatorCall ω)) (pair : SchemaPair)
    : consultedStateSchema (validatorAfter calls) pair
      = (afterCalls pairKey calls).get (pairKey pair) :=
  congrArg (InsertionMap.get · (pairKey pair)) (schemas_validatorAfter calls).symm

/-- A validator keeps pairs apart exactly if the registered ones are unambiguous. -/
theorem validatorKeepsPairsApart_iff (calls : List (ValidatorCall ω))
    : ValidatorKeepsPairsApart calls ↔ ∀ call ∈ calls, RegistersUnambiguously call := by
  rw [← findsRegistered_iff_registersUnambiguously]
  constructor
  · intro apart front isPrefix pair
    rw [← consulted_validatorAfter]
    exact apart.consulted front isPrefix pair
  · intro finds
    refine ⟨fun front isPrefix pair => ?_, fun front call isPrefix pair isOther => ?_⟩
    · rw [consulted_validatorAfter]
      exact finds front isPrefix pair
    · have performed
          : performValidatorCall (validatorAfter front) call = validatorAfter (front ++ [call]) :=
        (List.foldl_concat ..).symm
      rw [performed]
      apply validateState_congr
      rw [consulted_validatorAfter, consulted_validatorAfter]
      exact get_afterCalls_concat (finds front ((List.prefix_append front [call]).trans isPrefix))
        (finds _ isPrefix) isOther

-----------------------------------------------------------------------------------------
-- Both registries

/-- All along every sequence of registrations and removals, an engine and a validator consult for
each pair the schema last registered for it, and leave the other pairs alone, exactly if the
registered pairs are unambiguous.
-/
theorem schemas_stay_apart_iff_unambiguous (engineCalls : List (EngineCall ω))
    (validatorCalls : List (ValidatorCall ω))
    : (EngineKeepsPairsApart engineCalls ↔ ∀ call ∈ engineCalls, RegistersUnambiguously call)
      ∧ (ValidatorKeepsPairsApart validatorCalls
          ↔ ∀ call ∈ validatorCalls, RegistersUnambiguously call) :=
  ⟨engineKeepsPairsApart_iff engineCalls, validatorKeepsPairsApart_iff validatorCalls⟩

/-- A schema without parts, registered for the method `b::c` of a contract `a`, is the one
consulted for the method `c` of the contract `a::b`.
-/
theorem schema_registered_for_another_pair_is_consulted
    : ¬ ∀ (engineCalls : List (EngineCall Unit)) (validatorCalls : List (ValidatorCall Unit)),
        EngineKeepsPairsApart engineCalls ∧ ValidatorKeepsPairsApart validatorCalls := by
  intro always
  have apart := (always [.register ("a", "b::c") { description := "other" }] []).1
  have consulted := apart.consulted _ List.prefix_rfl ("a::b", "c")
  have found
      : ((engineAfter
            [.register ("a", "b::c") ({ description := "other" } : ContractMethodSchema Unit)]
          ).getSchema "a::b" "c").map ContractMethodSchema.description
        = some (some "other") := by
    decide
  rw [consulted] at found
  cases found

end Axionvera.Validation
