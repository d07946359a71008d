import Axionvera.Foundation.InsertionMap
import Axionvera.Foundation.ThrownValue

/-! The steps between the versions of a contract's state (`types/migration.ts`), and the
registry that resolves chains of them (`migrations/migrationRegistry.ts`).
-/

namespace Axionvera.Migrations

open Axionvera.Foundation

/-- `MigrationContext`. -/
structure MigrationContext (μ : Type) where
  contractId : String
  dryRun : Bool
  metadata : Option μ

/-- `MigrationStepDefinition`, with the types of states erased. Its functions are asynchronous:
they return or throw in the end.
-/
structure MigrationStepDefinition (ω μ : Type) where
  id : String
  fromVersion : String
  toVersion : String
  migrate : ω → MigrationContext μ → Except ThrownValue ω
  rollback : Option (ω → MigrationContext μ → Except ThrownValue ω)

/-- `MigrationPlan`. -/
structure MigrationPlan (ω μ : Type) where
  contractId : String
  fromVersion : String
  toVersion : String
  steps : List (MigrationStepDefinition ω μ)

/-- `MigrationPathNotFoundError`. -/
structure MigrationPathNotFoundError where
  name : String
  message : String
  contractId : String
  fromVersion : String
  toVersion : String
  deriving DecidableEq, Repr

/-- The constructor of `MigrationPathNotFoundError`. -/
def newMigrationPathNotFoundError (contractId fromVersion toVersion : String)
    : MigrationPathNotFoundError :=
  {
    name := "MigrationPathNotFoundError"
    message :=
      "No migration path found for contract \"" ++ contractId ++ "\" from version \""
        ++ fromVersion ++ "\" to \"" ++ toVersion ++ "\""
    contractId := contractId
    fromVersion := fromVersion
    toVersion := toVersion
  }

/-- `MigrationRegistry`, in which the steps of a contract have ids of their own. -/
structure MigrationRegistry (ω μ : Type) where
  stepsByContract : InsertionMap String (List (MigrationStepDefinition ω μ))
  distinctIds
    : ∀ contractId steps,
        stepsByContract.get contractId = some steps
        → (steps.map MigrationStepDefinition.id).Nodup

namespace MigrationRegistry

variable {ω μ : Type}

/-- A registry without steps. -/
def empty : MigrationRegistry ω μ := ⟨.empty, fun _ _ found => nomatch found⟩

/-- `listSteps`. -/
def listSteps (registry : MigrationRegistry ω μ) (contractId : String)
    : List (MigrationStepDefinition ω μ) :=
  (registry.stepsByContract.get contractId).getD []

/-- The listed steps have distinct ids. -/
theorem listSteps_distinctIds (registry : MigrationRegistry ω μ) (contractId : String)
    : ((registry.listSteps contractId).map MigrationStepDefinition.id).Nodup := by
  unfold listSteps
  cases found : registry.stepsByContract.get contractId with
  | none => exact List.nodup_nil
  | some steps => exact registry.distinctIds contractId steps found

/-- The steps with another id than the given one, as `register` and `unregister` keep them. -/
def withoutId (steps : List (MigrationStepDefinition ω μ)) (stepId : String)
    : List (MigrationStepDefinition ω μ) :=
  steps.filter (fun existing => existing.id ≠ stepId)

/-- Replacing the steps of one contract keeps ids distinct. -/
private theorem distinctIds_set (registry : MigrationRegistry ω μ) (contractId : String)
    {steps : List (MigrationStepDefinition ω μ)}
    (distinct : (steps.map MigrationStepDefinition.id).Nodup)
    : ∀ other found,
        (registry.stepsByContract.set contractId steps).get other = some found
        → (found.map MigrationStepDefinition.id).Nodup := by
  intro other found present
  rw [InsertionMap.get_set] at present
  split at present
  · exact Option.some.inj present ▸ distinct
  · exact registry.distinctIds other found present

/-- `register`. -/
def register (registry : MigrationRegistry ω μ) (contractId : String)
    (step : MigrationStepDefinition ω μ) : MigrationRegistry ω μ :=
  {
    stepsByContract :=
      registry.stepsByContract.set contractId
        (withoutId (registry.listSteps contractId) step.id ++ [step])
    distinctIds := by
      apply distinctIds_set
      rw [List.map_append, List.map_singleton, ← List.concat_eq_append]
      refine List.Nodup.concat ?_ ?_
      · simp [withoutId]
      · exact (registry.listSteps_distinctIds contractId).sublist (List.filter_sublist.map _)
  }

/-- `unregister`: whether the step was registered, and the registry afterwards. -/
def unregister (registry : MigrationRegistry ω μ) (contractId stepId : String)
    : Bool × MigrationRegistry ω μ :=
  match found : registry.stepsByContract.get contractId with
  | none => (false, registry)
  | some steps =>
      let next := withoutId steps stepId
      (next.length ≠ steps.length,
        {
          stepsByContract := registry.stepsByContract.set contractId next
          distinctIds := by
            apply distinctIds_set
            exact (registry.distinctIds contractId steps found).sublist
              (List.filter_sublist.map _)
        })

/-- The map of edges that `resolvePath` builds first. -/
def edgesByFrom (steps : List (MigrationStepDefinition ω μ))
    : InsertionMap String (List (MigrationStepDefinition ω μ)) :=
  steps.foldl
    (fun buckets step =>
      buckets.set step.fromVersion ((buckets.get step.fromVersion).getD [] ++ [step]))
    .empty

/-- The loop of `resolvePath` over the edges that leave a version, which was reached on a path:
the path to `toVersion` that it returns, or the visited versions and the queue when it ends.
-/
def followEdges (toVersion : String) (path : List (MigrationStepDefinition ω μ))
    : List (MigrationStepDefinition ω μ)
      → List String
      → List (String × List (MigrationStepDefinition ω μ))
      → List (MigrationStepDefinition ω μ)
        ⊕ List String × List (String × List (MigrationStepDefinition ω μ))
  | [], visited, queue => .inr (visited, queue)
  | edge :: rest, visited, queue =>
      if edge.toVersion = toVersion then .inl (path ++ [edge])
      else if edge.toVersion ∈ visited then followEdges toVersion path rest visited queue
      else
        followEdges toVersion path rest (visited ++ [edge.toVersion])
          (queue ++ [(edge.toVersion, path ++ [edge])])

/-- The loop of `resolvePath` over its queue: the path that it returns, if any, or `none` if
the loop takes more turns than the fuel allows.
-/
def searchPath (edges : InsertionMap String (List (MigrationStepDefinition ω μ)))
    (toVersion : String)
    : Nat
      → List String
      → List (String × List (MigrationStepDefinition ω μ))
      → Option (Option (List (MigrationStepDefinition ω μ)))
  | 0, _, _ => none
  | _ + 1, _, [] => some none
  | fuel + 1, visited, (version, path) :: queue =>
      match followEdges toVersion path ((edges.get version).getD []) visited queue with
      | .inl found => some (some found)
      | .inr (visited, queue) => searchPath edges toVersion fuel visited queue

/-- `resolvePath`, as far as the fuel allows. -/
def resolvePath (fuel : Nat) (registry : MigrationRegistry ω μ)
    (contractId fromVersion toVersion : String)
    : Option (Except MigrationPathNotFoundError (MigrationPlan ω μ)) :=
  if fromVersion = toVersion then
    some (.ok ⟨contractId, fromVersion, toVersion, []⟩)
  else
    (searchPath (edgesByFrom (registry.listSteps contractId)) toVersion fuel [fromVersion]
      [(fromVersion, [])]).map fun found =>
        match found with
        | some steps => .ok ⟨contractId, fromVersion, toVersion, steps⟩
        | none => .error (newMigrationPathNotFoundError contractId fromVersion toVersion)

end MigrationRegistry

end Axionvera.Migrations
