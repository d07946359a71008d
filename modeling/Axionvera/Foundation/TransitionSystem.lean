import Mathlib.Data.List.Basic
import Mathlib.Data.List.Infix

/-! Executable transition systems: runs over a list of actions, and invariants along them.
A step function returns `none` when its action is not enabled in the given state.
-/

namespace Axionvera.Foundation

variable {σ α : Type*}

/-- Perform the actions in order; the run fails as soon as one action is not enabled. -/
def run (step : σ → α → Option σ) : σ → List α → Option σ
  | state, [] => some state
  | state, action :: rest => (step state action).bind fun next => run step next rest

/-- (stepsSatisfy step allowed state actions) requires every step that the run from `state`
takes to be allowed in the state before it.
-/
def stepsSatisfy (step : σ → α → Option σ) (allowed : σ → α → Prop) : σ → List α → Prop
  | _, [] => True
  | state, action :: rest =>
      allowed state action
      ∧ ∀ next, step state action = some next → stepsSatisfy step allowed next rest

variable {step : σ → α → Option σ}

/-- Whether all steps are allowed can be computed along the run. -/
instance decidableStepsSatisfy {allowed : σ → α → Prop} [∀ state, DecidablePred (allowed state)]
    : (state : σ) → (actions : List α) → Decidable (stepsSatisfy step allowed state actions)
  | _, [] => .isTrue trivial
  | state, action :: rest =>
      match taken : step state action with
      | none =>
          decidable_of_iff (allowed state action) (by simp [stepsSatisfy, taken])
      | some next =>
          have : Decidable (stepsSatisfy step allowed next rest) :=
            decidableStepsSatisfy next rest
          decidable_of_iff (allowed state action ∧ stepsSatisfy step allowed next rest)
            (by simp [stepsSatisfy, taken])

/-- A nonempty run is one enabled step followed by a run, by unfolding the bind. -/
theorem run_cons_iff {state final : σ} {action : α} {rest : List α}
    : run step state (action :: rest) = some final
      ↔ ∃ next, step state action = some next ∧ run step next rest = some final := by
  simp [run, Option.bind_eq_some_iff]

/-- A run of consecutive action lists is a run of the first, then of the second, by induction
on the first.
-/
theorem run_append (state : σ) (front back : List α)
    : run step state (front ++ back)
      = (run step state front).bind (fun middle => run step middle back) := by
  induction front generalizing state with
  | nil => rfl
  | cons action rest ih =>
      simp only [List.cons_append, run, Option.bind_assoc]
      congr
      funext next
      exact ih next

/-- A system whose actions are always enabled runs through all of them, by induction on them. -/
theorem run_of_total (act : σ → α → σ) (state : σ) (actions : List α)
    : run (fun state action => some (act state action)) state actions
      = some (actions.foldl act state) := by
  induction actions generalizing state with
  | nil => rfl
  | cons action rest ih => exact ih (act state action)

/-- Of two runs whose actions tell nothing apart, one goes on from the other, by induction on the
first.
-/
theorem run_comparable {step : σ → Unit → Option σ} {state first second : σ}
    {turns others : List Unit} (reached : run step state turns = some first)
    (walked : run step state others = some second)
    : (∃ rest, run step first rest = some second) ∨ ∃ rest, run step second rest = some first := by
  induction turns generalizing state others with
  | nil =>
      obtain rfl := Option.some.inj reached
      exact .inl ⟨others, walked⟩
  | cons tick rest ih =>
      cases others with
      | nil =>
          obtain rfl := Option.some.inj walked
          exact .inr ⟨tick :: rest, reached⟩
      | cons other more =>
          obtain ⟨next, taken, later⟩ := run_cons_iff.mp reached
          obtain ⟨same, alsoTaken, onwards⟩ := run_cons_iff.mp walked
          obtain rfl := Option.some.inj (taken.symm.trans alsoTaken)
          exact ih later onwards

/-- A run that cannot go on is where every other one leads to. -/
theorem run_onwards_of_ended {step : σ → Unit → Option σ} {state middle final : σ}
    {turns others : List Unit} (reached : run step state turns = some final)
    (ended : step final () = none) (walked : run step state others = some middle)
    : ∃ rest, run step middle rest = some final := by
  rcases run_comparable reached walked with ⟨rest, onwards⟩ | onwards
  · cases rest with
    | nil =>
        obtain rfl := Option.some.inj onwards
        exact ⟨[], rfl⟩
    | cons tick more =>
        obtain ⟨next, taken, _⟩ := run_cons_iff.mp onwards
        rw [ended] at taken
        cases taken
  · exact onwards

/-- A map between the states of two systems that commutes with their steps commutes with their
runs, by induction on the actions.
-/
theorem run_map {ρ : Type*} {coarse : ρ → α → Option ρ} (map : σ → ρ)
    (commutes : ∀ state action, coarse (map state) action = (step state action).map map)
    (state : σ) (actions : List α)
    : run coarse (map state) actions = (run step state actions).map map := by
  induction actions generalizing state with
  | nil => rfl
  | cons action rest ih =>
      rw [run, run, commutes]
      cases taken : step state action with
      | none => rfl
      | some next => exact ih next

/-- A property kept by every allowed step holds at the end of every run of allowed steps.
Witness: induction on the actions, restricting the side condition to the remaining run.
-/
theorem run_preserves_of_stepsSatisfy {allowed : σ → α → Prop} {Inv : σ → Prop}
    (preserved
      : ∀ state action next,
          allowed state action → step state action = some next → Inv state → Inv next)
    {state final : σ} {actions : List α} (initial : Inv state)
    (allSteps : stepsSatisfy step allowed state actions)
    (reached : run step state actions = some final)
    : Inv final := by
  induction actions generalizing state with
  | nil =>
      have same : state = final := by simpa [run] using reached
      exact same ▸ initial
  | cons action rest ih =>
      obtain ⟨next, taken, later⟩ := run_cons_iff.mp reached
      have kept := preserved state action next allSteps.1 taken initial
      exact ih kept (allSteps.2 next taken) later

/-- All steps of a run are allowed when its actions are in every state, by induction on them. -/
theorem stepsSatisfy_of_forall_mem {allowed : σ → α → Prop} {actions : List α} (state : σ)
    (all : ∀ action ∈ actions, ∀ state, allowed state action)
    : stepsSatisfy step allowed state actions := by
  induction actions generalizing state with
  | nil => trivial
  | cons action rest ih =>
      obtain ⟨first, others⟩ := List.forall_mem_cons.mp all
      exact ⟨first state, fun next _ => ih next others⟩

/-- All steps of a run are allowed when they are allowed in every state that a run can reach, by
induction on the actions.
-/
theorem stepsSatisfy_of_forall_reachable {allowed : σ → α → Prop} {state : σ} {actions : List α}
    (all
      : ∀ front middle, run step state front = some middle → ∀ action, allowed middle action)
    : stepsSatisfy step allowed state actions := by
  induction actions generalizing state with
  | nil => trivial
  | cons action rest ih =>
      refine ⟨all [] state rfl action, fun next taken => ih fun front middle walked => ?_⟩
      exact all (action :: front) middle (run_cons_iff.mpr ⟨next, taken, walked⟩)

/-- The steps of a run's beginning are allowed when all its steps are, by induction on it. -/
theorem stepsSatisfy_of_isPrefix {allowed : σ → α → Prop} {state : σ} {front actions : List α}
    (isPrefix : front <+: actions) (all : stepsSatisfy step allowed state actions)
    : stepsSatisfy step allowed state front := by
  induction front generalizing state actions with
  | nil => trivial
  | cons action rest ih =>
      obtain ⟨back, rfl⟩ := isPrefix
      exact ⟨all.1, fun next taken => ih ⟨back, rfl⟩ (all.2 next taken)⟩

/-- Steps that are allowed in two ways are allowed in both, by induction on the actions. -/
theorem stepsSatisfy_and {first second : σ → α → Prop} {state : σ} {actions : List α}
    (firstAllowed : stepsSatisfy step first state actions)
    (secondAllowed : stepsSatisfy step second state actions)
    : stepsSatisfy step (fun state action => first state action ∧ second state action) state
        actions := by
  induction actions generalizing state with
  | nil => trivial
  | cons action rest ih =>
      refine ⟨⟨firstAllowed.1, secondAllowed.1⟩, fun next taken => ?_⟩
      exact ih (firstAllowed.2 next taken) (secondAllowed.2 next taken)

/-- A property kept by every step holds in every reachable state, as the unconditional
case of `run_preserves_of_stepsSatisfy`.
-/
theorem run_preserves {Inv : σ → Prop}
    (preserved : ∀ state action next, step state action = some next → Inv state → Inv next)
    {state final : σ} {actions : List α} (initial : Inv state)
    (reached : run step state actions = some final)
    : Inv final := by
  have unconditional : stepsSatisfy step (fun _ _ => True) state actions :=
    stepsSatisfy_of_forall_mem state fun _ _ _ => trivial
  exact run_preserves_of_stepsSatisfy
    (fun state action next _ taken => preserved state action next taken)
    initial unconditional reached

/-- If a step is allowed exactly when it keeps a property, the steps of a run are all allowed
exactly when the property holds all along it. The steps may be assumed to be of a kind that
keeps an invariant as long as they keep the property. Witness: induction on the actions,
shifting the states after them by one step.
-/
theorem forall_prefix_iff_stepsSatisfy {assumed allowed : σ → α → Prop} {Inv Good : σ → Prop}
    (preserved
      : ∀ state action next,
          assumed state action
          → step state action = some next
          → Inv state
          → Good state
          → Good next
          → Inv next)
    (exact
      : ∀ state action next,
          assumed state action
          → step state action = some next
          → Inv state
          → Good state
          → (allowed state action ↔ Good next))
    {state final : σ} {actions : List α} (invariant : Inv state) (good : Good state)
    (allAssumed : stepsSatisfy step assumed state actions)
    (reached : run step state actions = some final)
    : (∀ front middle, front <+: actions → run step state front = some middle → Good middle)
      ↔ stepsSatisfy step allowed state actions := by
  induction actions generalizing state with
  | nil =>
      refine ⟨fun _ => trivial, fun _ front middle isPrefix walked => ?_⟩
      obtain rfl := List.prefix_nil.mp isPrefix
      exact (Option.some.inj walked) ▸ good
  | cons action rest ih =>
      obtain ⟨next, taken, later⟩ := run_cons_iff.mp reached
      have stepExact := exact state action next allAssumed.1 taken invariant good
      have onwards (goodNext : Good next) :=
        ih (preserved state action next allAssumed.1 taken invariant good goodNext) goodNext
          (allAssumed.2 next taken) later
      constructor
      · intro always
        have goodNext : Good next :=
          always [action] next ⟨rest, rfl⟩ (run_cons_iff.mpr ⟨next, taken, rfl⟩)
        refine ⟨stepExact.mpr goodNext, fun other same => ?_⟩
        obtain rfl := Option.some.inj (taken.symm.trans same)
        refine (onwards goodNext).mp fun front middle isPrefix walked => ?_
        exact always (action :: front) middle (List.cons_prefix_cons.mpr ⟨rfl, isPrefix⟩)
          (run_cons_iff.mpr ⟨next, taken, walked⟩)
      · intro allAllowed front middle isPrefix walked
        have goodNext := stepExact.mp allAllowed.1
        cases front with
        | nil => exact (Option.some.inj walked) ▸ good
        | cons first others =>
            obtain ⟨rfl, isRest⟩ := List.cons_prefix_cons.mp isPrefix
            obtain ⟨other, same, walked⟩ := run_cons_iff.mp walked
            obtain rfl := Option.some.inj (taken.symm.trans same)
            exact (onwards goodNext).mpr (allAllowed.2 next taken) others middle isRest walked

/-- What a system that answers every action answers to a list of them, one after the other. -/
def outputs {β : Type*} (act : σ → α → β × σ) : σ → List α → List β
  | _, [] => []
  | state, action :: rest => (act state action).1 :: outputs act (act state action).2 rest

/-- Where a state that keeps an invariant answers like a function of the action, so do all its runs,
by induction on the actions.
-/
theorem outputs_eq_map {β : Type*} {act : σ → α → β × σ} {answer : α → β} {Inv : σ → Prop}
    (answers
      : ∀ {state} action,
          Inv state → (act state action).1 = answer action ∧ Inv (act state action).2)
    {state : σ} (invariant : Inv state) (actions : List α)
    : outputs act state actions = actions.map answer := by
  induction actions generalizing state with
  | nil => rfl
  | cons action rest ih =>
      obtain ⟨same, later⟩ := answers action invariant
      rw [outputs, same, ih later, List.map_cons]

/-- Related states answer alike when actions answer alike on related states and keep them related,
by induction on the actions.
-/
theorem outputs_eq_of_related {β ρ : Type*} {act : σ → α → β × σ} {other : ρ → α → β × ρ}
    {Related : σ → ρ → Prop}
    (alike
      : ∀ {left right} action,
          Related left right
          → (act left action).1 = (other right action).1
            ∧ Related (act left action).2 (other right action).2)
    {left : σ} {right : ρ} (related : Related left right) (actions : List α)
    : outputs act left actions = outputs other right actions := by
  induction actions generalizing left right with
  | nil => rfl
  | cons action rest ih =>
      obtain ⟨same, later⟩ := alike action related
      rw [outputs, outputs, same, ih later]

end Axionvera.Foundation
