import Mathlib.Data.List.Basic
import Mathlib.Data.List.Induction

/-! Steps that thread a state from one to the next until one fails, and undoing them. -/

namespace Axionvera.Foundation

variable {α ω ε : Type*}

/-- How far a list of steps has come: the steps done, the state after them, and the step that
failed with its error, if one did.
-/
structure Progress (α ω ε : Type*) where
  done : List α
  state : ω
  failure : Option (α × ε)

/-- Take the steps one after another, up to the first that fails. -/
def takeSteps (step : ω → α → Except ε ω) : ω → List α → Progress α ω ε
  | state, [] => ⟨[], state, none⟩
  | state, item :: rest =>
      match step state item with
      | .ok next =>
          let later := takeSteps step next rest
          ⟨item :: later.done, later.state, later.failure⟩
      | .error error => ⟨[], state, some (item, error)⟩

variable {step : ω → α → Except ε ω}

/-- A step that succeeds is done, and the others follow from the state after it. -/
theorem takeSteps_cons_ok {state next : ω} {item : α} {rest : List α}
    (succeeds : step state item = .ok next)
    : takeSteps step state (item :: rest)
      = ⟨item :: (takeSteps step next rest).done, (takeSteps step next rest).state,
          (takeSteps step next rest).failure⟩ := by
  simp only [takeSteps, succeeds]

/-- A step that fails is the last one. -/
theorem takeSteps_cons_error {state : ω} {item : α} {rest : List α} {error : ε}
    (fails : step state item = .error error)
    : takeSteps step state (item :: rest) = ⟨[], state, some (item, error)⟩ := by
  simp only [takeSteps, fails]

/-- The steps done lead from the first state to the last, by induction on the steps. -/
theorem takeSteps_foldlM (state : ω) (items : List α)
    : (takeSteps step state items).done.foldlM step state
      = .ok (takeSteps step state items).state := by
  induction items generalizing state with
  | nil => rfl
  | cons item rest ih =>
      cases taken : step state item with
      | ok next =>
          rw [takeSteps_cons_ok taken, List.foldlM_cons, taken]
          exact ih next
      | error error =>
          rw [takeSteps_cons_error taken]
          rfl

/-- The step that fails does so in the state reached, after the steps done and before all
others, by induction on the steps.
-/
theorem takeSteps_of_failure {state : ω} {items : List α} {item : α} {error : ε}
    (failed : (takeSteps step state items).failure = some (item, error))
    : step (takeSteps step state items).state item = .error error
      ∧ ∃ rest, items = (takeSteps step state items).done ++ item :: rest := by
  induction items generalizing state with
  | nil => cases failed
  | cons head rest ih =>
      cases taken : step state head with
      | ok next =>
          rw [takeSteps_cons_ok taken] at failed ⊢
          obtain ⟨fails, remaining, whole⟩ := ih failed
          exact ⟨fails, remaining, congrArg (head :: ·) whole⟩
      | error other =>
          rw [takeSteps_cons_error taken] at failed ⊢
          obtain ⟨rfl, rfl⟩ := Prod.mk.inj (Option.some.inj failed)
          exact ⟨taken, rest, rfl⟩

/-- Without a failure all steps are done, by induction on them. -/
theorem takeSteps_of_success {state : ω} {items : List α}
    (succeeds : (takeSteps step state items).failure = none)
    : (takeSteps step state items).done = items := by
  induction items generalizing state with
  | nil => rfl
  | cons head rest ih =>
      cases taken : step state head with
      | ok next =>
          rw [takeSteps_cons_ok taken] at succeeds ⊢
          exact congrArg (head :: ·) (ih succeeds)
      | error other =>
          rw [takeSteps_cons_error taken] at succeeds
          cases succeeds

/-- All steps are done exactly when none fails. -/
theorem takeSteps_failure_eq_none_iff {state : ω} {items : List α}
    : (takeSteps step state items).failure = none
      ↔ (takeSteps step state items).done = items := by
  refine ⟨takeSteps_of_success, fun all => ?_⟩
  cases failed : (takeSteps step state items).failure with
  | none => rfl
  | some failure =>
      obtain ⟨_, rest, whole⟩ := takeSteps_of_failure failed
      have shorter := congrArg List.length whole
      rw [all, List.length_append, List.length_cons] at shorter
      omega

/-- The steps that were tried: those done, and the one that failed. -/
def Progress.tried (progress : Progress α ω ε) : List α :=
  progress.done ++ (progress.failure.map Prod.fst).toList

/-- The steps that were tried come first among all. -/
theorem takeSteps_tried_isPrefix (state : ω) (items : List α)
    : (takeSteps step state items).tried <+: items := by
  unfold Progress.tried
  cases failed : (takeSteps step state items).failure with
  | none => exact ⟨[], by simp [takeSteps_of_success failed]⟩
  | some failure =>
      obtain ⟨_, rest, whole⟩ := takeSteps_of_failure failed
      exact ⟨rest, by simp [← whole]⟩

/-- Steps that do the same come equally far, by induction on them. -/
theorem takeSteps_congr {other : ω → α → Except ε ω} {items : List α} (state : ω)
    (same : ∀ item ∈ items, ∀ state, step state item = other state item)
    : takeSteps step state items = takeSteps other state items := by
  induction items generalizing state with
  | nil => rfl
  | cons item rest ih =>
      obtain ⟨first, others⟩ := List.forall_mem_cons.mp same
      cases taken : step state item with
      | ok next =>
          rw [takeSteps_cons_ok taken, takeSteps_cons_ok ((first state).symm.trans taken),
            ih next others]
      | error error =>
          rw [takeSteps_cons_error taken, takeSteps_cons_error ((first state).symm.trans taken)]

/-- Undoing steps in reverse restores the state before them, if each step is undone from the state
that it led to. Witness: induction on the steps from their end.
-/
theorem foldlM_reverse_of_undone {δ : Type*} {undo : ω → α → Except δ ω} {items : List α}
    {first last : ω}
    (reached : items.foldlM step first = .ok last)
    (undone
      : ∀ front item back before after,
          items = front ++ item :: back
          → front.foldlM step first = .ok before
          → step before item = .ok after
          → undo after item = .ok before)
    : items.reverse.foldlM undo last = .ok first := by
  induction items using List.reverseRecOn generalizing last with
  | nil =>
      obtain rfl := Except.ok.inj reached
      rfl
  | append_singleton front item ih =>
      rw [List.foldlM_append] at reached
      cases before : front.foldlM step first with
      | error error =>
          rw [before] at reached
          cases reached
      | ok middle =>
          rw [before] at reached
          have taken : step middle item = .ok last := by
            change [item].foldlM step middle = .ok last at reached
            rwa [List.foldlM_cons, funext (fun _ => List.foldlM_nil), bind_pure] at reached
          have undoes := undone front item [] middle last (by simp) before taken
          rw [List.reverse_append, List.reverse_singleton, List.singleton_append,
            List.foldlM_cons, undoes]
          refine ih before fun front' item' back before' after whole => ?_
          refine undone front' item' (back ++ [item]) before' after ?_
          rw [whole, List.append_assoc, List.cons_append]

end Axionvera.Foundation
