import Mathlib.Data.Fintype.Card
import Mathlib.Data.Set.Finite.Basic
import Mathlib.Logic.Relation

/-! Step relations that reach finitely many states end exactly if no state that they reach leads
back to itself. That a relation ends is accessibility of its start from the states that follow.
-/

namespace Axionvera.Foundation

open Relation

variable {α : Type*} {step : α → α → Prop} {start : α}

/-- Every way on from a state ends. -/
def Ends (step : α → α → Prop) (start : α) : Prop :=
  Acc (fun after before => step before after) start

/-- What follows a state that ends, ends, by induction on the way. -/
theorem Ends.of_reflTransGen {state : α} (ends : Ends step start)
    (reached : ReflTransGen step start state)
    : Ends step state := by
  induction reached with
  | refl => exact ends
  | tail _ taken ih => exact ih.inv taken

/-- A state that leads back to itself does not end, by induction on its accessibility from the
states that follow in one step or more.
-/
theorem not_ends_of_cycle (cycle : TransGen step start start) : ¬ Ends step start := by
  intro ends
  have accessible := acc_transGen_iff.mpr ends
  have swapped : TransGen (fun after before => step before after) start start :=
    transGen_swap.mp cycle
  induction accessible with
  | intro state _ ih => exact ih state swapped cycle ends swapped

/-- If finitely many states are reached and none leads back to itself, every way on ends. Witness:
a finite relation that is transitive and irreflexive is well-founded.
-/
theorem ends_of_no_cycle (finite : {state | ReflTransGen step start state}.Finite)
    (acyclic : ∀ state, ReflTransGen step start state → ¬ TransGen step state state)
    : Ends step start := by
  let Reached := {state // ReflTransGen step start state}
  have : Finite Reached := finite
  let leads : Reached → Reached → Prop := fun after before => TransGen step before.1 after.1
  have : IsTrans Reached leads := ⟨fun _ _ _ second first => first.trans second⟩
  have : Std.Irrefl leads := ⟨fun state => acyclic state.1 state.2⟩
  have wellFounded : WellFounded leads := Finite.wellFounded_of_trans_of_irrefl leads
  have all (state : Reached) : Ends step state.1 := by
    induction state using wellFounded.induction with
    | _ state ih =>
        refine ⟨_, fun after taken => ?_⟩
        exact ih ⟨after, state.2.tail taken⟩ (.single taken)
  exact all ⟨start, .refl⟩

/-- A relation that reaches finitely many states ends exactly if none of them leads back to itself.
-/
theorem ends_iff_no_cycle (finite : {state | ReflTransGen step start state}.Finite)
    : Ends step start ↔ ∀ state, ReflTransGen step start state → ¬ TransGen step state state :=
  ⟨fun ends _ reached cycle => not_ends_of_cycle cycle (ends.of_reflTransGen reached),
    ends_of_no_cycle finite⟩

end Axionvera.Foundation
