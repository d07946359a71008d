import Axionvera.Foundation.StableSort
import Axionvera.Pipeline.MiddlewarePipeline
import Mathlib.Data.Prod.Lex

/-! The registered middleware is numbered by registration and kept in ascending order. -/

namespace Axionvera.Pipeline

open Axionvera.Foundation

/-- Middleware comes before other middleware by its order or, if the orders are equal, by its
registration.
-/
def Registered.precedes (left right : Registered) : Prop :=
  left.order.lt right.order ∨ left.order = right.order ∧ left.sequence < right.sequence

/-- The change registers no middleware whose order is NaN, which compares with no number. -/
def Registration.comparable : Registration → Prop
  | .use middleware => middleware.order ≠ some .nan
  | .remove _ | .clear => True

/-- The pipeline after changes from the beginning. -/
def registered (changes : List Registration) : MiddlewarePipeline :=
  changes.foldl MiddlewarePipeline.register .empty

/-- The numbers of registrations are unique, and the next one is above them. -/
structure MiddlewarePipeline.Numbered (pipeline : MiddlewarePipeline) : Prop where
  unique : (pipeline.middleware.map Registered.sequence).Nodup
  below : ∀ entry ∈ pipeline.middleware, entry.sequence < pipeline.nextSequence

/-- Entries with different numbers differ. -/
theorem MiddlewarePipeline.Numbered.nodup {pipeline : MiddlewarePipeline}
    (numbered : pipeline.Numbered)
    : pipeline.middleware.Nodup :=
  numbered.unique.of_map Registered.sequence

/-- What a call of `use` changes: nothing if it throws, and else the new entry is sorted in. -/
theorem register_use (pipeline : MiddlewarePipeline) (middleware : Middleware)
    : pipeline.register (.use middleware) = pipeline
      ∨ ∃ entry : Registered,
          entry.sequence = pipeline.nextSequence
          ∧ entry.order = middleware.order.getD (.finite 0)
          ∧ pipeline.register (.use middleware)
            = ⟨sortMiddleware (pipeline.middleware ++ [entry]), pipeline.nextSequence + 1⟩ := by
  simp only [MiddlewarePipeline.register, MiddlewarePipeline.use]
  split
  · exact .inl rfl
  · exact .inr ⟨_, rfl, rfl, rfl⟩

/-- What a removal leaves is part of what was registered. -/
theorem remove_sublist (pipeline : MiddlewarePipeline) (name : String)
    : (pipeline.register (.remove name)).middleware.Sublist pipeline.middleware :=
  List.eraseP_sublist

/-- A change keeps the numbers of registrations unique. -/
theorem MiddlewarePipeline.Numbered.register {pipeline : MiddlewarePipeline}
    (numbered : pipeline.Numbered) (change : Registration)
    : (pipeline.register change).Numbered := by
  cases change with
  | use middleware =>
      rcases register_use pipeline middleware with same | ⟨entry, number, _, same⟩
      · rw [same]
        exact numbered
      · rw [same]
        have perm := List.mergeSort_perm (pipeline.middleware ++ [entry])
          (fun left right => !(compareEntries left right).isAbove 0)
        constructor
        · refine (perm.map Registered.sequence).nodup_iff.mpr ?_
          rw [List.map_append, List.map_singleton, ← List.concat_eq_append, List.nodup_concat]
          refine ⟨fun member => ?_, numbered.unique⟩
          obtain ⟨other, present, sameNumber⟩ := List.mem_map.mp member
          exact absurd (numbered.below other present) (by omega)
        · intro other member
          have present := perm.mem_iff.mp member
          rcases List.mem_append.mp present with old | new
          · exact (numbered.below other old).trans (Nat.lt_succ_self _)
          · rw [List.mem_singleton.mp new, number]
            exact Nat.lt_succ_self _
  | remove name =>
      have part := remove_sublist pipeline name
      exact ⟨numbered.unique.sublist (part.map _), fun entry member =>
        numbered.below entry (part.subset member)⟩
  | clear => exact ⟨List.nodup_nil, fun _ member => nomatch member⟩

/-- The numbers of registrations are unique after all changes. -/
theorem registered_numbered (changes : List Registration) : (registered changes).Numbered := by
  have empty : MiddlewarePipeline.empty.Numbered :=
    ⟨List.nodup_nil, fun _ member => nomatch member⟩
  exact List.foldlRecOn changes MiddlewarePipeline.register empty
    (fun _ numbered change _ => numbered.register change)

/-- An entry that is registered after a change is an old one, or has the next number. -/
theorem mem_register {pipeline : MiddlewarePipeline} {change : Registration} {entry : Registered}
    (member : entry ∈ (pipeline.register change).middleware)
    : entry ∈ pipeline.middleware ∨ entry.sequence = pipeline.nextSequence := by
  cases change with
  | use middleware =>
      rcases register_use pipeline middleware with same | ⟨added, number, _, same⟩
      · exact .inl (same ▸ member)
      · rw [same] at member
        rcases List.mem_append.mp (List.mem_mergeSort.mp member) with old | new
        · exact .inl old
        · exact .inr (List.mem_singleton.mp new ▸ number)
  | remove name => exact .inl ((remove_sublist pipeline name).subset member)
  | clear => cases member

/-- The next number does not go down. -/
theorem nextSequence_le_register (pipeline : MiddlewarePipeline) (change : Registration)
    : pipeline.nextSequence ≤ (pipeline.register change).nextSequence := by
  cases change with
  | use middleware =>
      rcases register_use pipeline middleware with same | ⟨added, _, _, same⟩
      · rw [same]
      · rw [same]
        exact Nat.le_succ _
  | remove name => exact le_rfl
  | clear => exact le_rfl

-----------------------------------------------------------------------------------------
-- The order
-----------------------------------------------------------------------------------------

/-- What the comparison goes by: minus infinity, the fractions and infinity, and for fractions the
number of the registration.
-/
private def Registered.rank (entry : Registered) : ℤ ×ₗ ℚ ×ₗ ℕ :=
  match entry.order with
  | .finite value => toLex (0, toLex (value, entry.sequence))
  | .infinity negative => toLex (if negative then -1 else 1, toLex (0, 0))
  | .nan => toLex (0, toLex (0, 0))

/-- The comparison goes by the rank, by cases on the two orders. -/
private theorem compareEntries_rank {left right : Registered} (leftOrder : left.order ≠ .nan)
    (rightOrder : right.order ≠ .nan)
    : (!(compareEntries left right).isAbove 0) = decide (left.rank ≤ right.rank) := by
  rw [Bool.eq_iff_iff, decide_eq_true_eq]
  unfold compareEntries Registered.rank
  cases leftCase : left.order with
  | nan => exact absurd leftCase leftOrder
  | infinity low =>
      cases rightCase : right.order with
      | nan => exact absurd rightCase rightOrder
      | infinity high =>
          cases low <;> cases high <;>
            simp [JsNumber.sub, JsNumber.isAbove, Prod.Lex.toLex_le_toLex]
      | finite high =>
          cases low <;> simp [JsNumber.sub, JsNumber.isAbove, Prod.Lex.toLex_le_toLex]
  | finite low =>
      cases rightCase : right.order with
      | nan => exact absurd rightCase rightOrder
      | infinity high =>
          cases high <;> simp [JsNumber.sub, JsNumber.isAbove, Prod.Lex.toLex_le_toLex]
      | finite high =>
          by_cases same : low = high
          · simp [JsNumber.sub, JsNumber.isAbove, Prod.Lex.toLex_le_toLex, same]
          · have differs : ¬ low - high = 0 := fun zero => same (sub_eq_zero.mp zero)
            have strict : low ≤ high ↔ low < high :=
              ⟨fun atMost => lt_of_le_of_ne atMost same, le_of_lt⟩
            simp [JsNumber.sub, JsNumber.isAbove, Prod.Lex.toLex_le_toLex, same, differs, strict]

/-- A lower rank comes before, and so does the same rank with an earlier registration, by cases on
the two orders.
-/
private theorem precedes_of_rank {left right : Registered} (leftOrder : left.order ≠ .nan)
    (rightOrder : right.order ≠ .nan)
    (inOrder
      : left.rank < right.rank
        ∨ left.rank = right.rank ∧ (left.order = right.order → left.sequence < right.sequence))
    : left.precedes right := by
  unfold Registered.rank at inOrder
  unfold Registered.precedes
  cases leftCase : left.order with
  | nan => exact absurd leftCase leftOrder
  | infinity low =>
      cases rightCase : right.order with
      | nan => exact absurd rightCase rightOrder
      | infinity high =>
          cases low <;> cases high <;>
            simp_all [JsNumber.lt, Prod.Lex.toLex_lt_toLex]
      | finite high => cases low <;> simp_all [JsNumber.lt, Prod.Lex.toLex_lt_toLex]
  | finite low =>
      cases rightCase : right.order with
      | nan => exact absurd rightCase rightOrder
      | infinity high => cases high <;> simp_all [JsNumber.lt, Prod.Lex.toLex_lt_toLex]
      | finite high =>
          simp only [leftCase, rightCase, Prod.Lex.toLex_lt_toLex, lt_self_iff_false, false_or,
            true_and, toLex_inj, Prod.mk.injEq, JsNumber.finite.injEq] at inOrder ⊢
          rcases inOrder with lower | ⟨⟨same, _⟩, earlier⟩
          · exact lower
          · exact .inr ⟨same, earlier same⟩

/-- The entries are in ascending order, and no order is NaN. -/
structure MiddlewarePipeline.Arranged (pipeline : MiddlewarePipeline) : Prop where
  ascending : pipeline.middleware.Pairwise Registered.precedes
  comparable : ∀ entry ∈ pipeline.middleware, entry.order ≠ .nan

/-- A number is not less than itself. -/
private theorem not_lt_self (number : JsNumber) : ¬ number.lt number := by
  cases number with
  | finite value => exact lt_irrefl value
  | nan => exact id
  | infinity negative => cases negative <;> simp [JsNumber.lt]

/-- Sorting in one more entry leaves the entries in ascending order. Witness: the new entry has
the highest number, so that entries with the same order were in the order of their
registrations.
-/
theorem MiddlewarePipeline.Arranged.sort {pipeline : MiddlewarePipeline} {entry : Registered}
    (arranged : pipeline.Arranged) (numbered : pipeline.Numbered)
    (number : entry.sequence = pipeline.nextSequence) (order : entry.order ≠ .nan)
    : (sortMiddleware (pipeline.middleware ++ [entry])).Pairwise Registered.precedes := by
  have comparable : ∀ other ∈ pipeline.middleware ++ [entry], other.order ≠ .nan := by
    intro other member
    rcases List.mem_append.mp member with old | new
    · exact arranged.comparable other old
    · exact List.mem_singleton.mp new ▸ order
  have absent : entry ∉ pipeline.middleware := fun member =>
    absurd (numbered.below entry member) (by omega)
  have unique : (pipeline.middleware ++ [entry]).Nodup := by
    rw [← List.concat_eq_append, List.nodup_concat]
    exact ⟨absent, numbered.nodup⟩
  have byRegistration
      : (pipeline.middleware ++ [entry]).Pairwise
          (fun left right => left.order = right.order → left.sequence < right.sequence) := by
    rw [List.pairwise_append]
    refine ⟨arranged.ascending.imp fun precedes same => ?_, List.pairwise_singleton _ _, ?_⟩
    · rcases precedes with lower | ⟨_, earlier⟩
      · exact absurd lower (same ▸ not_lt_self _)
      · exact earlier
    · intro left leftMember right rightMember _
      rw [List.mem_singleton.mp rightMember, number]
      exact numbered.below left leftMember
  have agrees
      : ∀ left ∈ pipeline.middleware ++ [entry], ∀ right ∈ pipeline.middleware ++ [entry],
          (!(compareEntries left right).isAbove 0) = decide (left.rank ≤ right.rank) :=
    fun left leftMember right rightMember =>
      compareEntries_rank (comparable left leftMember) (comparable right rightMember)
  have sorted := mergeSort_pairwise agrees unique byRegistration
  refine sorted.imp_of_mem fun {left right} leftMember rightMember inOrder => ?_
  have leftOrder := comparable left (List.mem_mergeSort.mp leftMember)
  have rightOrder := comparable right (List.mem_mergeSort.mp rightMember)
  exact precedes_of_rank leftOrder rightOrder inOrder

/-- A change keeps the entries in ascending order. -/
theorem MiddlewarePipeline.Arranged.register {pipeline : MiddlewarePipeline}
    (arranged : pipeline.Arranged) (numbered : pipeline.Numbered) {change : Registration}
    (comparable : change.comparable)
    : (pipeline.register change).Arranged := by
  cases change with
  | use middleware =>
      rcases register_use pipeline middleware with same | ⟨entry, number, order, same⟩
      · rw [same]
        exact arranged
      · have notNan : entry.order ≠ .nan := by
          rw [order]
          cases given : middleware.order with
          | none => exact fun same => nomatch same
          | some value => exact fun same => comparable (given.trans (congrArg some same))
        rw [same]
        refine ⟨arranged.sort numbered number notNan, fun other member => ?_⟩
        rcases List.mem_append.mp (List.mem_mergeSort.mp member) with old | new
        · exact arranged.comparable other old
        · exact List.mem_singleton.mp new ▸ notNan
  | remove name =>
      have part := remove_sublist pipeline name
      exact ⟨arranged.ascending.sublist part, fun entry member =>
        arranged.comparable entry (part.subset member)⟩
  | clear => exact ⟨List.Pairwise.nil, fun _ member => nomatch member⟩

/-- The middleware is in ascending order after all changes that register no order NaN. -/
theorem registered_ascending {changes : List Registration}
    (comparable : ∀ change ∈ changes, change.comparable)
    : (registered changes).middleware.Pairwise Registered.precedes := by
  have all : (registered changes).Numbered ∧ (registered changes).Arranged := by
    refine List.foldlRecOn changes MiddlewarePipeline.register
      (motive := fun pipeline => pipeline.Numbered ∧ pipeline.Arranged) ?_ ?_
    · exact ⟨registered_numbered [], List.Pairwise.nil, fun _ member => nomatch member⟩
    · intro pipeline kept change member
      exact ⟨kept.1.register change, kept.2.register kept.1 (comparable change member)⟩
  exact all.2.ascending

end Axionvera.Pipeline
