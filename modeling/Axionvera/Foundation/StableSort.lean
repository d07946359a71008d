import Mathlib.Data.List.Nodup
import Mathlib.Order.Lattice

/-! What a stable sort by a key leaves: ascending keys, and equal keys in the order of before. -/

namespace Axionvera.Foundation

variable {α κ : Type*}

/-- Two entries of a list follow each other in one order or the other, by induction on the
list.
-/
theorem pair_sublist_total {entries : List α} {left right : α} (differ : left ≠ right)
    (leftMember : left ∈ entries) (rightMember : right ∈ entries)
    : [left, right].Sublist entries ∨ [right, left].Sublist entries := by
  induction entries with
  | nil => cases leftMember
  | cons head rest ih =>
      rcases List.mem_cons.mp leftMember with rfl | leftLater
      · have later := (List.mem_cons.mp rightMember).resolve_left differ.symm
        exact .inl ((List.singleton_sublist.mpr later).cons_cons left)
      · rcases List.mem_cons.mp rightMember with rfl | rightLater
        · exact .inr ((List.singleton_sublist.mpr leftLater).cons_cons right)
        · exact (ih leftLater rightLater).imp (fun front => front.cons head)
            (fun front => front.cons head)

/-- Without duplicates they follow each other in one order only, by induction on the list. -/
theorem pair_sublist_asymm {entries : List α} {left right : α} (unique : entries.Nodup)
    (front : [left, right].Sublist entries)
    : ¬ [right, left].Sublist entries := by
  induction entries with
  | nil => exact fun back => nomatch back
  | cons head rest ih =>
      obtain ⟨absent, unique⟩ := List.nodup_cons.mp unique
      intro back
      cases front with
      | cons _ front =>
          cases back with
          | cons _ back => exact ih unique front back
          | cons_cons _ back => exact absent (front.subset (by simp))
      | cons_cons _ front =>
          have member := front.subset List.mem_cons_self
          cases back with
          | cons _ back => exact absent (back.subset (by simp))
          | cons_cons _ _ => exact absent member

variable [LinearOrder κ]

/-- A stable sort whose comparison agrees with a key on the list leaves ascending keys, and
entries with the same key in a relation that held along the list. Witness: a pair that had come
the other way round would have stayed so.
-/
theorem mergeSort_pairwise {entries : List α} {le : α → α → Bool} {key : α → κ}
    {related : α → α → Prop}
    (agrees
      : ∀ left ∈ entries, ∀ right ∈ entries, le left right = decide (key left ≤ key right))
    (unique : entries.Nodup) (arranged : entries.Pairwise related)
    : (entries.mergeSort le).Pairwise
        (fun left right => key left < key right ∨ key left = key right ∧ related left right) := by
  have byKey
      : entries.mergeSort le
        = entries.mergeSort (fun left right => decide (key left ≤ key right)) := by
    have mapped
        : (entries.mergeSort le).map id
          = (entries.map id).mergeSort (fun left right => decide (key left ≤ key right)) :=
      List.map_mergeSort agrees
    rwa [List.map_id, List.map_id] at mapped
  have trans (first second third : α) (front : decide (key first ≤ key second) = true)
      (back : decide (key second ≤ key third) = true)
      : decide (key first ≤ key third) = true :=
    decide_eq_true (le_trans (of_decide_eq_true front) (of_decide_eq_true back))
  have total (left right : α)
      : (decide (key left ≤ key right) || decide (key right ≤ key left)) = true := by
    rw [Bool.or_eq_true, decide_eq_true_eq, decide_eq_true_eq]
    exact le_total (key left) (key right)
  have ascending := List.pairwise_mergeSort trans total entries
  have sortedUnique := (List.mergeSort_perm entries le).nodup_iff.mpr unique
  rw [byKey] at sortedUnique ⊢
  rw [List.pairwise_iff_forall_sublist] at ascending arranged ⊢
  intro left right inOrder
  have atMost : key left ≤ key right := of_decide_eq_true (ascending inOrder)
  rcases lt_or_eq_of_le atMost with less | same
  · exact .inl less
  · refine .inr ⟨same, arranged ?_⟩
    have differ : left ≠ right := by
      have absent := (List.nodup_cons.mp (sortedUnique.sublist inOrder)).1
      exact fun same => absent (List.mem_singleton.mpr same)
    have members := inOrder.subset
    have leftMember : left ∈ entries := List.mem_mergeSort.mp (members List.mem_cons_self)
    have rightMember : right ∈ entries :=
      List.mem_mergeSort.mp (members (List.mem_cons_of_mem _ List.mem_cons_self))
    rcases pair_sublist_total differ leftMember rightMember with before | after
    · exact before
    · have kept := List.pair_sublist_mergeSort trans total (decide_eq_true same.ge) after
      exact absurd kept (pair_sublist_asymm sortedUnique inOrder)

/-- In a list with ascending keys, the entries up to an index have no greater key than the one
there.
-/
theorem lt_countP_le_getElem {entries : List α} {key : α → κ}
    (ascending : entries.Pairwise (fun left right => key left ≤ key right)) {index : Nat}
    (below : index < entries.length)
    : index < entries.countP (fun entry => key entry ≤ key entries[index]) := by
  have front
      : (entries.take (index + 1)).countP (fun entry => key entry ≤ key entries[index])
        = index + 1 := by
    rw [List.countP_eq_length.mpr, List.length_take_of_le below]
    intro entry member
    obtain ⟨position, isBelow, rfl⟩ := List.mem_take_iff_getElem.mp member
    have atMost : position ≤ index := by omega
    rcases atMost.lt_or_eq with less | rfl
    · exact decide_eq_true (List.pairwise_iff_getElem.mp ascending _ _ _ below less)
    · exact decide_eq_true le_rfl
  have part := (List.take_sublist (index + 1) entries).countP_le
    (p := fun entry => decide (key entry ≤ key entries[index]))
  omega

/-- Only the entries before it can have a key that is at most something less. -/
theorem countP_le_of_lt_getElem {entries : List α} {key : α → κ} {bound : κ}
    (ascending : entries.Pairwise (fun left right => key left ≤ key right)) {index : Nat}
    (below : index < entries.length) (less : bound < key entries[index])
    : entries.countP (fun entry => key entry ≤ bound) ≤ index := by
  have back : (entries.drop index).countP (fun entry => key entry ≤ bound) = 0 := by
    rw [List.countP_eq_zero]
    intro entry member
    obtain ⟨position, isBelow, rfl⟩ := List.mem_drop_iff_getElem.mp member
    have atLeast : key entries[index] ≤ key entries[index + position] := by
      rcases Nat.eq_zero_or_pos position with rfl | positive
      · exact le_rfl
      · exact List.pairwise_iff_getElem.mp ascending _ _ below _ (by omega)
    simpa using less.trans_le atLeast
  have front := (entries.take index).countP_le_length (p := fun entry => key entry ≤ bound)
  have whole
      : (entries.take index ++ entries.drop index).countP (fun entry => key entry ≤ bound)
        = (entries.take index).countP (fun entry => key entry ≤ bound)
          + (entries.drop index).countP (fun entry => key entry ≤ bound) :=
    List.countP_append
  rw [List.take_append_drop, back] at whole
  rw [List.length_take] at front
  omega

end Axionvera.Foundation
