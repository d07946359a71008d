import Mathlib.Data.List.Dedup
import Mathlib.Data.List.DropRight

/-! The most recently used elements of a history: what a cache of bounded size keeps that evicts
the element that has not been used for the longest time.
-/

namespace Axionvera.Foundation

variable {α : Type*} {capacity : Nat}

/-- What a list ends in are its last elements, if it is as long as asked for or the whole list. -/
private theorem rtake_append_of_length {front back : List α}
    (whole : back.length = capacity ∨ front = [] ∧ back.length ≤ capacity)
    : (front ++ back).rtake capacity = back := by
  rcases whole with rfl | ⟨rfl, short⟩
  · rw [List.rtake, List.length_append, Nat.add_sub_cancel, List.drop_left]
  · rw [List.nil_append, List.rtake, Nat.sub_eq_zero_of_le short, List.drop_zero]

variable [DecidableEq α] {uses : List α} {element : α}

/-- Removing an element changes nothing where it does not stand. -/
theorem filter_ne_of_notMem {list : List α} (absent : element ∉ list)
    : list.filter (· ≠ element) = list := by
  refine List.filter_eq_self.mpr fun other member => decide_eq_true ?_
  rintro rfl
  exact absent member

/-- The distinct elements in the order of their last use, when one more is used, by induction on the
history.
-/
theorem dedup_concat (uses : List α) (element : α)
    : (uses ++ [element]).dedup = uses.dedup.filter (· ≠ element) ++ [element] := by
  induction uses with
  | nil => rfl
  | cons first rest ih =>
      rw [List.cons_append, List.dedup_cons, ih, List.dedup_cons]
      by_cases same : first = element
      · subst same
        rw [if_pos (by simp)]
        by_cases again : first ∈ rest <;> simp [again]
      · by_cases again : first ∈ rest <;> simp [again, same]

/-- The distinct elements that have been used most recently, in the order of their last use. -/
def recent (capacity : Nat) (uses : List α) : List α :=
  uses.dedup.rtake capacity

/-- There are never more than asked for. -/
theorem length_recent_le : (recent capacity uses).length ≤ capacity := by
  rw [recent, List.rtake, List.length_drop]
  omega

/-- They come behind all others, of which there are none unless there is no room for more. -/
theorem exists_append_recent (capacity : Nat) (uses : List α)
    : ∃ front, uses.dedup = front ++ recent capacity uses
      ∧ ((recent capacity uses).length = capacity ∨ front = []) := by
  refine ⟨uses.dedup.take (uses.dedup.length - capacity), (List.take_append_drop _ _).symm, ?_⟩
  rw [recent, List.rtake, List.length_drop, List.take_eq_nil_iff]
  omega

/-- Using one of them again only moves it to the end. -/
theorem recent_concat_of_mem (isRecent : element ∈ recent capacity uses)
    : recent capacity (uses ++ [element])
      = (recent capacity uses).filter (· ≠ element) ++ [element] := by
  obtain ⟨front, split, size⟩ := exists_append_recent capacity uses
  have distinct : (front ++ recent capacity uses).Nodup := split ▸ uses.nodup_dedup
  have elsewhere : element ∉ front := fun inFront => distinct.disjoint inFront isRecent
  have asMany
      : ((recent capacity uses).filter (· ≠ element) ++ [element]).length
        = (recent capacity uses).length := by
    have removed
        : (recent capacity uses).erase element = (recent capacity uses).filter (· ≠ element) :=
      (distinct.of_append_right.erase_eq_filter element).trans
        (List.filter_congr fun other _ => by simp [bne, beq_eq_decide])
    rw [← removed, List.length_append, List.length_singleton, List.length_erase_add_one isRecent]
  rw [recent, dedup_concat, split, List.filter_append, filter_ne_of_notMem elsewhere,
    List.append_assoc]
  apply rtake_append_of_length
  rw [asMany]
  exact size.imp_right fun isEmpty => ⟨isEmpty, length_recent_le⟩

/-- As long as there is room, an element that is not among them joins at the end. -/
theorem recent_concat_of_lt (isNew : element ∉ recent capacity uses)
    (room : (recent capacity uses).length < capacity)
    : recent capacity (uses ++ [element]) = recent capacity uses ++ [element] := by
  obtain ⟨front, split, size⟩ := exists_append_recent capacity uses
  obtain rfl := size.resolve_left room.ne
  rw [recent, dedup_concat, split, List.nil_append, filter_ne_of_notMem isNew,
    ← List.nil_append (recent capacity uses ++ [element])]
  apply rtake_append_of_length
  rw [List.length_append, List.length_singleton]
  exact .inr ⟨rfl, room⟩

/-- Without room, the element that has not been used for the longest time makes place for one that
is not among them.
-/
theorem recent_concat_of_full (isNew : element ∉ recent capacity uses)
    (full : (recent capacity uses).length = capacity) (positive : 0 < capacity)
    : recent capacity (uses ++ [element]) = (recent capacity uses).tail ++ [element] := by
  obtain ⟨front, split, -⟩ := exists_append_recent capacity uses
  rw [recent, dedup_concat, split, List.filter_append, filter_ne_of_notMem isNew]
  -- The oldest one goes to what comes before the recent ones.
  cases kept : recent capacity uses with
  | nil =>
      rw [kept, List.length_nil] at full
      omega
  | cons oldest others =>
      have asMany : (others ++ [element]).length = capacity := by
        rw [List.length_append, List.length_singleton, ← full, kept, List.length_cons]
      rw [List.tail_cons, List.append_assoc, List.cons_append, List.append_cons]
      exact rtake_append_of_length (.inl asMany)

end Axionvera.Foundation
