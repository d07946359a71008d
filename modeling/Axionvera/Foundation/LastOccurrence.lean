import Mathlib.Data.List.Basic
import Mathlib.Data.List.Induction
import Mathlib.Data.List.Nodup

/-! Where in a list the last element with a property stands, and lists without repetitions. -/

namespace Axionvera.Foundation

variable {α : Type*}

/-- The place of the last element that passes a test. -/
def lastIndex (test : α → Bool) : List α → Option Nat
  | [] => none
  | first :: rest =>
      match lastIndex test rest with
      | some index => some (index + 1)
      | none => if test first then some 0 else none

/-- The last element that passes a test. -/
def lastWhere (test : α → Bool) (list : List α) : Option α :=
  (lastIndex test list).bind fun index => list[index]?

variable {test : α → Bool} {list : List α}

/-- One more element is the last one if it passes, by induction on the list. -/
theorem lastIndex_concat (list : List α) (element : α)
    : lastIndex test (list ++ [element])
      = if test element then some list.length else lastIndex test list := by
  induction list with
  | nil => rfl
  | cons first rest ih =>
      rw [List.cons_append, lastIndex, ih, lastIndex]
      split_ifs <;> rfl

/-- The last element that passes a test stands in the list and passes it, and no later one does, by
induction on the list from its end.
-/
theorem lastIndex_eq_some {index : Nat} (isLast : lastIndex test list = some index)
    : (∃ element, list[index]? = some element ∧ test element = true)
      ∧ ∀ later element, index < later → list[later]? = some element → test element = false := by
  induction list using List.reverseRecOn with
  | nil => cases isLast
  | append_singleton rest element ih =>
      rw [lastIndex_concat] at isLast
      split_ifs at isLast with passes
      · obtain rfl := Option.some.inj isLast
        refine ⟨⟨element, by simp, passes⟩, ?_⟩
        intro later other behind isOther
        rw [List.getElem?_eq_none (by simpa [Nat.succ_le_iff] using behind)] at isOther
        cases isOther
      · obtain ⟨⟨found, isFound, passesToo⟩, noLater⟩ := ih isLast
        obtain ⟨within, _⟩ := List.getElem?_eq_some_iff.mp isFound
        refine ⟨⟨found, by rwa [List.getElem?_append_left within], passesToo⟩, ?_⟩
        intro later other behind isOther
        rcases Nat.lt_trichotomy later rest.length with inRest | rfl | beyond
        · rw [List.getElem?_append_left inRest] at isOther
          exact noLater later other behind isOther
        · rw [List.getElem?_concat_length] at isOther
          obtain rfl := Option.some.inj isOther
          exact eq_false_of_ne_true passes
        · rw [List.getElem?_eq_none (by simpa [Nat.succ_le_iff] using beyond)] at isOther
          cases isOther

/-- The last element that passes a test is one of the list. -/
theorem lastWhere_eq_some {element : α} (isLast : lastWhere test list = some element)
    : element ∈ list ∧ test element = true := by
  obtain ⟨index, isIndex, isElement⟩ := Option.bind_eq_some_iff.mp isLast
  obtain ⟨⟨found, isFound, passes⟩, -⟩ := lastIndex_eq_some isIndex
  obtain rfl := Option.some.inj (isElement.symm.trans isFound)
  exact ⟨List.mem_of_getElem? isElement, passes⟩

/-- One more element is the last one if it passes, and otherwise the last one stays. -/
theorem lastWhere_concat (list : List α) (element : α)
    : lastWhere test (list ++ [element])
      = if test element then some element else lastWhere test list := by
  rw [lastWhere, lastIndex_concat, lastWhere]
  split_ifs
  · rw [Option.bind_some, List.getElem?_concat_length]
  · cases isIndex : lastIndex test list with
    | none => rfl
    | some index =>
        obtain ⟨⟨found, isFound, _⟩, -⟩ := lastIndex_eq_some isIndex
        obtain ⟨within, _⟩ := List.getElem?_eq_some_iff.mp isFound
        rw [Option.bind_some, Option.bind_some, List.getElem?_append_left within]

/-- Some element that passes is the last one if any does, by induction on the list from its end. -/
theorem exists_lastWhere (test : α → Bool) {element : α} (member : element ∈ list)
    (passes : test element = true)
    : ∃ last, lastWhere test list = some last := by
  induction list using List.reverseRecOn with
  | nil => cases member
  | append_singleton rest other ih =>
      rw [lastWhere_concat]
      split_ifs with otherPasses
      · exact ⟨other, rfl⟩
      · rcases List.mem_append.mp member with inRest | isOther
        · exact ih inRest
        · obtain rfl := List.mem_singleton.mp isOther
          exact absurd passes otherPasses

/-- A list without its repetitions has none, by induction on the number of its elements. -/
theorem nodup_eraseDups [DecidableEq α] (list : List α) : list.eraseDups.Nodup := by
  match list with
  | [] => exact List.nodup_nil
  | first :: rest =>
      rw [List.eraseDups_cons, List.nodup_cons, List.mem_eraseDups, List.mem_filter]
      have shorter := List.length_filter_le (fun other => !other == first) rest
      exact ⟨by simp, nodup_eraseDups _⟩
termination_by list.length
decreasing_by exact Nat.lt_succ_of_le shorter

end Axionvera.Foundation
